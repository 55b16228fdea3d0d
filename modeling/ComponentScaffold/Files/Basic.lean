import ComponentScaffold.Files.Node

/-! # File systems

A file system is a finite map from places to numbers of nodes, and from numbers to nodes. A file has more
than one place if it was linked to another one. A process sees a file system from a directory, which it
keeps if it is moved or removed: nothing is in a removed directory, but a way up leads out of it.

Three things are taken for granted. The process may read and write everything: the modes of nodes are kept, but
nothing is refused for them. Every name is a text: there is none whose bytes are not UTF-8, so that a directory
is listed without leaving names out. No path holds a NUL.

* **`FileSystem.lookup`** — the entry at a place; the root is always a directory.
* **`FileSystem.add`**, **`FileSystem.bind`**, **`FileSystem.update`**, **`FileSystem.eraseBelow`** — the ways
  in which places and nodes change. What they do is said through `lookup`, in `lookup_add` and its kin.
* **`FileSystem.childNames`** — the names in a directory, in order and each once. -/

namespace ComponentScaffold

/-- How a process stands in a file system. -/
structure Standing where
  /-- The number of the directory that relative paths start from. -/
  directory : Nat
  /-- What is held back from the modes of new files. -/
  mask : Nat
deriving DecidableEq, Repr

/-- **A file system** as one process sees it. -/
structure FileSystem where
  /-- The places with the numbers of their nodes. Of two for one place the first counts. -/
  places : List (Location × Nat)
  /-- The nodes with their numbers. Of two with one number the first counts. -/
  nodes : List (Nat × Node)
  /-- The numbers of directories that were removed, each with that of the directory it was in. -/
  removed : List (Nat × Nat)
  /-- The time. -/
  now : Time
  /-- How the process stands in it. -/
  standing : Standing

namespace FileSystem

/-- The number of the root. -/
def rootNumber : Nat := 0

/-- The number of the node at a place. -/
def numberAt (fs : FileSystem) (place : Location) : Option Nat :=
  if place = [] then some rootNumber else fs.places.lookup place

/-- The node of a number. The root is there always. -/
def node? (fs : FileSystem) (number : Nat) : Option Node := fs.nodes.lookup number

/-- The node at a place, other than the root. -/
def nodeAt (fs : FileSystem) (place : Location) : Option Node := (fs.places.lookup place).bind fs.node?

/-- The entry at a place. The root is there always. -/
def lookup (fs : FileSystem) (place : Location) : Option Entry :=
  if place = [] then some .directory else (fs.nodeAt place).map Node.entry

/-- The place of a directory, if it was not removed. -/
def placeOf? (fs : FileSystem) (number : Nat) : Option Location :=
  if number = rootNumber then some []
  else (fs.places.find? fun held => held.2 = number).map Prod.fst

/-- A number that no node has. -/
def fresh (fs : FileSystem) : Nat :=
  let held := fs.places.map Prod.snd ++ fs.nodes.map Prod.fst
  max fs.standing.directory (held.foldl max rootNumber) + 1

/-- Give a place to the node of a number, instead of whatever is there. -/
def bind (fs : FileSystem) (place : Location) (number : Nat) : FileSystem :=
  { fs with places := (place, number) :: fs.places.filter fun held => held.1 ≠ place }

/-- Take another node for the one of a number. -/
def update (fs : FileSystem) (number : Nat) (node : Node) : FileSystem :=
  { fs with nodes := (number, node) :: fs.nodes.filter fun held => held.1 ≠ number }

/-- Put a new node at a place, instead of whatever is there. -/
def add (fs : FileSystem) (place : Location) (node : Node) : FileSystem :=
  (fs.update fs.fresh node).bind place fs.fresh

/-- Remove the entry at a place and everything below it. -/
def eraseBelow (fs : FileSystem) (place : Location) : FileSystem :=
  let (gone, left) := fs.places.partition fun held => place.isPrefixOf held.1
  let above := gone.filterMap fun (held, number) =>
    if (fs.node? number).any fun node => node.entry = .directory then
      (fs.numberAt held.dropLast).map fun outer => (number, outer)
    else none
  { fs with places := left, removed := above ++ fs.removed }

/-! ## What is found after a change -/

@[simp] theorem lookup_root (fs : FileSystem) : fs.lookup [] = some .directory := rfl

/-- Pairs that a filter on keys lets through are found as before. -/
private theorem lookup_filter_keys {α β : Type} [BEq α] [LawfulBEq α] (pairs : List (α × β))
    (keep : α → Bool) (key : α) :
    (pairs.filter fun pair => keep pair.1).lookup key =
      if keep key then pairs.lookup key else none := by
  induction pairs with
  | nil => simp
  | cons pair rest ih =>
    obtain ⟨other, value⟩ := pair
    by_cases hother : key = other
    · subst hother
      by_cases hkeep : keep key <;> simp [hkeep, ih]
    · have hne : (key == other) = false := by simpa using hother
      by_cases hkeep : keep other <;> simp [hkeep, ih, List.lookup_cons, hne]

/-- What is found for a key is one of the values. -/
private theorem mem_of_lookup {α β : Type} [BEq α] {pairs : List (α × β)} {key : α} {value : β}
    (h : pairs.lookup key = some value) : value ∈ pairs.map Prod.snd := by
  induction pairs with
  | nil => simp at h
  | cons pair rest ih =>
    obtain ⟨other, held⟩ := pair
    rw [List.lookup_cons] at h
    split at h
    · simp_all
    · exact List.mem_cons_of_mem _ (ih h)

/-- A number that is found for a place is less than a fresh one. -/
theorem lt_fresh_of_numberAt {fs : FileSystem} {place : Location} {number : Nat}
    (h : fs.places.lookup place = some number) : number < fs.fresh := by
  have hmem : number ∈ fs.places.map Prod.snd := mem_of_lookup h
  have hle : ∀ (l : List Nat) (start : Nat), number ∈ l ∨ number ≤ start →
      number ≤ l.foldl max start := by
    intro l
    induction l with
    | nil => intro start h; simpa using h
    | cons head tail ih =>
      intro start h
      apply ih
      rcases h with h | h
      · rcases List.mem_cons.1 h with h | h
        · right; omega
        · left; exact h
      · right; omega
  have := hle (fs.places.map Prod.snd ++ fs.nodes.map Prod.fst) rootNumber
    (.inl (List.mem_append_left _ hmem))
  simp only [fresh]
  omega

/-- The number at a place after it was given to a node. -/
theorem lookup_places_bind (fs : FileSystem) (place : Location) (number : Nat) (other : Location) :
    (fs.bind place number).places.lookup other =
      if other = place then some number else fs.places.lookup other := by
  by_cases hother : other = place
  · simp [bind, hother]
  · have hne : (other == place) = false := by simpa using hother
    have := lookup_filter_keys fs.places (fun held => decide (held ≠ place)) other
    simp [bind, hother, List.lookup_cons, hne, -List.lookup_eq_none_iff] at this ⊢
    exact this

/-- The node of a number after one was changed. -/
theorem node?_update (fs : FileSystem) (number : Nat) (node : Node) (other : Nat) :
    (fs.update number node).node? other = if other = number then some node else fs.node? other := by
  by_cases hother : other = number
  · simp [update, node?, hother]
  · have hne : (other == number) = false := by simpa using hother
    have := lookup_filter_keys fs.nodes (fun held => decide (held ≠ number)) other
    simp [update, node?, hother, List.lookup_cons, hne, -List.lookup_eq_none_iff] at this ⊢
    exact this

/-- **Changing a node** changes the entries at its own places and no others. -/
theorem lookup_update (fs : FileSystem) (number : Nat) (node : Node) {other : Location}
    (h : other ≠ []) :
    (fs.update number node).lookup other =
      if fs.numberAt other = some number then some node.entry else fs.lookup other := by
  have hp : (fs.update number node).places = fs.places := rfl
  simp only [lookup, h, if_false, nodeAt, hp, numberAt]
  cases hl : fs.places.lookup other with
  | none => simp
  | some held =>
    by_cases hn : held = number <;> simp [node?_update, hn]

/-- **A new node** changes the entry at its own place and no other. -/
theorem lookup_add (fs : FileSystem) {place : Location} (h : place ≠ []) (node : Node)
    (other : Location) :
    (fs.add place node).lookup other = if other = place then some node.entry else fs.lookup other := by
  by_cases hroot : other = []
  · subst hroot
    simp [h.symm]
  · have hp : ∀ (fs : FileSystem) number, (fs.bind place number).node? = fs.node? := fun _ _ => rfl
    simp only [lookup, hroot, if_false, nodeAt, add, lookup_places_bind, hp]
    by_cases hother : other = place
    · simp [hother, node?_update]
    · simp only [hother, if_false]
      have hq : (fs.update fs.fresh node).places = fs.places := rfl
      rw [hq]
      cases hl : fs.places.lookup other with
      | none => rfl
      | some held =>
        have hlt := lt_fresh_of_numberAt hl
        simp [node?_update, Nat.ne_of_lt hlt]

/-- **Giving a place to a node** changes what is at that place and nothing else. -/
theorem lookup_bind (fs : FileSystem) {place : Location} (h : place ≠ []) (number : Nat) (other : Location) :
    (fs.bind place number).lookup other =
      if other = place then (fs.node? number).map Node.entry else fs.lookup other := by
  have hnode : (fs.bind place number).node? = fs.node? := rfl
  by_cases hroot : other = []
  · subst hroot
    simp [h.symm]
  · simp only [lookup, hroot, if_false, nodeAt, lookup_places_bind, hnode]
    split <;> rfl

/-- **Erasing** empties the places at and below the given one and no others. -/
theorem lookup_eraseBelow (fs : FileSystem) (place : Location) {other : Location} (h : other ≠ []) :
    (fs.eraseBelow place).lookup other =
      if place <+: other then none else fs.lookup other := by
  have hn : (fs.eraseBelow place).node? = fs.node? := rfl
  have hp : (fs.eraseBelow place).places =
      fs.places.filter fun held => !place.isPrefixOf held.1 := by
    simp [eraseBelow, List.partition_eq_filter_filter, Function.comp_def]
  have := lookup_filter_keys fs.places (fun l => !place.isPrefixOf l) other
  simp only [lookup, nodeAt, h, if_false, hp, hn, this]
  by_cases hbelow : place <+: other
  · simp [hbelow, List.isPrefixOf_iff_prefix.2 hbelow]
  · have : place.isPrefixOf other = false := by
      rw [Bool.eq_false_iff]
      exact fun hp => hbelow (List.isPrefixOf_iff_prefix.1 hp)
    simp [hbelow, this]

/-- What is found does not depend on how a process stands. -/
@[simp] theorem lookup_standing (fs : FileSystem) (standing : Standing) (place : Location) :
    { fs with standing := standing }.lookup place = fs.lookup place := rfl

/-! ## Directories -/

/-- The name of an entry that lies right in a directory. -/
def nameIn? (directory place : Location) : Option String :=
  if place.dropLast = directory then place.getLast? else none

/-- **The names in a directory**, in order and each once. -/
def childNames (fs : FileSystem) (directory : Location) : List String :=
  ((fs.places.filterMap fun (place, _) => nameIn? directory place).eraseDups).mergeSort
    (fun a b => decide (a ≤ b))

/-- The names in a directory with their entries. -/
def children (fs : FileSystem) (directory : Location) : List (String × Entry) :=
  (fs.childNames directory).filterMap fun name =>
    (fs.lookup (directory ++ [name])).map fun entry => (name, entry)

/-- The names of the directories right in a directory. -/
def subdirectories (fs : FileSystem) (directory : Location) : List String :=
  (fs.children directory).filterMap fun (name, entry) =>
    if entry = .directory then some name else none

/-- The names of the regular files right in a directory. None is left out, since all names are texts. -/
def fileNames (fs : FileSystem) (directory : Location) : List String :=
  (fs.children directory).filterMap fun (name, entry) =>
    match entry with
    | .file _ => some name
    | _ => none

/-- No entry lies deeper than this. -/
def depth (fs : FileSystem) : Nat := (fs.places.map fun (place, _) => place.length).foldl max 0

/-! ## Building -/

/-- Nothing but the root, seen from there at a time, with the given bits held back. -/
def empty (now : Time) (mask : Nat) : FileSystem := ⟨[], [], [], now, ⟨rootNumber, mask⟩⟩

/-- The node of a new entry. -/
def newNode (fs : FileSystem) (entry : Entry) : Node :=
  ⟨entry, maskedMode fs.standing.mask entry.newMode, fs.now⟩

/-- The file system with an entry at a place. -/
def withEntry (fs : FileSystem) (place : Location) (entry : Entry) : FileSystem :=
  fs.add place (fs.newNode entry)

/-- The file system with entries at places. Of two for one place the first counts. -/
def withEntries (fs : FileSystem) (entries : List (Location × Entry)) : FileSystem :=
  entries.foldr (fun (place, entry) fs => fs.withEntry place entry) fs

/-- The file system after the entry at a place, or a name in it, changed just now. -/
def stamp (fs : FileSystem) (place : Location) : FileSystem :=
  match fs.places.lookup place with
  | none => fs
  | some number =>
    match fs.node? number with
    | none => fs
    | some node => fs.update number { node with modified := fs.now }

/-- The file system seen from the directory at a place, if there is something. -/
def seenFrom (fs : FileSystem) (place : Location) : FileSystem :=
  match fs.numberAt place with
  | some number => { fs with standing := { fs.standing with directory := number } }
  | none => fs

end FileSystem

end ComponentScaffold
