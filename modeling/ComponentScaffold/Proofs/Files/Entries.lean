import ComponentScaffold.Files.Operations

/-! # Entries after a change

What is found at a place after a file system was changed, and what a change keeps.

* **`lookup_create`**, **`lookup_rewrite`** — a new entry, and other bytes for an old one.
* **`FileSystem.GrowsTo`** — nothing is lost but bytes.
* **`FileSystem.GainsFolders`** — nothing is lost, and what is new are directories. -/

namespace ComponentScaffold

namespace FileSystem

/-! ## Single changes -/

/-- An entry other than the root has a number, and the number a node. -/
theorem lookup_eq_some_iff {fs : FileSystem} {place : Location} {entry : Entry} (h : place ≠ []) :
    fs.lookup place = some entry ↔
      ∃ number node, fs.places.lookup place = some number ∧ fs.node? number = some node ∧
        node.entry = entry := by
  simp [lookup, h, nodeAt, Option.map_eq_some_iff, Option.bind_eq_some_iff]

/-- What is no directory is not the root. -/
theorem ne_nil_of_lookup {fs : FileSystem} {place : Location} {entry : Entry}
    (h : fs.lookup place = some entry) (hentry : entry ≠ .directory) : place ≠ [] := by
  rintro rfl
  exact hentry (by simpa using h.symm)

/-- A place other than the root has the number that is kept for it. -/
theorem numberAt_of_ne_nil (fs : FileSystem) {place : Location} (h : place ≠ []) :
    fs.numberAt place = fs.places.lookup place := if_neg h

/-- Places of one node hold one entry. -/
theorem lookup_eq_of_numberAt_eq {fs : FileSystem} {place other : Location} (hplace : place ≠ [])
    (hother : other ≠ []) (h : fs.numberAt other = fs.numberAt place) :
    fs.lookup other = fs.lookup place := by
  rw [numberAt_of_ne_nil _ hother, numberAt_of_ne_nil _ hplace] at h
  simp [lookup, hplace, hother, nodeAt, h]

/-- Stamping changes no entry. -/
@[simp] theorem lookup_stamp (fs : FileSystem) (place other : Location) :
    (fs.stamp place).lookup other = fs.lookup other := by
  unfold stamp
  split
  case h_1 => rfl
  case h_2 number hnumber =>
    split
    case h_1 => rfl
    case h_2 node hnode =>
      by_cases hother : other = []
      · simp [hother]
      rw [lookup_update _ _ _ hother]
      split
      case isTrue hsame =>
        rw [numberAt_of_ne_nil _ hother] at hsame
        exact ((lookup_eq_some_iff hother).2 ⟨number, node, hsame, hnode, rfl⟩).symm
      case isFalse => rfl

/-- Stamping moves nothing. -/
@[simp] theorem places_stamp (fs : FileSystem) (place : Location) :
    (fs.stamp place).places = fs.places := by
  unfold stamp
  split
  · rfl
  · split <;> rfl

@[simp] theorem standing_stamp (fs : FileSystem) (place : Location) : (fs.stamp place).standing = fs.standing := by
  unfold stamp
  split
  · rfl
  · split <;> rfl

/-- **Removing** takes what is at a place and below it, and nothing else. -/
theorem lookup_drop (fs : FileSystem) (place : Location) {other : Location} (hother : other ≠ []) :
    (fs.drop place).lookup other = if place <+: other then none else fs.lookup other := by
  rw [drop, lookup_stamp, lookup_eraseBelow _ _ hother]

/-- Where keys are changed, what had a key before is found for its new one. -/
private theorem lookup_map_keys {α β : Type} [BEq α] [LawfulBEq α] {pairs : List (α × β)} {change : α → α}
    {key before : α} (h : ∀ pair ∈ pairs, change pair.1 = key ↔ pair.1 = before) :
    (pairs.map fun pair => (change pair.1, pair.2)).lookup key = pairs.lookup before := by
  induction pairs with
  | nil => rfl
  | cons pair rest ih =>
    have hhere : (key == change pair.1) = (before == pair.1) := by
      rw [Bool.eq_iff_iff, beq_iff_eq, beq_iff_eq, eq_comm, h pair List.mem_cons_self, eq_comm]
    rw [List.map_cons, List.lookup_cons, List.lookup_cons, hhere,
      ih fun other hother => h other (List.mem_cons_of_mem _ hother)]

/-- What no key becomes is not found. -/
private theorem lookup_map_keys_of_ne {α β : Type} [BEq α] [LawfulBEq α] {pairs : List (α × β)}
    {change : α → α} {key : α} (h : ∀ pair ∈ pairs, change pair.1 ≠ key) :
    (pairs.map fun pair => (change pair.1, pair.2)).lookup key = none := by
  rw [List.lookup_eq_none_iff]
  intro pair hpair
  obtain ⟨old, hold, rfl⟩ := List.mem_map.1 hpair
  simpa using (h old hold).symm

/-- What comes to a place was below the source, or has been there and is not below it. -/
theorem movedPlace_eq_iff {source target place other : Location} :
    movedPlace source target place = other ↔
      (∃ rest, place = source ++ rest ∧ other = target ++ rest) ∨ ¬source <+: place ∧ place = other := by
  unfold movedPlace
  split
  case isTrue hbelow =>
    obtain ⟨rest, rfl⟩ := List.isPrefixOf_iff_prefix.1 hbelow
    simp [eq_comm]
  case isFalse hbelow =>
    have hbelow : ¬source <+: place := fun h => hbelow (List.isPrefixOf_iff_prefix.2 h)
    refine ⟨fun h => .inr ⟨hbelow, h⟩, ?_⟩
    rintro (⟨rest, rfl, -⟩ | ⟨-, h⟩)
    · exact absurd (List.prefix_append _ _) hbelow
    · exact h

/-- **Moving** takes what is at a place and below it to another one, instead of what is there. -/
theorem lookup_move (fs : FileSystem) {source target other : Location} (hother : other ≠ [])
    (hsource : ¬source <+: target) (htarget : ¬target <+: source) :
    (fs.move source target).lookup other =
      if target <+: other then fs.lookup (source ++ other.drop target.length)
      else if source <+: other then none else fs.lookup other := by
  have hcleared : ∀ pair ∈ (fs.eraseBelow target).places, ¬target <+: pair.1 := by
    intro pair hpair
    simp only [eraseBelow, List.partition_eq_filter_filter, List.mem_filter] at hpair
    simpa [← List.isPrefixOf_iff_prefix] using hpair.2
  have hmove : (fs.move source target).lookup other =
      ((((fs.eraseBelow target).places.map fun pair => (movedPlace source target pair.1, pair.2)).lookup
        other).bind fs.node?).map Node.entry := by
    unfold move
    rw [lookup_stamp, lookup_stamp, lookup, if_neg hother]
    rfl
  -- what comes to a place from another one is found there, if it was not cleared
  have hfound {place : Location} (hne : place ≠ []) (hleft : ¬target <+: place)
      (h : ∀ pair ∈ (fs.eraseBelow target).places, movedPlace source target pair.1 = other ↔ pair.1 = place) :
      (fs.move source target).lookup other = fs.lookup place := by
    rw [hmove, lookup_map_keys h, ← (lookup_eraseBelow fs target hne).trans (if_neg hleft), lookup, if_neg hne]
    rfl
  split
  case isTrue hbelow =>
    obtain ⟨rest, rfl⟩ := hbelow
    rw [List.drop_left]
    have hleft : ¬target <+: source ++ rest := fun h =>
      (List.prefix_or_prefix_of_prefix h (List.prefix_append _ _)).elim htarget hsource
    refine hfound ?_ hleft fun pair hpair => ?_
    · intro hnil
      exact hsource ((List.append_eq_nil_iff.1 hnil).1 ▸ List.nil_prefix)
    · rw [movedPlace_eq_iff]
      refine ⟨?_, fun h => .inl ⟨rest, h, rfl⟩⟩
      rintro (⟨rest', hpair', hrest⟩ | ⟨-, hpair'⟩)
      · rw [hpair', List.append_cancel_left hrest]
      · exact absurd (hpair' ▸ List.prefix_append _ _) (hcleared pair hpair)
  case isFalse hapart =>
    have hpair {pair : Location × Nat} :
        movedPlace source target pair.1 = other ↔ ¬source <+: pair.1 ∧ pair.1 = other := by
      rw [movedPlace_eq_iff]
      refine ⟨fun h => h.resolve_left ?_, .inr⟩
      rintro ⟨rest, -, rfl⟩
      exact hapart (List.prefix_append _ _)
    split
    case isTrue hgone =>
      rw [hmove, lookup_map_keys_of_ne fun pair _ h => (hpair.1 h).1 ((hpair.1 h).2 ▸ hgone)]
      rfl
    case isFalse hkept =>
      refine hfound hother hapart fun pair _ => hpair.trans ⟨And.right, fun h => ⟨h ▸ hkept, h⟩⟩

/-- **A new entry** changes what is at its own place and nothing else. -/
theorem lookup_create (fs : FileSystem) (directory : Location) (name : String) (entry : Entry)
    (other : Location) :
    (fs.create directory name entry).lookup other =
      if other = directory ++ [name] then some entry else fs.lookup other := by
  rw [create, lookup_stamp, withEntry, lookup_add _ (by simp)]
  rfl

/-- **Other bytes** change what is at the places of one node and nothing else. -/
theorem lookup_rewrite {fs : FileSystem} {place other : Location} {old : Entry}
    (hplace : place ≠ []) (hother : other ≠ []) (hold : fs.lookup place = some old) (entry : Entry) :
    (fs.rewrite place entry).lookup other =
      if fs.numberAt other = fs.numberAt place then some entry else fs.lookup other := by
  obtain ⟨number, node, hnumber, hnode, -⟩ := (lookup_eq_some_iff hplace).1 hold
  have hplace' : fs.numberAt place = some number := by rw [numberAt_of_ne_nil _ hplace, hnumber]
  simp only [rewrite, hnumber, hnode, hplace']
  exact lookup_update _ _ _ hother

/-- They are there then. -/
theorem lookup_rewrite_self {fs : FileSystem} {place : Location} {old : Entry} (hplace : place ≠ [])
    (hold : fs.lookup place = some old) (entry : Entry) : (fs.rewrite place entry).lookup place = some entry := by
  rw [lookup_rewrite hplace hplace hold, if_pos rfl]

/-- What has another node keeps its entry, the root among it. -/
theorem lookup_rewrite_of_ne {fs : FileSystem} {place other : Location} {old : Entry} (hplace : place ≠ [])
    (hold : fs.lookup place = some old) (hother : fs.numberAt other ≠ fs.numberAt place) (entry : Entry) :
    (fs.rewrite place entry).lookup other = fs.lookup other := by
  by_cases hroot : other = []
  · simp [hroot]
  · rw [lookup_rewrite hplace hroot hold, if_neg hother]

/-- Other bytes move nothing. -/
@[simp] theorem places_rewrite (fs : FileSystem) (place : Location) (entry : Entry) :
    (fs.rewrite place entry).places = fs.places := by
  unfold rewrite
  split
  · rfl
  · split <;> rfl

@[simp] theorem numberAt_rewrite (fs : FileSystem) (place other : Location) (entry : Entry) :
    (fs.rewrite place entry).numberAt other = fs.numberAt other := by
  simp [numberAt]

/-- The node of a new entry has no other place. -/
theorem eq_of_numberAt_create {fs : FileSystem} {directory other : Location} {name : String}
    {entry : Entry}
    (h : (fs.create directory name entry).numberAt other =
      (fs.create directory name entry).numberAt (directory ++ [name])) :
    other = directory ++ [name] := by
  have hplaces (place : Location) :
      (fs.create directory name entry).places.lookup place =
        if place = directory ++ [name] then some fs.fresh else fs.places.lookup place := by
    rw [create, places_stamp, withEntry, add, lookup_places_bind]
    rfl
  by_cases hother : other = []
  · subst hother
    rw [numberAt_of_ne_nil _ (by simp : directory ++ [name] ≠ []), hplaces, if_pos rfl] at h
    simp [numberAt, rootNumber, fresh] at h
  · rw [numberAt_of_ne_nil _ hother, numberAt_of_ne_nil _ (by simp : directory ++ [name] ≠ []),
      hplaces, hplaces, if_pos rfl] at h
    split at h
    case isTrue heq => exact heq
    case isFalse => exact absurd (lt_fresh_of_numberAt h) (Nat.lt_irrefl _)

end FileSystem

/-! ## What is kept -/

/-- **An entry that may stand for another**: the same one, or one that differs in the bytes it holds. -/
inductive Entry.Alike : Entry → Entry → Prop
  | same (entry : Entry) : Entry.Alike entry entry
  | file (old new : ByteArray) : Entry.Alike (.file old) (.file new)
  | queue (old new : ByteArray) : Entry.Alike (.queue old) (.queue new)

namespace Entry.Alike

/-- Whatever stands for what stands for an entry stands for it. -/
theorem trans {first second third : Entry} (h : first.Alike second) (h' : second.Alike third) :
    first.Alike third := by
  cases h with
  | same => exact h'
  | file old new =>
    cases h' with
    | same => exact .file old new
    | file _ newer => exact .file old newer
  | queue old new =>
    cases h' with
    | same => exact .queue old new
    | queue _ newer => exact .queue old newer

/-- An entry stands for what stands for it. -/
theorem symm {first second : Entry} (h : first.Alike second) : second.Alike first := by
  cases h with
  | same => exact .same first
  | file old new => exact .file new old
  | queue old new => exact .queue new old

/-- Only a directory stands for a directory. -/
theorem eq_directory {entry : Entry} (h : Entry.directory.Alike entry) : entry = .directory := by
  cases h
  rfl

/-- Only a file stands for a file. -/
theorem eq_file {bytes : ByteArray} {entry : Entry} (h : (Entry.file bytes).Alike entry) :
    ∃ new, entry = .file new := by
  cases h with
  | same => exact ⟨bytes, rfl⟩
  | file _ new => exact ⟨new, rfl⟩

end Entry.Alike

namespace FileSystem

/-- **Nothing is lost** from one file system to another but bytes. -/
def GrowsTo (before after : FileSystem) : Prop :=
  ∀ ⦃place entry⦄, before.lookup place = some entry →
    ∃ entry', after.lookup place = some entry' ∧ entry.Alike entry'

/-- **What is new are directories**, and nothing is lost or changed. -/
structure GainsFolders (before after : FileSystem) : Prop where
  /-- What was there is as it was. -/
  keeps : ∀ ⦃place entry⦄, before.lookup place = some entry → after.lookup place = some entry
  /-- What was not there is a directory. -/
  gains : ∀ ⦃place entry⦄, after.lookup place = some entry →
    before.lookup place = some entry ∨ before.lookup place = none ∧ entry = .directory

namespace GrowsTo

variable {first second third : FileSystem}

/-- A file system grows to itself. -/
theorem refl (fs : FileSystem) : fs.GrowsTo fs := fun _ entry h => ⟨entry, h, .same entry⟩

/-- One growth after another is a growth. -/
theorem trans (h : first.GrowsTo second) (h' : second.GrowsTo third) : first.GrowsTo third := by
  intro place entry hentry
  obtain ⟨middle, hmiddle, halike⟩ := h hentry
  obtain ⟨last, hlast, halike'⟩ := h' hmiddle
  exact ⟨last, hlast, halike.trans halike'⟩

/-- A directory stays one. -/
theorem directory (h : first.GrowsTo second) {place : Location}
    (hplace : first.lookup place = some .directory) : second.lookup place = some .directory := by
  obtain ⟨entry, hentry, halike⟩ := h hplace
  cases halike
  exact hentry

end GrowsTo

namespace GainsFolders

variable {first second third : FileSystem}

/-- Gaining nothing is gaining folders. -/
theorem refl (fs : FileSystem) : fs.GainsFolders fs := ⟨fun _ _ h => h, fun _ _ h => .inl h⟩

/-- Gaining folders twice is gaining folders. -/
theorem trans (h : first.GainsFolders second) (h' : second.GainsFolders third) :
    first.GainsFolders third := by
  refine ⟨fun _ _ hentry => h'.keeps (h.keeps hentry), fun place entry hentry => ?_⟩
  rcases h'.gains hentry with hmiddle | ⟨hnone, rfl⟩
  · exact h.gains hmiddle
  · right
    refine ⟨?_, rfl⟩
    cases hfirst : first.lookup place with
    | none => rfl
    | some old => rw [h.keeps hfirst] at hnone; cases hnone

/-- Who gains folders grows. -/
theorem growsTo (h : first.GainsFolders second) : first.GrowsTo second :=
  fun _ entry hentry => ⟨entry, h.keeps hentry, .same entry⟩

/-- What is nowhere in the end was nowhere before. -/
theorem none_of_none (h : first.GainsFolders second) {place : Location}
    (hplace : second.lookup place = none) : first.lookup place = none := by
  cases hfirst : first.lookup place with
  | none => rfl
  | some entry => rw [h.keeps hfirst] at hplace; cases hplace

end GainsFolders

/-- A new directory where nothing was is a folder gained. -/
theorem gainsFolders_create {fs : FileSystem} {directory : Location} {name : String}
    (h : fs.lookup (directory ++ [name]) = none) :
    fs.GainsFolders (fs.create directory name .directory) := by
  constructor
  · intro place entry hentry
    rw [lookup_create, if_neg]
    · exact hentry
    · rintro rfl
      rw [h] at hentry
      cases hentry
  · intro place entry hentry
    rw [lookup_create] at hentry
    split at hentry
    case isTrue hplace => exact .inr ⟨hplace ▸ h, (Option.some.inj hentry).symm⟩
    case isFalse => exact .inl hentry

/-- A new entry where nothing was loses nothing. -/
theorem growsTo_create {fs : FileSystem} {directory : Location} {name : String} (entry : Entry)
    (h : fs.lookup (directory ++ [name]) = none) : fs.GrowsTo (fs.create directory name entry) := by
  intro place old hold
  refine ⟨old, ?_, .same old⟩
  rw [lookup_create, if_neg]
  · exact hold
  · rintro rfl
    rw [h] at hold
    cases hold

/-- Other bytes for an entry lose nothing else. -/
theorem growsTo_rewrite {fs : FileSystem} {place : Location} {old new : Entry} (hplace : place ≠ [])
    (h : fs.lookup place = some old) (halike : old.Alike new) : fs.GrowsTo (fs.rewrite place new) := by
  intro other entry hentry
  by_cases hother : other = []
  · subst hother
    exact ⟨entry, by simpa using hentry, .same entry⟩
  rw [lookup_rewrite hplace hother h]
  split
  case isTrue hsame =>
    rw [lookup_eq_of_numberAt_eq hplace hother hsame, h, Option.some.injEq] at hentry
    subst hentry
    exact ⟨_, rfl, halike⟩
  case isFalse => exact ⟨entry, hentry, .same entry⟩

/-- Nor does putting the old bytes back. -/
theorem rewrite_growsTo {fs : FileSystem} {place : Location} {old new : Entry} (hplace : place ≠ [])
    (h : fs.lookup place = some old) (halike : old.Alike new) : (fs.rewrite place new).GrowsTo fs := by
  intro other entry hentry
  by_cases hother : other = []
  · subst hother
    exact ⟨entry, by simpa using hentry, .same entry⟩
  rw [lookup_rewrite hplace hother h] at hentry
  split at hentry
  case isTrue hsame =>
    obtain rfl := Option.some.inj hentry
    exact ⟨old, (lookup_eq_of_numberAt_eq hplace hother hsame).trans h, halike.symm⟩
  case isFalse => exact ⟨entry, hentry, .same entry⟩

end FileSystem

end ComponentScaffold
