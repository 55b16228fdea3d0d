import ComponentScaffold.Proofs.Files.Ways
import ComponentScaffold.Proofs.Path.Names

/-! # Well-formed file systems

In a well-formed file system everything lies in a directory and has a proper name, so nothing is below
a place that is free. Operations on files keep a file system well-formed.

* **`FileSystem.WellFormed`** — what holds of all places.
* **`FileSystem.WellFormed.create`**, **`FileSystem.WellFormed.rewrite`**, **`FileSystem.WellFormed.drop`**,
  **`FileSystem.WellFormed.move`** — the changes keep it.
* **`FileSystem.Leads.holds`** — a way leads to what is there. -/

namespace ComponentScaffold

namespace FileSystem

/-- **A name that an entry can have.** -/
structure IsEntryName (name : String) : Prop extends Path.IsStep name where
  /-- It does not stand for the directory it is in. -/
  ne_current : name ≠ "."
  /-- It does not stand for the directory above. -/
  ne_parent : name ≠ ".."
  /-- It is not too long. -/
  size_le : name.utf8ByteSize ≤ maxNameBytes

/-- **A file system where everything lies in a directory**, under a proper name. -/
structure WellFormed (fs : FileSystem) : Prop where
  /-- What an entry lies in is a directory. -/
  inFolder : ∀ ⦃place name entry⦄, fs.lookup (place ++ [name]) = some entry →
    fs.lookup place = some .directory
  /-- An entry has a proper name. -/
  named : ∀ ⦃place name entry⦄, fs.lookup (place ++ [name]) = some entry → IsEntryName name

instance (name : String) : Decidable (IsEntryName name) :=
  decidable_of_iff ((name ≠ "" ∧ '/' ∉ name.toList) ∧ name ≠ "." ∧ name ≠ ".." ∧
      name.utf8ByteSize ≤ maxNameBytes)
    ⟨fun h => ⟨⟨h.1.1, h.1.2⟩, h.2.1, h.2.2.1, h.2.2.2⟩,
      fun h => ⟨⟨h.ne_empty, h.no_slash⟩, h.ne_current, h.ne_parent, h.size_le⟩⟩

/-- **Where an entry may be put**: a proper name in a directory that is not the name of a directory. -/
structure CanHold (fs : FileSystem) (directory : Location) (name : String) : Prop where
  /-- It is in a directory. -/
  inFolder : fs.lookup directory = some .directory
  /-- It is a proper name. -/
  named : IsEntryName name
  /-- No directory is there. -/
  free : fs.lookup (directory ++ [name]) ≠ some .directory

instance (fs : FileSystem) (directory : Location) (name : String) : Decidable (fs.CanHold directory name) :=
  decidable_of_iff (fs.lookup directory = some .directory ∧ IsEntryName name ∧
      fs.lookup (directory ++ [name]) ≠ some .directory)
    ⟨fun h => ⟨h.1, h.2.1, h.2.2⟩, fun h => ⟨h.inFolder, h.named, h.free⟩⟩

/-- **What may be moved**: something to a proper name in a directory, and neither into itself nor onto what
it is in. -/
structure CanMove (fs : FileSystem) (source directory : Location) (name : String) : Prop where
  /-- It does not come into itself. -/
  apart : ¬source <+: directory ++ [name]
  /-- It does not take the place of what it is in. -/
  inside : ¬directory ++ [name] <+: source
  /-- It comes into a directory. -/
  inFolder : fs.lookup directory = some .directory
  /-- It gets a proper name. -/
  named : IsEntryName name

instance (fs : FileSystem) (source directory : Location) (name : String) :
    Decidable (fs.CanMove source directory name) :=
  decidable_of_iff (¬source <+: directory ++ [name] ∧ ¬directory ++ [name] <+: source ∧
      fs.lookup directory = some .directory ∧ IsEntryName name)
    ⟨fun h => ⟨h.1, h.2.1, h.2.2.1, h.2.2.2⟩, fun h => ⟨h.apart, h.inside, h.inFolder, h.named⟩⟩

variable {fs : FileSystem} {purpose : Purpose}

/-- A place that is looked up is one of the places. -/
theorem mem_places_of_lookup {place : Location} {number : Nat}
    (h : fs.places.lookup place = some number) : (place, number) ∈ fs.places := by
  obtain ⟨front, back, hplaces, -⟩ := List.lookup_eq_some_iff.1 h
  simp [hplaces]

namespace WellFormed

/-- A file system is well-formed exactly if what its places hold is in directories and has proper names. -/
theorem iff_places : fs.WellFormed ↔ ∀ held ∈ fs.places, (fs.lookup held.1).isSome →
    fs.lookup held.1.dropLast = some .directory ∧ ∀ name ∈ held.1.getLast?, IsEntryName name := by
  constructor
  · rintro h ⟨place, number⟩ - hentry
    obtain ⟨entry, hentry⟩ := Option.isSome_iff_exists.1 hentry
    rcases List.eq_nil_or_concat place with rfl | ⟨above, name, rfl⟩
    · simp
    · simp only [List.concat_eq_append] at hentry ⊢
      simpa using ⟨h.inFolder hentry, h.named hentry⟩
  · intro h
    have hplaces {place : Location} {name : String} {entry : Entry}
        (hentry : fs.lookup (place ++ [name]) = some entry) :
        fs.lookup place = some .directory ∧ IsEntryName name := by
      obtain ⟨number, node, hnumber, -⟩ := (lookup_eq_some_iff (by simp)).1 hentry
      simpa using h _ (mem_places_of_lookup hnumber) (Option.isSome_iff_exists.2 ⟨entry, hentry⟩)
    exact ⟨fun _ _ _ hentry => (hplaces hentry).1, fun _ _ _ hentry => (hplaces hentry).2⟩

instance (fs : FileSystem) : Decidable fs.WellFormed := decidable_of_iff' _ iff_places

/-- A file system is well-formed if all its places are in directories and have proper names. -/
theorem of_places (h : ∀ held ∈ fs.places, fs.lookup held.1.dropLast = some .directory ∧
    ∀ name ∈ held.1.getLast?, IsEntryName name) : fs.WellFormed :=
  iff_places.2 fun held hheld _ => h held hheld

/-- The names on the way to an entry are proper ones. -/
theorem isEntryName_of_mem (h : fs.WellFormed) {place : Location} {entry : Entry}
    (hentry : fs.lookup place = some entry) {name : String} (hname : name ∈ place) :
    IsEntryName name := by
  induction hreversed : place.reverse generalizing place entry with
  | nil => simp [List.reverse_eq_nil_iff.1 hreversed] at hname
  | cons last front ih =>
    obtain rfl : place = front.reverse ++ [last] := List.reverse_eq_cons_iff.1 hreversed
    rcases List.mem_append.1 hname with hfront | hlast
    · exact ih (h.inFolder hentry) hfront (List.reverse_reverse _)
    · rw [List.mem_singleton.1 hlast]
      exact h.named hentry

/-- What a directory lies in is a directory. -/
theorem lookup_dropLast (h : fs.WellFormed) {place : Location}
    (hplace : fs.lookup place = some .directory) : fs.lookup place.dropLast = some .directory := by
  rcases List.eq_nil_or_concat place with rfl | ⟨above, name, rfl⟩
  · exact hplace
  · rw [List.concat_eq_append] at hplace ⊢
    rw [List.dropLast_concat]
    exact h.inFolder hplace

/-- Nothing lies in what is no directory. -/
theorem none_below (h : fs.WellFormed) {place : Location} (hplace : fs.lookup place = none)
    (name : String) : fs.lookup (place ++ [name]) = none := by
  cases hbelow : fs.lookup (place ++ [name]) with
  | none => rfl
  | some entry =>
    rw [h.inFolder hbelow] at hplace
    cases hplace

/-- Nor is anything further below. -/
theorem none_below_append (h : fs.WellFormed) {place : Location} (hplace : fs.lookup place = none)
    (rest : List String) : fs.lookup (place ++ rest) = none := by
  induction rest generalizing place with
  | nil => rwa [List.append_nil]
  | cons name rest ih =>
    rw [List.append_cons]
    exact ih (h.none_below hplace name)

/-- What is put where an entry may be put keeps a file system well-formed. -/
private theorem of_lookup (h : fs.WellFormed) {after : FileSystem} {directory : Location} {name : String}
    {new? : Option Entry} (hhold : fs.CanHold directory name)
    (hafter : ∀ other, after.lookup other =
      if other = directory ++ [name] then new? else fs.lookup other) : after.WellFormed := by
  have hkept {place : Location} (hplace : fs.lookup place = some .directory) :
      after.lookup place = some .directory := by
    rw [hafter, if_neg]
    · exact hplace
    · rintro rfl
      exact hhold.free hplace
  constructor
  · intro place other held hheld
    rw [hafter] at hheld
    split at hheld
    case isTrue hplace => exact (List.append_inj' hplace rfl).1 ▸ hkept hhold.inFolder
    case isFalse => exact hkept (h.inFolder hheld)
  · intro place other held hheld
    rw [hafter] at hheld
    split at hheld
    case isTrue hplace =>
      obtain rfl := List.singleton_inj.1 (List.append_inj' hplace rfl).2
      exact hhold.named
    case isFalse => exact h.named hheld

/-- A new node where an entry may be put keeps a file system well-formed. -/
theorem add (h : fs.WellFormed) {directory : Location} {name : String} (hhold : fs.CanHold directory name)
    (node : Node) : ((fs.add (directory ++ [name]) node).stamp directory).WellFormed :=
  h.of_lookup hhold fun other => by rw [lookup_stamp, lookup_add _ (by simp)]

/-- So does an old one that gets another place there. -/
theorem bind (h : fs.WellFormed) {directory : Location} {name : String} (hhold : fs.CanHold directory name)
    (number : Nat) : ((fs.bind (directory ++ [name]) number).stamp directory).WellFormed :=
  h.of_lookup hhold fun other => by rw [lookup_stamp, lookup_bind _ (by simp)]

/-- A new entry in a directory, under a proper name that is not taken, keeps a file system
well-formed. -/
theorem create (h : fs.WellFormed) {directory : Location} {name : String} (entry : Entry)
    (hdirectory : fs.lookup directory = some .directory) (hname : IsEntryName name)
    (hnone : fs.lookup (directory ++ [name]) = none) : (fs.create directory name entry).WellFormed :=
  h.add ⟨hdirectory, hname, by simp [hnone]⟩ _

/-- A file system stays well-formed if every entry that is left was there before, in a directory that is
left too. -/
theorem of_held (h : fs.WellFormed) {after : FileSystem}
    (hheld : ∀ place name entry, after.lookup (place ++ [name]) = some entry →
      (∃ held, fs.lookup (place ++ [name]) = some held) ∧
        (fs.lookup place = some .directory → after.lookup place = some .directory)) :
    after.WellFormed := by
  constructor
  · intro place name entry hentry
    obtain ⟨⟨held, hbefore⟩, hkept⟩ := hheld place name entry hentry
    exact hkept (h.inFolder hbefore)
  · intro place name entry hentry
    obtain ⟨⟨held, hbefore⟩, -⟩ := hheld place name entry hentry
    exact h.named hbefore

/-- Another node of the same kind keeps a file system well-formed. -/
theorem update (h : fs.WellFormed) {number : Nat} {old new : Node} (hold : fs.node? number = some old)
    (halike : old.entry.Alike new.entry) : (fs.update number new).WellFormed := by
  -- the entries of the node's places are alike, and there is no other change
  have hbefore {other : Location} (hother : other ≠ []) (hnumber : fs.numberAt other = some number) :
      fs.lookup other = some old.entry := by
    rw [numberAt_of_ne_nil _ hother] at hnumber
    exact (lookup_eq_some_iff hother).2 ⟨number, old, hnumber, hold, rfl⟩
  refine h.of_held fun place name entry hentry => ⟨?_, fun hplace => ?_⟩
  · rw [lookup_update _ _ _ (by simp)] at hentry
    split at hentry
    case isTrue hnumber => exact ⟨_, hbefore (by simp) hnumber⟩
    case isFalse => exact ⟨entry, hentry⟩
  · by_cases hroot : place = []
    · rw [hroot, lookup_root]
    rw [lookup_update _ _ _ hroot]
    split
    case isTrue hnumber =>
      rw [hbefore hroot hnumber] at hplace
      rw [Option.some.inj hplace] at halike
      rw [halike.eq_directory]
    case isFalse => exact hplace

/-- Other bytes for an entry keep a file system well-formed. -/
theorem rewrite (h : fs.WellFormed) {place : Location} {old new : Entry} (hne : place ≠ [])
    (hplace : fs.lookup place = some old) (halike : old.Alike new) :
    (fs.rewrite place new).WellFormed := by
  obtain ⟨number, node, hnumber, hnode, rfl⟩ := (lookup_eq_some_iff hne).1 hplace
  simp only [FileSystem.rewrite, hnumber, hnode]
  exact h.update hnode halike

/-- Removing keeps a file system well-formed. -/
theorem drop (h : fs.WellFormed) (place : Location) : (fs.drop place).WellFormed := by
  refine h.of_held fun above name entry hentry => ?_
  rw [lookup_drop _ _ (by simp)] at hentry
  split at hentry
  case isTrue => cases hentry
  case isFalse hleft =>
    refine ⟨⟨entry, hentry⟩, fun habove => ?_⟩
    by_cases hroot : above = []
    · rw [hroot, lookup_root]
    · rwa [lookup_drop _ _ hroot, if_neg fun hgone => hleft (hgone.trans (List.prefix_append _ _))]

/-- Moving keeps a file system well-formed. -/
theorem move (h : fs.WellFormed) {source directory : Location} {name : String}
    (hmove : fs.CanMove source directory name) : (fs.move source (directory ++ [name])).WellFormed := by
  have hinside (rest : List String) :
      (fs.move source (directory ++ [name])).lookup (directory ++ [name] ++ rest) = fs.lookup (source ++ rest) := by
    rw [lookup_move _ (by simp) hmove.apart hmove.inside, if_pos (List.prefix_append _ _), List.drop_left]
  have hleft {place : Location} (htarget : ¬directory ++ [name] <+: place) (hsource : ¬source <+: place) :
      (fs.move source (directory ++ [name])).lookup place = fs.lookup place := by
    by_cases hroot : place = []
    · simp [hroot]
    · rw [lookup_move _ hroot hmove.apart hmove.inside, if_neg htarget, if_neg hsource]
  have hplaces {place : Location} {last : String} {entry : Entry}
      (hentry : (fs.move source (directory ++ [name])).lookup (place ++ [last]) = some entry) :
      (fs.move source (directory ++ [name])).lookup place = some .directory ∧ IsEntryName last := by
    by_cases htarget : directory ++ [name] <+: place ++ [last]
    · rcases List.prefix_concat_iff.1 htarget with hhere | ⟨rest, rfl⟩
      · -- what was moved lies in the directory that it was moved to
        obtain ⟨rfl, hname⟩ := List.append_inj' hhere rfl
        obtain rfl := List.singleton_inj.1 hname
        refine ⟨?_, hmove.named⟩
        have htarget : ¬directory ++ [name] <+: directory := by
          intro hlong
          have hlength := hlong.length_le
          rw [List.length_append, List.length_singleton] at hlength
          omega
        rw [hleft htarget fun hsource => hmove.apart (hsource.trans (List.prefix_append _ _))]
        exact hmove.inFolder
      · -- what lies below it lay below the source
        rw [List.append_assoc, hinside, ← List.append_assoc] at hentry
        rw [hinside]
        exact ⟨h.inFolder hentry, h.named hentry⟩
    · have hsource : ¬source <+: place ++ [last] := by
        intro hsource
        rw [lookup_move _ (by simp) hmove.apart hmove.inside, if_neg htarget, if_pos hsource] at hentry
        cases hentry
      rw [hleft htarget hsource] at hentry
      rw [hleft (fun hbelow => htarget (hbelow.trans (List.prefix_append _ _))) fun hbelow =>
        hsource (hbelow.trans (List.prefix_append _ _))]
      exact ⟨h.inFolder hentry, h.named hentry⟩
  exact ⟨fun _ _ _ hentry => (hplaces hentry).1, fun _ _ _ hentry => (hplaces hentry).2⟩

/-- How a process stands in a file system does not matter. -/
theorem standing (h : fs.WellFormed) (standing : Standing) :
    { fs with standing := standing }.WellFormed := ⟨h.inFolder, h.named⟩

end WellFormed

/-- **A change that keeps a file system well-formed.** -/
def KeepsForm (before after : FileSystem) : Prop := before.WellFormed → after.WellFormed

instance : Std.Refl KeepsForm := ⟨fun _ => id⟩

instance : Trans KeepsForm KeepsForm KeepsForm := ⟨fun h h' hfs => h' (h hfs)⟩

/-! ## Ways lead to what is there -/

/-- **What a destination says of a file system.** -/
inductive Holds (fs : FileSystem) : Destination → Prop
  /-- An entry is there. -/
  | entry {place entry} : fs.lookup place = some entry → Holds fs (.entry place entry)
  /-- A directory is there, and a proper name in it is not taken. -/
  | vacant {directory name slashed} : fs.lookup directory = some .directory → IsEntryName name →
    fs.lookup (directory ++ [name]) = none → Holds fs (.vacant directory name slashed)

/-- What is passed between slashes is a proper name. -/
theorem Passable.isEntryName {name : String} {rest : List String} {slashed : Bool}
    (h : Passable purpose name rest slashed) (hstep : Path.IsStep name) : IsEntryName name :=
  ⟨hstep, h.ne_current, h.ne_parent, h.size_le⟩

/-- A proper name is passed where no file is asked for with a slash behind its name. -/
theorem IsEntryName.passable {name : String} {rest : List String} {slashed : Bool} (h : IsEntryName name)
    (hslashed : ¬(purpose = .file ∧ rest = [] ∧ slashed = true)) : Passable purpose name rest slashed :=
  ⟨h.ne_current, h.ne_parent, hslashed, h.size_le⟩

/-- **A way from a directory** leads to what is there. -/
theorem Leads.holds (hfs : fs.WellFormed) {links : Nat} {place : Location} {names : List String}
    {slashed : Bool} {destination : Destination}
    (h : fs.Leads purpose links place names slashed destination)
    (hplace : fs.lookup place = some .directory) (hnames : ∀ name ∈ names, Path.IsStep name) :
    fs.Holds destination := by
  induction h with
  | here => exact .entry hplace
  | stay _ ih => exact ih hplace fun name hname => hnames name (List.mem_cons_of_mem _ hname)
  | up _ ih =>
    exact ih (hfs.lookup_dropLast hplace) fun name hname => hnames name (List.mem_cons_of_mem _ hname)
  | vacant hname hnone =>
    exact .vacant hplace (hname.isEntryName (hnames _ List.mem_cons_self)) hnone
  | down _ hfolder _ ih => exact ih hfolder fun name hname => hnames name (List.mem_cons_of_mem _ hname)
  | link _ hlink => exact .entry hlink
  | @jump _ place name rest _ _ target _ hlink _ _ _ ih =>
    -- the target of a link starts at a directory, and its names are steps like those behind the link
    refine ih ?_ ?_
    · unfold linkStart
      split
      · exact lookup_root fs
      · exact hplace
    · intro other hother
      rcases List.mem_append.1 hother with htarget | hrest
      · exact Path.isStep_of_mem_names htarget
      · exact hnames other (List.mem_cons_of_mem _ hrest)
  | entry _ hentry => exact .entry hentry

end FileSystem

end ComponentScaffold
