import ComponentScaffold.Proofs.Files.WellFormed

/-! # Paths in a file system

Where an absolute path leads is a way from the root, and does not depend on how a process stands. Any
path that leads to an entry takes a way from some directory, whatever it is followed for.

* **`FileSystem.resolve_eq_ok_iff`** — the way of an absolute path.
* **`FileSystem.resolve_cases`** — the way of any path that takes one.
* **`FileSystem.resolve_holds`** — it leads to what is there.
* **`FileSystem.resolve_grows`** — it still leads there where nothing is lost.
* **`FileSystem.writeBytes_ok`** — what a write changes.
* **`FileSystem.DiffersInFiles`** — file systems with other files in the same directories;
  `LeadsToSame.resolve_iff` says which paths do not see the difference. -/

namespace ComponentScaffold

namespace FileSystem

variable {fs : FileSystem} {p : Path} {purpose : Purpose}

/-! ## Ways of absolute paths -/

/-- An absolute path that is not too long takes the way from the root along its names. -/
theorem resolveAs_eq_ok_iff (habs : p.isAbsolute = true) {slashed : Bool}
    {destination : Destination} :
    fs.resolveAs p purpose slashed = .ok destination ↔
      p.text.utf8ByteSize ≤ maxPathBytes ∧
        fs.Leads purpose maxLinks [] p.names slashed destination := by
  unfold resolveAs
  split
  case isTrue hlong =>
    simp only [reduceCtorEq, false_iff, not_and]
    exact fun hle => absurd hlong (Nat.not_lt.2 hle)
  case isFalse hle =>
    have hempty : p.text.isEmpty = false := by simpa using Path.text_ne_of_isAbsolute habs
    simp only [resolveWhole, hempty, Bool.false_eq_true, if_false, habs, if_true, leads_iff,
      Nat.not_lt.1 hle, true_and]

/-- **Where an absolute path leads.** -/
theorem resolve_eq_ok_iff (habs : p.isAbsolute = true) {destination : Destination} :
    fs.resolve p purpose = .ok destination ↔
      p.text.utf8ByteSize ≤ maxPathBytes ∧
        fs.Leads purpose maxLinks [] p.names p.isSlashed destination := resolveAs_eq_ok_iff habs

/-- **An absolute path leads to what is there**, for whatever it is followed. -/
theorem resolveAs_holds (hfs : fs.WellFormed) (habs : p.isAbsolute = true) {slashed : Bool}
    {destination : Destination} (h : fs.resolveAs p purpose slashed = .ok destination) :
    fs.Holds destination :=
  ((resolveAs_eq_ok_iff habs).1 h).2.holds hfs (lookup_root fs) fun _ => Path.isStep_of_mem_names

theorem resolve_holds (hfs : fs.WellFormed) (habs : p.isAbsolute = true) {destination : Destination}
    (h : fs.resolve p purpose = .ok destination) : fs.Holds destination := resolveAs_holds hfs habs h

/-- **Where nothing is lost**, an absolute path leads to what its destination has become. -/
theorem resolve_grows {after : FileSystem} (hgrows : fs.GrowsTo after) (habs : p.isAbsolute = true)
    {old new : Destination} (h : fs.resolve p purpose = .ok old) (hnew : after.Becomes old new) :
    after.resolve p purpose = .ok new := by
  rw [resolve_eq_ok_iff habs] at h ⊢
  exact ⟨h.1, h.2.grows hgrows hnew⟩

/-! ## Ways of all paths -/

/-- A path that leads somewhere is not too long. -/
theorem size_of_resolve {destination : Destination} (h : fs.resolve p purpose = .ok destination) :
    p.text.utf8ByteSize ≤ maxPathBytes := by
  rw [resolve, resolveAs] at h
  split at h
  case isTrue => cases h
  case isFalse hshort => exact Nat.le_of_not_lt hshort


/-- From the directory of a number names take a way, or they lead to no entry, whatever they are
followed for. -/
theorem followFrom_cases (fs : FileSystem) (names : List String) (slashed : Bool) (number : Nat) :
    (∃ place rest, ∀ purpose, fs.followFrom purpose names slashed number =
        fs.followLinks purpose maxLinks place rest slashed) ∨
      ∃ outcome, (∀ purpose, fs.followFrom purpose names slashed number = outcome) ∧
        ∀ place entry, outcome ≠ .ok (.entry place entry) := by
  induction names generalizing number with
  | nil =>
    cases hfound : fs.placeOf? number with
    | some place => exact .inl ⟨place, [], fun purpose => by rw [followFrom, hfound]⟩
    | none =>
      exact .inr ⟨.ok (.removed number), fun purpose => by rw [followFrom, hfound], nofun⟩
  | cons name rest ih =>
    cases hfound : fs.placeOf? number with
    | some place => exact .inl ⟨place, name :: rest, fun purpose => by rw [followFrom, hfound]⟩
    | none =>
      -- out of a removed directory only a way up leads
      by_cases hcurrent : name = "."
      · simpa only [followFrom, hfound, if_pos hcurrent] using ih number
      by_cases hparent : name = ".."
      · cases habove : fs.removed.lookup number with
        | some outer =>
          simpa only [followFrom, hfound, if_neg hcurrent, if_pos hparent, habove] using ih outer
        | none =>
          refine .inr ⟨.error .noEntry, fun purpose => ?_, nofun⟩
          simp only [followFrom, hfound, if_neg hcurrent, if_pos hparent, habove]
      · refine .inr ⟨.error .noEntry, fun purpose => ?_, nofun⟩
        simp only [followFrom, hfound, if_neg hcurrent, if_neg hparent]

/-- **A path takes a way**, or it leads to no entry, whatever it is followed for. -/
theorem resolve_cases (fs : FileSystem) (p : Path) :
    (∃ place names, ∀ (purpose : Purpose) (destination : Destination),
      fs.resolve p purpose = .ok destination ↔
        fs.Leads purpose maxLinks place names p.isSlashed destination) ∨
      ∃ outcome, (∀ purpose, fs.resolve p purpose = outcome) ∧
        ∀ place entry, outcome ≠ .ok (.entry place entry) := by
  unfold resolve resolveAs resolveWhole
  by_cases hlong : maxPathBytes < p.text.utf8ByteSize
  · exact .inr ⟨.error .nameTooLong, fun purpose => if_pos hlong, nofun⟩
  by_cases hempty : p.text.isEmpty = true
  · exact .inr ⟨.error .noEntry, fun purpose => by rw [if_neg hlong, if_pos hempty], nofun⟩
  by_cases habs : p.isAbsolute = true
  · refine .inl ⟨[], p.names, fun purpose destination => ?_⟩
    rw [if_neg hlong, if_neg hempty, if_pos habs, leads_iff]
  · simp only [if_neg hlong, if_neg hempty, if_neg habs]
    refine (fs.followFrom_cases p.names p.isSlashed fs.standing.directory).imp_left ?_
    rintro ⟨place, rest, hfollows⟩
    exact ⟨place, rest, fun purpose destination => by rw [hfollows, leads_iff]⟩

/-- A path that leads to an entry names one. -/
theorem exists_resolve_name {place : Location} {entry : Entry}
    (h : fs.resolve p .target = .ok (.entry place entry)) :
    ∃ place entry, fs.resolve p .name = .ok (.entry place entry) := by
  rcases fs.resolve_cases p with ⟨start, names, htakes⟩ | ⟨outcome, hsame, hnone⟩
  · obtain ⟨found, held, hleads⟩ := ((htakes _ _).mp h).exists_name
    exact ⟨found, held, (htakes _ _).mpr hleads⟩
  · exact absurd ((hsame .target).symm.trans h) (hnone place entry)

/-- A path that does not lead to a link leads where it leads to through all links. -/
theorem resolve_target {destination : Destination} (h : fs.resolve p purpose = .ok destination)
    (hlink : purpose = .name → ∀ place target, destination ≠ .entry place (.link target)) :
    fs.resolve p .target = .ok destination := by
  rcases fs.resolve_cases p with ⟨start, names, htakes⟩ | ⟨outcome, hsame, -⟩
  · exact (htakes _ _).mpr (((htakes _ _).mp h).target hlink)
  · rw [hsame .target, ← hsame purpose, h]

/-- **A path that leads to a directory** names it, or a link. -/
theorem resolve_name_of_directory {place : Location}
    (h : fs.resolve p .target = .ok (.entry place .directory)) :
    fs.resolve p .name = .ok (.entry place .directory) ∨
      ∃ link target, fs.resolve p .name = .ok (.entry link (.link target)) := by
  obtain ⟨found, held, hnamed⟩ := exists_resolve_name h
  by_cases hlink : ∃ target, held = .link target
  · obtain ⟨target, rfl⟩ := hlink
    exact .inr ⟨found, target, hnamed⟩
  · have hleads := resolve_target hnamed fun _ _ target hsame =>
      hlink ⟨target, (Destination.entry.inj hsame).2⟩
    rw [h] at hleads
    exact .inl (hnamed.trans hleads.symm)

/-- What a way leads to is there, if it is no directory. -/
theorem Leads.lookup_of_entry {links : Nat} {place found : Location} {names : List String} {slashed : Bool}
    {entry : Entry} (h : fs.Leads purpose links place names slashed (.entry found entry)) (hheld : entry ≠ .directory) :
    fs.lookup found = some entry := by
  generalize hreached : Destination.entry found entry = destination at h
  induction h with
  | here => exact absurd (Destination.entry.inj hreached).2 hheld
  | stay _ ih | up _ ih | down _ _ _ ih | jump _ _ _ _ _ ih => exact ih hreached
  | vacant => cases hreached
  | link _ hthere | entry _ hthere =>
    obtain ⟨rfl, rfl⟩ := Destination.entry.inj hreached
    exact hthere

/-- What a path leads to is there, if it is no directory. -/
theorem lookup_of_resolve {place : Location} {entry : Entry} (h : fs.resolve p purpose = .ok (.entry place entry))
    (hheld : entry ≠ .directory) : fs.lookup place = some entry := by
  rcases fs.resolve_cases p with ⟨start, names, htakes⟩ | ⟨outcome, hsame, hnone⟩
  · exact ((htakes _ _).mp h).lookup_of_entry hheld
  · exact absurd ((hsame purpose).symm.trans h) (hnone place entry)

/-! ## Regular files -/

/-- **A path leads to a regular file**, directly or through links. -/
def LeadsToFile (fs : FileSystem) (p : Path) : Prop :=
  ∃ place bytes, fs.resolve p .target = .ok (.entry place (.file bytes))

/-- It is asked for. -/
theorem isFile_iff {fs : FileSystem} {p : Path} : fs.isFile p = true ↔ fs.LeadsToFile p := by
  unfold isFile LeadsToFile
  split
  case h_1 place bytes hfound => exact iff_of_true rfl ⟨place, bytes, hfound⟩
  case h_2 habsent => exact iff_of_false (by simp) fun ⟨place, bytes, hfound⟩ => habsent place bytes hfound

/-- A file that a path leads to is read. -/
theorem readBytes_of_file {place : Location} {bytes : ByteArray}
    (h : fs.resolve p .target = .ok (.entry place (.file bytes))) : fs.readBytes p = .ok bytes := by
  rw [readBytes, h]
  rfl

/-! ## Questions about absolute paths -/

/-- No way leads to what was removed. -/
theorem Leads.ne_removed {links : Nat} {place : Location} {names : List String} {slashed : Bool}
    {destination : Destination} (h : fs.Leads purpose links place names slashed destination)
    (number : Nat) : destination ≠ .removed number := by
  induction h with
  | stay _ ih | up _ ih | down _ _ _ ih | jump _ _ _ _ _ ih => exact ih
  | here | vacant | link | entry => exact Destination.noConfusion

/-- What an absolute path leads to was not removed. -/
theorem resolve_ne_removed (habs : p.isAbsolute = true) (number : Nat) :
    fs.resolve p purpose ≠ .ok (.removed number) := fun h =>
  ((resolve_eq_ok_iff habs).1 h).2.ne_removed number rfl

/-- A path leads to something exactly if it leads to an entry. -/
theorem exists?_iff (habs : p.isAbsolute = true) :
    fs.exists? p = true ↔ ∃ place entry, fs.resolve p .target = .ok (.entry place entry) := by
  unfold exists?
  split
  case h_1 place entry h => simp [h]
  case h_2 number h => exact absurd h (resolve_ne_removed habs number)
  case h_3 hentry _ =>
    simp only [Bool.false_eq_true, false_iff, not_exists]
    exact fun place entry h => hentry place entry h

/-- A path leads to nothing exactly if it leads to no entry. -/
theorem not_exists?_iff (habs : p.isAbsolute = true) :
    fs.exists? p = false ↔ ∀ place entry, fs.resolve p .target ≠ .ok (.entry place entry) := by
  rw [← Bool.not_eq_true, exists?_iff habs]
  simp only [not_exists, ne_eq]

/-- A path leads to a directory exactly if that is the entry it leads to. -/
theorem isDirectory_iff (habs : p.isAbsolute = true) :
    fs.isDirectory p = true ↔ ∃ place, fs.resolve p .target = .ok (.entry place .directory) := by
  unfold isDirectory
  split
  case h_1 place h => simp [h]
  case h_2 number h => exact absurd h (resolve_ne_removed habs number)
  case h_3 hentry _ =>
    simp only [Bool.false_eq_true, false_iff, not_exists]
    exact fun place h => hentry place h

/-- A path that names a file leads to it, for whatever it is followed. -/
theorem resolve_of_name (habs : p.isAbsolute = true) (hslashed : p.isSlashed = false)
    {place : Location} {bytes : ByteArray}
    (h : fs.resolve p .name = .ok (.entry place (.file bytes))) :
    fs.resolve p purpose = .ok (.entry place (.file bytes)) := by
  rw [resolve_eq_ok_iff habs, hslashed] at h ⊢
  exact ⟨h.1, h.2.of_name (by simp)⟩

/-- What a destination is, if it is an entry. -/
theorem bind_entryAt_eq_ok_iff {outcome : Except OsFault Destination} {place : Location} {entry : Entry} :
    outcome.bind entryAt = .ok (place, entry) ↔ outcome = .ok (.entry place entry) := by
  cases outcome with
  | error fault => simp [Except.bind]
  | ok destination => cases destination <;> simp [Except.bind, entryAt]

/-! ## Writing -/

/-- **What a write changes**: a file or a queue that is there takes the bytes, or a new file is made. What
a device takes is lost. -/
theorem writeBytes_ok {bytes : ByteArray} {written : FileSystem}
    (h : fs.writeBytes p bytes = .ok written) :
    (∃ place old, fs.resolve p .file = .ok (.entry place (.file old)) ∧
        written = fs.rewrite place (.file bytes)) ∨
      (∃ place held, fs.resolve p .file = .ok (.entry place (.queue held)) ∧
        written = fs.rewrite place (.queue (held ++ bytes))) ∨
      (∃ place device, fs.resolve p .file = .ok (.entry place (.device device)) ∧ written = fs) ∨
      ∃ directory name slashed, fs.resolve p .file = .ok (.vacant directory name slashed) ∧
        written = fs.create directory name (.file bytes) := by
  unfold writeBytes at h
  split at h
  case h_1 place old hresolve => exact .inl ⟨place, old, hresolve, (Except.ok.inj h).symm⟩
  case h_2 place held hresolve => exact .inr (.inl ⟨place, held, hresolve, (Except.ok.inj h).symm⟩)
  case h_5 place hresolve =>
    split at h
    case isTrue => exact .inr (.inr (.inl ⟨place, _, hresolve, (Except.ok.inj h).symm⟩))
    case isFalse => cases h
  case h_7 place device _ _ hresolve =>
    exact .inr (.inr (.inl ⟨place, device, hresolve, (Except.ok.inj h).symm⟩))
  case h_9 directory name slashed hresolve =>
    exact .inr (.inr (.inr ⟨directory, name, slashed, hresolve, (Except.ok.inj h).symm⟩))
  all_goals cases h

/-! ## Differences in files -/

/-- **Two file systems differ in files**: where they differ, both hold a regular file or nothing. -/
structure DiffersInFiles (fs fs' : FileSystem) : Prop where
  /-- The first one does. -/
  first : ∀ place, fs.lookup place ≠ fs'.lookup place → ∀ entry ∈ fs.lookup place, ∃ bytes, entry = .file bytes
  /-- The second one does. -/
  second : ∀ place, fs.lookup place ≠ fs'.lookup place → ∀ entry ∈ fs'.lookup place, ∃ bytes, entry = .file bytes

variable {fs' : FileSystem}

/-- What differs in files does so both ways. -/
theorem DiffersInFiles.symm (hdiffers : fs.DiffersInFiles fs') : fs'.DiffersInFiles fs :=
  ⟨fun place hapart => hdiffers.second place hapart.symm, fun place hapart => hdiffers.first place hapart.symm⟩

/-- Directories and links are in both. -/
theorem DiffersInFiles.lookup_eq (hdiffers : fs.DiffersInFiles fs') {place : Location} {entry : Entry}
    (hthere : fs.lookup place = some entry) (hheld : ∀ bytes, entry ≠ .file bytes) : fs'.lookup place = some entry := by
  by_cases hsame : fs.lookup place = fs'.lookup place
  · exact hsame.symm.trans hthere
  · obtain ⟨bytes, hfile⟩ := hdiffers.first place hsame entry hthere
    exact absurd hfile (hheld bytes)

/-- **A way to what is the same in both** is one in both: it goes through directories and links. -/
theorem Leads.of_differsInFiles (hdiffers : fs.DiffersInFiles fs') {links : Nat} {place found : Location}
    {names : List String} {slashed : Bool} {entry : Entry}
    (h : fs.Leads purpose links place names slashed (.entry found entry))
    (hsame : fs.lookup found = fs'.lookup found) :
    fs'.Leads purpose links place names slashed (.entry found entry) := by
  generalize hreached : Destination.entry found entry = destination at h
  induction h with
  | here => exact .here
  | stay _ ih => exact .stay (ih hreached)
  | up _ ih => exact .up (ih hreached)
  | vacant => cases hreached
  | down hpassable hfolder _ ih => exact .down hpassable (hdiffers.lookup_eq hfolder (by simp)) (ih hreached)
  | link hpassable hlink hasked => exact .link hpassable (hdiffers.lookup_eq hlink (by simp)) hasked
  | jump hpassable hlink hinner hne _ ih =>
    exact .jump hpassable (hdiffers.lookup_eq hlink (by simp)) hinner hne (ih hreached)
  | entry hpassable hthere hinside hsolid =>
    obtain ⟨rfl, rfl⟩ := Destination.entry.inj hreached
    exact .entry hpassable (hsame.symm.trans hthere) hinside hsolid

/-- **A path leads to the same** in two file systems: to nothing that differs. -/
structure LeadsToSame (fs fs' : FileSystem) (p : Path) : Prop where
  /-- In the first one. -/
  first : ∀ place entry, fs.resolve p .target = .ok (.entry place entry) → fs.lookup place = fs'.lookup place
  /-- In the second one. -/
  second : ∀ place entry, fs'.resolve p .target = .ok (.entry place entry) → fs.lookup place = fs'.lookup place

/-- A path leads to the same if it leads to one place in both, where they do not differ. -/
theorem leadsToSame_of_resolve {place : Location} {entry entry' : Entry}
    (hfound : fs.resolve p .target = .ok (.entry place entry))
    (hfound' : fs'.resolve p .target = .ok (.entry place entry')) (hsame : fs.lookup place = fs'.lookup place) :
    fs.LeadsToSame fs' p := by
  refine ⟨fun other held hleads => ?_, fun other held hleads => ?_⟩
  · obtain ⟨rfl, -⟩ := Destination.entry.inj (Except.ok.inj (hfound.symm.trans hleads))
    exact hsame
  · obtain ⟨rfl, -⟩ := Destination.entry.inj (Except.ok.inj (hfound'.symm.trans hleads))
    exact hsame

/-- An absolute path that does so leads to the same entry. -/
theorem LeadsToSame.resolve_iff (hleads : fs.LeadsToSame fs' p) (hdiffers : fs.DiffersInFiles fs')
    (habs : p.isAbsolute = true) (place : Location) (entry : Entry) :
    fs.resolve p .target = .ok (.entry place entry) ↔ fs'.resolve p .target = .ok (.entry place entry) := by
  constructor
  · intro hfound
    have hsame := hleads.first place entry hfound
    rw [resolve_eq_ok_iff habs] at hfound ⊢
    exact ⟨hfound.1, hfound.2.of_differsInFiles hdiffers hsame⟩
  · intro hfound
    have hsame := hleads.second place entry hfound
    rw [resolve_eq_ok_iff habs] at hfound ⊢
    exact ⟨hfound.1, hfound.2.of_differsInFiles hdiffers.symm hsame.symm⟩

/-- It leads to a regular file in both or in none. -/
theorem LeadsToSame.leadsToFile_iff (hleads : fs.LeadsToSame fs' p) (hdiffers : fs.DiffersInFiles fs')
    (habs : p.isAbsolute = true) : fs.LeadsToFile p ↔ fs'.LeadsToFile p := by
  simp only [LeadsToFile, hleads.resolve_iff hdiffers habs]

/-- The same is read from it. -/
theorem LeadsToSame.readBytes_eq (hleads : fs.LeadsToSame fs' p) (hdiffers : fs.DiffersInFiles fs')
    (habs : p.isAbsolute = true) (hfile : fs.LeadsToFile p) : fs.readBytes p = fs'.readBytes p := by
  obtain ⟨place, bytes, hfound⟩ := hfile
  rw [readBytes_of_file hfound, readBytes_of_file ((hleads.resolve_iff hdiffers habs _ _).mp hfound)]

/-- Nothing is at a free name that a way leads to. -/
theorem Leads.lookup_of_vacant {links : Nat} {place directory : Location} {names : List String} {name : String}
    {slashed free : Bool} (h : fs.Leads purpose links place names slashed (.vacant directory name free)) :
    fs.lookup (directory ++ [name]) = none := by
  generalize hreached : Destination.vacant directory name free = destination at h
  induction h with
  | here | link | entry => cases hreached
  | stay _ ih | up _ ih | down _ _ _ ih | jump _ _ _ _ _ ih => exact ih hreached
  | vacant _ habsent =>
    obtain ⟨rfl, rfl, -⟩ := Destination.vacant.inj hreached
    exact habsent

/-- Other bytes of a regular file are a difference in files. -/
theorem differsInFiles_rewrite {place : Location} {old : ByteArray} (hthere : fs.lookup place = some (.file old))
    (bytes : ByteArray) : fs.DiffersInFiles (fs.rewrite place (.file bytes)) := by
  have hinner := ne_nil_of_lookup hthere (by simp)
  have hshared {other : Location} (hapart : fs.lookup other ≠ (fs.rewrite place (.file bytes)).lookup other) :
      fs.lookup other = some (.file old) ∧ (fs.rewrite place (.file bytes)).lookup other = some (.file bytes) := by
    have hne : other ≠ [] := by
      rintro rfl
      simp at hapart
    rw [lookup_rewrite hinner hne hthere] at hapart ⊢
    split at hapart
    case isTrue hsame =>
      rw [if_pos hsame, lookup_eq_of_numberAt_eq hinner hne hsame, hthere]
      exact ⟨rfl, rfl⟩
    case isFalse => exact absurd rfl hapart
  refine ⟨fun other hapart entry hheld => ⟨old, ?_⟩, fun other hapart entry hheld => ⟨bytes, ?_⟩⟩
  · exact Option.some.inj (hheld.symm.trans (hshared hapart).1)
  · exact Option.some.inj (hheld.symm.trans (hshared hapart).2)

/-- A new file is a difference in files. -/
theorem differsInFiles_create {directory : Location} {name : String} (habsent : fs.lookup (directory ++ [name]) = none)
    (bytes : ByteArray) : fs.DiffersInFiles (fs.create directory name (.file bytes)) := by
  have hnew {other : Location} (hapart : fs.lookup other ≠ (fs.create directory name (.file bytes)).lookup other) :
      other = directory ++ [name] := by
    rw [lookup_create] at hapart
    split at hapart
    case isTrue hsame => exact hsame
    case isFalse => exact absurd rfl hapart
  refine ⟨fun other hapart entry hheld => ?_, fun other hapart entry hheld => ⟨bytes, ?_⟩⟩
  · rw [hnew hapart, habsent] at hheld
    cases hheld
  · rw [lookup_create, if_pos (hnew hapart)] at hheld
    exact (Option.some.inj hheld).symm

/-- **Who writes a regular file**, or a new one, makes a difference in files. -/
theorem differsInFiles_of_writeBytes {bytes : ByteArray} {written : FileSystem} (habs : p.isAbsolute = true)
    (hregular : ∀ place entry, fs.resolve p .target = .ok (.entry place entry) → ∃ old, entry = .file old)
    (hwrite : fs.writeBytes p bytes = .ok written) : fs.DiffersInFiles written := by
  rcases writeBytes_ok hwrite with ⟨place, old, hleads, rfl⟩ | ⟨place, held, hleads, rfl⟩ |
    ⟨place, device, hleads, rfl⟩ | ⟨directory, name, slashed, hleads, rfl⟩
  · exact differsInFiles_rewrite (lookup_of_resolve hleads (by simp)) bytes
  · obtain ⟨old, hfile⟩ := hregular _ _ (resolve_target hleads (by simp))
    cases hfile
  · obtain ⟨old, hfile⟩ := hregular _ _ (resolve_target hleads (by simp))
    cases hfile
  · exact differsInFiles_create ((resolve_eq_ok_iff habs).mp hleads).2.lookup_of_vacant bytes

end FileSystem

end ComponentScaffold
