import ComponentScaffold.Proofs.Files.Folders
import ComponentScaffold.Proofs.Files.Places
import ComponentScaffold.Proofs.Files.Writes
import ComponentScaffold.Proofs.Path.Below

/-! # File systems without links

Where no entry leads elsewhere and none has a second place, a path leads to the place that is written in it. What
is written to the path changes nothing at any other place, and brings no links.

* **`FileSystem.Linkless`** — such file systems.
* **`FileSystem.Linkless.isAt_of_resolve`** — where a path leads in one.
* **`FileSystem.Touches`** — a change that touches some places only.
* **`FileSystem.WritesAmong`** — a run of writes to some paths, which touches their places only. -/

namespace ComponentScaffold

/-- **The place of a destination**: that of the entry, or that of the free name. -/
def Destination.IsAt (place : Location) : Destination → Prop
  | .entry found _ => found = place
  | .vacant directory name _ => directory ++ [name] = place
  | .removed _ => False

/-- Whether an entry leads elsewhere. -/
def Entry.isLink : Entry → Bool
  | .link _ => true
  | _ => false

/-- **An entry that took a text last**: a file holds it alone, and a queue behind what it held. -/
inductive Entry.Took (text : String) : Entry → Prop
  /-- A file has no other bytes. -/
  | file : Took text (.file text.toUTF8)
  /-- A queue has them at its end. -/
  | queue (held : ByteArray) : Took text (.queue (held ++ text.toUTF8))

/-- The path of a place is read as the place. -/
theorem Path.plainNames_ofLocation {place : Location} (h : ∀ step ∈ place, IsStep step ∧ step ≠ "." ∧ step ≠ "..") :
    (ofLocation place).plainNames = place := by
  have hnames := names_ofLocation fun step hstep => (h step hstep).1
  have hparents : ".." ∉ (ofLocation place).names := by
    rw [hnames]
    exact fun hparent => (h _ hparent).2.2 rfl
  rw [plainNames_of_no_parents hparents, hnames]
  exact List.filter_eq_self.2 fun step hstep => decide_eq_true (h step hstep).2.1

namespace FileSystem

variable {fs before after made : FileSystem} {p : Path} {place : Location} {entry : Entry}

/-- **A file system without links**, in which everything lies in a directory. -/
structure Linkless (fs : FileSystem) : Prop extends fs.WellFormed where
  /-- No entry leads elsewhere. -/
  leadsNowhere : ∀ place target, fs.lookup place ≠ some (.link target)
  /-- No entry has a second place. -/
  single : ∀ ⦃place entry⦄, fs.lookup place = some entry →
    ∀ other, fs.numberAt other = fs.numberAt place → other = place

/-! ## Where paths lead -/

/-- Where nothing leads elsewhere, names lead to the place that is written in them. -/
private theorem Leads.isAt {purpose : Purpose} {links : Nat} {names : List String} {slashed : Bool}
    {destination : Destination} (hfs : ∀ place target, fs.lookup place ≠ some (.link target))
    (h : fs.Leads purpose links place names slashed destination) :
    destination.IsAt (names.foldl Path.plainStep place) := by
  have hdown {name : String} {rest : List String} {slashed : Bool} (hname : Passable purpose name rest slashed)
      (place : Location) : Path.plainStep place name = place ++ [name] := by
    rw [Path.plainStep, if_neg hname.ne_current, if_neg hname.ne_parent]
  -- a way that follows links would go on elsewhere, and there are none
  induction h with
  | here => exact rfl
  | stay _ ih => exact ih
  | up _ ih => exact ih
  | vacant hname => exact (hdown hname _).symm
  | down hname _ _ ih =>
    rw [List.foldl_cons, hdown hname]
    exact ih
  | link _ hlink | jump _ hlink => exact absurd hlink (hfs _ _)
  | entry hname => exact (hdown hname _).symm

/-- **A path leads to the place that is written in it**, or nowhere. -/
theorem Linkless.isAt_of_resolve (h : fs.Linkless) (habs : p.isAbsolute = true) {purpose : Purpose}
    {destination : Destination} (hresolve : fs.resolve p purpose = .ok destination) :
    destination.IsAt p.plainNames :=
  ((resolve_eq_ok_iff habs).1 hresolve).2.isAt h.leadsNowhere

/-- **Two paths lead to the same file**: what is written by the one is read by the other. -/
def SameFile (fs : FileSystem) (p q : Path) : Prop :=
  ∃ place other held entry, fs.resolve p .target = .ok (.entry place held) ∧
    fs.resolve q .target = .ok (.entry other entry) ∧ fs.numberAt place = fs.numberAt other

/-- Where there are no links, two paths that lead somewhere lead to the same file exactly if they are read alike. -/
theorem Linkless.sameFile_iff {q : Path} {other : Location} {held : Entry} (h : fs.Linkless)
    (hp : p.isAbsolute = true) (hq : q.isAbsolute = true) (hplace : fs.resolve p .target = .ok (.entry place entry))
    (hother : fs.resolve q .target = .ok (.entry other held)) :
    fs.SameFile p q ↔ p.plainNames = q.plainNames := by
  have hatPlace : place = p.plainNames := h.isAt_of_resolve hp hplace
  have hatOther : other = q.plainNames := h.isAt_of_resolve hq hother
  constructor
  · rintro ⟨place', other', held', entry', hplace', hother', hnumber⟩
    rw [hplace, Except.ok.injEq, Destination.entry.injEq] at hplace'
    rw [hother, Except.ok.injEq, Destination.entry.injEq] at hother'
    obtain ⟨rfl, -⟩ := hplace'
    obtain ⟨rfl, -⟩ := hother'
    obtain ⟨hheld⟩ := resolve_holds h.toWellFormed hq hother
    rw [← hatPlace, ← hatOther]
    exact h.single hheld place hnumber
  · intro hnames
    exact ⟨place, other, entry, held, hplace, hother, by rw [hatPlace, hatOther, hnames]⟩

/-- **The path of a place** leads to what is there, unless that is a link that is followed. -/
theorem resolve_ofLocation {purpose : Purpose} (hfs : fs.WellFormed) (hne : place ≠ [])
    (h : fs.lookup place = some entry) (hlink : purpose = .name ∨ ∀ target, entry ≠ .link target)
    (hsize : (Path.ofLocation place).text.utf8ByteSize ≤ maxPathBytes) :
    fs.resolve (.ofLocation place) purpose = .ok (.entry place entry) := by
  have hsteps := isStep_of_lookup hfs h
  have hslashed : (Path.ofLocation place).isSlashed = false := by
    obtain ⟨front, last, rfl⟩ := (List.eq_nil_or_concat place).resolve_left hne
    rw [List.concat_eq_append] at hsteps ⊢
    have hfront : ∀ name ∈ front, Path.IsStep name := fun name hname =>
      (hsteps name (List.mem_append_left _ hname)).1
    have hlast : Path.IsStep last := (hsteps last (List.mem_append_right _ (List.mem_singleton_self last))).1
    rw [← Path.child_ofLocation hfront hlast, Path.isSlashed_child hlast]
  rw [resolve_eq_ok_iff (Path.isAbsolute_ofLocation place), hslashed,
    Path.names_ofLocation fun step hstep => (hsteps step hstep).1]
  exact ⟨hsize, leads_place hfs h hlink⟩

/-- **What is read by the path of a place** follows from what is there. -/
theorem Linkless.readBytes_ofLocation (h : fs.Linkless) (hne : place ≠ []) (hplace : fs.lookup place = some entry) :
    fs.readBytes (.ofLocation place) =
      if maxPathBytes < (Path.ofLocation place).text.utf8ByteSize then .error .nameTooLong else entryBytes entry := by
  split
  case isTrue hlong => rw [readBytes, resolve, resolveAs, if_pos hlong]
  case isFalse hshort =>
    have hlink : ∀ target, entry ≠ .link target := fun target hlink => h.leadsNowhere place target (hlink ▸ hplace)
    rw [readBytes, resolve_ofLocation h.toWellFormed hne hplace (.inr hlink) (Nat.le_of_not_lt hshort)]

/-! ## What keeps a file system without links -/

/-- The numbers of all other places stay where an entry is new. -/
theorem numberAt_create_of_ne {directory other : Location} {name : String} (entry : Entry)
    (h : other ≠ directory ++ [name]) : (fs.create directory name entry).numberAt other = fs.numberAt other := by
  by_cases hroot : other = []
  · simp [hroot, numberAt]
  · rw [numberAt_of_ne_nil _ hroot, numberAt_of_ne_nil _ hroot, create, places_stamp, withEntry, add,
      lookup_places_bind, if_neg h]
    rfl

namespace Linkless

/-- A file system has no links if no place holds one and no two have one number. -/
theorem of_places (hfs : fs.WellFormed)
    (hlink : ∀ held ∈ fs.places, ∀ entry ∈ fs.lookup held.1, entry.isLink = false)
    (hroot : ∀ held ∈ fs.places, held.2 ≠ rootNumber)
    (h : ∀ held ∈ fs.places, ∀ other ∈ fs.places, other.2 = held.2 → other.1 = held.1) : fs.Linkless where
  toWellFormed := hfs
  leadsNowhere place target hplace := by
    have hne := ne_nil_of_lookup hplace (by simp)
    obtain ⟨number, -, hnumber, -⟩ := (lookup_eq_some_iff hne).1 hplace
    cases hlink _ (mem_places_of_lookup hnumber) _ hplace
  single place entry hplace other hother := by
    have hheld {place : Location} {number : Nat} (hne : place ≠ []) (hnumber : fs.numberAt place = some number) :
        (place, number) ∈ fs.places := by
      rw [numberAt_of_ne_nil _ hne] at hnumber
      exact mem_places_of_lookup hnumber
    -- the root has a number that is kept for no place
    by_cases hnil : place = []
    · subst hnil
      exact Classical.byContradiction fun hne => hroot _ (hheld hne hother) rfl
    · obtain ⟨number, -, hnumber, -⟩ := (lookup_eq_some_iff hnil).1 hplace
      rw [← numberAt_of_ne_nil _ hnil] at hnumber
      rw [hnumber] at hother
      by_cases hother' : other = []
      · subst hother'
        exact absurd (Option.some.inj hother).symm (hroot _ (hheld hnil hnumber))
      · exact h _ (hheld hnil hnumber) _ (hheld hother' hother) rfl

/-- How a process stands in a file system does not matter. -/
theorem standing (h : fs.Linkless) (standing : Standing) : { fs with standing := standing }.Linkless where
  toWellFormed := h.toWellFormed.standing standing
  leadsNowhere := h.leadsNowhere
  single := h.single

/-- A new entry that is no link. -/
theorem create (h : fs.Linkless) {directory : Location} {name : String}
    (hdirectory : fs.lookup directory = some .directory) (hname : IsEntryName name)
    (hnone : fs.lookup (directory ++ [name]) = none) (hentry : ∀ target, entry ≠ .link target) :
    (fs.create directory name entry).Linkless where
  toWellFormed := h.toWellFormed.create entry hdirectory hname hnone
  leadsNowhere place target hplace := by
    rw [lookup_create] at hplace
    split at hplace
    case isTrue => exact hentry target (Option.some.inj hplace)
    case isFalse => exact h.leadsNowhere place target hplace
  single place held hplace other hother := by
    -- the new number is that of the new place alone, all others have theirs as before
    by_cases hnew : place = directory ++ [name]
    · subst hnew
      exact eq_of_numberAt_create hother
    · have hothers : other ≠ directory ++ [name] := by
        rintro rfl
        exact hnew (eq_of_numberAt_create hother.symm)
      rw [lookup_create, if_neg hnew] at hplace
      rw [numberAt_create_of_ne entry hnew, numberAt_create_of_ne entry hothers] at hother
      exact h.single hplace other hother

/-- Other bytes. -/
theorem rewrite (h : fs.Linkless) {old new : Entry} (hne : place ≠ []) (hplace : fs.lookup place = some old)
    (halike : old.Alike new) : (fs.rewrite place new).Linkless := by
  have hback {other : Location} {entry : Entry} (hother : (fs.rewrite place new).lookup other = some entry) :
      ∃ held, fs.lookup other = some held ∧ entry.Alike held :=
    rewrite_growsTo hne hplace halike hother
  refine ⟨h.toWellFormed.rewrite hne hplace halike, fun other target hother => ?_,
    fun other entry hother again hagain => ?_⟩
  · obtain ⟨held, hheld, halike'⟩ := hback hother
    cases halike'
    exact h.leadsNowhere other target hheld
  · obtain ⟨held, hheld, -⟩ := hback hother
    exact h.single hheld again (by simpa using hagain)

end Linkless

/-! ## What a change touches -/

/-- **A change that touches some places only**: no links are made, nothing is lost but bytes, and none of those at
any other place. -/
structure Touches (touched : Location → Prop) (before after : FileSystem) : Prop where
  /-- There are no links afterwards. -/
  linkless : after.Linkless
  /-- Nothing is lost but bytes. -/
  growsTo : before.GrowsTo after
  /-- What is at any other place is kept. -/
  kept : ∀ ⦃place entry⦄, before.lookup place = some entry → after.lookup place = some entry ∨ touched place

namespace Touches

variable {touched wider : Location → Prop}

/-- Nothing is touched where nothing changes. -/
theorem refl (touched : Location → Prop) (h : fs.Linkless) : Touches touched fs fs :=
  ⟨h, .refl fs, fun _ _ => .inl⟩

/-- One change after another touches no more than both do. -/
theorem trans (h : Touches touched before made) (h' : Touches touched made after) :
    Touches touched before after where
  linkless := h'.linkless
  growsTo := h.growsTo.trans h'.growsTo
  kept _ _ hplace := (h.kept hplace).elim (fun hmade => h'.kept hmade) .inr

/-- What touches some places only touches no others but more. -/
theorem mono (h : Touches touched before after) (hwider : ∀ place, touched place → wider place) :
    Touches wider before after where
  linkless := h.linkless
  growsTo := h.growsTo
  kept _ _ hplace := (h.kept hplace).imp_right (hwider _)

end Touches

/-- **A write** touches the place that is written in its path. -/
theorem touches_of_writeBytes {bytes : ByteArray} (hfs : before.Linkless) (habs : p.isAbsolute = true)
    (h : before.writeBytes p bytes = .ok after) : Touches (· = p.plainNames) before after := by
  have hgrows := (writeBytes_wellFormed hfs.toWellFormed habs h).2
  cases hresolve : before.resolve p .file with
  | error fault =>
    rw [writeBytes, hresolve] at h
    cases h
  | ok destination =>
    have hat := hfs.isAt_of_resolve habs hresolve
    cases destination with
    | entry found held =>
      obtain rfl : found = p.plainNames := hat
      rcases writeBytes_of_entry hfs.toWellFormed habs hresolve h with rfl | ⟨new, halike, hne, hheld, rfl, -⟩
      · exact .refl _ hfs
      refine ⟨hfs.rewrite hne hheld halike, hgrows, fun place entry hplace => ?_⟩
      by_cases hsame : place = p.plainNames
      · exact .inr hsame
      · -- no other place has the number of the one that is written to
        rw [lookup_rewrite_of_ne hne hheld fun hnumber => hsame (hfs.single hheld place hnumber)]
        exact .inl hplace
    | vacant directory name slashed =>
      obtain _ | ⟨hdirectory, hname, hnone⟩ := resolve_holds hfs.toWellFormed habs hresolve
      obtain ⟨-, rfl, -⟩ := writeBytes_of_vacant hfs.toWellFormed habs hresolve h
      refine ⟨hfs.create hdirectory hname hnone (by simp), hgrows, fun place entry hplace => ?_⟩
      by_cases hsame : place = directory ++ [name]
      · exact .inr (hsame.trans hat)
      · rw [lookup_create, if_neg hsame]
        exact .inl hplace
    | removed number => exact absurd hresolve (resolve_ne_removed habs number)

/-- **What is written to something with bytes in it** is taken where the path says. -/
theorem Linkless.took_of_writeBytes {old text : String} (h : before.Linkless) (habs : p.isAbsolute = true)
    (hold : old ≠ "") (hread : before.readBytes p = .ok old.toUTF8)
    (hwrite : before.writeBytes p text.toUTF8 = .ok after) :
    ∃ entry, after.lookup p.plainNames = some entry ∧ entry.Took text := by
  have hrewrite {found : Location} {held new : Entry} (hresolve : before.resolve p .file = .ok (.entry found held))
      (hheld : held ≠ .directory) : (before.rewrite found new).lookup p.plainNames = some new := by
    obtain rfl : found = p.plainNames := h.isAt_of_resolve habs hresolve
    obtain ⟨hplace⟩ := resolve_holds h.toWellFormed habs hresolve
    exact lookup_rewrite_self (ne_nil_of_lookup hplace hheld) hplace new
  rcases writeBytes_ok hwrite with ⟨found, held, hresolve, rfl⟩ | ⟨found, held, hresolve, rfl⟩ |
    ⟨found, device, hresolve, -⟩ | ⟨directory, name, slashed, hresolve, -⟩
  · exact ⟨_, hrewrite hresolve (by simp), .file⟩
  · exact ⟨_, hrewrite hresolve (by simp), .queue held⟩
  -- nothing is read from a device, and a free name is not read at all
  · rw [readBytes, resolve_target hresolve (by simp)] at hread
    have hempty : old.toUTF8 = ByteArray.empty := by
      cases device <;> first | exact (Except.ok.inj hread).symm | cases hread
    exact absurd (String.toByteArray_inj.1 hempty) hold
  · rw [readBytes, resolve_target hresolve (by simp)] at hread
    cases hread

/-- Nothing is touched where directories are made. -/
theorem MakesFolders.touches (h : MakesFolders p before after) (hfs : before.Linkless)
    (touched : Location → Prop) : Touches touched before after := by
  induction h with
  | nothing => exact .refl touched hfs
  | more _ _ hmakes ih =>
    refine ih.trans ⟨?_, growsTo_create .directory hmakes.vacant, fun place entry hplace => .inl ?_⟩
    · exact ih.linkless.create hmakes.inFolder hmakes.named hmakes.vacant (by simp)
    · exact (gainsFolders_create hmakes.vacant).keeps hplace

/-! ## Writes to some paths -/

/-- **A run of writes** to some paths, each of any bytes. -/
inductive WritesAmong (paths : List Path) : FileSystem → FileSystem → Prop
  /-- Nothing is written. -/
  | nothing (fs : FileSystem) : WritesAmong paths fs fs
  /-- After a write there are others. -/
  | first {before written after : FileSystem} {path : Path} {bytes : ByteArray} : path ∈ paths →
    before.writeBytes path bytes = .ok written → WritesAmong paths written after → WritesAmong paths before after

namespace WritesAmong

variable {paths : List Path}

/-- One run of writes after another is one. -/
theorem trans (h : WritesAmong paths before made) (h' : WritesAmong paths made after) :
    WritesAmong paths before after := by
  induction h with
  | nothing => exact h'
  | first hpath hwrite _ ih => exact .first hpath hwrite (ih h')

instance : Std.Refl (WritesAmong paths) := ⟨.nothing⟩

instance : Trans (WritesAmong paths) (WritesAmong paths) (WritesAmong paths) := ⟨.trans⟩

/-- Writes to some paths are writes to more. -/
theorem mono {wider : List Path} (h : WritesAmong paths before after) (hwider : ∀ path ∈ paths, path ∈ wider) :
    WritesAmong wider before after := by
  induction h with
  | nothing => exact .nothing _
  | first hpath hwrite _ ih => exact .first (hwider _ hpath) hwrite ih

/-- Writes to one path are writes to some among which it is. -/
theorem of_writesTo (hpath : p ∈ paths) (h : WritesTo p before after) : WritesAmong paths before after := by
  induction h with
  | nothing => exact .nothing _
  | first hwrite _ ih => exact .first hpath hwrite ih

/-- **A run of writes** touches the places that are written in its paths. -/
theorem touches (h : WritesAmong paths before after) (hfs : before.Linkless)
    (habs : ∀ path ∈ paths, path.isAbsolute = true) :
    Touches (fun place => ∃ path ∈ paths, place = path.plainNames) before after := by
  induction h with
  | nothing => exact .refl _ hfs
  | @first _ _ _ path _ hpath hwrite _ ih =>
    have hfirst := touches_of_writeBytes hfs (habs path hpath) hwrite
    exact (hfirst.mono fun _ hplace => ⟨path, hpath, hplace⟩).trans (ih hfirst.linkless)

end WritesAmong

/-- Writes to one path touch the place that is written in it. -/
theorem WritesTo.touches (h : WritesTo p before after) (hfs : before.Linkless) (habs : p.isAbsolute = true) :
    Touches (· = p.plainNames) before after := by
  have hall := (WritesAmong.of_writesTo (List.mem_singleton_self p) h).touches hfs (by simpa using habs)
  exact hall.mono (by simp)

end FileSystem

end ComponentScaffold
