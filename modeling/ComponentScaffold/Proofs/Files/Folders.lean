import ComponentScaffold.Proofs.Files.Paths
import ComponentScaffold.Proofs.Path.Parents

/-! # Making directories

Making a directory and those on the way to it makes directories one by one, each in one that is there.

* **`FileSystem.MakesFolders`** — such a making, as a run of single steps.
* **`FileSystem.MakesLevel`** — how one more level is made, which the inductions on the levels go by.
* **`FileSystem.makeDirectories_makes`** — it is what `makeDirectories` does, whether or not it succeeds.
* **`FileSystem.not_isDirectory_of_makeDirectories`** — where it fails, the directory is not there.
* **`FileSystem.not_resolve_of_makeDirectories`** — on a way without steps up, nothing comes to be found
  in the directories that were made. -/

namespace ComponentScaffold

/-- **The paths on the way** to a path: itself, the one a step up, and so on. -/
inductive Path.OnWayTo : Path → Path → Prop
  /-- A path is on the way to itself. -/
  | here (p : Path) : OnWayTo p p
  /-- What is on the way one step up is on the way. -/
  | above {p q r : Path} : p.parent? = some q → OnWayTo r q → OnWayTo r p

/-- What is on the way to an absolute path is absolute. -/
theorem Path.OnWayTo.isAbsolute {p q : Path} (h : q.OnWayTo p) (habs : p.isAbsolute = true) :
    q.isAbsolute = true := by
  induction h with
  | here => exact habs
  | above hup _ ih => exact ih (isAbsolute_of_parent? habs hup)

/-- On the way to a path are itself and what is on the way one step up. -/
theorem Path.onWayTo_iff {p q r : Path} (hup : p.parent? = some q) : r.OnWayTo p ↔ r = p ∨ r.OnWayTo q := by
  constructor
  · rintro (_ | ⟨hup', hway⟩)
    · exact .inl rfl
    · obtain rfl := Option.some.inj (hup'.symm.trans hup)
      exact .inr hway
  · rintro (rfl | hway)
    · exact .here r
    · exact .above hup hway

/-- From where no step leads up, nothing else is on the way. -/
theorem Path.onWayTo_iff_of_top {p r : Path} (htop : p.parent? = none) : r.OnWayTo p ↔ r = p := by
  constructor
  · rintro (_ | ⟨hup, -⟩)
    · rfl
    · rw [htop] at hup
      cases hup
  · rintro rfl
    exact .here r

/-- What is on the way to an absolute path takes no more steps. -/
theorem Path.OnWayTo.length_le {p q : Path} (hway : q.OnWayTo p) (habs : p.isAbsolute = true) :
    q.components.length ≤ p.components.length := by
  induction hway with
  | here => exact Nat.le_refl _
  | above hup _ ih =>
    have hshorter := components_of_parent? habs hup
    have hle := ih (isAbsolute_of_parent? habs hup)
    omega

/-- Two absolute paths on the way to each other are one. -/
theorem Path.OnWayTo.antisymm {p q : Path} (hway : q.OnWayTo p) (hback : p.OnWayTo q) (habs : p.isAbsolute = true) :
    q = p := by
  cases hway with
  | here => rfl
  | above hup hway =>
    have hshorter := components_of_parent? habs hup
    have hle := hway.length_le (isAbsolute_of_parent? habs hup)
    have hle' := hback.length_le ((OnWayTo.above hup hway).isAbsolute habs)
    omega

/-- Of two paths on the way to a third, one is on the way to the other. -/
theorem Path.OnWayTo.total {p q r : Path} (hway : q.OnWayTo p) (hway' : r.OnWayTo p) :
    q.OnWayTo r ∨ r.OnWayTo q := by
  induction hway with
  | here => exact .inr hway'
  | above hup hway ih =>
    rcases (onWayTo_iff hup).mp hway' with rfl | hhigher
    · exact .inl (.above hup hway)
    · exact ih hhigher

namespace FileSystem

variable {fs made : FileSystem} {p q : Path}

/-! ## One directory -/

/-- A directory that is made is new, in one that is there, and is what the path leads to. -/
structure MakesFolder (fs : FileSystem) (p : Path) (directory : Location) (name : String) : Prop where
  /-- It is made in a directory. -/
  inFolder : fs.lookup directory = some .directory
  /-- It has a proper name. -/
  named : IsEntryName name
  /-- Nothing was in its place. -/
  vacant : fs.lookup (directory ++ [name]) = none
  /-- The path leads to it. -/
  leads : (fs.create directory name .directory).resolve p .target =
    .ok (.entry (directory ++ [name]) .directory)

/-- Making a directory that is not there. -/
theorem makeDirectory_ok (hfs : fs.WellFormed) (habs : p.isAbsolute = true)
    (h : fs.makeDirectory p = .ok made) :
    ∃ directory name, made = fs.create directory name .directory ∧
      fs.MakesFolder p directory name := by
  unfold makeDirectory makeEntry at h
  split at h
  case h_3 directory name slashed hresolve =>
    obtain rfl := Except.ok.inj h
    refine ⟨directory, name, rfl, ?_⟩
    obtain _ | ⟨hdirectory, hname, hnone⟩ := resolveAs_holds hfs habs hresolve
    refine ⟨hdirectory, hname, hnone, ?_⟩
    obtain ⟨hsize, hleads⟩ := (resolveAs_eq_ok_iff habs).1 hresolve
    have hgrown := hleads.grows (growsTo_create .directory hnone)
      (.folder (by rw [lookup_create, if_pos rfl]))
    exact (resolve_eq_ok_iff habs).2 ⟨hsize, (hgrown.of_name (by simp)).slash p.isSlashed⟩
  all_goals cases h

/-- Nothing is in a directory that was made. -/
theorem MakesFolder.lookup_below {directory : Location} {name : String} (h : fs.MakesFolder p directory name)
    (hfs : fs.WellFormed) (other : String) :
    (fs.create directory name .directory).lookup (directory ++ [name] ++ [other]) = none := by
  rw [lookup_create, if_neg (by simp)]
  exact hfs.none_below h.vacant other

/-- **What making a directory that may be there comes to.** -/
inductive Ensures (fs : FileSystem) (p : Path) : FileSystem → Except OsFault Unit → Prop
  /-- It is made. -/
  | made {directory name} : fs.MakesFolder p directory name →
    Ensures fs p (fs.create directory name .directory) (.ok ())
  /-- It is there already. -/
  | there : fs.isDirectory p = true → Ensures fs p fs (.ok ())
  /-- It is not there, and nothing happens. -/
  | refused {fault} : fs.isDirectory p = false → Ensures fs p fs (.error fault)

/-- **Making a directory that may be there**: it is made, or it is there, or nothing happens. -/
theorem ensures_of_ensureDirectory (hfs : fs.WellFormed) (habs : p.isAbsolute = true)
    {outcome : Except OsFault Unit} (h : fs.ensureDirectory p = (made, outcome)) : fs.Ensures p made outcome := by
  unfold ensureDirectory at h
  split at h
  case h_1 after hmade =>
    obtain ⟨rfl, rfl⟩ := Prod.mk.inj h
    obtain ⟨directory, name, rfl, hmakes⟩ := makeDirectory_ok hfs habs hmade
    exact .made hmakes
  case h_2 fault _ =>
    obtain ⟨rfl, rfl⟩ := Prod.mk.inj h
    cases hdirectory : fs.isDirectory p with
    | true => exact .there hdirectory
    | false => exact .refused hdirectory

/-- A directory that cannot be made is not there, and nothing has happened. -/
theorem ensureDirectory_error {fault : OsFault} (h : fs.ensureDirectory p = (made, .error fault)) :
    made = fs ∧ fs.isDirectory p = false := by
  unfold ensureDirectory at h
  split at h
  case h_1 => cases h
  case h_2 =>
    obtain ⟨rfl, houtcome⟩ := Prod.mk.inj h
    split at houtcome
    case isTrue => cases houtcome
    case isFalse hdirectory => exact ⟨rfl, by simpa using hdirectory⟩

/-! ## The directories on the way -/

/-- **A run of directories made** on the way to a path. -/
inductive MakesFolders (p : Path) : FileSystem → FileSystem → Prop
  /-- None is made. -/
  | nothing (fs : FileSystem) : MakesFolders p fs fs
  /-- After some, one more is made. -/
  | more {fs made : FileSystem} {q : Path} {directory : Location} {name : String} :
    MakesFolders p fs made → q.OnWayTo p → made.MakesFolder q directory name →
    MakesFolders p fs (made.create directory name .directory)

namespace MakesFolders

/-- What is made on the way one step up is made on the way. -/
theorem above (hup : p.parent? = some q) (h : MakesFolders q fs made) : MakesFolders p fs made := by
  induction h with
  | nothing => exact .nothing _
  | more _ hway hmakes ih => exact .more ih (.above hup hway) hmakes

/-- Only directories are gained. -/
theorem gainsFolders (h : MakesFolders p fs made) : fs.GainsFolders made := by
  induction h with
  | nothing => exact .refl _
  | more _ _ hmakes ih => exact ih.trans (gainsFolders_create hmakes.vacant)

/-- A well-formed file system stays so. -/
theorem wellFormed (h : MakesFolders p fs made) (hfs : fs.WellFormed) : made.WellFormed := by
  induction h with
  | nothing => exact hfs
  | more _ _ hmakes ih => exact ih.create .directory hmakes.inFolder hmakes.named hmakes.vacant

/-- **Every new directory** is one that a path on the way leads to. -/
theorem exists_onWayTo (h : MakesFolders p fs made) (habs : p.isAbsolute = true) {place : Location}
    {entry : Entry} (hplace : made.lookup place = some entry) (hnone : fs.lookup place = none) :
    ∃ above : Path, above.OnWayTo p ∧ made.resolve above .target = .ok (.entry place .directory) := by
  induction h with
  | nothing =>
    rw [hnone] at hplace
    cases hplace
  | @more between q directory name hrun hway hmakes ih =>
    by_cases hsame : place = directory ++ [name]
    · exact ⟨q, hway, hsame ▸ hmakes.leads⟩
    · rw [lookup_create, if_neg hsame] at hplace
      obtain ⟨above, habove, hleads⟩ := ih hplace
      exact ⟨above, habove,
        resolve_grows (growsTo_create .directory hmakes.vacant) (habove.isAbsolute habs) hleads .directory⟩

end MakesFolders

/-- **How the last directory is made** where at most so many levels above it may be made first. -/
inductive MakesLevel (steps : Nat) (fs : FileSystem) (p : Path) : FileSystem → Except OsFault Unit → Prop
  /-- It is made at once, or not at all. -/
  | atOnce {after outcome} : fs.ensureDirectory p = (after, outcome) → MakesLevel steps fs p after outcome
  /-- The one above it is missing and cannot be made. -/
  | stopped {above after fault} : fs.ensureDirectory p = (fs, .error .noEntry) → p.parent? = some above →
    fs.makeDirectoriesWithin steps above = (after, .error fault) → MakesLevel steps fs p after (.error fault)
  /-- The one above it is missing and is made first. -/
  | below {above between after outcome} : fs.ensureDirectory p = (fs, .error .noEntry) → p.parent? = some above →
    fs.makeDirectoriesWithin steps above = (between, .ok ()) → between.ensureDirectory p = (after, outcome) →
    MakesLevel steps fs p after outcome

/-- **Making directories** goes level by level. -/
theorem makesLevel_of_within (habs : p.isAbsolute = true) {steps : Nat} {outcome : Except OsFault Unit}
    (h : fs.makeDirectoriesWithin (steps + 1) p = (made, outcome)) : MakesLevel steps fs p made outcome := by
  rw [makeDirectoriesWithin, if_neg (by simp [Path.components_of_isAbsolute habs])] at h
  split at h
  case h_1 same hensure =>
    obtain ⟨rfl, -⟩ := ensureDirectory_error hensure
    split at h
    case h_1 => exact .atOnce (hensure.trans h)
    case h_2 above hup =>
      split at h
      case h_1 between hbetween => exact .below hensure hup hbetween h
      case h_2 hrefused =>
        cases outcome with
        | ok => exact absurd h (hrefused made)
        | error fault => exact .stopped hensure hup h
  case h_2 => exact .atOnce h

/-- After some directories, the last one is made, or it is there, or nothing happens. -/
theorem MakesFolders.ensure {between : FileSystem} {outcome : Except OsFault Unit}
    (hrun : MakesFolders p fs between) (hfs : between.WellFormed) (habs : p.isAbsolute = true)
    (h : between.ensureDirectory p = (made, outcome)) : MakesFolders p fs made := by
  cases ensures_of_ensureDirectory hfs habs h with
  | made hmakes => exact hrun.more (.here p) hmakes
  | there | refused => exact hrun

/-- Directories are made on the way up to a number of levels. -/
theorem makeDirectoriesWithin_makes (hfs : fs.WellFormed) (habs : p.isAbsolute = true) {steps : Nat}
    {outcome : Except OsFault Unit} (h : fs.makeDirectoriesWithin steps p = (made, outcome)) :
    MakesFolders p fs made := by
  induction steps generalizing fs p made outcome with
  | zero =>
    obtain ⟨rfl, -⟩ := Prod.mk.inj h
    exact .nothing fs
  | succ steps ih =>
    cases makesLevel_of_within habs h with
    | atOnce hensure => exact (MakesFolders.nothing fs).ensure hfs habs hensure
    | stopped _ hup hstopped => exact (ih hfs (Path.isAbsolute_of_parent? habs hup) hstopped).above hup
    | below _ hup hbetween hensure =>
      have hrun := (ih hfs (Path.isAbsolute_of_parent? habs hup) hbetween).above hup
      exact hrun.ensure (hrun.wellFormed hfs) habs hensure

/-- **Directories are made on the way**, whether or not all of them can be. -/
theorem makeDirectories_makes (hfs : fs.WellFormed) (habs : p.isAbsolute = true) :
    MakesFolders p fs (fs.makeDirectories p).1 := makeDirectoriesWithin_makes hfs habs rfl

theorem MakesFolders.of_makeDirectories (hfs : fs.WellFormed) (habs : p.isAbsolute = true)
    {outcome : Except OsFault Unit} (h : fs.makeDirectories p = (made, outcome)) : MakesFolders p fs made :=
  makeDirectoriesWithin_makes hfs habs h

/-! ## What is not there -/

/-- **A path that leads somewhere** has a folder. -/
theorem isDirectory_of_resolveAs {purpose : Purpose} {slashed : Bool} {destination : Destination}
    (habs : p.isAbsolute = true) (hup : p.parent? = some q)
    (h : fs.resolveAs p purpose slashed = .ok destination) : fs.isDirectory q = true := by
  obtain ⟨habove, dots, last, ends, hnames, -⟩ := Path.exists_names_of_parent? habs hup
  obtain ⟨hsize, hleads⟩ := (resolveAs_eq_ok_iff habs).1 h
  rw [hnames, List.append_assoc, List.append_assoc] at hleads
  obtain ⟨middle, hmiddle⟩ := hleads.exists_middle (by simp)
  exact (isDirectory_iff habove).2 ⟨middle, (resolve_eq_ok_iff habove).2
    ⟨Nat.le_trans (Path.size_le_of_parent? habs hup) hsize, hmiddle.slash _⟩⟩

/-- What leads to a directory leads to something. -/
theorem exists?_of_isDirectory (habs : p.isAbsolute = true) (h : fs.isDirectory p = true) : fs.exists? p = true := by
  obtain ⟨place, hplace⟩ := (isDirectory_iff habs).1 h
  exact (exists?_iff habs).2 ⟨place, _, hplace⟩

/-- What is on the way to a directory leads to one. -/
theorem isDirectory_of_onWayTo (h : q.OnWayTo p) (habs : p.isAbsolute = true) (hp : fs.isDirectory p = true) :
    fs.isDirectory q = true := by
  induction h with
  | here => exact hp
  | above hup _ ih =>
    obtain ⟨place, hplace⟩ := (isDirectory_iff habs).1 hp
    exact ih (Path.isAbsolute_of_parent? habs hup) (isDirectory_of_resolveAs habs hup hplace)

/-- Where directories cannot be made up to as many levels as there are, the last of them is not there. -/
theorem not_isDirectory_of_makeDirectoriesWithin (hfs : fs.WellFormed) (habs : p.isAbsolute = true) {steps : Nat}
    {fault : OsFault} (hsteps : p.components.length ≤ steps)
    (h : fs.makeDirectoriesWithin steps p = (made, .error fault)) : made.isDirectory p = false := by
  induction steps generalizing fs p made with
  | zero =>
    rw [Path.components_of_isAbsolute habs] at hsteps
    exact absurd hsteps (by simp)
  | succ steps ih =>
    have hrefused {between : FileSystem} (hbetween : between.WellFormed)
        (hensure : between.ensureDirectory p = (made, .error fault)) : made.isDirectory p = false := by
      cases ensures_of_ensureDirectory hbetween habs hensure with
      | refused hnoDirectory => exact hnoDirectory
    cases makesLevel_of_within habs h with
    | atOnce hensure => exact hrefused hfs hensure
    | stopped _ hup hstopped =>
      -- the way to the last directory goes through one that is not there
      have hnoFolder := ih hfs (Path.isAbsolute_of_parent? habs hup)
        (by have := Path.components_of_parent? habs hup; omega) hstopped
      rw [Bool.eq_false_iff]
      intro hdirectory
      obtain ⟨place, hplace⟩ := (isDirectory_iff habs).1 hdirectory
      rw [isDirectory_of_resolveAs habs hup hplace] at hnoFolder
      cases hnoFolder
    | below _ hup hbetween hensure =>
      have hrun := makeDirectoriesWithin_makes hfs (Path.isAbsolute_of_parent? habs hup) hbetween
      exact hrefused (hrun.wellFormed hfs) hensure

/-- **Where directories cannot be made**, the last of them is not there. -/
theorem not_isDirectory_of_makeDirectories (hfs : fs.WellFormed) (habs : p.isAbsolute = true) {fault : OsFault}
    (h : fs.makeDirectories p = (made, .error fault)) : made.isDirectory p = false :=
  not_isDirectory_of_makeDirectoriesWithin hfs habs (Nat.le_succ _) h

/-- **Where directories are made**, whatever a path on the way names already leads to a directory: none is made
in its place. -/
theorem isDirectory_of_makeDirectoriesWithin {place : Location} {entry : Entry} (habs : p.isAbsolute = true)
    {steps : Nat} (h : fs.makeDirectoriesWithin steps p = (made, .ok ())) (hway : q.OnWayTo p)
    (hname : fs.resolveName q = .ok (.entry place entry)) : fs.isDirectory q = true := by
  induction steps generalizing fs p made with
  | zero => cases h
  | succ steps ih =>
    cases hdirectory : fs.isDirectory p with
    | true => exact isDirectory_of_onWayTo hway habs hdirectory
    | false =>
      -- what names something else is refused at once, and only what is missing is made after the one above it
      have hrefused {fault : OsFault} (hmake : fs.makeDirectory p = .error fault) :
          fs.ensureDirectory p = (fs, .error fault) := by
        rw [ensureDirectory, hmake]
        simp [hdirectory]
      cases hway with
      | here =>
        have htaken := hrefused (by rw [makeDirectory, makeEntry, hname])
        cases makesLevel_of_within habs h with
        | atOnce hensure | below hensure => cases htaken.symm.trans hensure
      | above hup hway =>
        have habove := Path.isAbsolute_of_parent? habs hup
        cases hresolve : fs.resolveName p with
        | ok destination => exact isDirectory_of_onWayTo hway habove (isDirectory_of_resolveAs habs hup hresolve)
        | error fault =>
          have hmissing := hrefused (by rw [makeDirectory, makeEntry, hresolve])
          cases makesLevel_of_within habs h with
          | atOnce hensure => cases hmissing.symm.trans hensure
          | below _ hup' hbetween =>
            obtain rfl := Option.some.inj (hup.symm.trans hup')
            exact ih habove hbetween hway hname

/-! ## What is found in them -/

/-- Dots are passed over. -/
theorem leads_dots_iff {purpose : Purpose} {links : Nat} {place : Location} {dots rest : List String}
    {slashed : Bool} {destination : Destination} (h : ∀ dot ∈ dots, dot = ".") :
    fs.Leads purpose links place (dots ++ rest) slashed destination ↔
      fs.Leads purpose links place rest slashed destination := by
  induction dots with
  | nil => rfl
  | cons dot dots ih =>
    obtain rfl := h dot List.mem_cons_self
    rw [List.cons_append, leads_current_iff, ih fun other hother => h other (List.mem_cons_of_mem _ hother)]

/-- A name that is not taken is on no way to an entry. -/
private theorem not_leads_of_none {purpose : Purpose} {links : Nat} {place found : Location} {name : String}
    {rest : List String} {slashed : Bool} {entry : Entry} (hcurrent : name ≠ ".") (hparent : name ≠ "..")
    (hnone : fs.lookup (place ++ [name]) = none) :
    ¬fs.Leads purpose links place (name :: rest) slashed (.entry found entry) := by
  intro h
  generalize hdestination : Destination.entry found entry = destination at h
  cases h with
  | stay => exact hcurrent rfl
  | up => exact hparent rfl
  | vacant => cases hdestination
  | down _ htaken | link _ htaken | jump _ htaken | entry _ htaken =>
    rw [hnone] at htaken
    cases htaken

/-- **A path whose folder is empty** leads to no entry, unless it ends in a step up. -/
theorem not_resolve_of_empty {purpose : Purpose} {place found : Location} {entry : Entry}
    (habs : p.isAbsolute = true) (hparents : ".." ∉ p.names) (hup : p.parent? = some q)
    (hq : fs.resolve q .target = .ok (.entry place .directory))
    (hempty : ∀ name, fs.lookup (place ++ [name]) = none) :
    fs.resolve p purpose ≠ .ok (.entry found entry) := by
  obtain ⟨habove, dots, last, ends, hnames, hlast, hdots, -⟩ := Path.exists_names_of_parent? habs hup
  intro hresolve
  have hleads := ((resolve_eq_ok_iff habs).1 hresolve).2
  obtain ⟨fewer, hfewer⟩ := exists_forall_leads_append_iff ((resolve_eq_ok_iff habove).1 hq).2
  rw [hnames, List.append_assoc, List.append_assoc, hfewer _ _ _ _ (by simp), leads_dots_iff hdots,
    List.singleton_append] at hleads
  refine not_leads_of_none hlast ?_ (hempty last) hleads
  rintro rfl
  exact hparents (by simp [hnames])

/-- **Making directories along a path without steps up** leads to the last of them, and unless that was
there before, nothing is in it. -/
theorem makeDirectoriesWithin_ok (hfs : fs.WellFormed) (habs : p.isAbsolute = true)
    (hparents : ".." ∉ p.names) {steps : Nat}
    (h : fs.makeDirectoriesWithin steps p = (made, .ok ())) :
    ∃ place, made.resolve p .target = .ok (.entry place .directory) ∧
      (made = fs ∨ ∀ name, made.lookup (place ++ [name]) = none) := by
  induction steps generalizing fs p made with
  | zero => cases h
  | succ steps ih =>
    cases makesLevel_of_within habs h with
    | atOnce hensure =>
      cases ensures_of_ensureDirectory hfs habs hensure with
      | made hmakes => exact ⟨_, hmakes.leads, .inr (hmakes.lookup_below hfs)⟩
      | there hdirectory =>
        obtain ⟨place, hplace⟩ := (isDirectory_iff habs).1 hdirectory
        exact ⟨place, hplace, .inl rfl⟩
    | below hrefused hup hbetween hensure =>
      obtain ⟨habove, dots, last, ends, hnames, -⟩ := Path.exists_names_of_parent? habs hup
      have hform := (makeDirectoriesWithin_makes hfs habove hbetween).wellFormed hfs
      cases ensures_of_ensureDirectory hform habs hensure with
      | made hmakes => exact ⟨_, hmakes.leads, .inr (hmakes.lookup_below hform)⟩
      | there hdirectory =>
        -- the path led nowhere at first, so it cannot lead anywhere below a new directory
        obtain ⟨place, hplace⟩ := (isDirectory_iff habs).1 hdirectory
        obtain ⟨folder, hfolder, rfl | hnothing⟩ := ih hfs habove (by simp_all) hbetween
        · rw [(ensureDirectory_error hrefused).2] at hdirectory
          cases hdirectory
        · exact absurd hplace (not_resolve_of_empty habs hparents hup hfolder hnothing)

/-- **Along a path without steps up** that leads to no entry, making the folder that the path ends in does
not make it lead to one. -/
theorem not_resolve_of_makeDirectories {purpose : Purpose} {folder : Path} {found : Location} {entry : Entry}
    (hfs : fs.WellFormed) (habs : p.isAbsolute = true) (hparents : ".." ∉ p.names)
    (hup : p.parent? = some folder) (hnothing : ∀ found entry, fs.resolve p purpose ≠ .ok (.entry found entry))
    (hmade : fs.makeDirectories folder = (made, .ok ())) :
    made.resolve p purpose ≠ .ok (.entry found entry) := by
  obtain ⟨habove, dots, last, ends, hnames, -⟩ := Path.exists_names_of_parent? habs hup
  obtain ⟨place, hplace, rfl | hempty⟩ := makeDirectoriesWithin_ok hfs habove (by simp_all) hmade
  · exact hnothing found entry
  · exact not_resolve_of_empty habs hparents hup hplace hempty

end FileSystem

end ComponentScaffold
