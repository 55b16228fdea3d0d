import ComponentScaffold.Proofs.Project.NewFolders
import ComponentScaffold.Proofs.Scaffold.Absolute

/-! # Absolute paths where folders are new

A path is made absolute by its part that is there and by the names behind it. When the folder that it leads to
has been made, more of it is there, and it still comes to the same.

* **`FileSystem.absolute_eq_ok`** — what a path is made absolute to, as a place and the names behind it.
* **`FileSystem.MakesFolders.absolute_of_isDirectory`** — the same where it led to a directory all along.
* **`FileSystem.absolute_of_makeDirectories`** — the same where the directory was made. -/

namespace ComponentScaffold

namespace FileSystem

variable {fs made : FileSystem} {p q existing : Path} {names : List String} {place : Location} {entry : Entry}

/-! ## The current directory -/

/-- What is found first is found as well where only others are left out. -/
private theorem find?_filter_of_kept {α : Type} {p keep : α → Bool} {list : List α}
    (h : ∀ x, list.find? p = some x → keep x = true) : (list.filter keep).find? p = list.find? p := by
  induction list with
  | nil => rfl
  | cons first rest ih =>
    cases hp : p first with
    | true =>
      have hkept := h first (by rw [List.find?_cons_of_pos hp])
      rw [List.filter_cons_of_pos hkept, List.find?_cons_of_pos hp, List.find?_cons_of_pos hp]
    | false =>
      have hne : ¬p first = true := by simp [hp]
      rw [List.find?_cons_of_neg hne] at h ⊢
      rw [← ih h]
      cases hkeep : keep first with
      | true => rw [List.filter_cons_of_pos hkeep, List.find?_cons_of_neg hne]
      | false => rw [List.filter_cons_of_neg (by simp [hkeep])]

/-- A new entry does not move the current directory. -/
theorem current?_create (hstands : fs.StandsInFolder) {directory : Location} {name : String} (entry : Entry)
    (hnone : fs.lookup (directory ++ [name]) = none) : (fs.create directory name entry).current? = fs.current? := by
  have hplaces : (fs.create directory name entry).places =
      (directory ++ [name], fs.fresh) :: fs.places.filter fun held => held.1 ≠ directory ++ [name] := by
    rw [create, places_stamp]
    rfl
  have hstanding : (fs.create directory name entry).standing = fs.standing := by
    rw [create, standing_stamp]
    rfl
  have hfresh : fs.fresh ≠ fs.standing.directory := by
    simp only [fresh]
    omega
  unfold StandsInFolder current? placeOf? at hstands
  unfold current? placeOf?
  rw [hplaces, hstanding]
  split
  case isTrue => rfl
  case isFalse hroot =>
    simp only [if_neg hroot] at hstands
    -- the new place has a new number, and it is not where the current directory is found, as it was free
    rw [List.find?_cons_of_neg (by simpa using hfresh), find?_filter_of_kept fun held hheld => ?_]
    have hthere := hstands held.1 (by rw [hheld]; rfl)
    rw [decide_eq_true_eq]
    intro hsame
    rw [hsame, hnone] at hthere
    cases hthere

/-- Making directories does not move the current directory. -/
theorem MakesFolders.currentPath (h : MakesFolders p fs made) (hstands : fs.StandsInFolder) :
    made.currentPath = fs.currentPath ∧ made.StandsInFolder := by
  induction h with
  | nothing => exact ⟨rfl, hstands⟩
  | more _ _ hmakes ih =>
    obtain ⟨hpath, hmiddle⟩ := ih
    have hcurrent := current?_create hmiddle .directory hmakes.vacant
    refine ⟨?_, fun place hplace => ?_⟩
    · rw [← hpath, FileSystem.currentPath, hcurrent]
      rfl
    · rw [hcurrent] at hplace
      exact (gainsFolders_create hmakes.vacant).keeps (hmiddle place hplace)

theorem MakesFolders.fullPath (h : MakesFolders p fs made) (hstands : fs.StandsInFolder) (q : Path) :
    made.fullPath q = fs.fullPath q := by
  rw [FileSystem.fullPath, FileSystem.fullPath, (h.currentPath hstands).1]

/-! ## Places and the names behind them -/

/-- A path is made absolute to the place that its nearest part leads to, and the names behind it. -/
theorem absolute_eq_ok {full : Path} (hfs : fs.WellFormed) (hfull : fs.fullPath p = .ok full)
    (hpart : fs.ExistingPart full existing names) (hleads : fs.resolve existing .target = .ok (.entry place entry)) :
    fs.absolute p = .ok (.ofLocation (place ++ names)) := by
  have habs := isAbsolute_of_fullPath hfull
  obtain ⟨hexisting, hlength⟩ := hpart.isAbsolute habs
  obtain ⟨hplace⟩ := resolve_holds hfs hexisting hleads
  -- the existing part is made canonical to the place it leads to
  have hcanonical : fs.canonical existing = .ok (.ofLocation place) := by
    refine canonical_eq_ok_iff.2 ⟨fun hrelative => ?_, place, entry, ?_, rfl⟩
    · rw [hexisting] at hrelative
      cases hrelative
    · rw [resolve, resolveAs] at hleads
      split at hleads
      case isTrue => cases hleads
      case isFalse => exact hleads
  rw [absolute_eq_bind, bind_eq_ok_iff]
  refine ⟨full, hfull, ?_⟩
  rw [hpart.eq_some (Nat.le_of_lt hlength), List.append_nil]
  simp only
  rw [hcanonical, ← Path.descend_ofLocation (fun step hstep => (isStep_of_lookup hfs hplace step hstep).1)
    fun name hname => (hpart.isStep habs name hname).1]
  rfl

/-- Where no part of a path is there, though it is not too long, it leads up. -/
theorem mem_parents_of_existingPart? {count : Nat} {missing : List String} (habs : p.isAbsolute = true)
    (hsize : p.text.utf8ByteSize ≤ maxPathBytes) (hcount : p.components.length ≤ count)
    (h : fs.existingPart? count p missing = none) : ".." ∈ p.names := by
  induction count generalizing p missing with
  | zero =>
    rw [Path.components_of_isAbsolute habs] at hcount
    exact absurd hcount (by simp)
  | succ count ih =>
    unfold existingPart? at h
    split at h
    case isTrue => cases h
    case isFalse hnothing =>
      cases hup : p.parent? with
      | none =>
        -- only dots are left, and they lead to the root
        have hroot : fs.resolve p .target = .ok (.entry [] .directory) := by
          have hdots : fs.Leads .target maxLinks [] (p.names ++ []) p.isSlashed (.entry [] .directory) :=
            (leads_dots_iff (Path.names_of_no_parent? habs hup)).2 .here
          rw [List.append_nil] at hdots
          exact (resolve_eq_ok_iff habs).2 ⟨hsize, hdots⟩
        exact absurd ((exists?_iff habs).2 ⟨_, _, hroot⟩) hnothing
      | some above =>
        obtain ⟨habove, dots, last, ends, hnames, hlast, -, -, hname⟩ := Path.exists_names_of_parent? habs hup
        by_cases hparent : last = ".."
        · rw [hnames, hparent]
          simp
        · rw [if_neg hparent] at hname
          rw [hup, hname] at h
          simp only at h
          have hcomponents := Path.components_of_parent? habs hup
          have hmem := ih habove (Nat.le_trans (Path.size_le_of_parent? habs hup) hsize) (by omega) h
          rw [hnames]
          simp [hmem]

/-- **What a path is made absolute to**: the place of its nearest part and the names behind it, unless no part of
it is there. -/
theorem existingPart_of_absolute (hfs : fs.WellFormed) (h : fs.absolute p = .ok q) :
    ∃ full, fs.fullPath p = .ok full ∧ full.isAbsolute = true ∧
      ((∃ existing names place entry, fs.ExistingPart full existing names ∧
          fs.resolve existing .target = .ok (.entry place entry) ∧ q = .ofLocation (place ++ names)) ∨
        q = full ∧ fs.exists? full = false ∧ (full.text.utf8ByteSize ≤ maxPathBytes → ".." ∈ full.names)) := by
  have hagain := h
  rw [absolute_eq_bind] at h
  obtain ⟨full, hfull, hrest⟩ := bind_eq_ok_iff.1 h
  have habs := isAbsolute_of_fullPath hfull
  refine ⟨full, hfull, habs, ?_⟩
  split at hrest
  case h_1 existing missing hexisting =>
    obtain ⟨names, hpart, -⟩ := existingPart_of_eq_some hexisting
    obtain ⟨place, entry, hleads⟩ := (exists?_iff (hpart.isAbsolute habs).1).1 hpart.exists?
    refine .inl ⟨existing, names, place, entry, hpart, hleads, ?_⟩
    exact Except.ok.inj (hagain.symm.trans (absolute_eq_ok hfs hfull hpart hleads))
  case h_2 hnone =>
    refine .inr ⟨(Except.ok.inj hrest).symm, ?_, fun hsize =>
      mem_parents_of_existingPart? habs hsize (Nat.le_refl _) hnone⟩
    cases hexists : fs.exists? full with
    | false => rfl
    | true =>
      rw [(ExistingPart.here hexists).eq_some (Nat.zero_le _)] at hnone
      cases hnone

/-! ## What was there already -/

/-- **A path that leads to nothing, though its last name leads to a directory** from where the path goes, takes
too many links or is too long. It will lead to nothing where nothing is lost. -/
theorem not_exists?_of_isDirectory {name : String} (hfs : fs.WellFormed) (hgrows : fs.GrowsTo made)
    (habs : p.isAbsolute = true) (hup : p.parent? = some q) (hname : p.fileName? = some name)
    (hnothing : fs.exists? p = false) (hq : fs.resolve q .target = .ok (.entry place .directory))
    (hthere : fs.isDirectory (.ofLocation (place ++ [name])) = true) : made.exists? p = false := by
  have hqAbs := Path.isAbsolute_of_parent? habs hup
  obtain ⟨dots, ends, hnames, hdots, hends⟩ := Path.exists_names_of_fileName? habs hup hname
  obtain ⟨hplace⟩ := resolve_holds hfs hqAbs hq
  have hnameAbs := Path.isAbsolute_ofLocation (place ++ [name])
  have hsteps : ∀ step ∈ place ++ [name], Path.IsStep step := by
    intro step hstep
    rcases List.mem_append.1 hstep with hmem | hmem
    · exact (isStep_of_lookup hfs hplace step hmem).1
    · exact List.mem_singleton.1 hmem ▸ (Path.isStep_of_fileName? habs hname).1
  -- the way through the name, with as many links as it takes
  obtain ⟨found, hfound⟩ := (isDirectory_iff hnameAbs).1 hthere
  have hdown := ((resolve_eq_ok_iff hnameAbs).1 hfound).2
  rw [Path.names_ofLocation hsteps, leads_place_iff hfs hplace (by simp)] at hdown
  have hback : fs.Leads .target (maxLinks + 0) place (name :: ends) p.isSlashed (.entry found .directory) := by
    cases ends with
    | nil => exact (hdown.slash _).more 0
    | cons dot ends =>
      refine hdown.append (List.cons_ne_nil _ _) ?_
      rw [← List.append_nil (dot :: ends)]
      exact (leads_dots_iff hends).2 .here
  have hwhole := ((resolve_eq_ok_iff hqAbs).1 hq).2.append (by simp) ((leads_dots_iff hdots).2 hback)
  -- a way afterwards would take as many links as this one, so it would have been one before
  rw [not_exists?_iff habs] at hnothing ⊢
  intro found' entry' hfound'
  obtain ⟨hsize, hleads⟩ := (resolve_eq_ok_iff habs).1 hfound'
  rw [hnames, List.append_assoc, List.append_assoc, List.singleton_append] at hleads
  refine hnothing found .directory ((resolve_eq_ok_iff habs).2 ⟨hsize, ?_⟩)
  rw [hnames, List.append_assoc, List.append_assoc, List.singleton_append]
  exact hwhole.fewer hgrows hleads

/-- A path whose folder leads to nothing leads to nothing. -/
theorem not_exists?_of_parent? (habs : p.isAbsolute = true) (hup : p.parent? = some q) (h : fs.exists? q = false) :
    fs.exists? p = false := by
  rw [not_exists?_iff habs]
  intro found entry hfound
  have hfolder := isDirectory_of_resolveAs habs hup hfound
  rw [exists?_of_isDirectory (Path.isAbsolute_of_parent? habs hup) hfolder] at h
  cases h

/-- **The nearest part stays the nearest** where the first name behind it leads to a directory already. -/
theorem ExistingPart.grows (h : fs.ExistingPart p existing names) (hfs : fs.WellFormed) (hgrows : fs.GrowsTo made)
    (habs : p.isAbsolute = true) (hleads : fs.resolve existing .target = .ok (.entry place .directory))
    (hfirst : ∀ first rest, names = first :: rest → fs.isDirectory (.ofLocation (place ++ [first])) = true) :
    made.ExistingPart p existing names := by
  induction h with
  | here => exact .here ((exists?_iff habs).2 ⟨_, _, resolve_grows hgrows habs hleads .directory⟩)
  | @above p q existing names name hnothing hup hname hpart ih =>
    have hqAbs := Path.isAbsolute_of_parent? habs hup
    have hagain := ih hqAbs hleads fun first rest hrest => hfirst first (rest ++ [name]) (by rw [hrest]; rfl)
    refine .above ?_ hup hname hagain
    cases hpart with
    | here =>
      exact not_exists?_of_isDirectory hfs hgrows habs hup hname hnothing hleads (hfirst name [] rfl)
    | above => exact not_exists?_of_parent? habs hup (hagain.not_exists? (by simp))

/-! ## What is new -/

/-- Names lead down through directories that are new, from the first that is. -/
theorem LeadsDown.of_leads (hfs : fs.WellFormed) (hgains : fs.GainsFolders made) {links : Nat} {slashed : Bool}
    {found : Location} (hnames : ∀ name ∈ names, name ≠ "." ∧ name ≠ "..")
    (hnone : ∀ first rest, names = first :: rest → fs.lookup (place ++ [first]) = none)
    (h : made.Leads .target links place names slashed (.entry found .directory)) : made.LeadsDown place names := by
  have hnew {place : Location} {entry : Entry} (hfree : fs.lookup place = none)
      (hthere : made.lookup place = some entry) : entry = .directory := by
    rcases hgains.gains hthere with hold | ⟨-, rfl⟩
    · rw [hfree] at hold
      cases hold
    · rfl
  induction names generalizing place with
  | nil => exact .here place
  | cons name rest ih =>
    have hfree := hnone name rest rfl
    cases h with
    | stay => exact absurd rfl (hnames _ List.mem_cons_self).1
    | up => exact absurd rfl (hnames _ List.mem_cons_self).2
    -- what is below a place that was free was free as well
    | down _ hfolder hrest =>
      refine .down hfolder (ih (fun other hother => hnames other (List.mem_cons_of_mem _ hother)) ?_ hrest)
      exact fun first _ _ => hfs.none_below hfree first
    | jump _ hlink => cases hnew hfree hlink
    | entry _ _ hdirectory => exact absurd rfl hdirectory

/-- Names that lead down do so one after the other. -/
theorem LeadsDown.of_append {front back : List String} (h : fs.LeadsDown place (front ++ back)) :
    fs.LeadsDown place front := by
  induction front generalizing place with
  | nil => exact .here place
  | cons name rest ih =>
    cases h with
    | down hfolder hrest => exact .down hfolder (ih hrest)

/-- Where the missing names lead down through directories, each part of the path that leads to something leads to
the directory of its names. -/
theorem ExistingPart.resolve_of_leadsDown (h : fs.ExistingPart p existing names) (hmade : made.WellFormed)
    (habs : p.isAbsolute = true) (hleads : made.resolve existing .target = .ok (.entry place .directory))
    (hdown : made.LeadsDown place names) (hexists : made.exists? p = true) :
    made.resolve p .target = .ok (.entry (place ++ names) .directory) := by
  induction h with
  | here => rwa [List.append_nil]
  | @above p q existing names name _ hup hname hpart ih =>
    have hqAbs := Path.isAbsolute_of_parent? habs hup
    obtain ⟨dots, ends, hnames, hdots, hends⟩ := Path.exists_names_of_fileName? habs hup hname
    obtain ⟨found, entry, hfound⟩ := (exists?_iff habs).1 hexists
    have hfolder := isDirectory_of_resolveAs habs hup hfound
    have hq := ih hqAbs hleads hdown.of_append (exists?_of_isDirectory hqAbs hfolder)
    -- the last name leads down from there
    obtain ⟨hplace⟩ := resolve_holds hmade (hpart.isAbsolute hqAbs).1 hleads
    have hlast : made.lookup (place ++ (names ++ [name])) = some .directory := hdown.lookup_append hplace
    rw [← List.append_assoc] at hlast ⊢
    obtain ⟨fewer, hfewer⟩ := exists_forall_leads_append_iff ((resolve_eq_ok_iff hqAbs).1 hq).2
    refine (resolve_eq_ok_iff habs).2 ⟨((resolve_eq_ok_iff habs).1 hfound).1, ?_⟩
    rw [hnames, List.append_assoc, List.append_assoc, hfewer _ _ _ _ (by simp), leads_dots_iff hdots,
      List.singleton_append]
    refine .down ((hmade.named hlast).passable (by simp)) hlast ?_
    rw [← List.append_nil ends]
    exact (leads_dots_iff hends).2 .here

/-- **More of a path is there** where the missing names lead down through directories: the nearest part comes to
the directory of some of them, and the rest are missing. -/
theorem ExistingPart.of_leadsDown (h : fs.ExistingPart p existing names) (hmade : made.WellFormed)
    (habs : p.isAbsolute = true) (hleads : made.resolve existing .target = .ok (.entry place .directory))
    (hdown : made.LeadsDown place names) :
    ∃ existing' front back, names = front ++ back ∧ made.ExistingPart p existing' back ∧
      made.resolve existing' .target = .ok (.entry (place ++ front) .directory) := by
  induction h with
  | here =>
    exact ⟨_, [], [], rfl, .here ((exists?_iff habs).2 ⟨_, _, hleads⟩), by rwa [List.append_nil]⟩
  | @above p q existing names name hnothing hup hname hpart ih =>
    -- going up from the path, the first part that is there by now is the nearest
    cases hexists : made.exists? p with
    | true =>
      have hwhole := (ExistingPart.above hnothing hup hname hpart).resolve_of_leadsDown hmade habs hleads hdown hexists
      exact ⟨p, names ++ [name], [], (List.append_nil _).symm, .here hexists, hwhole⟩
    | false =>
      obtain ⟨existing', front, back, rfl, hagain, hfront⟩ :=
        ih (Path.isAbsolute_of_parent? habs hup) hleads hdown.of_append
      exact ⟨existing', front, back ++ [name], List.append_assoc _ _ _, .above hexists hup hname hagain, hfront⟩

/-! ## The same path -/

/-- **A path comes to the same** after directories were made, if it comes to one of them, and what was on the way
to it already leads to a directory. -/
theorem MakesFolders.absolute_eq_ok {target : Path} (hrun : MakesFolders target fs made) (hfs : fs.WellFormed)
    (hstands : fs.StandsInFolder) (h : fs.absolute p = .ok q) (hparents : ".." ∉ q.names)
    (hq : made.isDirectory q = true)
    (hway : ∀ above entry, (Path.ofLocation above).OnWayTo q → fs.lookup above = some entry →
      fs.isDirectory (.ofLocation above) = true) :
    made.absolute p = .ok q := by
  have hmade := hrun.wellFormed hfs
  have hgains := hrun.gainsFolders
  obtain ⟨full, hfull, habs, ⟨existing, names, place, entry, hpart, hleads, rfl⟩ | ⟨rfl, -, hnothing⟩⟩ :=
    existingPart_of_absolute hfs h
  case inr =>
    obtain ⟨place, hplace⟩ := (isDirectory_iff habs).1 hq
    exact absurd (hnothing ((resolve_eq_ok_iff habs).1 hplace).1) hparents
  have hexisting := (hpart.isAbsolute habs).1
  obtain ⟨hplace⟩ := resolve_holds hfs hexisting hleads
  have hsteps : ∀ step ∈ place ++ names, Path.IsStep step ∧ step ≠ "." := by
    intro step hstep
    rcases List.mem_append.1 hstep with hmem | hmem
    · exact isStep_of_lookup hfs hplace step hmem
    · exact ⟨(hpart.isStep habs step hmem).1, (hpart.isStep habs step hmem).2.1⟩
  -- the place that the path was left at is a directory, as it is on the way to one
  obtain rfl : entry = .directory := by
    refine eq_directory_of_isDirectory hfs hplace ?_ (hway _ _ (Path.onWayTo_ofLocation hsteps) hplace)
    rintro target rfl
    exact ((resolve_eq_ok_iff hexisting).1 hleads).2.ne_link (by simp) _ _ rfl
  have hfull' := (hrun.fullPath hstands p).trans hfull
  have hleads' := resolve_grows hgains.growsTo hexisting hleads .directory
  by_cases hnew : ∀ first rest, names = first :: rest → fs.lookup (place ++ [first]) = none
  · -- the missing names are new, and lead down
    obtain ⟨found, hfound⟩ := (isDirectory_iff (Path.isAbsolute_ofLocation _)).1 hq
    have hdown := ((resolve_eq_ok_iff (Path.isAbsolute_ofLocation _)).1 hfound).2
    rw [Path.names_ofLocation fun step hstep => (hsteps step hstep).1,
      leads_place_iff hmade (hgains.keeps hplace) (by simp)] at hdown
    obtain ⟨existing', front, back, rfl, hpart', hfront⟩ := hpart.of_leadsDown hmade habs hleads'
      (.of_leads hfs hgains (fun name hname => (hpart.isStep habs name hname).2) hnew hdown)
    rw [FileSystem.absolute_eq_ok hmade hfull' hpart' hfront, List.append_assoc]
  · -- the first of them was there, and the path did not come to it for another reason
    refine FileSystem.absolute_eq_ok hmade hfull' (hpart.grows hfs hgains.growsTo habs hleads ?_) hleads'
    rintro first rest rfl
    cases hfirst : fs.lookup (place ++ [first]) with
    | none => exact absurd (fun _ _ hcons => (List.cons.inj hcons).1 ▸ hfirst) hnew
    | some entry =>
      rw [List.append_cons] at hsteps hway
      exact hway _ _ (Path.onWayTo_ofLocation hsteps) hfirst

/-- **A path to a directory** comes to the same after other directories were made. -/
theorem MakesFolders.absolute_of_isDirectory {target : Path} (hrun : MakesFolders target fs made)
    (hfs : fs.WellFormed) (hstands : fs.StandsInFolder) (h : fs.absolute p = .ok q) (hq : fs.isDirectory q = true) :
    made.absolute p = .ok q := by
  have habs := isAbsolute_of_absolute h
  obtain ⟨place, hplace⟩ := (isDirectory_iff habs).1 hq
  refine hrun.absolute_eq_ok hfs hstands h (no_parents_of_absolute hfs h (exists?_of_isDirectory habs hq)) ?_ ?_
  · exact (isDirectory_iff habs).2 ⟨place, resolve_grows hrun.gainsFolders.growsTo habs hplace .directory⟩
  · exact fun _ _ hway _ => isDirectory_of_onWayTo hway habs hq

/-- **A path whose directory was made** comes to the same, if that does not lead up. -/
theorem absolute_of_makeDirectories (hfs : fs.WellFormed) (hstands : fs.StandsInFolder) (h : fs.absolute p = .ok q)
    (hparents : ".." ∉ q.names) (hmade : fs.makeDirectories q = (made, .ok ())) : made.absolute p = .ok q := by
  have habs := isAbsolute_of_absolute h
  have hrun : MakesFolders q fs made := .of_makeDirectories hfs habs hmade
  obtain ⟨place, hplace, -⟩ := makeDirectoriesWithin_ok hfs habs hparents hmade
  refine hrun.absolute_eq_ok hfs hstands h hparents ((isDirectory_iff habs).2 ⟨place, hplace⟩) ?_
  exact fun _ _ => isDirectory_of_makesPlace hfs habs ((resolve_eq_ok_iff habs).1 hplace).1 hmade

end FileSystem

end ComponentScaffold
