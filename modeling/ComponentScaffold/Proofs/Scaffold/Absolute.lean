import ComponentScaffold.Proofs.Files.Places
import ComponentScaffold.Proofs.Session
import ComponentScaffold.Scaffold.Plan

/-! # Absolute paths of paths

A path that is made absolute goes through no step up as far as anything is there, and names follow that do
not lead up either. Only where nothing at all can be found is it kept as it is written.

* **`FileSystem.canonical_eq_ok_iff`** — the path without detours is that of the place a path leads to.
* **`FileSystem.isAbsolute_of_absolute`**, **`FileSystem.no_parents_of_absolute`** — what a path that was made
  absolute is like. -/

namespace ComponentScaffold

namespace FileSystem

variable {fs : FileSystem} {p q : Path}

/-- **The path without detours** is that of the place that a path leads to. A relative path needs a current
directory. -/
theorem canonical_eq_ok_iff :
    fs.canonical p = .ok q ↔
      (p.isAbsolute = false → ∃ here, fs.currentPath = .ok here) ∧
        ∃ place entry, fs.resolveWhole p .target p.isSlashed = .ok (.entry place entry) ∧
          q = Path.ofLocation place := by
  -- but for the current directory, which only a relative path asks for, both sides look for one entry
  have hplace : ((fs.resolveWhole p .target p.isSlashed).bind entryAt >>= fun found =>
      (pure (Path.ofLocation found.1) : Except OsFault Path)) = .ok q ↔
      ∃ place entry, fs.resolveWhole p .target p.isSlashed = .ok (.entry place entry) ∧
        q = Path.ofLocation place := by
    rw [bind_eq_ok_iff]
    constructor
    · rintro ⟨⟨place, entry⟩, hfound, hq⟩
      exact ⟨place, entry, bind_entryAt_eq_ok_iff.1 hfound, (Except.ok.inj hq).symm⟩
    · rintro ⟨place, entry, hfound, rfl⟩
      exact ⟨(place, entry), bind_entryAt_eq_ok_iff.2 hfound, rfl⟩
  unfold canonical
  cases habs : p.isAbsolute with
  | true => simpa using hplace
  | false =>
    cases hcurrent : fs.currentPath with
    | error fault =>
      simp only [Bool.not_false, if_true]
      rw [bind_eq_ok_iff]
      simp
    | ok here =>
      have hhere : ∃ here' : Path, (Except.ok here : Except OsFault Path) = .ok here' := ⟨here, rfl⟩
      simp only [Bool.not_false, if_true, hhere, forall_const, true_and]
      exact hplace

/-! ## What is there -/

/-- **The nearest part of a path that leads to something**, and the names that are missing behind it. -/
inductive ExistingPart (fs : FileSystem) : Path → Path → List String → Prop
  /-- The path leads to something. -/
  | here {p : Path} : fs.exists? p = true → ExistingPart fs p p []
  /-- The path leads to nothing, and ends in a name. -/
  | above {p q existing : Path} {names : List String} {name : String} : fs.exists? p = false →
    p.parent? = some q → p.fileName? = some name → ExistingPart fs q existing names →
    ExistingPart fs p existing (names ++ [name])

/-- What is found is the nearest part. -/
theorem existingPart_of_eq_some {count : Nat} {missing missing' : List String}
    (h : fs.existingPart? count p missing = some (q, missing')) :
    ∃ names, fs.ExistingPart p q names ∧ missing' = names ++ missing := by
  -- where a part is there the search ends, be levels left or not
  have hexisting {p : Path} {missing : List String} (hexists : fs.exists? p = true)
      (h : some (p, missing) = some (q, missing')) :
      ∃ names, fs.ExistingPart p q names ∧ missing' = names ++ missing := by
    obtain ⟨rfl, rfl⟩ := Prod.mk.inj (Option.some.inj h)
    exact ⟨[], .here hexists, rfl⟩
  induction count generalizing p missing with
  | zero =>
    unfold existingPart? at h
    split at h
    case isTrue hexists => exact hexisting hexists h
    case isFalse => simp at h
  | succ count ih =>
    unfold existingPart? at h
    split at h
    case isTrue hexists => exact hexisting hexists h
    case isFalse hexists =>
      split at h
      case h_1 above name hcount hup hname =>
        obtain rfl := Nat.succ.inj hcount
        obtain ⟨names, hnames, rfl⟩ := ih h
        exact ⟨_, .above (Bool.eq_false_iff.2 hexists) hup hname hnames, List.append_cons _ _ _⟩
      case h_2 => cases h

namespace ExistingPart

variable {existing : Path} {names : List String}

/-- The nearest part is found, given enough steps. -/
theorem eq_some (h : fs.ExistingPart p existing names) {count : Nat} (hcount : names.length ≤ count)
    (missing : List String) : fs.existingPart? count p missing = some (existing, names ++ missing) := by
  induction h generalizing count missing with
  | here hexists =>
    unfold existingPart?
    rw [if_pos hexists]
    rfl
  | above hnothing hup hname _ ih =>
    rw [List.length_append, List.length_singleton] at hcount
    obtain ⟨count, rfl⟩ := Nat.exists_eq_add_of_lt hcount
    unfold existingPart?
    rw [if_neg (by simp [hnothing]), hup, hname]
    simp only
    rw [ih (Nat.le_add_right _ _), List.append_assoc, List.singleton_append]

/-- The nearest part of an absolute path is absolute, and the path has more steps than names are missing. -/
theorem isAbsolute (h : fs.ExistingPart p existing names) (habs : p.isAbsolute = true) :
    existing.isAbsolute = true ∧ names.length < p.components.length := by
  induction h with
  | here => exact ⟨habs, by simp [Path.components_of_isAbsolute habs]⟩
  | above _ hup _ _ ih =>
    obtain ⟨hexisting, hlength⟩ := ih (Path.isAbsolute_of_parent? habs hup)
    refine ⟨hexisting, ?_⟩
    rw [Path.components_of_parent? habs hup, List.length_append, List.length_singleton]
    exact Nat.succ_lt_succ hlength

/-- What is there leads to something. -/
theorem exists? (h : fs.ExistingPart p existing names) : fs.exists? existing = true := by
  induction h with
  | here hexists => exact hexists
  | above _ _ _ _ ih => exact ih

/-- **The names that are missing** are those of entries. -/
theorem isStep (h : fs.ExistingPart p existing names) (habs : p.isAbsolute = true) :
    ∀ name ∈ names, Path.IsStep name ∧ name ≠ "." ∧ name ≠ ".." := by
  induction h with
  | here => simp
  | above _ hup hname _ ih =>
    intro other hother
    rcases List.mem_append.1 hother with hmem | hmem
    · exact ih (Path.isAbsolute_of_parent? habs hup) other hmem
    · exact List.mem_singleton.1 hmem ▸ Path.isStep_of_fileName? habs hname

/-- Where names are missing, the path leads to nothing. -/
theorem not_exists? (h : fs.ExistingPart p existing names) (hne : names ≠ []) : fs.exists? p = false := by
  cases h with
  | here => exact absurd rfl hne
  | above hnothing => exact hnothing

end ExistingPart

/-! ## Absolute paths -/

/-- A path from the root on, as it is written. -/
def fullPath (fs : FileSystem) (p : Path) : Except OsFault Path :=
  if p.isAbsolute then .ok p else fs.currentPath.map (·.join p)

/-- A path is made absolute by what is there of it from the root on. -/
theorem absolute_eq_bind (fs : FileSystem) (p : Path) :
    fs.absolute p = fs.fullPath p >>= fun full =>
      match fs.existingPart? full.components.length full [] with
      | some (existing, missing) => (·.descend missing) <$> fs.canonical existing
      | none => .ok full := by
  unfold absolute fullPath
  simp only
  split
  case isTrue => rfl
  case isFalse => rfl

/-- A path from the root on is absolute. -/
theorem isAbsolute_of_fullPath (h : fs.fullPath p = .ok q) : q.isAbsolute = true := by
  unfold fullPath at h
  split at h
  case isTrue habs => exact Except.ok.inj h ▸ habs
  case isFalse =>
    unfold currentPath at h
    split at h
    case h_1 place _ =>
      obtain rfl := Except.ok.inj h
      exact Path.isAbsolute_join (Path.isAbsolute_ofLocation place) p
    case h_2 => cases h

/-- **How a path is made absolute**: the part that is there is freed of detours, unless nothing at all is
there. -/
theorem absolute_ok (h : fs.absolute p = .ok q) :
    ∃ full, full.isAbsolute = true ∧
      ((∃ existing missing, fs.exists? existing = true ∧ existing.isAbsolute = true ∧
          (∀ name ∈ missing, Path.IsStep name ∧ name ≠ "." ∧ name ≠ "..") ∧
          ∃ found, fs.canonical existing = .ok found ∧ q = found.descend missing) ∨
        fs.exists? full = false ∧ q = full) := by
  rw [absolute_eq_bind] at h
  obtain ⟨full, hfull, hrest⟩ := bind_eq_ok_iff.1 h
  have habs := isAbsolute_of_fullPath hfull
  refine ⟨full, habs, ?_⟩
  split at hrest
  case h_1 existing missing hexisting =>
    obtain ⟨names, hnames, rfl⟩ := existingPart_of_eq_some hexisting
    rw [List.append_nil] at hrest
    cases hfound : fs.canonical existing with
    | error fault => rw [hfound] at hrest; cases hrest
    | ok found =>
      rw [hfound] at hrest
      exact .inl ⟨existing, names, hnames.exists?, (hnames.isAbsolute habs).1, hnames.isStep habs, found, hfound,
        (Except.ok.inj hrest).symm⟩
  case h_2 hnone =>
    -- no part of it is there, so it is not there itself
    refine .inr ⟨?_, (Except.ok.inj hrest).symm⟩
    cases hexists : fs.exists? full with
    | false => rfl
    | true =>
      rw [(ExistingPart.here hexists).eq_some (Nat.zero_le _)] at hnone
      cases hnone

/-- A path that was made absolute is absolute. -/
theorem isAbsolute_of_absolute (h : fs.absolute p = .ok q) : q.isAbsolute = true := by
  obtain ⟨full, habs, ⟨_, _, -, -, -, found, hfound, rfl⟩ | ⟨-, rfl⟩⟩ := absolute_ok h
  · obtain ⟨-, place, -, -, rfl⟩ := canonical_eq_ok_iff.1 hfound
    exact Path.isAbsolute_descend (Path.isAbsolute_ofLocation place) _
  · exact habs

/-- **A path that was made absolute and leads to something** goes through no step up. -/
theorem no_parents_of_absolute (hfs : fs.WellFormed) (h : fs.absolute p = .ok q)
    (hexists : fs.exists? q = true) : ".." ∉ q.names := by
  obtain ⟨full, habs, ⟨existing, missing, -, hexistingAbs, hmissing, found, hfound, rfl⟩ |
    ⟨hnothing, rfl⟩⟩ := absolute_ok h
  · obtain ⟨-, place, entry, hresolve, rfl⟩ := canonical_eq_ok_iff.1 hfound
    have hplace : fs.lookup place = some entry := by
      have hwhole := hresolve
      rw [resolveWhole, if_neg (by simpa using Path.text_ne_of_isAbsolute hexistingAbs),
        if_pos hexistingAbs] at hwhole
      obtain ⟨hplace⟩ := (leads_iff.1 hwhole).holds hfs (lookup_root fs) fun _ => Path.isStep_of_mem_names
      exact hplace
    have hnames (name : String) (hname : name ∈ place) := hfs.isEntryName_of_mem hplace hname
    rw [Path.names_descend fun name hname => (hmissing name hname).1,
      Path.names_ofLocation fun name hname => (hnames name hname).toIsStep, List.mem_append, not_or]
    exact ⟨fun hparent => (hnames _ hparent).ne_parent rfl, fun hparent => (hmissing _ hparent).2.2 rfl⟩
  · rw [hnothing] at hexists
    cases hexists

/-! ## Paths of what is there -/

/-- **The current directory is one**, if it has a path. -/
def StandsInFolder (fs : FileSystem) : Prop :=
  ∀ place, fs.current? = some place → fs.lookup place = some .directory

/-- A relative path leads where it leads behind the path of the current directory. -/
theorem resolveWhole_join_current (hfs : fs.WellFormed) (hstands : fs.StandsInFolder) {here : Path}
    (hhere : fs.currentPath = .ok here) (hrelative : p.isAbsolute = false) (htext : p.text ≠ "")
    {destination : Destination}
    (h : fs.resolveWhole p .target p.isSlashed = .ok destination) :
    fs.resolveWhole (here.join p) .target (here.join p).isSlashed = .ok destination := by
  unfold currentPath at hhere
  split at hhere
  case h_2 => cases hhere
  case h_1 place hcurrent =>
    obtain rfl := Except.ok.inj hhere
    have hplace := hstands place hcurrent
    have habs := Path.isAbsolute_join (Path.isAbsolute_ofLocation place) p
    have hstep (name : String) (hname : name ∈ place) := (hfs.isEntryName_of_mem hplace hname).toIsStep
    -- the current directory is known by its number, and its place is where that number is found
    have hfrom : fs.followFrom .target p.names p.isSlashed fs.standing.directory =
        fs.followLinks .target maxLinks place p.names p.isSlashed := by
      unfold current? at hcurrent
      cases p.names <;> simp [followFrom, hcurrent]
    rw [resolveWhole, if_neg (by simpa using htext), if_neg (by simp [hrelative]), hfrom, leads_iff,
      ← leads_place_iff hfs hplace (by simp)] at h
    rw [resolveWhole, if_neg (by simpa using Path.text_ne_of_isAbsolute habs), if_pos habs, leads_iff,
      Path.names_join hrelative, Path.names_ofLocation hstep, Path.isSlashed_join htext hrelative]
    exact h

/-- **A path that leads to something** is made absolute by freeing it of detours, unless it is too long from
the root on. -/
theorem absolute_of_canonical (hfs : fs.WellFormed) (hstands : fs.StandsInFolder)
    (hsize : ∀ full, fs.fullPath p = .ok full → full.text.utf8ByteSize ≤ maxPathBytes)
    (h : fs.canonical p = .ok q) : fs.absolute p = .ok q := by
  -- a relative path leads from the current directory to where it leads behind the path of that directory
  obtain ⟨full, hfull, hcanonical⟩ : ∃ full, fs.fullPath p = .ok full ∧ fs.canonical full = .ok q := by
    cases habs : p.isAbsolute with
    | true => exact ⟨p, if_pos habs, h⟩
    | false =>
      obtain ⟨hcurrent, place, entry, hresolve, rfl⟩ := canonical_eq_ok_iff.1 h
      obtain ⟨here, hhere⟩ := hcurrent habs
      have htext : p.text ≠ "" := by
        intro hempty
        simp [resolveWhole, hempty] at hresolve
      have hfull : fs.fullPath p = .ok (here.join p) := by simp [fullPath, habs, hhere, Except.map]
      refine ⟨here.join p, hfull, canonical_eq_ok_iff.2 ⟨fun hrelative => ?_, place, entry, ?_, rfl⟩⟩
      · rw [isAbsolute_of_fullPath hfull] at hrelative
        cases hrelative
      · exact resolveWhole_join_current hfs hstands hhere habs htext hresolve
  have habs := isAbsolute_of_fullPath hfull
  obtain ⟨-, place, entry, hresolve, -⟩ := canonical_eq_ok_iff.1 hcanonical
  have hexists : fs.exists? full = true := by
    rw [exists?_iff habs]
    refine ⟨place, entry, ?_⟩
    rw [resolve, resolveAs, if_neg (Nat.not_lt.2 (hsize full hfull))]
    exact hresolve
  rw [absolute_eq_bind, hfull]
  rw [bind_eq_ok_iff]
  refine ⟨full, rfl, ?_⟩
  rw [(ExistingPart.here hexists).eq_some (Nat.zero_le _)]
  simp only [List.nil_append]
  rw [hcanonical]
  rfl

/-- The path of the current directory has no detours. -/
theorem canonical_currentPath (hfs : fs.WellFormed) (hstands : fs.StandsInFolder)
    (h : fs.currentPath = .ok p) : fs.canonical p = .ok p := by
  unfold currentPath at h
  split at h
  case h_2 => cases h
  case h_1 place hcurrent =>
    obtain rfl := Except.ok.inj h
    have hplace := hstands place hcurrent
    have habs := Path.isAbsolute_ofLocation place
    have hstep (name : String) (hname : name ∈ place) := (hfs.isEntryName_of_mem hplace hname).toIsStep
    refine canonical_eq_ok_iff.2 ⟨fun hrelative => ?_, place, .directory, ?_, rfl⟩
    · rw [habs] at hrelative
      cases hrelative
    · rw [resolveWhole, if_neg (by simpa using Path.text_ne_of_isAbsolute habs), if_pos habs, leads_iff,
        Path.names_ofLocation hstep]
      simpa using (leads_place_iff hfs hplace (by simp)).2 .here

end FileSystem

end ComponentScaffold
