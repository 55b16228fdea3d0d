import ComponentScaffold.Namespace.Folder
import ComponentScaffold.Proofs.Path.Steps

/-! # Paths below others

A path lies below another one if its steps go on from those of the other. What is left is told by its
steps alone, however the two are written.

* **`Path.segmentsBelow_eq_ok_iff_steps`** — the names on the way down, if all steps are names.
* **`Path.plainNames`** — the names that are left of a path.
* **`Path.LiesBelow`**, **`Path.IsChildOf`** — a path below another one, and one right in it. -/

namespace ComponentScaffold

namespace Path

/-! ## What is left below a path -/

/-- Steps are names exactly if they are those of the names. -/
theorem stepNames?_eq_some_iff {steps : List Component} (h : .current ∉ steps) {names : List String} :
    stepNames? steps = some names ↔ steps = names.map .name := by
  induction steps generalizing names with
  | nil => cases names <;> simp [stepNames?]
  | cons step rest ih =>
    rw [List.mem_cons, not_or] at h
    cases step with
    | current => exact absurd rfl h.1
    | root | parent => cases names <;> simp [stepNames?]
    | name name =>
      cases names with
      | nil => simp [stepNames?]
      | cons first names =>
        rw [stepNames?, Option.map_eq_some_iff]
        simp only [List.cons.injEq, List.map_cons, Component.name.injEq]
        constructor
        · rintro ⟨others, hothers, rfl, rfl⟩
          exact ⟨rfl, (ih h.2).1 hothers⟩
        · rintro ⟨rfl, hrest⟩
          exact ⟨names, (ih h.2).2 hrest, rfl, rfl⟩

/-- Steps to names have their names. -/
theorem stepNames?_map_name (names : List String) : stepNames? (names.map .name) = some names :=
  (stepNames?_eq_some_iff (by simp)).mpr rfl

/-- A name on the way is stepped to. -/
theorem mem_of_stepNames? {steps : List Component} {names : List String} (h : stepNames? steps = some names)
    {name : String} (hmem : name ∈ names) : .name name ∈ steps := by
  induction steps generalizing names with
  | nil =>
    obtain rfl := Option.some.inj h
    exact absurd hmem List.not_mem_nil
  | cons step rest ih =>
    cases step with
    | current => exact List.mem_cons_of_mem _ (ih h hmem)
    | root | parent => cases h
    | name first =>
      obtain ⟨others, htail, rfl⟩ := Option.map_eq_some_iff.mp h
      rcases List.mem_cons.mp hmem with rfl | hlater
      · exact List.mem_cons_self
      · exact List.mem_cons_of_mem _ (ih htail hlater)

/-- **The names on the way down** to a folder are those of the steps that its path goes on with. -/
theorem segmentsBelow_eq_ok_iff_steps {p base : Path} {names : List String} :
    p.segmentsBelow base = .ok names ↔
      ∃ steps, p.components = base.components ++ steps ∧ stepNames? steps = some names := by
  unfold segmentsBelow
  rcases relativeTo?_components p base with ⟨way, hleft, hgoesOn⟩ | ⟨hnothing, houtside⟩
  · simp only [hleft, hgoesOn, List.append_cancel_left_eq, exists_eq_left']
    cases stepNames? way.components <;> simp
  · simp [hnothing, houtside]

/-- A path that goes on by names has them on its way down. -/
theorem segmentsBelow_of_components {p base : Path} {names : List String}
    (h : p.components = base.components ++ names.map .name) : p.segmentsBelow base = .ok names :=
  segmentsBelow_eq_ok_iff_steps.mpr ⟨_, h, stepNames?_map_name names⟩

/-- The names on the way down are names that entries can have. -/
theorem isStep_of_mem_segmentsBelow {p base : Path} {names : List String}
    (h : p.segmentsBelow base = .ok names) {name : String} (hmem : name ∈ names) :
    IsStep name ∧ name ≠ "." ∧ name ≠ ".." := by
  obtain ⟨steps, hgoesOn, hnamed⟩ := segmentsBelow_eq_ok_iff_steps.mp h
  refine isStep_of_name_mem_components (p := p) ?_
  rw [hgoesOn]
  exact List.mem_append_right _ (mem_of_stepNames? hnamed hmem)

/-- No step of an absolute path stands for the current directory. -/
theorem current_not_mem_components {p : Path} (hp : p.isAbsolute = true) : .current ∉ p.components := by
  rw [components_of_isAbsolute hp, List.mem_cons, List.mem_filterMap]
  rintro (h | ⟨piece, -, hstep⟩)
  · cases h
  · rcases eq_of_ofPiece? hstep with h | ⟨h, -⟩ <;> cases h

/-- The names on the way down from an absolute path are its further steps. -/
theorem segmentsBelow_eq_ok_iff {p base : Path} (hp : p.isAbsolute = true) {names : List String} :
    p.segmentsBelow base = .ok names ↔ p.components = base.components ++ names.map .name := by
  constructor
  · intro h
    obtain ⟨steps, hgoesOn, hnamed⟩ := segmentsBelow_eq_ok_iff_steps.mp h
    have hnoCurrent : .current ∉ steps := fun hmem =>
      current_not_mem_components hp (hgoesOn ▸ List.mem_append_right _ hmem)
    rw [hgoesOn, (stepNames?_eq_some_iff hnoCurrent).mp hnamed]
  · exact segmentsBelow_of_components

/-- An absolute path takes a step up exactly where one of its names is written so. -/
theorem parent_mem_components_iff {p : Path} (hp : p.isAbsolute = true) : .parent ∈ p.components ↔ ".." ∈ p.names := by
  rw [components_of_isAbsolute hp, List.mem_cons, List.mem_filterMap]
  constructor
  · rintro (h | ⟨piece, hpiece, hstep⟩)
    · cases h
    · unfold Component.ofPiece? at hstep
      split at hstep
      case isTrue => cases hstep
      case isFalse =>
        split at hstep
        case isTrue hparent => exact hparent ▸ hpiece
        case isFalse => cases hstep
  · exact fun h => .inr ⟨"..", h, by decide⟩

/-- Going on from an absolute path adds the steps of the names. -/
theorem components_join {p q : Path} (hp : p.isAbsolute = true) (hq : q.isAbsolute = false) :
    (p.join q).components = p.components ++ q.names.filterMap Component.ofPiece? := by
  rw [components_of_isAbsolute (isAbsolute_join hp q), components_of_isAbsolute hp, names_join hq,
    List.filterMap_append, List.cons_append]

/-! ## Paths without detours

A path is read as it is written: dots are passed over, and a step up takes back the name before it. So it
is told without a file system whether one path lies below another one. -/

/-- Where a name leads from a place, as it is written. -/
def plainStep (place : Location) (name : String) : Location :=
  if name = "." then place else if name = ".." then place.dropLast else place ++ [name]

/-- **The names that are left of a path** once its dots and its steps up are taken. -/
def plainNames (p : Path) : Location := p.names.foldl plainStep []

/-- **A path lies below another one**, as the two are written. -/
def LiesBelow (p base : Path) : Prop := ∃ rest, rest ≠ [] ∧ p.plainNames = base.plainNames ++ rest

/-- **A path names an entry right in a folder**: it takes one more step, to a name. -/
def IsChildOf (p folder : Path) : Prop := ∃ name, p.components = folder.components ++ [.name name]

/-- Where no name is a step up, all but the dots are left. -/
theorem plainNames_of_no_parents {p : Path} (h : ".." ∉ p.names) : p.plainNames = p.names.filter (· ≠ ".") := by
  have hfold (place : Location) : ∀ names : List String, ".." ∉ names →
      names.foldl plainStep place = place ++ names.filter (· ≠ ".") := by
    intro names hnames
    induction names generalizing place with
    | nil => simp
    | cons name rest ih =>
      rw [List.mem_cons, not_or] at hnames
      rw [List.foldl_cons, ih _ hnames.2, plainStep]
      by_cases hdot : name = "."
      · simp [hdot]
      · simp [hdot, Ne.symm hnames.1]
  exact hfold [] p.names h

/-- One more name goes on from the place of a path. -/
theorem plainNames_child {p : Path} {name : String} (h : IsStep name) :
    (p.child name).plainNames = plainStep p.plainNames name := by
  rw [plainNames, names_child h, List.foldl_append]
  rfl

/-- Names that are no detours lead straight down from the place of a path. -/
theorem plainNames_descend {p : Path} {names : List String}
    (h : ∀ name ∈ names, IsStep name ∧ name ≠ "." ∧ name ≠ "..") :
    (p.descend names).plainNames = p.plainNames ++ names := by
  induction names generalizing p with
  | nil => exact (List.append_nil _).symm
  | cons name rest ih =>
    obtain ⟨hstep, hnoCurrent, hnoParent⟩ := h name List.mem_cons_self
    calc (p.descend (name :: rest)).plainNames
      _ = ((p.child name).descend rest).plainNames := rfl
      _ = (p.child name).plainNames ++ rest := ih fun other hmem => h other (List.mem_cons_of_mem _ hmem)
      _ = p.plainNames ++ name :: rest := by
        rw [plainNames_child hstep, plainStep, if_neg hnoCurrent, if_neg hnoParent, List.append_assoc,
          List.singleton_append]

/-- **One step into a folder and one into a folder below it** lead to the same place only if they are the same. -/
theorem plainNames_child_eq_iff {folder base : Path} {below : List String} {name baseName : String}
    (hmirror : folder = base.descend below) (hplain : ∀ step ∈ below, IsStep step ∧ step ≠ "." ∧ step ≠ "..")
    (hnamed : IsStep name) (hordinary : name ≠ "." ∧ name ≠ "..") (hbaseNamed : IsStep baseName) :
    (base.child baseName).plainNames = (folder.child name).plainNames ↔ folder = base ∧ baseName = name := by
  constructor
  · intro hsame
    rw [plainNames_child hbaseNamed, plainNames_child hnamed, hmirror, plainNames_descend hplain] at hsame
    simp only [plainStep, if_neg hordinary.1, if_neg hordinary.2] at hsame
    have hlong := congrArg List.length hsame
    simp only [List.length_append, List.length_singleton] at hlong
    split at hsame
    -- neither a dot nor a step up goes as far down as the name does
    case isTrue hcurrent =>
      rw [if_pos hcurrent] at hlong
      omega
    case isFalse hnoCurrent =>
      split at hsame
      case isTrue hparent =>
        rw [if_neg hnoCurrent, if_pos hparent, List.length_dropLast] at hlong
        omega
      case isFalse =>
        rw [List.append_assoc, List.append_cancel_left_eq] at hsame
        obtain ⟨rfl, hlast⟩ := List.append_inj' (show [] ++ [baseName] = below ++ [name] from hsame) rfl
        exact ⟨hmirror, (List.cons.inj hlast).1⟩
  · rintro ⟨rfl, rfl⟩
    rfl

/-- **Where one goes on** without a step up lies below, if there is more than dots on the way. -/
theorem liesBelow_of_names {p base : Path} {way : List String} (hbase : ".." ∉ base.names)
    (hway : ".." ∉ way) (hmore : ∃ name ∈ way, name ≠ ".") (h : p.names = base.names ++ way) : p.LiesBelow base := by
  have hp : ".." ∉ p.names := by
    rw [h, List.mem_append, not_or]
    exact ⟨hbase, hway⟩
  obtain ⟨name, hname, hdot⟩ := hmore
  refine ⟨way.filter (· ≠ "."), List.ne_nil_of_mem (List.mem_filter.2 ⟨hname, by simpa using hdot⟩), ?_⟩
  rw [plainNames_of_no_parents hp, plainNames_of_no_parents hbase, h, List.filter_append]

/-- A way with a step up is no way down. -/
theorem segmentsBelow_of_parent {p base : Path} (hp : p.isAbsolute = true) {steps : List Component}
    (h : p.components = base.components ++ steps) (hparent : .parent ∈ steps) :
    ∃ way, p.segmentsBelow base = .error (.unnamedStep way) := by
  have hnames (names : List String) : p.segmentsBelow base ≠ .ok names := by
    rw [Ne, segmentsBelow_eq_ok_iff hp, h, List.append_cancel_left_eq]
    rintro rfl
    simp at hparent
  rcases relativeTo?_components p base with ⟨way, hway, -⟩ | ⟨-, hbelow⟩
  · refine ⟨way, ?_⟩
    unfold segmentsBelow at hnames ⊢
    rw [hway] at hnames ⊢
    cases hsteps : stepNames? way.components with
    | none => simp only [hsteps]
    | some names => exact absurd (by simp [hsteps]) (hnames names)
  · exact absurd h (hbelow steps)

end Path

end ComponentScaffold
