import ComponentScaffold.Proofs.Scaffold.Effect

/-! # With a view-model and without

A request that asks for a view-model comes to the same as one that does not, but for the view-model: it is
planned wherever the component is, and created when the component stands.

* **`Scaffolder.planned_without`** — the two plans.
* **`Scaffolder.scaffold_without`** — the two outcomes, and the file systems that are left. -/

namespace ComponentScaffold

open ComponentScaffold.Action

/-- A request with or without a view-model. -/
def Request.asking (request : Request) (withViewModel : Bool) : Request :=
  { request with withViewModel := withViewModel }

/-- A plan without its view-model. -/
def Plan.bare (plan : Plan) : Plan := { plan with viewModel := none }

namespace Scaffolder

variable {scaffolder : Scaffolder} {request : Request}

/-- Where a component has its namespaces, so has its view-model, if it gets one. -/
theorem viewModelPlanned_isOk {root : ProjectRoot} {target : Path} {namespaces : NamespacePair}
    (hvalid : scaffolder.config.validate = .ok ()) (hfolder : scaffolder.config.viewModelsFolder ≠ "..")
    (hroot : root.path.isAbsolute = true) (hname : isComponentName request.name = true)
    (h : root.namespaceOf target request.name = .ok namespaces) :
    ∃ viewModel, scaffolder.viewModelPlanned request root target = .ok viewModel := by
  unfold viewModelPlanned
  split
  case isTrue =>
    obtain ⟨plan, hplan⟩ := planViewModel_isOk hvalid hroot hname hfolder h
    exact ⟨some plan, by rw [hplan]; rfl⟩
  case isFalse => exact ⟨none, rfl⟩

/-- **A view-model never keeps a component from being planned.** -/
theorem planned_without {fs : FileSystem} (hfs : fs.WellFormed)
    (hvalid : scaffolder.config.validate = .ok ()) (hfolder : scaffolder.config.viewModelsFolder ≠ "..") :
    scaffolder.planned (request.asking false) fs =
      (scaffolder.planned (request.asking true) fs).map Plan.bare := by
  unfold planned Request.asking
  simp only
  split
  case isFalse => rfl
  case isTrue hname =>
    cases hstart : fs.absolute request.searchRoot with
    | error fault => rfl
    | ok start =>
      cases htarget : fs.absolute request.target with
      | error fault => rfl
      | ok target =>
        simp only [mapError_ok, bind, Except.bind]
        cases hroot : fs.located scaffolder.config.markers start with
        | error failure => rfl
        | ok root =>
          simp only
          cases hnamespaces : root.namespaceOf target request.name with
          | error fault => rfl
          | ok namespaces =>
            -- a component that has its namespaces has a view-model as well, so asking for one refuses nothing more
            obtain ⟨viewModel, hviewModel⟩ :=
              @viewModelPlanned_isOk scaffolder (request.asking true) root target namespaces hvalid hfolder
                (no_parents_of_located hfs hstart hroot).1 hname hnamespaces
            rw [Request.asking] at hviewModel
            simp only [hviewModel]
            rfl

/-- **The component does not depend on its view-model**: with it and without, the same is done for it, and
the same comes of it. -/
theorem component_without {session : Session} (hfs : session.files.WellFormed)
    (hvalid : scaffolder.config.validate = .ok ()) (hfolder : scaffolder.config.viewModelsFolder ≠ "..") :
    ((scaffolder.component (request.asking false)).perform session).1 =
        ((scaffolder.component (request.asking true)).perform session).1.map
          (fun (plan, output, updated) => (plan.bare, output, updated)) ∧
      ((scaffolder.component (request.asking false)).perform session).2.files =
        ((scaffolder.component (request.asking true)).perform session).2.files := by
  obtain ⟨records, hwithout⟩ := scaffolder.plan_computes (request.asking false) session
  obtain ⟨records', hwith⟩ := scaffolder.plan_computes (request.asking true) session
  rw [planned_without hfs hvalid hfolder] at hwithout
  unfold component
  rw [perform_bind, perform_bind, hwithout, hwith]
  cases scaffolder.planned (request.asking true) session.files with
  | error failure => exact ⟨rfl, rfl⟩
  | ok plan =>
    -- carrying out a plan does not look at its view-model
    have hsame : scaffolder.carryOut (request.asking false) plan.bare =
        scaffolder.carryOut (request.asking true) plan := rfl
    obtain ⟨houtcome, hfiles⟩ := scaffolder.carryOut_ignoresRecords (request.asking true) plan
      { session with records := records } { session with records := records' } rfl
    simp only [Except.map, perform_bind, hsame]
    cases hfirst : (scaffolder.carryOut (request.asking true) plan).perform
        { session with records := records } with
    | mk outcome settled =>
      cases hsecond : (scaffolder.carryOut (request.asking true) plan).perform
          { session with records := records' } with
      | mk outcome' settled' =>
        rw [hfirst, hsecond] at houtcome hfiles
        obtain rfl : outcome = outcome' := houtcome
        cases outcome <;> exact ⟨rfl, hfiles⟩

/-- A view-model brings one file at most. -/
theorem Brought.unique {plan : Plan} {after : FileSystem} {place other : Location} {bytes bytes' : ByteArray}
    (h : Brought plan after place (.file bytes)) (h' : Brought plan after other (.file bytes')) :
    place = other := by
  obtain ⟨viewModel, hviewModel, ⟨hleads, -⟩ | ⟨_, _, _, hentry⟩⟩ := h
  case inr => cases hentry
  obtain ⟨viewModel', hviewModel', ⟨hleads', -⟩ | ⟨_, _, _, hentry⟩⟩ := h'
  case inr => cases hentry
  obtain rfl := Option.some.inj (hviewModel.symm.trans hviewModel')
  exact (Destination.entry.inj (Except.ok.inj (hleads.symm.trans hleads'))).1

/-- **With a view-model and without**, scaffolding succeeds alike and does the same for the component. What is
left differs by the view-model, which comes last, and which is lost on no file unless it overwrites it. -/
theorem scaffold_without {session : Session} (hfs : session.files.WellFormed)
    (hgenerator : scaffolder.generator.KeepsForm) (hvalid : scaffolder.config.validate = .ok ())
    (hfolder : scaffolder.config.viewModelsFolder ≠ "..") :
    (∃ plan settled report after report' after',
        (scaffolder.component (request.asking true)).perform session =
          (.ok (plan, report.output, report.updated), settled) ∧
        (scaffolder.scaffold (request.asking true)).perform session = (.ok report, after) ∧
        (scaffolder.scaffold (request.asking false)).perform session = (.ok report', after') ∧
        report.root = report'.root ∧ report.namespaces = report'.namespaces ∧
        report.output = report'.output ∧ report.updated = report'.updated ∧
        settled.files = after'.files ∧ Adds plan after'.files after.files ∧
        (∀ place other bytes bytes', after.files.lookup place = some (.file bytes) →
          after'.files.lookup place = none → after.files.lookup other = some (.file bytes') →
          after'.files.lookup other = none → place = other) ∧
        (".." ∉ (⟨scaffolder.config.viewModelSuffix⟩ : Path).pieces →
          ∀ place, ¬Overwritten plan after'.files place)) ∨
      ∃ failure after after', (scaffolder.scaffold (request.asking true)).perform session = (.error failure, after) ∧
        (scaffolder.scaffold (request.asking false)).perform session = (.error failure, after') ∧
        after.files = after'.files := by
  obtain ⟨houtcome, hfiles⟩ := @component_without scaffolder request session hfs hvalid hfolder
  rcases scaffolder.perform_scaffold (request.asking true) session with
    ⟨plan, output, updated, settled, report, after, hcomponent, hscaffold, hreport, hfurnishes, -⟩ |
    ⟨failure, settled, hcomponent, hscaffold⟩
  case inl =>
    rw [hcomponent] at houtcome hfiles
    rcases scaffolder.perform_scaffold (request.asking false) session with
      ⟨plan', output', updated', settled', report', after', hcomponent', hscaffold', hreport', hfurnishes', -⟩ |
      ⟨failure', settled', hcomponent', -⟩
    case inl =>
      rw [hcomponent'] at houtcome hfiles
      obtain ⟨rfl, rfl, rfl⟩ := Prod.mk.inj (Except.ok.inj houtcome) |>.imp_right Prod.mk.inj
      obtain ⟨hroot, hnamespaces, rfl, rfl⟩ := hreport
      obtain ⟨hroot', hnamespaces', houtput, hupdated⟩ := hreport'
      have hbare : after'.files = settled.files := Eq.trans hfurnishes' hfiles
      have hplanned := (component_ok hcomponent).1
      have hform := component_keepsForm hfs hgenerator hcomponent
      have hadds := hfurnishes.adds hform fun viewModel hsome =>
        ((isAbsolute_of_planned hfs hplanned).2.2.2 viewModel hsome).1
      rw [← hbare] at hadds hform
      refine .inl ⟨plan, settled, report, after, report', after', hcomponent, hscaffold, hscaffold',
        hroot.trans hroot'.symm, hnamespaces.trans hnamespaces'.symm, houtput.symm, hupdated.symm, hbare.symm,
        hadds, ?_,
        fun hsuffix => not_overwritten hfs hform hvalid hfolder hsuffix hplanned⟩
      intro place other bytes bytes' hplace hnone hother hnone'
      exact (hadds.brought _ _ hplace hnone).unique (hadds.brought _ _ hother hnone')
    case inr =>
      rw [hcomponent'] at houtcome
      cases houtcome
  case inr =>
    rw [hcomponent] at houtcome hfiles
    rcases scaffolder.perform_scaffold (request.asking false) session with
      ⟨plan', output', updated', settled', report', after', hcomponent', -⟩ |
      ⟨failure', settled', hcomponent', hscaffold'⟩
    case inl =>
      rw [hcomponent'] at houtcome
      cases houtcome
    case inr =>
      rw [hcomponent'] at houtcome hfiles
      obtain rfl : failure' = failure := Except.error.inj houtcome
      exact .inr ⟨failure', settled, settled', hscaffold, hscaffold', hfiles.symm⟩

/-- In a project with notes, a view-model that is named as usual leaves everything that is there without
it. -/
theorem scaffold_without_keeps_notes :
    (Notes.scaffolder "ViewModel").config.validate = .ok () ∧
      (Notes.scaffolder "ViewModel").config.viewModelsFolder ≠ ".." ∧
      ∃ report after report' after',
        ((Notes.scaffolder "ViewModel").scaffold (Notes.request true)).perform ⟨Notes.files, [], []⟩ =
          (.ok report, after) ∧
        ((Notes.scaffolder "ViewModel").scaffold (Notes.request false)).perform ⟨Notes.files, [], []⟩ =
          (.ok report', after') ∧
        report.updated = report'.updated ∧
        ∀ place entry, after'.files.lookup place = some entry → after.files.lookup place = some entry := by
  have hfolder : (Notes.scaffolder "ViewModel").config.viewModelsFolder ≠ ".." := by decide
  refine ⟨Notes.found.validate, hfolder, ?_⟩
  rcases @scaffold_without (Notes.scaffolder "ViewModel") (Notes.request true) ⟨Notes.files, [], []⟩
      Notes.found.wellFormed Notes.generator_keepsForm Notes.found.validate hfolder with
    ⟨plan, settled, report, after, report', after', -, hwith, hwithout, -, -, -, hupdated, -, hadds, -, hclear⟩ |
    ⟨failure, after, after', hwith, -⟩
  case inl =>
    refine ⟨report, after, report', after', hwith, hwithout, hupdated, fun place entry hplace => ?_⟩
    exact (hadds.kept place entry hplace).resolve_right (hclear Notes.found.noWayUp place)
  case inr =>
    obtain ⟨viewModel, hviewModel⟩ : ∃ viewModel, (Notes.scaffolder "ViewModel").viewModelPlanned
        (Notes.request true) Notes.root ⟨"/proj/Views"⟩ = .ok viewModel := ⟨_, rfl⟩
    obtain ⟨report, after, hrun, -⟩ := Notes.scaffolded hviewModel
    cases (Prod.mk.inj (hrun.symm.trans hwith)).1

/-- A view-model that is named by a way up loses the notes, which are there without it. -/
theorem scaffold_without_loses_notes :
    Notes.files.WellFormed ∧ Notes.generator.KeepsForm ∧
      (Notes.scaffolder "Model/../Notes").config.validate = .ok () ∧
      (Notes.scaffolder "Model/../Notes").config.viewModelsFolder ≠ ".." ∧
      ∃ report after report' after',
        ((Notes.scaffolder "Model/../Notes").scaffold (Notes.request true)).perform ⟨Notes.files, [], []⟩ =
          (.ok report, after) ∧
        ((Notes.scaffolder "Model/../Notes").scaffold (Notes.request false)).perform ⟨Notes.files, [], []⟩ =
          (.ok report', after') ∧
        after'.files.lookup ["proj", "ViewModels", "Notes.cs"] = some Notes.kept ∧
        after.files.lookup ["proj", "ViewModels", "Notes.cs"] ≠ some Notes.kept := by
  have hnone : (Notes.scaffolder "Model/../Notes").viewModelPlanned (Notes.request false) Notes.root
      ⟨"/proj/Views"⟩ = .ok none := rfl
  obtain ⟨report, after, hwith, hfiles⟩ := Notes.scaffolded Notes.found.planned_wayUp
  obtain ⟨report', after', hwithout, hfiles'⟩ := Notes.scaffolded hnone
  refine ⟨Notes.found.wellFormed, Notes.generator_keepsForm, Notes.found.validate_wayUp, by decide, report, after,
    report', after', hwith, hwithout, ?_, ?_⟩
  · rw [hfiles']
    exact Notes.found.left_alone
  · rw [hfiles]
    exact Notes.found.overwritten

end Scaffolder

end ComponentScaffold
