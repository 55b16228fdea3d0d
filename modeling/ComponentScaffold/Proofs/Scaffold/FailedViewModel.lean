import ComponentScaffold.Proofs.Scaffold.Effect
import ComponentScaffold.Proofs.Scaffold.PlannedViewModel

/-! # What a view-model that failed leaves

A view-model that cannot be created is reported beside its component. Before its file is written, a failure
leaves its path as it was. A base class that cannot be read comes up only afterwards, and the file stays.

* **`ViewModelPlan.Leftover`** — what is left at the path, for each kind of failure.
* **`createViewModel_error`** — a failure leaves one of these.
* **`Scaffolder.scaffold_leftover`** — what scaffolding leaves that reports a failed view-model. -/

namespace ComponentScaffold

open ComponentScaffold.Action

namespace FileSystem

variable {fs written : FileSystem} {p : Path}

/-- A file that is written where nothing is found is what the path leads to. -/
theorem writeBytes_of_not_exists {bytes : ByteArray} (hfs : fs.WellFormed) (habs : p.isAbsolute = true)
    (h : fs.exists? p = false) (hwrite : fs.writeBytes p bytes = .ok written) :
    ∃ place, written.resolve p .file = .ok (.entry place (.file bytes)) ∧ written.WellFormed := by
  have hnothing := resolve_file_of_not_exists habs h
  rcases writeBytes_ok hwrite with ⟨place, old, hresolve, -⟩ | ⟨place, held, hresolve, -⟩ |
    ⟨place, device, hresolve, -⟩ | ⟨directory, name, slashed, hresolve, -⟩
  · exact absurd hresolve (hnothing _ _)
  · exact absurd hresolve (hnothing _ _)
  · exact absurd hresolve (hnothing _ _)
  · obtain ⟨-, -, hform, hleads⟩ := writeBytes_of_vacant hfs habs hresolve hwrite
    exact ⟨_, hleads, hform⟩

end FileSystem

/-- **What is left at the path of a view-model** that could not be created. -/
inductive ViewModelPlan.Leftover (plan : ViewModelPlan) (baseFile : String) (before after : FileSystem) :
    Failure → Prop
  /-- Something was there, and nothing was changed. -/
  | taken : before.exists? plan.path = true → after = before →
    Leftover plan baseFile before after (.io (.taken plan.path))
  /-- Nothing was there, and nothing is: its folder or its file could not be made. -/
  | missing {fault} : before.exists? plan.path = false → after.exists? plan.path = false →
    Leftover plan baseFile before after (.io (.system fault))
  /-- Nothing was there, and its file is left without a base class, as there is no giving it one. -/
  | unfinished {filled place failure} : before.exists? plan.path = false →
    NamespaceToken.codeNamespace.Fills plan.namespaces (viewModelSource plan.className) filled →
    after.resolve plan.path .target = .ok (.entry place (.file filled.toUTF8)) →
    after.CannotInherit (plan.baseFolder.child baseFile) plan.className filled failure →
    Leftover plan baseFile before after failure

/-- In its folder, a view-model that fails where nothing is found leaves nothing, or lacks its base class. -/
theorem writeViewModel_error {baseFile : String} {plan : ViewModelPlan} {session after : Session}
    {before : FileSystem} {failure : Failure} (hfs : session.files.WellFormed) (habs : plan.path.isAbsolute = true)
    (hbefore : before.exists? plan.path = false) (hnothing : session.files.exists? plan.path = false)
    (h : (writeViewModel baseFile plan).perform session = (.error failure, after)) :
    plan.Leftover baseFile before after.files failure := by
  cases hwrite : session.files.writeBytes plan.path (viewModelSource plan.className).toUTF8 with
  | error fault =>
    have hrefused : (Action.writeText plan.path (viewModelSource plan.className)).perform session =
        (.error (.io (.system fault)), session) := by rw [perform_writeText, hwrite]
    rw [writeViewModel, perform_bind, hrefused, Prod.mk.injEq, Except.error.injEq] at h
    obtain ⟨rfl, rfl⟩ := h
    exact .missing hbefore hnothing
  | ok files =>
    -- in the fresh source the namespace finds its markers, so only the base class can fail from here on
    obtain ⟨place, hsource, hform⟩ := FileSystem.writeBytes_of_not_exists hfs habs hnothing hwrite
    obtain ⟨written, hwritten, rfl⟩ : ∃ written : Session,
        (Action.writeText plan.path (viewModelSource plan.className)).perform session = (.ok (), written) ∧
          written.files = files := ⟨{ session with files }, by rw [perform_writeText, hwrite], rfl⟩
    obtain ⟨filled, named, hfilled, hnamed, hrun⟩ := perform_writeViewModel baseFile hwritten hsource
    have hleads := (FileSystem.rewrite_of_file hform habs hsource filled.toUTF8).2.1
    rw [← hnamed] at hleads
    rw [hrun] at h
    rcases perform_bind_error h with hinject | ⟨_, _, -, hdone⟩
    · obtain ⟨hfiles, hcannot⟩ := injectBaseClass_error hleads hinject
      rw [← hfiles] at hleads hcannot
      exact .unfinished hbefore hfilled (FileSystem.resolve_target hleads (by simp)) hcannot
    · cases (Prod.mk.inj hdone).1

/-- **A view-model that cannot be created**, at a path without steps up, leaves its path as it was or lacks only
its base class. -/
theorem createViewModel_error {baseFile : String} {plan : ViewModelPlan} {session after : Session}
    {failure : Failure} (hfs : session.files.WellFormed) (habs : plan.path.isAbsolute = true)
    (hparents : ".." ∉ plan.path.names)
    (h : (createViewModel baseFile plan).perform session = (.error failure, after)) :
    plan.Leftover baseFile session.files after.files failure := by
  rw [perform_createViewModel] at h
  split at h
  case isTrue htaken =>
    rw [Prod.mk.injEq, Except.error.injEq] at h
    obtain ⟨rfl, rfl⟩ := h
    exact .taken htaken rfl
  case isFalse hfree =>
    rw [Bool.not_eq_true] at hfree
    split at h
    case h_2 => exact writeViewModel_error hfs habs hfree hfree h
    case h_1 folder hup =>
      have hfolder := Path.isAbsolute_of_parent? habs hup
      rw [perform_bind, perform_makeDirectories] at h
      cases hmade : session.files.makeDirectories folder with
      | mk made outcome =>
        have hrun : FileSystem.MakesFolders folder session.files made := .of_makeDirectories hfs hfolder hmade
        rw [hmade] at h
        cases outcome with
        | error fault =>
          -- what leads to something has a folder, and that one is not there
          have hmissing : made.exists? plan.path = false := by
            refine (FileSystem.not_exists?_iff habs).2 fun place entry hplace => ?_
            have hnoFolder := FileSystem.not_isDirectory_of_makeDirectories hfs hfolder hmade
            rw [FileSystem.isDirectory_of_resolveAs habs hup hplace] at hnoFolder
            cases hnoFolder
          simp only [mapError_error, Prod.mk.injEq, Except.error.injEq] at h
          obtain ⟨rfl, rfl⟩ := h
          exact .missing hfree hmissing
        | ok _ =>
          have hmissing : made.exists? plan.path = false := by
            refine (FileSystem.not_exists?_iff habs).2 fun place entry => ?_
            exact FileSystem.not_resolve_of_makeDirectories hfs habs hparents hup
              ((FileSystem.not_exists?_iff habs).1 hfree) hmade
          exact @writeViewModel_error _ _ { session with files := made } _ _ _ (hrun.wellFormed hfs) habs hfree
            hmissing h

/-- What a path leads to is the same in two file systems. -/
def FileSystem.SameAt (p : Path) (before after : FileSystem) : Prop :=
  ∀ place entry, before.resolve p .target = .ok (.entry place entry) ↔
    after.resolve p .target = .ok (.entry place entry)

/-- **The path is as it was** exactly if it is not the base class that the view-model failed for. -/
theorem ViewModelPlan.Leftover.sameAt_iff {plan : ViewModelPlan} {baseFile : String} {before after : FileSystem}
    {failure : Failure} (habs : plan.path.isAbsolute = true) (h : plan.Leftover baseFile before after failure) :
    FileSystem.SameAt plan.path before after ↔
      failure ≠ .io .notUtf8 ∧ failure ≠ .declarationNotFound plan.className := by
  cases h with
  | taken _ hsame =>
    subst hsame
    simp [FileSystem.SameAt]
  | missing hbefore hafter =>
    rw [FileSystem.not_exists?_iff habs] at hbefore hafter
    simp [FileSystem.SameAt, hbefore, hafter]
  | unfinished hbefore _ hleft hcannot =>
    rw [FileSystem.not_exists?_iff habs] at hbefore
    refine iff_of_false (fun hsame => hbefore _ _ ((hsame _ _).2 hleft)) ?_
    rcases hcannot.failure_eq with rfl | rfl <;> simp

namespace Scaffolder

/-! ## A base class that is no text

A project in which the file of the base class is there, but its bytes are not those of a text. -/

namespace Notes

/-- The project. -/
def encoded : FileSystem := (FileSystem.empty 0 0o22).withEntries
  [(["proj", "App.csproj"], .file .empty),
    (["proj", "ViewModels", "ViewModelBase.cs"], .file ⟨#[0xff]⟩),
    (["proj", "ViewModels"], .directory), (["proj", "Views"], .directory), (["proj"], .directory)]

/-- What is planned for the view-model. -/
def windowModel : ViewModelPlan :=
  ⟨"MainViewModel", ⟨"/proj/ViewModels/MainViewModel.cs"⟩, .ofFull "App.ViewModels.MainViewModel",
    ⟨"/proj/ViewModels"⟩⟩

/-- The session with the component and without its view-model. -/
def settledEncoded : Session :=
  (((scaffolder "ViewModel").carryOut (request true) (plan "ViewModel" true (some windowModel))).perform
    ⟨encoded, [], []⟩).2

/-- What comes of the view-model. -/
def finishedEncoded : Except Failure ScaffoldReport × Session :=
  ((scaffolder "ViewModel").finish (plan "ViewModel" true (some windowModel)) ⟨"", "", false⟩
    [⟨"/proj/Views/Main.axaml"⟩, ⟨"/proj/Views/Main.axaml.cs"⟩]).perform settledEncoded

/-- **What is found there.** -/
structure FoundEncoded : Prop where
  /-- Names are those of entries, and lie in directories. -/
  wellFormed : encoded.WellFormed
  /-- This is the plan. -/
  planned : (scaffolder "ViewModel").planned (request true) encoded =
    .ok (plan "ViewModel" true (some windowModel))
  /-- The component is generated, and its files get the namespaces. -/
  carried : ((scaffolder "ViewModel").carryOut (request true) (plan "ViewModel" true (some windowModel))).perform
    ⟨encoded, [], []⟩ =
      (.ok (⟨"", "", false⟩, [⟨"/proj/Views/Main.axaml"⟩, ⟨"/proj/Views/Main.axaml.cs"⟩]), settledEncoded)
  /-- There is no view-model. -/
  free : settledEncoded.files.exists? windowModel.path = false
  /-- It fails. -/
  failed : finishedEncoded.1.map (·.viewModelFailure) = .ok (some (.io .notUtf8))
  /-- It is there all the same. -/
  left : finishedEncoded.2.files.exists? windowModel.path = true

/-- All of this is found. -/
theorem foundEncoded : FoundEncoded where
  wellFormed := .of_places (by decide +kernel)
  planned := by
    have hchildren : encoded.childNames ["proj"] = ["App.csproj", "ViewModels", "Views"] :=
      FileSystem.childNames_of_sorted (by decide +kernel) (by decide)
    have hroot : encoded.located (scaffolder "ViewModel").config.markers ⟨"/proj"⟩ = .ok root := by
      refine located_of_fileNames rfl ?_
      rw [FileSystem.fileNames, FileSystem.children, hchildren]
      decide +kernel
    have htarget : encoded.absolute ⟨"/proj/Views"⟩ = .ok ⟨"/proj/Views"⟩ := by decide +kernel
    have hstart : encoded.absolute ⟨"/proj"⟩ = .ok ⟨"/proj"⟩ := by decide +kernel
    have hviewModel : (scaffolder "ViewModel").viewModelPlanned (request true) root ⟨"/proj/Views"⟩ =
        .ok (some windowModel) := by decide +kernel
    rw [planned_of_parts (request true) found.name htarget hstart hroot found.namespaces, hviewModel]
    rfl
  carried := Prod.ext (by decide +kernel) (by rw [settledEncoded])
  free := by decide +kernel
  failed := by decide +kernel
  left := by decide +kernel

/-- The component is scaffolded, and its view-model reported as failed. -/
theorem scaffoldedEncoded : ∃ settled report after,
    ((scaffolder "ViewModel").component (request true)).perform ⟨encoded, [], []⟩ =
      (.ok (plan "ViewModel" true (some windowModel), ⟨"", "", false⟩,
        [⟨"/proj/Views/Main.axaml"⟩, ⟨"/proj/Views/Main.axaml.cs"⟩]), settled) ∧
    settled.files = settledEncoded.files ∧
    ((scaffolder "ViewModel").scaffold (request true)).perform ⟨encoded, [], []⟩ = (.ok report, after) ∧
    report.viewModelFailure = some (.io .notUtf8) ∧ after.files = finishedEncoded.2.files := by
  obtain ⟨settled, report, after, hcomponent, hsettled, hrun, hreport, hafter⟩ :=
    @scaffold_of_carryOut (scaffolder "ViewModel") (request true) ⟨encoded, [], []⟩ settledEncoded _ ⟨"", "", false⟩
      [⟨"/proj/Views/Main.axaml"⟩, ⟨"/proj/Views/Main.axaml.cs"⟩] foundEncoded.planned foundEncoded.carried
  have hfailed := foundEncoded.failed
  rw [finishedEncoded] at hfailed ⊢
  rw [hreport] at hfailed
  exact ⟨settled, report, after, hcomponent, hsettled, hrun, Except.ok.inj hfailed, hafter⟩

end Notes

/-! ## What is left -/

/-- **What scaffolding leaves that reports a failed view-model**: where something was at its path, nothing is
changed any more; and where its path goes through no step up, the path is as it was, but for a base class that
cannot be read or does not fit. -/
theorem scaffold_leftover {scaffolder : Scaffolder} {request : Request} {session after : Session}
    {report : ScaffoldReport} {failure : Failure} (hfs : session.files.WellFormed)
    (hgenerator : scaffolder.generator.KeepsForm) (hvalid : scaffolder.config.validate = .ok ())
    (h : (scaffolder.scaffold request).perform session = (.ok report, after))
    (hfailure : report.viewModelFailure = some failure) :
    ∃ plan settled viewModel,
      (scaffolder.component request).perform session = (.ok (plan, report.output, report.updated), settled) ∧
      plan.viewModel = some viewModel ∧
      (settled.files.exists? viewModel.path = true →
        failure = .io (.taken viewModel.path) ∧ after.files = settled.files) ∧
      (".." ∉ (⟨scaffolder.config.viewModelSuffix⟩ : Path).pieces →
        viewModel.Leftover scaffolder.config.baseClassFile settled.files after.files failure ∧
        (FileSystem.SameAt viewModel.path settled.files after.files ↔
          failure ≠ .io .notUtf8 ∧ failure ≠ .declarationNotFound viewModel.className)) := by
  obtain ⟨plan, settled, hcomponent, hfinish⟩ := scaffold_ok h
  obtain ⟨-, -, hnone⟩ | ⟨viewModel, outcome, created, hviewModel, hcreate, hafter, -, houtcome⟩ := finish_ok hfinish
  · rw [hfailure] at hnone
    cases hnone
  obtain rfl := (houtcome failure).1 hfailure
  obtain ⟨hplanned, -⟩ := component_ok hcomponent
  obtain ⟨-, hroot, hparents, hviewModels⟩ := isAbsolute_of_planned hfs hplanned
  obtain ⟨habs, hplan⟩ := hviewModels viewModel hviewModel
  have hsettled := component_keepsForm hfs hgenerator hcomponent
  refine ⟨plan, settled, viewModel, hcomponent, hviewModel, fun htaken => ?_, fun hsuffix => ?_⟩
  · rw [perform_createViewModel, if_pos htaken, Prod.mk.injEq, Except.error.injEq] at hcreate
    obtain ⟨rfl, rfl⟩ := hcreate
    exact ⟨rfl, hafter⟩
  · have hfolder : scaffolder.config.viewModelsFolder ≠ ".." := by
      intro hfolder
      obtain ⟨way, hway⟩ := planViewModel_of_parent hroot hfolder (planned_ok hplanned).2.2.2.1
      rw [hplan] at hway
      cases hway
    have hnames := no_parents_of_planViewModel hvalid hparents (planned_ok hplanned).1 hfolder hsuffix
      hplan
    have hleftover := createViewModel_error hsettled habs hnames hcreate
    rw [← hafter] at hleftover
    exact ⟨hleftover, hleftover.sameAt_iff habs⟩

/-- Where the base class is no text, the view-model is left as it was written first. -/
theorem scaffold_leftover_encoded :
    Notes.encoded.WellFormed ∧ Notes.generator.KeepsForm ∧
      (Notes.scaffolder "ViewModel").config.validate = .ok () ∧
      ∃ report after, ((Notes.scaffolder "ViewModel").scaffold (Notes.request true)).perform
          ⟨Notes.encoded, [], []⟩ = (.ok report, after) ∧
        report.viewModelFailure = some (.io .notUtf8) ∧
        ∃ plan settled viewModel,
          ((Notes.scaffolder "ViewModel").component (Notes.request true)).perform ⟨Notes.encoded, [], []⟩ =
            (.ok (plan, report.output, report.updated), settled) ∧
          plan.viewModel = some viewModel ∧
          ¬FileSystem.SameAt viewModel.path settled.files after.files := by
  obtain ⟨-, report, after, -, -, hrun, hfailure, -⟩ := Notes.scaffoldedEncoded
  obtain ⟨plan, settled, viewModel, hcomponent, hviewModel, -, hleft⟩ :=
    scaffold_leftover Notes.foundEncoded.wellFormed Notes.generator_keepsForm Notes.found.validate hrun hfailure
  refine ⟨Notes.foundEncoded.wellFormed, Notes.generator_keepsForm, Notes.found.validate, report, after, hrun,
    hfailure, plan, settled, viewModel, hcomponent, hviewModel, fun hsame => ?_⟩
  exact ((hleft Notes.found.noWayUp).2.1 hsame).1 rfl

/-- **A view-model that is reported as failed**, and is there where nothing was before. -/
theorem scaffold_leaves_unfinished :
    Notes.encoded.WellFormed ∧ Notes.generator.KeepsForm ∧
      (Notes.scaffolder "ViewModel").config.validate = .ok () ∧
      ∃ plan output updated settled viewModel report after,
        ((Notes.scaffolder "ViewModel").component (Notes.request true)).perform ⟨Notes.encoded, [], []⟩ =
          (.ok (plan, output, updated), settled) ∧
        plan.viewModel = some viewModel ∧
        ((Notes.scaffolder "ViewModel").scaffold (Notes.request true)).perform ⟨Notes.encoded, [], []⟩ =
          (.ok report, after) ∧
        report.viewModelFailure = some (.io .notUtf8) ∧
        settled.files.exists? viewModel.path = false ∧ after.files.exists? viewModel.path = true := by
  obtain ⟨settled, report, after, hcomponent, hsettled, hrun, hfailure, hafter⟩ := Notes.scaffoldedEncoded
  refine ⟨Notes.foundEncoded.wellFormed, Notes.generator_keepsForm, Notes.found.validate, _, _, _, settled,
    Notes.windowModel, report, after, hcomponent, rfl, hrun, hfailure, ?_, ?_⟩
  · rw [hsettled]
    exact Notes.foundEncoded.free
  · rw [hafter]
    exact Notes.foundEncoded.left

end Scaffolder

end ComponentScaffold
