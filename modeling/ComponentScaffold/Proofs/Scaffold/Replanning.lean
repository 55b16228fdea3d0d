import ComponentScaffold.Proofs.Project.NewFolders
import ComponentScaffold.Proofs.Scaffold.Effect
import ComponentScaffold.Proofs.Scaffold.NewFolders

/-! # Planning again

A plan does not depend on whether the folder of the component is there yet. The folder lies straight below the
root of the project, so making it brings no detour, and what is new holds no file that would mark a root.

* **`Scaffolder.planned_below`** — where the folder of a plan lies.
* **`Scaffolder.planned_of_makeDirectories`** — when the folder was made, the plan is the same.
* **`Scaffolder.plan_again`** — both, as they are seen by one who plans, and by one who scaffolds. -/

namespace ComponentScaffold

namespace Scaffolder

section

variable {scaffolder : Scaffolder} {request : Request} {fs made : FileSystem} {plan : Plan}

/-- **The folder of a plan** lies straight below the root: its path goes on with names. -/
theorem planned_below (hfs : fs.WellFormed) (h : scaffolder.planned request fs = .ok plan) :
    plan.target.isAbsolute = true ∧ .parent ∉ plan.target.components ∧
      ∃ names : List String, plan.target.components = plan.root.path.components ++ names.map .name := by
  obtain ⟨-, htarget, ⟨start, hstart, hroot⟩, hnamespaces, -⟩ := planned_ok h
  have habs := FileSystem.isAbsolute_of_absolute htarget
  obtain ⟨hrootAbs, hparents⟩ := no_parents_of_located hfs hstart hroot
  obtain ⟨names, hnames, -⟩ := bind_eq_ok_iff.1 hnamespaces
  rw [Path.segmentsBelow_eq_ok_iff habs] at hnames
  refine ⟨habs, ?_, names, hnames⟩
  rw [hnames, List.mem_append, Path.parent_mem_components_iff hrootAbs, not_or]
  exact ⟨hparents, by simp⟩

/-- **When the folder of a plan was made**, the plan is the same. -/
theorem planned_of_makeDirectories (hfs : fs.WellFormed) (hstands : fs.StandsInFolder)
    (h : scaffolder.planned request fs = .ok plan) (hmade : fs.makeDirectories plan.target = (made, .ok ())) :
    scaffolder.planned request made = .ok plan := by
  obtain ⟨habs, hparents, -⟩ := planned_below hfs h
  rw [Path.parent_mem_components_iff habs] at hparents
  obtain ⟨hname, htarget, ⟨start, hstart, hroot⟩, hnamespaces, -⟩ := planned_ok h
  have hrun : FileSystem.MakesFolders plan.target fs made := .of_makeDirectories hfs habs hmade
  -- the search starts from a directory, and finds in it what it found before
  have hstartAbs := FileSystem.isAbsolute_of_absolute hstart
  obtain ⟨place, -, hplace, -⟩ := FileSystem.located_ok hroot
  have hdirectory := (FileSystem.isDirectory_iff hstartAbs).2 ⟨place, hplace⟩
  have hroot' := (FileSystem.located_of_gainsFolders hfs hrun.gainsFolders hstartAbs hplace).trans hroot
  calc scaffolder.planned request made
    _ = (scaffolder.viewModelPlanned request plan.root plan.target).map
          (scaffolder.planOf request plan.root plan.target plan.namespaces) :=
      planned_of_parts request hname (FileSystem.absolute_of_makeDirectories hfs hstands htarget hparents hmade)
        (hrun.absolute_of_isDirectory hfs hstands hstart hdirectory) hroot' hnamespaces
    _ = scaffolder.planned request fs := (planned_of_parts request hname htarget hstart hroot hnamespaces).symm
    _ = .ok plan := h

/-- What scaffolding reports of the component is what was planned for it. -/
theorem scaffold_planned {session after : Session} {report : ScaffoldReport}
    (hplan : scaffolder.planned request session.files = .ok plan)
    (h : (scaffolder.scaffold request).perform session = (.ok report, after)) :
    report.root = plan.root ∧ report.namespaces = plan.namespaces := by
  rcases scaffolder.perform_scaffold request session with
    ⟨plan', output, updated, settled, report', after', hcomponent, hscaffold, ⟨hroot, hnamespaces, -⟩, -⟩ |
      ⟨failure, settled, -, hscaffold⟩
  · obtain ⟨rfl, -⟩ : report = report' ∧ after = after' := by simpa using h.symm.trans hscaffold
    obtain rfl : plan = plan' := Except.ok.inj (hplan.symm.trans (component_ok hcomponent).1)
    exact ⟨hroot, hnamespaces⟩
  · cases (Prod.mk.inj (h.symm.trans hscaffold)).1

end

/-! ## A folder below a link

A project with a link to the folder of its views, and a window that is to go to a folder that is not there, by a
path that leads through the link. -/

namespace NewFolder

/-- The project. -/
def files : FileSystem := (FileSystem.empty 0 0o22).withEntries
  [(["proj", "App.csproj"], .file .empty), (["proj", "Ui"], .link ⟨"Views"⟩),
    (["proj", "Views"], .directory), (["proj"], .directory)]

/-- The window that is asked for. -/
def request : Request := ⟨.window, "Main", ⟨"proj/Ui/./Main/Parts"⟩, ⟨"proj"⟩, true⟩

/-- What is planned for its view-model. -/
def viewModel : ViewModelPlan :=
  ⟨"MainViewModel", ⟨"/proj/ViewModels/Main/Parts/MainViewModel.cs"⟩,
    .ofFull "App.ViewModels.Main.Parts.MainViewModel", ⟨"/proj/ViewModels"⟩⟩

/-- What is planned. -/
def plan : Plan :=
  (Notes.scaffolder "ViewModel").planOf request Notes.root ⟨"/proj/Views/Main/Parts"⟩
    (.ofFull "App.Views.Main.Parts.Main") (some viewModel)

theorem wellFormed : files.WellFormed := .of_places (by decide +kernel)

theorem standsInFolder : files.StandsInFolder := by
  intro place hplace
  have hcurrent : files.current? = some [] := by decide +kernel
  obtain rfl := Option.some.inj (hplace.symm.trans hcurrent)
  exact FileSystem.lookup_root _

theorem planned : (Notes.scaffolder "ViewModel").planned request files = .ok plan := by
  have hchildren : files.childNames ["proj"] = ["App.csproj", "Ui", "Views"] :=
    FileSystem.childNames_of_sorted (by decide +kernel) (by decide)
  have hroot : files.located (Notes.scaffolder "ViewModel").config.markers ⟨"/proj"⟩ = .ok Notes.root := by
    refine Notes.located_of_fileNames rfl ?_
    rw [FileSystem.fileNames, FileSystem.children, hchildren]
    decide +kernel
  have htarget : files.absolute request.target = .ok ⟨"/proj/Views/Main/Parts"⟩ := by decide +kernel
  have hstart : files.absolute request.searchRoot = .ok ⟨"/proj"⟩ := by decide +kernel
  have hnamespaces : Notes.root.namespaceOf ⟨"/proj/Views/Main/Parts"⟩ request.name =
      .ok (.ofFull "App.Views.Main.Parts.Main") := by decide +kernel
  have hviewModel : (Notes.scaffolder "ViewModel").viewModelPlanned request Notes.root ⟨"/proj/Views/Main/Parts"⟩ =
      .ok (some viewModel) := by decide +kernel
  rw [planned_of_parts request Notes.found.name htarget hstart hroot hnamespaces, hviewModel]
  rfl

end NewFolder

/-! ## The same plan -/

/-- **Planning does not depend on whether the folder is there**: it lies straight below the root, when it was made
the same request has the same plan, and what scaffolding reports of the component is what was planned. -/
theorem plan_again {scaffolder : Scaffolder} {request : Request} {session : Session} {plan : Plan}
    (hfs : session.files.WellFormed) (hstands : session.files.StandsInFolder)
    (h : ((scaffolder.plan request).perform session).1 = .ok plan) :
    plan.target.isAbsolute = true ∧ .current ∉ plan.target.components ∧ .parent ∉ plan.target.components ∧
      plan.root.path.components <+: plan.target.components ∧
      (∀ again : Session, session.files.makeDirectories plan.target = (again.files, .ok ()) →
        ((scaffolder.plan request).perform again).1 = .ok plan) ∧
      ∀ report after, (scaffolder.scaffold request).perform session = (.ok report, after) →
        report.root = plan.root ∧ report.namespaces = plan.namespaces := by
  obtain ⟨records, hperform⟩ := scaffolder.plan_computes request session
  rw [hperform] at h
  obtain ⟨habs, hparents, names, hnames⟩ := planned_below hfs h
  refine ⟨habs, Path.current_not_mem_components habs, hparents, ⟨_, hnames.symm⟩, fun again hmade => ?_,
    fun report after hscaffold => scaffold_planned h hscaffold⟩
  obtain ⟨records, hperform⟩ := scaffolder.plan_computes request again
  rw [hperform]
  exact planned_of_makeDirectories hfs hstands h hmade

/-- A window that goes to a new folder, by a relative path through a link, has the same plan when the folder was
made. -/
theorem plan_again_below_link :
    NewFolder.files.WellFormed ∧ NewFolder.files.StandsInFolder ∧
      (((Notes.scaffolder "ViewModel").plan NewFolder.request).perform ⟨NewFolder.files, [], []⟩).1 =
        .ok NewFolder.plan ∧
      NewFolder.files.exists? NewFolder.plan.target = false ∧
      ∃ made, NewFolder.files.makeDirectories NewFolder.plan.target = (made, .ok ()) ∧
        (((Notes.scaffolder "ViewModel").plan NewFolder.request).perform ⟨made, [], []⟩).1 = .ok NewFolder.plan := by
  have hplan : (((Notes.scaffolder "ViewModel").plan NewFolder.request).perform ⟨NewFolder.files, [], []⟩).1 =
      .ok NewFolder.plan := by
    obtain ⟨records, hperform⟩ := (Notes.scaffolder "ViewModel").plan_computes NewFolder.request
      ⟨NewFolder.files, [], []⟩
    rw [hperform]
    exact NewFolder.planned
  have hmade : NewFolder.files.makeDirectories NewFolder.plan.target =
      ((NewFolder.files.makeDirectories NewFolder.plan.target).1, .ok ()) :=
    Prod.ext rfl (by decide +kernel)
  obtain ⟨-, -, -, -, hagain, -⟩ := @plan_again _ _ ⟨NewFolder.files, [], []⟩ _ NewFolder.wellFormed
    NewFolder.standsInFolder hplan
  exact ⟨NewFolder.wellFormed, NewFolder.standsInFolder, hplan, by decide +kernel, _, hmade,
    hagain ⟨_, [], []⟩ hmade⟩

end Scaffolder

end ComponentScaffold
