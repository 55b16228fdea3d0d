import ComponentScaffold.Proofs.Scaffold.Component

/-! # What scaffolding changes

A component that was scaffolded has its files as the generator left them, but for the namespaces, and
nothing else that the generator left is changed. The one exception is a view-model whose path leads to a
file as soon as its folder is made.

* **`Scaffolder.scaffold_effect`** — the effect, and where it ends. -/

namespace ComponentScaffold

open ComponentScaffold.Action

/-- **Generated files that share nothing**: each is a regular file of its own place, and no two are one. -/
structure FileSystem.Generated (fs : FileSystem) (folder : Path) (files : List GeneratedFile)
    (place : GeneratedFile → Location) : Prop where
  /-- Each stands alone. -/
  alone : ∀ file ∈ files, fs.StandsAlone (folder.child file.fileName) (place file)
  /-- No two are one. -/
  distinct : files.Pairwise fun file other => place file ≠ place other

/-- **A generator that leaves file systems well-formed.** -/
def Generator.KeepsForm (generator : Generator) : Prop :=
  ∀ invocation fs, fs.WellFormed → (generator.perform invocation fs).files.WellFormed

namespace Scaffolder

/-- What the view-model of a plan overwrites, if it is created now. -/
def Overwritten (plan : Plan) (fs : FileSystem) (place : Location) : Prop :=
  ∃ viewModel, plan.viewModel = some viewModel ∧ fs.Overwrites viewModel.path place

/-- What the view-model of a plan may bring: its file, and directories on the way to it. -/
def Brought (plan : Plan) (after : FileSystem) (place : Location) (entry : Entry) : Prop :=
  ∃ viewModel, plan.viewModel = some viewModel ∧
    ((after.resolve viewModel.path .file = .ok (.entry place entry) ∧ ∃ bytes, entry = .file bytes) ∨
      ∃ above : Path, above.OnWayTo viewModel.path ∧
        after.resolve above .target = .ok (.entry place .directory) ∧ entry = .directory)

/-- **What a view-model adds** to a file system. -/
structure Adds (plan : Plan) (before after : FileSystem) : Prop where
  /-- Everything is kept but what is overwritten. -/
  kept : ∀ place entry, before.lookup place = some entry →
    after.lookup place = some entry ∨ Overwritten plan before place
  /-- What is new comes with the view-model. -/
  brought : ∀ place entry, after.lookup place = some entry → before.lookup place = none →
    Brought plan after place entry
  /-- A file that is overwritten ends up as the text of the view-model. -/
  overwritten : ∀ place old, before.lookup place = some (.file old) → Overwritten plan before place →
    ∃ viewModel text, plan.viewModel = some viewModel ∧ viewModel.GivesText text ∧
      after.lookup place = some (.file text.toUTF8)

/-- **What becomes of what a generator left**, of which the namespaces are written first and the view-model
is created last. -/
structure Effect (plan : Plan) (files : List GeneratedFile) (place : GeneratedFile → Location)
    (left settled after : FileSystem) : Prop where
  /-- A file that holds a namespace has it between its markers. -/
  filled : ∀ file ∈ files, ∀ token, file.token = some token → ∃ old new : String,
    left.lookup (place file) = some (.file old.toUTF8) ∧ token.Fills plan.namespaces old new ∧
      (after.lookup (place file) = some (.file new.toUTF8) ∨ Overwritten plan settled (place file))
  /-- Everything else is what it was. -/
  kept : ∀ other entry, left.lookup other = some entry →
    (∀ file ∈ files, file.token ≠ none → other ≠ place file) →
      after.lookup other = some entry ∨ Overwritten plan settled other
  /-- What is new comes with the view-model. -/
  brought : ∀ other entry, after.lookup other = some entry → left.lookup other = none →
    Brought plan after other entry
  /-- A file that is overwritten ends up as the text of the view-model. -/
  overwritten : ∀ other old, settled.lookup other = some (.file old) → Overwritten plan settled other →
    ∃ viewModel text, plan.viewModel = some viewModel ∧ viewModel.GivesText text ∧
      after.lookup other = some (.file text.toUTF8)

/-- The paths of a plan are absolute. -/
theorem isAbsolute_of_planned {scaffolder : Scaffolder} {request : Request} {fs : FileSystem} {plan : Plan}
    (hfs : fs.WellFormed) (h : scaffolder.planned request fs = .ok plan) :
    plan.target.isAbsolute = true ∧ plan.root.path.isAbsolute = true ∧ ".." ∉ plan.root.path.names ∧
      ∀ viewModel, plan.viewModel = some viewModel → viewModel.path.isAbsolute = true ∧
        planViewModel scaffolder.config plan.root plan.target request.name = .ok viewModel := by
  obtain ⟨-, htarget, ⟨start, hstart, hroot⟩, -, hviewModel⟩ := planned_ok h
  have htargetAbs := FileSystem.isAbsolute_of_absolute htarget
  obtain ⟨hrootAbs, hparents⟩ := no_parents_of_located hfs hstart hroot
  refine ⟨htargetAbs, hrootAbs, hparents, fun viewModel hsome => ?_⟩
  unfold viewModelPlanned at hviewModel
  rw [hsome] at hviewModel
  split at hviewModel
  case isTrue =>
    cases hplan : planViewModel scaffolder.config plan.root plan.target request.name with
    | error fault => rw [hplan] at hviewModel; cases hviewModel
    | ok viewModel' =>
      rw [hplan] at hviewModel
      obtain rfl := Option.some.inj (Except.ok.inj hviewModel)
      exact ⟨isAbsolute_of_planViewModel hrootAbs hplan, rfl⟩
  case isFalse => cases Except.ok.inj hviewModel

/-- What is done for a view-model adds it. -/
theorem Furnishes.adds {plan : Plan} {before after : FileSystem} (h : Furnishes plan before after)
    (hbefore : before.WellFormed)
    (habs : ∀ viewModel, plan.viewModel = some viewModel → viewModel.path.isAbsolute = true) :
    Adds plan before after := by
  unfold Furnishes at h
  split at h
  case h_1 hnone =>
    subst h
    refine ⟨fun place entry hplace => .inl hplace, fun place entry hplace hfree => ?_, ?_⟩
    · rw [hfree] at hplace
      cases hplace
    · rintro place old - ⟨viewModel, hviewModel, -⟩
      rw [hnone] at hviewModel
      cases hviewModel
  case h_2 viewModel hviewModel =>
    have habs := habs viewModel hviewModel
    refine ⟨fun place entry hplace => ?_, fun place entry hplace hfree => ?_, ?_⟩
    · exact (h.creates.keeps hbefore habs hplace).imp_right fun hover => ⟨viewModel, hviewModel, hover⟩
    · exact ⟨viewModel, hviewModel, h.creates.gains hbefore habs hplace hfree⟩
    · rintro place old hplace ⟨viewModel', hviewModel', hover⟩
      obtain rfl := Option.some.inj (hviewModel.symm.trans hviewModel')
      obtain ⟨text, htext, hafter⟩ := h.overwrites hbefore habs place old hplace hover
      exact ⟨viewModel, text, hviewModel, htext, hafter⟩

/-- What a generator leaves for a plan is well-formed. -/
theorem leaves_wellFormed {scaffolder : Scaffolder} {plan : Plan} {fs : FileSystem} (hfs : fs.WellFormed)
    (hgenerator : scaffolder.generator.KeepsForm) (htarget : plan.target.isAbsolute = true) (request : Request) :
    (scaffolder.generator.leaves (invocation request plan) (fs.makeDirectories plan.target).1).WellFormed :=
  (hgenerator _ _ ((FileSystem.makeDirectories_makes hfs htarget).wellFormed hfs)).standing _

/-- It stays so with the namespaces, also where one cannot be written. -/
theorem wellFormed_of_setNamespaces {folder : Path} {namespaces : NamespacePair} {files : List GeneratedFile}
    {left after : Session} {outcome : Except Failure (List Path)} (hleft : left.files.WellFormed)
    (habs : folder.isAbsolute = true)
    (h : (setNamespaces folder namespaces files).perform left = (outcome, after)) : after.files.WellFormed := by
  have hkeeps := (setNamespaces_moves habs namespaces files left).1 hleft
  rwa [h] at hkeeps

/-- **Carrying out a plan leaves a file system well-formed**, also where it fails. -/
theorem carryOut_keepsForm {scaffolder : Scaffolder} {request : Request} {plan : Plan}
    {session after : Session} {outcome : Except Failure (GeneratorOutput × List Path)}
    (hfs : session.files.WellFormed) (hgenerator : scaffolder.generator.KeepsForm)
    (htarget : plan.target.isAbsolute = true)
    (h : (scaffolder.carryOut request plan).perform session = (outcome, after)) : after.files.WellFormed := by
  have hleft {made : FileSystem} {outcome : Except Failure GeneratorOutput} {left : Session}
      (hgenerates : scaffolder.Generates request plan session made outcome left) : left.files.WellFormed := by
    have hform := leaves_wellFormed hfs hgenerator htarget request
    rw [hgenerates.makes] at hform
    exact hgenerates.leaves ▸ hform
  cases carriesOut_of_carryOut h with
  | noFolder hmake =>
    have hmade := (FileSystem.makeDirectories_makes hfs htarget).wellFormed hfs
    rwa [hmake] at hmade
  | notGenerated hgenerates => exact hleft hgenerates
  | unfilled hgenerates hset => exact wellFormed_of_setNamespaces (hleft hgenerates) htarget hset
  | done hgenerates hset => exact wellFormed_of_setNamespaces (hleft hgenerates) htarget hset

/-- **What is done for a component leaves a file system well-formed**, also where it fails. -/
theorem component_keepsForm {scaffolder : Scaffolder} {request : Request} {session settled : Session}
    {outcome : Except Failure (Plan × GeneratorOutput × List Path)} (hfs : session.files.WellFormed)
    (hgenerator : scaffolder.generator.KeepsForm)
    (h : (scaffolder.component request).perform session = (outcome, settled)) : settled.files.WellFormed := by
  obtain ⟨records, hplan⟩ := scaffolder.plan_computes request session
  rw [component, perform_bind, hplan] at h
  cases hplanned : scaffolder.planned request session.files with
  | error failure =>
    rw [hplanned] at h
    obtain ⟨-, rfl⟩ := Prod.mk.inj h
    exact hfs
  | ok plan =>
    rw [hplanned] at h
    simp only [perform_bind] at h
    cases hcarry : (scaffolder.carryOut request plan).perform { session with records := records } with
    | mk carried after =>
      have hform : after.files.WellFormed := @carryOut_keepsForm _ request _ { session with records := records } _ _
        hfs hgenerator (isAbsolute_of_planned hfs hplanned).1 hcarry
      rw [hcarry] at h
      cases carried with
      | error _ | ok _ =>
        obtain ⟨-, rfl⟩ := Prod.mk.inj h
        exact hform

/-- **Scaffolding leaves a file system well-formed**, also where it fails. -/
theorem scaffold_keepsForm {scaffolder : Scaffolder} {request : Request} {session : Session}
    (hfs : session.files.WellFormed) (hgenerator : scaffolder.generator.KeepsForm) :
    ((scaffolder.scaffold request).perform session).2.files.WellFormed := by
  rcases scaffolder.perform_scaffold request session with
    ⟨plan, _, _, settled, _, after, hcomponent, hscaffold, -, hfurnishes, -⟩ |
    ⟨_, settled, hcomponent, hscaffold⟩
  · have hsettled := component_keepsForm hfs hgenerator hcomponent
    rw [hscaffold]
    unfold Furnishes at hfurnishes
    split at hfurnishes
    case h_1 => rwa [hfurnishes]
    case h_2 viewModel hviewModel =>
      obtain ⟨-, -, -, hviewModels⟩ := isAbsolute_of_planned hfs (component_ok hcomponent).1
      exact hfurnishes.creates.wellFormed hsettled (hviewModels viewModel hviewModel).1
  · rw [hscaffold]
    exact component_keepsForm hfs hgenerator hcomponent

/-- **Where the namespaces were written and the view-model was created**, this is what became of what the
generator left. -/
theorem effect_of_adds {plan : Plan} {files : List GeneratedFile} {place : GeneratedFile → Location}
    {left settled : Session} {after : FileSystem} {updated : List Path}
    (htarget : plan.target.isAbsolute = true) (hstep : ∀ file ∈ files, Path.IsStep file.fileName)
    (hleft : left.files.WellFormed)
    (hset : (setNamespaces plan.target plan.namespaces files).perform left = (.ok updated, settled))
    (hadds : Adds plan settled.files after) (h : left.files.Generated plan.target files place) :
    Effect plan files place left.files settled.files after := by
  obtain ⟨hfilled, hkept⟩ := setNamespaces_effect hleft htarget hstep h.alone h.distinct hset
  refine ⟨fun file hfile token htoken => ?_, fun other entry hother hnot => ?_,
    fun other entry hother hnone => ?_, hadds.overwritten⟩
  · obtain ⟨old, new, hold, hnew, hfills⟩ := hfilled file hfile token htoken
    exact ⟨old, new, hold, hfills, hadds.kept _ _ hnew⟩
  · exact hadds.kept _ _ ((hkept other hnot).trans hother)
  · refine hadds.brought _ _ hother ?_
    rw [hkept other fun file hfile htoken => ?_, hnone]
    rintro rfl
    obtain ⟨token, htoken⟩ := Option.ne_none_iff_exists'.1 htoken
    obtain ⟨old, -, hold, -⟩ := hfilled file hfile token htoken
    rw [hnone] at hold
    cases hold

/-- Nothing is overwritten where the configuration names no step up. -/
theorem not_overwritten {scaffolder : Scaffolder} {request : Request} {before fs : FileSystem} {plan : Plan}
    (hbefore : before.WellFormed) (hfs : fs.WellFormed) (hvalid : scaffolder.config.validate = .ok ())
    (hfolder : scaffolder.config.viewModelsFolder ≠ "..")
    (hsuffix : ".." ∉ (⟨scaffolder.config.viewModelSuffix⟩ : Path).pieces)
    (h : scaffolder.planned request before = .ok plan) (place : Location) : ¬Overwritten plan fs place := by
  rintro ⟨viewModel, hviewModel, hover⟩
  obtain ⟨-, -, hparents, hviewModels⟩ := isAbsolute_of_planned hbefore h
  obtain ⟨habs, hplan⟩ := hviewModels viewModel hviewModel
  exact FileSystem.not_overwrites hfs habs (no_parents_of_planViewModel hvalid hparents
    (planned_ok h).1 hfolder hsuffix hplan) place hover

/-! ## A project with notes

A project in which a text is kept by hand where view-models go, and a generator of windows. -/

namespace Notes

/-- What is kept by hand. -/
def kept : Entry := .file "// kept by hand\n".toUTF8

/-- The project. -/
def files : FileSystem := (FileSystem.empty 0 0o22).withEntries
  [(["proj", "App.csproj"], .file .empty),
    (["proj", "ViewModels", "Notes.cs"], kept),
    (["proj", "ViewModels"], .directory), (["proj", "Views"], .directory), (["proj"], .directory)]

/-- A generator that writes the two files of a window. -/
def generator : Generator where
  describe := Generator.plainDescription
  perform invocation fs :=
    let write (fs : FileSystem) (ending text : String) : FileSystem :=
      let file := invocation.directory.child (invocation.name ++ ending)
      if file.isAbsolute then (fs.writeBytes file text.toUTF8).toOption.getD fs else fs
    ⟨.ok ⟨"", "", false⟩, write (write fs ".axaml" "x:Class=\"T.Main\"") ".axaml.cs" "namespace T;\n", []⟩

/-- What scaffolds there, with an ending for the names of view-models. -/
def scaffolder (suffix : String) : Scaffolder :=
  ⟨{ Config.standard with viewModelSuffix := suffix }, generator⟩

/-- The window that is asked for. -/
def request (withViewModel : Bool) : Request :=
  ⟨.window, "Main", ⟨"/proj/Views"⟩, ⟨"/proj"⟩, withViewModel⟩

/-- The root that is found. -/
def root : ProjectRoot := ⟨⟨"/proj"⟩, false, "App"⟩

/-- What is planned. -/
def plan (suffix : String) (withViewModel : Bool) (viewModel : Option ViewModelPlan) : Plan :=
  (scaffolder suffix).planOf (request withViewModel) root ⟨"/proj/Views"⟩ (.ofFull "App.Views.Main") viewModel

/-- A file that is written where it can be keeps a file system well-formed. -/
theorem wellFormed_written {fs : FileSystem} (hfs : fs.WellFormed) (file : Path) (text : String) :
    (if file.isAbsolute then (fs.writeBytes file text.toUTF8).toOption.getD fs else fs).WellFormed := by
  split
  case isTrue habs =>
    cases hwritten : fs.writeBytes file text.toUTF8 with
    | error fault => exact hfs
    | ok written => exact (FileSystem.writeBytes_wellFormed hfs habs hwritten).1
  case isFalse => exact hfs

theorem generator_keepsForm : generator.KeepsForm :=
  fun _ _ hfs => wellFormed_written (wellFormed_written hfs _ _) _ _

/-- The session with the component and without its view-model. -/
def settled : Session :=
  (((scaffolder "").carryOut (request false) (plan "" false none)).perform ⟨files, [], []⟩).2

/-- The place of a generated file. -/
def place (file : GeneratedFile) : Location := ["proj", "Views", file.fileName]

/-- What the generator leaves. -/
def left : FileSystem :=
  generator.leaves ⟨ComponentKind.window.template, "Main", ⟨"/proj/Views"⟩⟩
    (files.makeDirectories ⟨"/proj/Views"⟩).1

/-- A view-model that is named by a way up. -/
def wayUp : ViewModelPlan :=
  ⟨"MainModel/../Notes", ⟨"/proj/ViewModels/MainModel/../Notes.cs"⟩, .ofFull "App.ViewModels.MainModel/../Notes",
    ⟨"/proj/ViewModels"⟩⟩

/-- What there is when the view-model of a plan was created, or was not. -/
def finished (plan : Plan) : FileSystem :=
  (((scaffolder "").finish plan ⟨"", "", false⟩
    [⟨"/proj/Views/Main.axaml"⟩, ⟨"/proj/Views/Main.axaml.cs"⟩]).perform settled).2.files

/-- **What is found in the project.** -/
structure Found : Prop where
  /-- Names are those of entries, and lie in directories. -/
  wellFormed : files.WellFormed
  /-- The root is the project's folder. -/
  located : files.located Config.standard.markers ⟨"/proj"⟩ = .ok root
  /-- Components can be named so. -/
  name : isComponentName "Main" = true
  /-- The folders are without detours. -/
  absolute : files.absolute ⟨"/proj"⟩ = .ok ⟨"/proj"⟩ ∧ files.absolute ⟨"/proj/Views"⟩ = .ok ⟨"/proj/Views"⟩
  /-- This is the namespace of the component. -/
  namespaces : root.namespaceOf ⟨"/proj/Views"⟩ "Main" = .ok (.ofFull "App.Views.Main")
  /-- The component is generated, and its files get the namespaces. -/
  outcome : (((scaffolder "").carryOut (request false) (plan "" false none)).perform ⟨files, [], []⟩).1 =
    .ok (⟨"", "", false⟩, [⟨"/proj/Views/Main.axaml"⟩, ⟨"/proj/Views/Main.axaml.cs"⟩])
  /-- The generated files share nothing. -/
  generated : left.Generated ⟨"/proj/Views"⟩ (ComponentKind.window.generatedFiles "Main") place
  /-- The notes are none of them. -/
  apart : ∀ file ∈ ComponentKind.window.generatedFiles "Main", ["proj", "ViewModels", "Notes.cs"] ≠ place file
  /-- The generator leaves the notes. -/
  notes : left.lookup ["proj", "ViewModels", "Notes.cs"] = some kept
  /-- View-models can be named as usual. -/
  validate : (scaffolder "ViewModel").config.validate = .ok ()
  /-- This names no way up. -/
  noWayUp : ".." ∉ (⟨"ViewModel"⟩ : Path).pieces
  /-- They can be named by a way up. -/
  validate_wayUp : (scaffolder "Model/../Notes").config.validate = .ok ()
  /-- This is then their plan. -/
  planned_wayUp : (scaffolder "Model/../Notes").viewModelPlanned (request true) root ⟨"/proj/Views"⟩ =
    .ok (some wayUp)
  /-- It ends at the notes. -/
  overwritten : (finished (plan "Model/../Notes" true (some wayUp))).lookup ["proj", "ViewModels", "Notes.cs"] ≠
    some kept
  /-- Without a view-model, the notes stay. -/
  left_alone : (finished (plan "Model/../Notes" false none)).lookup ["proj", "ViewModels", "Notes.cs"] = some kept

/-- The project's folder is the root wherever its file is there. -/
theorem located_of_fileNames {fs : FileSystem}
    (hresolve : fs.resolve ⟨"/proj"⟩ .name = .ok (.entry ["proj"] .directory))
    (hnames : fs.fileNames ["proj"] = ["App.csproj"]) :
    fs.located Config.standard.markers ⟨"/proj"⟩ = .ok root := by
  have hroot : Config.standard.markers.rootOf? ⟨"/proj"⟩ ["App.csproj"] = some root := by decide +kernel
  simp only [FileSystem.located, FileSystem.directoriesFrom, hresolve, List.findSome?_cons,
    FileSystem.openedRoot?_of_size (FileSystem.size_of_resolve hresolve), FileSystem.rootAt?, hnames, hroot]

/-- All of this is found. -/
theorem found : Found where
  wellFormed := .of_places (by decide +kernel)
  located := by
    have hchildren : files.childNames ["proj"] = ["App.csproj", "ViewModels", "Views"] :=
      FileSystem.childNames_of_sorted (by decide +kernel) (by decide)
    refine located_of_fileNames rfl ?_
    rw [FileSystem.fileNames, FileSystem.children, hchildren]
    decide +kernel
  name := by decide +kernel
  absolute := by decide +kernel
  namespaces := by decide +kernel
  outcome := by decide +kernel
  generated := by
    constructor
    · intro file hfile
      simp only [ComponentKind.generatedFiles, List.mem_cons, List.not_mem_nil, or_false] at hfile
      rcases hfile with rfl | rfl
      · have hresolve : left.resolve ⟨"/proj/Views/Main.axaml"⟩ .name =
            .ok (.entry ["proj", "Views", "Main.axaml"] (.file "x:Class=\"T.Main\"".toUTF8)) := rfl
        have hnumber : left.numberAt ["proj", "Views", "Main.axaml"] = some 6 := by decide +kernel
        exact .of_places hresolve hnumber (by decide) (by decide +kernel)
      · have hresolve : left.resolve ⟨"/proj/Views/Main.axaml.cs"⟩ .name =
            .ok (.entry ["proj", "Views", "Main.axaml.cs"] (.file "namespace T;\n".toUTF8)) := rfl
        have hnumber : left.numberAt ["proj", "Views", "Main.axaml.cs"] = some 7 := by decide +kernel
        exact .of_places hresolve hnumber (by decide) (by decide +kernel)
    · decide +kernel
  apart := by decide +kernel
  notes := by decide +kernel
  validate := by decide +kernel
  noWayUp := by decide +kernel
  validate_wayUp := by decide +kernel
  planned_wayUp := by decide +kernel
  overwritten := by decide +kernel
  left_alone := by decide +kernel

/-- With the usual markers, the window is planned like this. -/
theorem planned_of_markers {scaffolder : Scaffolder} {withViewModel : Bool} {viewModel : Option ViewModelPlan}
    (hmarkers : scaffolder.config.markers = Config.standard.markers)
    (h : scaffolder.viewModelPlanned (request withViewModel) root ⟨"/proj/Views"⟩ = .ok viewModel) :
    scaffolder.planned (request withViewModel) files = .ok (scaffolder.planOf (request withViewModel) root
      ⟨"/proj/Views"⟩ (.ofFull "App.Views.Main") viewModel) := by
  have hroot : files.located scaffolder.config.markers ⟨"/proj"⟩ = .ok root := by
    rw [hmarkers]
    exact found.located
  rw [planned_of_parts (request withViewModel) found.name found.absolute.2 found.absolute.1 hroot
    found.namespaces, h]
  rfl

theorem planned {suffix : String} {withViewModel : Bool} {viewModel : Option ViewModelPlan}
    (h : (scaffolder suffix).viewModelPlanned (request withViewModel) root ⟨"/proj/Views"⟩ = .ok viewModel) :
    (scaffolder suffix).planned (request withViewModel) files = .ok (plan suffix withViewModel viewModel) :=
  planned_of_markers rfl h

/-- Scaffolding succeeds, and the view-model is created where the component stands. -/
theorem scaffolded {suffix : String} {withViewModel : Bool} {viewModel : Option ViewModelPlan}
    (h : (scaffolder suffix).viewModelPlanned (request withViewModel) root ⟨"/proj/Views"⟩ = .ok viewModel) :
    ∃ report after, ((scaffolder suffix).scaffold (request withViewModel)).perform ⟨files, [], []⟩ =
        (.ok report, after) ∧ after.files = finished (plan suffix withViewModel viewModel) := by
  obtain ⟨-, report, after, -, -, hrun, -, hfiles⟩ := @scaffold_of_carryOut (scaffolder suffix) (request withViewModel)
    ⟨files, [], []⟩ settled _ ⟨"", "", false⟩ [⟨"/proj/Views/Main.axaml"⟩, ⟨"/proj/Views/Main.axaml.cs"⟩]
    (planned h) (Prod.ext found.outcome rfl)
  exact ⟨report, after, hrun, hfiles⟩

end Notes

/-! ## The effect -/

/-- **What scaffolding changes**: the generator is asked once, the namespaces are written into the files that
hold one, and everything else that the generator left is kept, unless the view-model overwrites it. -/
theorem scaffold_effect {scaffolder : Scaffolder} {request : Request} {session after : Session}
    {report : ScaffoldReport} (hfs : session.files.WellFormed) (hgenerator : scaffolder.generator.KeepsForm)
    (hvalid : scaffolder.config.validate = .ok ())
    (h : (scaffolder.scaffold request).perform session = (.ok report, after)) :
    ∃ plan left settled,
      (scaffolder.component request).perform session =
        (.ok (plan, report.output, report.updated), settled) ∧
      left = scaffolder.generator.leaves (invocation request plan)
        (session.files.makeDirectories plan.target).1 ∧
      after.invocations =
        session.invocations ++ [⟨request.kind.template, request.name, plan.target⟩] ∧
      report.updated = ((request.kind.generatedFiles request.name).filter (·.token.isSome)).map
        (fun file => plan.target.child file.fileName) ∧
      (∀ place, left.Generated plan.target (request.kind.generatedFiles request.name) place →
        Effect plan (request.kind.generatedFiles request.name) place left settled.files after.files) ∧
      (scaffolder.config.viewModelsFolder ≠ ".." →
        ".." ∉ (⟨scaffolder.config.viewModelSuffix⟩ : Path).pieces →
          ∀ place, ¬Overwritten plan settled.files place) := by
  rcases scaffolder.perform_scaffold request session with
    ⟨plan, output, updated, settled, report', after', hcomponent, hscaffold, ⟨-, -, rfl, rfl⟩, hfurnishes,
      hinvocations⟩ | ⟨failure, settled, -, hscaffold⟩
  case inr =>
    rw [h] at hscaffold
    cases (Prod.mk.inj hscaffold).1
  rw [h, Prod.mk.injEq, Except.ok.injEq] at hscaffold
  obtain ⟨rfl, rfl⟩ := hscaffold
  obtain ⟨hplanned, records, hcarry⟩ := component_ok hcomponent
  obtain ⟨left, hleft, hasked, hset⟩ := carryOut_ok hcarry
  obtain ⟨htarget, -, -, hviewModels⟩ := isAbsolute_of_planned hfs hplanned
  have hleftForm : left.files.WellFormed := hleft ▸ leaves_wellFormed hfs hgenerator htarget request
  have hsettledForm := wellFormed_of_setNamespaces hleftForm htarget hset
  have hsettled := (setNamespaces_moves htarget plan.namespaces
    (request.kind.generatedFiles request.name) left).2
  rw [hset] at hsettled
  refine ⟨plan, left.files, settled, hcomponent, hleft, ?_, setNamespaces_updated hset, fun place hplace => ?_,
    fun hfolder hsuffix => not_overwritten hfs hsettledForm hvalid hfolder hsuffix hplanned⟩
  · calc after.invocations
      _ = settled.invocations := hinvocations
      _ = left.invocations := hsettled
      _ = _ := hasked
  · exact effect_of_adds htarget
      (fun file hfile => isStep_of_mem_generatedFiles (planned_ok hplanned).1 hfile) hleftForm hset
      (hfurnishes.adds hsettledForm fun viewModel hsome => (hviewModels viewModel hsome).1) hplace

/-- In a project with notes, nothing is lost to a view-model that is named as usual. -/
theorem scaffold_keeps_notes :
    Notes.files.WellFormed ∧ Notes.generator.KeepsForm ∧
      (Notes.scaffolder "ViewModel").config.validate = .ok () ∧
      ∃ report after, ((Notes.scaffolder "ViewModel").scaffold (Notes.request true)).perform
          ⟨Notes.files, [], []⟩ = (.ok report, after) ∧
        after.invocations = [⟨ComponentKind.window.template, "Main", ⟨"/proj/Views"⟩⟩] ∧
        after.files.lookup ["proj", "ViewModels", "Notes.cs"] = some Notes.kept := by
  obtain ⟨viewModel, hviewModel⟩ : ∃ viewModel, (Notes.scaffolder "ViewModel").viewModelPlanned
      (Notes.request true) Notes.root ⟨"/proj/Views"⟩ = .ok viewModel := ⟨_, rfl⟩
  obtain ⟨report, after, hrun, -⟩ := Notes.scaffolded hviewModel
  obtain ⟨plan, left, settled, hcomponent, hleft, hasked, -, heffect, hclear⟩ :=
    scaffold_effect Notes.found.wellFormed Notes.generator_keepsForm Notes.found.validate hrun
  obtain rfl := Except.ok.inj ((Notes.planned hviewModel).symm.trans (component_ok hcomponent).1)
  refine ⟨Notes.found.wellFormed, Notes.generator_keepsForm, Notes.found.validate, report, after, hrun, hasked, ?_⟩
  obtain rfl : left = Notes.left := hleft
  refine ((heffect Notes.place Notes.found.generated).kept _ _ Notes.found.notes
    fun file hfile _ => Notes.found.apart file hfile).resolve_right ?_
  exact hclear (by decide) Notes.found.noWayUp _

/-- A view-model that is named by a way up overwrites the notes, which were there before the generator. -/
theorem scaffold_overwrites_notes :
    Notes.files.WellFormed ∧ Notes.generator.KeepsForm ∧
      (Notes.scaffolder "Model/../Notes").config.validate = .ok () ∧
      ∃ report after, ((Notes.scaffolder "Model/../Notes").scaffold (Notes.request true)).perform
          ⟨Notes.files, [], []⟩ = (.ok report, after) ∧
        Notes.left.Generated ⟨"/proj/Views"⟩ (ComponentKind.window.generatedFiles "Main") Notes.place ∧
        ∃ other entry, Notes.left.lookup other = some entry ∧
          (∀ file ∈ ComponentKind.window.generatedFiles "Main", other ≠ Notes.place file) ∧
          after.files.lookup other ≠ some entry := by
  obtain ⟨report, after, hrun, hfiles⟩ := Notes.scaffolded Notes.found.planned_wayUp
  refine ⟨Notes.found.wellFormed, Notes.generator_keepsForm, Notes.found.validate_wayUp, report, after, hrun,
    Notes.found.generated, ["proj", "ViewModels", "Notes.cs"], Notes.kept, Notes.found.notes, Notes.found.apart, ?_⟩
  rw [hfiles]
  exact Notes.found.overwritten

end Scaffolder

end ComponentScaffold
