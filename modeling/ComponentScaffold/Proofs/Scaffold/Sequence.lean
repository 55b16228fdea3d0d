import ComponentScaffold.Proofs.Scaffold.OwnFiles

/-! # One scaffolding after another

What later scaffoldings leave of a component. They touch the own places of their components and what their
view-models overwrite, and nothing else; so a component that goes by a folder and a name of its own keeps its
files, but for what a view-model overwrites that is named by a way up.

* **`Scaffolding.afterAll_touches`** — what a sequence of scaffoldings touches.
* **`Scaffolding.not_overwrittenBy`** — when nothing is overwritten.
* **`Scaffolding.component_stands`** — what becomes of a component in the midst of others. -/

namespace ComponentScaffold

/-- **A scaffolding**: who scaffolds, and what is asked for. -/
structure Scaffolding where
  /-- Who scaffolds. -/
  scaffolder : Scaffolder
  /-- What is asked for. -/
  request : Request

namespace Scaffolding

/-- The outcome of a scaffolding and the session after it. -/
def outcome (scaffolding : Scaffolding) (session : Session) : Except Failure ScaffoldReport × Session :=
  (scaffolding.scaffolder.scaffold scaffolding.request).perform session

/-- The session after a scaffolding, which may have failed. -/
def after (scaffolding : Scaffolding) (session : Session) : Session := (scaffolding.outcome session).2

/-- The session after a sequence of them. -/
def afterAll (sequence : List Scaffolding) (session : Session) : Session :=
  sequence.foldl (fun session scaffolding => scaffolding.after session) session

/-- **What each is aimed at**: the folder that its component is to go to, as it is found when its turn comes, and
the name of the component. One whose folder cannot be told is aimed at nothing. -/
def aims : List Scaffolding → Session → List (Path × String)
  | [], _ => []
  | scaffolding :: later, session =>
    ((session.files.absolute scaffolding.request.target).toOption.map (·, scaffolding.request.name)).toList ++
      aims later (scaffolding.after session)

/-- **What a sequence overwrites**: the view-model of one leads there once its folder is made. -/
def OverwrittenBy : List Scaffolding → Session → Location → Prop
  | [], _, _ => False
  | scaffolding :: later, session, place =>
    scaffolding.scaffolder.Overwrites scaffolding.request session place ∨
      OverwrittenBy later (scaffolding.after session) place

/-- A place that is the own one of a component that is aimed at. -/
def Aimed (sequence : List Scaffolding) (session : Session) (place : Location) : Prop :=
  ∃ aim ∈ aims sequence session, isComponentName aim.2 = true ∧ Owned aim.1 aim.2 place

variable {sequence earlier later : List Scaffolding} {scaffolding : Scaffolding} {session : Session}

@[simp] theorem afterAll_nil (session : Session) : afterAll [] session = session := rfl

@[simp] theorem afterAll_cons (scaffolding : Scaffolding) (later : List Scaffolding) (session : Session) :
    afterAll (scaffolding :: later) session = afterAll later (scaffolding.after session) := rfl

/-- One sequence after another is aimed at what both are. -/
theorem aims_append (earlier later : List Scaffolding) (session : Session) :
    aims (earlier ++ later) session = aims earlier session ++ aims later (afterAll earlier session) := by
  induction earlier generalizing session with
  | nil => rfl
  | cons scaffolding rest ih =>
    rw [List.cons_append, aims, aims, ih, List.append_assoc]
    rfl

/-- **A sequence of scaffoldings touches** the own places of its components and what it overwrites, whether or not
they succeed. -/
theorem afterAll_touches (hfs : session.files.Linkless)
    (hgenerators : ∀ scaffolding ∈ sequence, scaffolding.scaffolder.generator.WritesGenerated) :
    session.files.Touches (fun place => Aimed sequence session place ∨ OverwrittenBy sequence session place)
      (afterAll sequence session).files := by
  induction sequence generalizing session with
  | nil => exact .refl _ hfs
  | cons scaffolding later ih =>
    obtain ⟨hgenerator, hlaterGenerators⟩ := List.forall_mem_cons.1 hgenerators
    -- what the first leaves has no links either, and this carries the induction
    have hfirst := scaffolding.scaffolder.scaffold_touches hfs hgenerator scaffolding.request
    have hlater := @ih (scaffolding.after session) hfirst.linkless hlaterGenerators
    refine (hfirst.mono fun place htouched => ?_).trans (hlater.mono fun place htouched => ?_)
    · rcases htouched with ⟨hname, target, htarget, howned⟩ | hover
      · refine .inl ⟨(target, scaffolding.request.name), List.mem_append_left _ ?_, hname, howned⟩
        rw [htarget]
        exact List.mem_singleton_self _
      · exact .inr (.inl hover)
    · rcases htouched with ⟨aim, haim, howned⟩ | hover
      · exact .inl ⟨aim, List.mem_append_right _ haim, howned⟩
      · exact .inr (.inr hover)

/-- **What is a component's own stays** while none is aimed at the component, unless a view-model overwrites it. -/
theorem stays_of_not_aimed {target : Path} {name : String} {place : Location} {entry : Entry}
    (hfs : session.files.Linkless)
    (hgenerators : ∀ scaffolding ∈ sequence, scaffolding.scaffolder.generator.WritesGenerated)
    (hname : isComponentName name = true) (hown : Owned target name place)
    (hapart : (target, name) ∉ aims sequence session) (h : session.files.lookup place = some entry) :
    (afterAll sequence session).files.lookup place = some entry ∨ OverwrittenBy sequence session place := by
  refine ((afterAll_touches hfs hgenerators).kept h).imp_right (Or.resolve_left · ?_)
  rintro ⟨aim, haim, haimName, howned⟩
  exact hapart (eq_of_owned hname haimName hown howned ▸ haim)

/-- **Nothing is overwritten** by view-models that are not named by ways up. -/
theorem not_overwrittenBy (hfs : session.files.Linkless)
    (hgenerators : ∀ scaffolding ∈ sequence, scaffolding.scaffolder.generator.WritesGenerated)
    (hsuffixes : ∀ scaffolding ∈ sequence,
      ".." ∉ (⟨scaffolding.scaffolder.config.viewModelSuffix⟩ : Path).pieces) (place : Location) :
    ¬OverwrittenBy sequence session place := by
  induction sequence generalizing session with
  | nil => exact id
  | cons scaffolding later ih =>
    obtain ⟨hgenerator, hlaterGenerators⟩ := List.forall_mem_cons.1 hgenerators
    obtain ⟨hsuffix, hlaterSuffixes⟩ := List.forall_mem_cons.1 hsuffixes
    have hfirst := scaffolding.scaffolder.scaffold_touches hfs hgenerator scaffolding.request
    rintro (⟨plan, output, updated, settled, hcomponent, hover⟩ | hlater)
    · -- planned before the component, but judged where the component stands
      have hsettled := scaffolding.scaffolder.component_touches hfs hgenerator scaffolding.request
      rw [hcomponent] at hsettled
      exact scaffolding.scaffolder.not_overwritten_of_planned hfs.toWellFormed hsettled.linkless.toWellFormed hsuffix
        (Scaffolder.component_ok hcomponent).1 place hover
    · exact @ih (scaffolding.after session) hfirst.linkless hlaterGenerators hlaterSuffixes hlater

/-- **What becomes of a file** that holds a namespace, from where its component is scaffolded on. -/
structure FileStands (scaffolding : Scaffolding) (later : List Scaffolding) (start : Session)
    (namespaces : NamespacePair) (token : NamespaceToken) (place : Location) : Prop where
  /-- It has the namespace between its markers then, and in the end, unless a view-model overwrites it. -/
  carries : ∃ old new : String, token.Fills namespaces old new ∧ ∃ entry : Entry, entry.Took new ∧
    ((scaffolding.after start).files.lookup place = some entry ∧
        (afterAll (scaffolding :: later) start).files.lookup place = some entry ∨
      OverwrittenBy (scaffolding :: later) start place)
  /-- In the end it is read as it was then, unless a later view-model overwrites it. -/
  kept : (afterAll (scaffolding :: later) start).files.readBytes (.ofLocation place) =
      (scaffolding.after start).files.readBytes (.ofLocation place) ∨
    OverwrittenBy later (scaffolding.after start) place

/-- **A component keeps its files** if it was scaffolded and none that follows is aimed at it. -/
theorem fileStands_of_aims {start : Session} {report : ScaffoldReport} (hstart : start.files.Linkless)
    (hgenerators : ∀ other ∈ scaffolding :: later, other.scaffolder.generator.WritesGenerated)
    (hdistinct : (aims (scaffolding :: later) start).Nodup) (h : (scaffolding.outcome start).1 = .ok report) :
    ∃ folder, start.files.absolute scaffolding.request.target = .ok (.ofLocation folder) ∧
      report.updated =
        ((scaffolding.request.kind.generatedFiles scaffolding.request.name).filter (·.token.isSome)).map
          (fun file => .ofLocation (folder ++ [file.fileName])) ∧
      ∀ file ∈ scaffolding.request.kind.generatedFiles scaffolding.request.name, ∀ token, file.token = some token →
        scaffolding.FileStands later start report.namespaces token (folder ++ [file.fileName]) := by
  obtain ⟨hgenerator, hlaterGenerators⟩ := List.forall_mem_cons.1 hgenerators
  have houtcome : scaffolding.outcome start = (.ok report, scaffolding.after start) := Prod.ext h rfl
  rcases scaffolding.scaffolder.perform_scaffold scaffolding.request start with
    ⟨plan, output, updated, settled, report', returned, hcomponent, hscaffold, ⟨-, hnamespaces, -, hupdated⟩,
      hfurnishes, -⟩ | ⟨failure, settled, -, hscaffold⟩
  case inr => cases (Prod.mk.inj (houtcome.symm.trans hscaffold)).1
  obtain ⟨hreport, rfl⟩ := Prod.mk.inj (houtcome.symm.trans hscaffold)
  obtain rfl := Except.ok.inj hreport
  have hplanned := (Scaffolder.component_ok hcomponent).1
  obtain ⟨hname, htarget, -⟩ := Scaffolder.planned_ok hplanned
  obtain ⟨hpaths, folder, hfolderPath, hfolder, htakes⟩ := Scaffolder.component_takes hstart hgenerator hcomponent
  have hsettled := scaffolding.scaffolder.component_touches hstart hgenerator scaffolding.request
  rw [hcomponent] at hsettled
  have hview := hfurnishes.touches hsettled.linkless fun viewModel hsome =>
    ((Scaffolder.isAbsolute_of_planned hstart.toWellFormed hplanned).2.2.2 viewModel hsome).1
  rw [hfolderPath] at htarget hpaths
  -- the component is aimed at when its turn comes, so by no other later on
  have hapart : (.ofLocation folder, scaffolding.request.name) ∉ aims later (scaffolding.after start) := by
    rw [aims, htarget, List.nodup_append] at hdistinct
    exact fun hmem => hdistinct.2.2 _ (List.mem_singleton_self _) _ hmem rfl
  refine ⟨folder, htarget, ?_, fun file hfile token htoken => ?_⟩
  · rw [hupdated, hpaths]
    refine List.map_congr_left fun file hfile => ?_
    exact (child_fileName hfolder hname (List.mem_filter.1 hfile).1).1
  have hstays {entry : Entry}
      (hentry : (scaffolding.after start).files.lookup (folder ++ [file.fileName]) = some entry) :
      (afterAll (scaffolding :: later) start).files.lookup (folder ++ [file.fileName]) = some entry ∨
        OverwrittenBy later (scaffolding.after start) (folder ++ [file.fileName]) :=
    stays_of_not_aimed hview.linkless hlaterGenerators hname ⟨folder, rfl, _, file, hfile, rfl⟩ hapart hentry
  -- first its own view-model comes after the file, then all that follows
  obtain ⟨old, new, hfills, entry, hentry, htook⟩ := htakes file hfile token htoken
  refine ⟨⟨old, new, hnamespaces ▸ hfills, entry, htook, ?_⟩, ?_⟩
  · rcases hview.kept hentry with hentry | hover
    · exact (hstays hentry).imp (⟨hentry, ·⟩) .inr
    · exact .inr (.inl ⟨plan, output, updated, settled, hcomponent, hover⟩)
  · -- overwritten or not, something is still there when its scaffolding is done
    obtain ⟨entry', hentry', -⟩ := hview.growsTo hentry
    refine (hstays hentry').imp_left fun hend => ?_
    have hlater := (afterAll_touches hview.linkless hlaterGenerators).linkless
    rw [afterAll_cons] at hend ⊢
    rw [hlater.readBytes_ofLocation (by simp) hend, hview.linkless.readBytes_ofLocation (by simp) hentry']

/-- Components of different names are aimed at apart. -/
theorem nodup_aims (h : (sequence.map (·.request.name)).Nodup) (session : Session) : (aims sequence session).Nodup := by
  have hnames (sequence : List Scaffolding) (session : Session) :
      ((aims sequence session).map Prod.snd).Sublist (sequence.map (·.request.name)) := by
    induction sequence generalizing session with
    | nil => exact .slnil
    | cons scaffolding later ih =>
      rw [aims, List.map_append, List.map_cons]
      cases session.files.absolute scaffolding.request.target with
      | error fault => exact (ih _).cons _
      | ok target => exact (ih _).cons_cons _
  have hdistinct := h.sublist (hnames sequence session)
  exact List.Pairwise.of_map Prod.snd (fun aim other hne heq => hne (congrArg Prod.snd heq)) hdistinct

/-- A scaffolding whose plan is carried out succeeds, whatever was reported before it. -/
theorem outcome_of_carryOut {fs : FileSystem} {plan : Plan} {output : GeneratorOutput} {updated : List Path}
    (hfiles : session.files = fs) (h : scaffolding.scaffolder.planned scaffolding.request fs = .ok plan)
    (hcarry : ((scaffolding.scaffolder.carryOut scaffolding.request plan).perform ⟨fs, [], []⟩).1 =
      .ok (output, updated)) :
    ∃ report returned, scaffolding.outcome session = (.ok report, returned) ∧ report.updated = updated ∧
      returned.files = ((scaffolding.scaffolder.finish plan output updated).perform
        ((scaffolding.scaffolder.carryOut scaffolding.request plan).perform ⟨fs, [], []⟩).2).2.files := by
  obtain ⟨houtcome, hcarried⟩ :=
    scaffolding.scaffolder.carryOut_ignoresRecords scaffolding.request plan session ⟨fs, [], []⟩ hfiles
  obtain ⟨-, report, returned, -, -, hscaffold, hreport, hreturned⟩ :=
    Scaffolder.scaffold_of_carryOut (hfiles ▸ h) (Prod.ext (houtcome.trans hcarry) rfl)
  obtain ⟨-, hfinished⟩ := scaffolding.scaffolder.finish_ignoresRecords plan output updated _ _ hcarried
  obtain ⟨report', after, hperform, ⟨-, -, -, hupdated⟩, -⟩ :=
    scaffolding.scaffolder.perform_finish plan output updated
      ((scaffolding.scaffolder.carryOut scaffolding.request plan).perform session).2
  rw [hperform] at hreport
  obtain rfl := Except.ok.inj hreport
  exact ⟨report', returned, hscaffold, hupdated, hreturned.trans hfinished⟩

/-! ## A control and a window

A project in which a control goes to the folder of the view-models, and then a window with a view-model is
scaffolded. -/

namespace ControlAndWindow

/-- The project. -/
def files : FileSystem := (FileSystem.empty 0 0o22).withEntries
  [(["proj", "App.csproj"], .file .empty), (["proj", "ViewModels"], .directory), (["proj", "Views"], .directory),
    (["proj"], .directory)]

/-- What is written to a generated file. -/
def textOf : Option NamespaceToken → String
  | some .markupClass => "x:Class=\"T\""
  | some .controlsXmlns => "xmlns:controls=\"using:T\""
  | some .codeNamespace => "namespace T;\n"
  | none => ""

/-- A generated file is written where it can be. -/
def write (folder : Path) (fs : FileSystem) (file : GeneratedFile) : FileSystem :=
  (fs.writeBytes (folder.child file.fileName) (textOf file.token).toUTF8).toOption.getD fs

/-- A generator that writes the files of the kind whose template is asked for. -/
def generator : Generator where
  describe := Generator.plainDescription
  perform invocation fs :=
    let kind? := ComponentKind.all.find? (·.template = invocation.template)
    let files := kind?.elim [] (·.generatedFiles invocation.name)
    ⟨.ok ⟨"", "", false⟩, files.foldl (write invocation.directory) fs, []⟩

/-- What scaffolds there, with an ending for the names of view-models. -/
def scaffolder (suffix : String) : Scaffolder :=
  ⟨{ Config.standard with viewModelSuffix := suffix }, generator⟩

/-- The control that is asked for. -/
def controlRequest : Request := ⟨.templatedControl, "Notes", ⟨"/proj/ViewModels"⟩, ⟨"/proj"⟩, false⟩

/-- The window that is asked for. -/
def windowRequest : Request := ⟨.window, "Main", ⟨"/proj/Views"⟩, ⟨"/proj"⟩, true⟩

/-- The control. -/
def control (suffix : String) : Scaffolding := ⟨scaffolder suffix, controlRequest⟩

/-- The window. -/
def window (suffix : String) : Scaffolding := ⟨scaffolder suffix, windowRequest⟩

/-- The code of the control. -/
def code : Path := ⟨"/proj/ViewModels/Notes.cs"⟩

/-- What is planned for the control. -/
def controlPlan : Plan :=
  (scaffolder "").planOf controlRequest Scaffolder.Notes.root ⟨"/proj/ViewModels"⟩ (.ofFull "App.ViewModels.Notes") none

/-- What is planned for the window, with a view-model that is named by a way up to the code of the control. -/
def windowPlan : Plan :=
  (scaffolder "").planOf windowRequest Scaffolder.Notes.root ⟨"/proj/Views"⟩ (.ofFull "App.Views.Main")
    (some Scaffolder.Notes.wayUp)

/-- The files whose namespaces are written for the control. -/
def controlUpdated : List Path := [⟨"/proj/ViewModels/Notes.axaml"⟩, code]

/-- The files whose namespaces are written for the window. -/
def windowUpdated : List Path := [⟨"/proj/Views/Main.axaml"⟩, ⟨"/proj/Views/Main.axaml.cs"⟩]

/-- The file system when a plan was carried out. -/
def filesAfter (request : Request) (plan : Plan) (updated : List Path) (fs : FileSystem) : FileSystem :=
  (((scaffolder "").finish plan ⟨"", "", false⟩ updated).perform
    (((scaffolder "").carryOut request plan).perform ⟨fs, [], []⟩).2).2.files

/-- The file system with the control. -/
def withControl : FileSystem := filesAfter controlRequest controlPlan controlUpdated files

/-- The file system with the window too. -/
def withBoth : FileSystem := filesAfter windowRequest windowPlan windowUpdated withControl

theorem linkless : files.Linkless :=
  .of_places (.of_places (by decide +kernel)) (by decide +kernel) (by decide +kernel) (by decide +kernel)

/-- Files that are written one after another are writes to their paths. -/
theorem writesAmong_foldl (folder : Path) (files : List GeneratedFile) (fs : FileSystem) :
    fs.WritesAmong (files.map fun file => folder.child file.fileName) (files.foldl (write folder) fs) := by
  induction files generalizing fs with
  | nil => exact .nothing fs
  | cons file rest ih =>
    have hrest := (ih (write folder fs file)).mono fun _ hpath =>
      List.mem_cons_of_mem (folder.child file.fileName) hpath
    rw [List.foldl_cons]
    cases hwrite : fs.writeBytes (folder.child file.fileName) (textOf file.token).toUTF8 with
    | error fault =>
      have hsame : write folder fs file = fs := by rw [write, hwrite]; rfl
      rw [hsame] at hrest ⊢
      exact hrest
    | ok written =>
      have hwritten : write folder fs file = written := by rw [write, hwrite]; rfl
      rw [hwritten] at hrest ⊢
      exact .first List.mem_cons_self hwrite hrest

theorem writesGenerated : generator.WritesGenerated := by
  intro kind name folder fs
  have hkind : ComponentKind.all.find? (·.template = kind.template) = some kind := by cases kind <;> decide
  simp only [generator, hkind]
  exact writesAmong_foldl folder _ fs

/-- **What is found in the project.** -/
structure Found : Prop where
  /-- The root of the project is found. -/
  located : files.located Config.standard.markers ⟨"/proj"⟩ = .ok Scaffolder.Notes.root
  /-- The folders are without detours. -/
  absolute : files.absolute ⟨"/proj"⟩ = .ok ⟨"/proj"⟩ ∧
    files.absolute ⟨"/proj/ViewModels"⟩ = .ok ⟨"/proj/ViewModels"⟩
  /-- These are the namespaces of the components. -/
  namespaces : Scaffolder.Notes.root.namespaceOf ⟨"/proj/ViewModels"⟩ "Notes" = .ok (.ofFull "App.ViewModels.Notes") ∧
    Scaffolder.Notes.root.namespaceOf ⟨"/proj/Views"⟩ "Main" = .ok (.ofFull "App.Views.Main")
  /-- Components can be named so. -/
  names : isComponentName "Notes" = true ∧ isComponentName "Main" = true
  /-- The control is generated, and its files get the namespaces. -/
  control : (((scaffolder "").carryOut controlRequest controlPlan).perform ⟨files, [], []⟩).1 =
    .ok (⟨"", "", false⟩, controlUpdated)
  /-- The names in the folder of the project are the same afterwards. -/
  childNames : withControl.childNames ["proj"] = ["App.csproj", "ViewModels", "Views"]
  /-- So is the folder itself. -/
  lookup : withControl.lookup ["proj"] = some .directory
  /-- The folders are still without detours. -/
  absolute_withControl : withControl.absolute ⟨"/proj"⟩ = .ok ⟨"/proj"⟩ ∧
    withControl.absolute ⟨"/proj/Views"⟩ = .ok ⟨"/proj/Views"⟩
  /-- This names no way up. -/
  noWayUp : ".." ∉ (⟨"ViewModel"⟩ : Path).pieces
  /-- View-models can be named by a way up. -/
  validate_wayUp : (scaffolder "Model/../Notes").config.validate = .ok ()
  /-- This is then planned for the window. -/
  planned_wayUp : (scaffolder "Model/../Notes").viewModelPlanned windowRequest Scaffolder.Notes.root ⟨"/proj/Views"⟩ =
    .ok (some Scaffolder.Notes.wayUp)
  /-- The window is generated, and its files get the namespaces. -/
  window : (((scaffolder "").carryOut windowRequest windowPlan).perform ⟨withControl, [], []⟩).1 =
    .ok (⟨"", "", false⟩, windowUpdated)
  /-- The code of the control is not what it was. -/
  overwritten : withBoth.readBytes code ≠ withControl.readBytes code

theorem found : Found where
  located := by
    have hchildren : files.childNames ["proj"] = ["App.csproj", "ViewModels", "Views"] :=
      FileSystem.childNames_of_sorted (by decide +kernel) (by decide)
    refine Scaffolder.Notes.located_of_fileNames rfl ?_
    rw [FileSystem.fileNames, FileSystem.children, hchildren]
    decide +kernel
  absolute := by decide +kernel
  namespaces := by decide +kernel
  names := by decide +kernel
  control := by decide +kernel
  childNames := FileSystem.childNames_of_sorted (by decide +kernel) (by decide)
  lookup := by decide +kernel
  absolute_withControl := by decide +kernel
  noWayUp := by decide +kernel
  validate_wayUp := by decide +kernel
  planned_wayUp := by decide +kernel
  window := by decide +kernel
  overwritten := by decide +kernel

/-- What is planned can be carried out, whatever the ending for the names of view-models. -/
theorem scaffolded {suffix : String} {request : Request} {plan : Plan} {updated : List Path} {fs : FileSystem}
    {session : Session} (hfiles : session.files = fs) (h : (scaffolder suffix).planned request fs = .ok plan)
    (hcarry : (((scaffolder "").carryOut request plan).perform ⟨fs, [], []⟩).1 = .ok (⟨"", "", false⟩, updated)) :
    ∃ report returned, (⟨scaffolder suffix, request⟩ : Scaffolding).outcome session = (.ok report, returned) ∧
      report.updated = updated ∧ returned.files = filesAfter request plan updated fs :=
  outcome_of_carryOut hfiles h hcarry

/-- The control is scaffolded. -/
theorem control_scaffolded (suffix : String) :
    ∃ report returned, (control suffix).outcome ⟨files, [], []⟩ = (.ok report, returned) ∧
      code ∈ report.updated ∧ returned.files = withControl := by
  have hplanned : (scaffolder suffix).planned controlRequest files = .ok controlPlan :=
    Scaffolder.planned_of_parts controlRequest found.names.1 found.absolute.2 found.absolute.1 found.located
      found.namespaces.1
  obtain ⟨report, returned, houtcome, hupdated, hreturned⟩ :=
    @scaffolded _ _ _ _ _ ⟨files, [], []⟩ rfl hplanned found.control
  refine ⟨report, returned, houtcome, ?_, hreturned⟩
  rw [hupdated]
  exact List.mem_cons_of_mem _ (List.mem_singleton_self code)

/-- The window is scaffolded after it, and its view-model is created. -/
theorem window_scaffolded {session : Session} (hfs : session.files.WellFormed) (hfiles : session.files = withControl) :
    ∃ report returned, (window "Model/../Notes").outcome session = (.ok report, returned) ∧
      returned.files = withBoth := by
  have hroot : withControl.located (scaffolder "Model/../Notes").config.markers ⟨"/proj"⟩ =
      .ok Scaffolder.Notes.root := by
    have hpath : (⟨"/proj"⟩ : Path) = .ofLocation ["proj"] := by decide
    have hresolve : withControl.resolve ⟨"/proj"⟩ .name = .ok (.entry ["proj"] .directory) := by
      rw [hpath]
      exact FileSystem.resolve_ofLocation (hfiles ▸ hfs) (by simp) found.lookup (.inl rfl) (by decide)
    refine Scaffolder.Notes.located_of_fileNames hresolve ?_
    rw [FileSystem.fileNames, FileSystem.children, found.childNames]
    decide +kernel
  have hplanned : (scaffolder "Model/../Notes").planned windowRequest withControl = .ok windowPlan := by
    rw [Scaffolder.planned_of_parts windowRequest found.names.2 found.absolute_withControl.2
      found.absolute_withControl.1 hroot found.namespaces.2, found.planned_wayUp]
    rfl
  obtain ⟨report, returned, houtcome, -, hreturned⟩ := scaffolded hfiles hplanned found.window
  exact ⟨report, returned, houtcome, hreturned⟩

/-- The two are aimed at different components. -/
theorem nodup_aims_of_control_window (suffix : String) :
    (aims [control suffix, window suffix] ⟨files, [], []⟩).Nodup := by
  have hnames : ["Notes", "Main"].Nodup := by decide
  exact @nodup_aims [control suffix, window suffix] hnames _

end ControlAndWindow

/-! ## A component among others -/

/-- **No scaffolding disturbs a component** that was scaffolded before, if no two are aimed at one component: in a
file system without links, where generators write the files of their components and no others, each file that holds
a namespace has it to the end, and is read as it was when its scaffolding was done. The one exception is a view-model
that is named by a way up, whose path leads to the file as soon as its folder is made. -/
theorem component_stands {start : Session} {report : ScaffoldReport} (hfs : session.files.Linkless)
    (hgenerators : ∀ other ∈ earlier ++ scaffolding :: later, other.scaffolder.generator.WritesGenerated)
    (hdistinct : (aims (earlier ++ scaffolding :: later) session).Nodup) (hstart : afterAll earlier session = start)
    (h : (scaffolding.outcome start).1 = .ok report) :
    afterAll (earlier ++ scaffolding :: later) session = afterAll (scaffolding :: later) start ∧
      (∃ folder, start.files.absolute scaffolding.request.target = .ok (.ofLocation folder) ∧
        report.updated =
          ((scaffolding.request.kind.generatedFiles scaffolding.request.name).filter (·.token.isSome)).map
            (fun file => .ofLocation (folder ++ [file.fileName])) ∧
        ∀ file ∈ scaffolding.request.kind.generatedFiles scaffolding.request.name, ∀ token, file.token = some token →
          scaffolding.FileStands later start report.namespaces token (folder ++ [file.fileName])) ∧
      ((∀ other ∈ scaffolding :: later, ".." ∉ (⟨other.scaffolder.config.viewModelSuffix⟩ : Path).pieces) →
        ∀ place, ¬OverwrittenBy (scaffolding :: later) start place) := by
  subst hstart
  obtain ⟨hearlierGenerators, hgenerators⟩ := List.forall_mem_append.1 hgenerators
  have hearlier := (afterAll_touches hfs hearlierGenerators).linkless
  rw [aims_append, List.nodup_append] at hdistinct
  refine ⟨List.foldl_append, fileStands_of_aims hearlier hgenerators hdistinct.2.1 h, ?_⟩
  exact fun hsuffixes place => not_overwrittenBy hearlier hgenerators hsuffixes place

/-- A control in the folder of the view-models is not disturbed by a window, whose view-model has the usual name. -/
theorem component_stands_before_window :
    ControlAndWindow.files.Linkless ∧ ControlAndWindow.generator.WritesGenerated ∧
      (aims [ControlAndWindow.control "ViewModel", ControlAndWindow.window "ViewModel"]
        ⟨ControlAndWindow.files, [], []⟩).Nodup ∧
      ∃ report returned,
        (ControlAndWindow.control "ViewModel").outcome ⟨ControlAndWindow.files, [], []⟩ = (.ok report, returned) ∧
        ControlAndWindow.code ∈ report.updated ∧
        (afterAll [ControlAndWindow.window "ViewModel"] returned).files.readBytes ControlAndWindow.code =
          returned.files.readBytes ControlAndWindow.code := by
  obtain ⟨report, returned, houtcome, hcode, -⟩ := ControlAndWindow.control_scaffolded "ViewModel"
  have hreturned : (ControlAndWindow.control "ViewModel").after ⟨ControlAndWindow.files, [], []⟩ = returned := by
    rw [after, houtcome]
  have hdistinct := ControlAndWindow.nodup_aims_of_control_window "ViewModel"
  have hgenerators : ∀ other ∈ [ControlAndWindow.control "ViewModel", ControlAndWindow.window "ViewModel"],
      other.scaffolder.generator.WritesGenerated :=
    List.forall_mem_cons.2 ⟨ControlAndWindow.writesGenerated,
      List.forall_mem_singleton.2 ControlAndWindow.writesGenerated⟩
  obtain ⟨-, ⟨folder, -, hupdated, hstands⟩, hclear⟩ :=
    @component_stands [] [ControlAndWindow.window "ViewModel"] (ControlAndWindow.control "ViewModel")
      ⟨ControlAndWindow.files, [], []⟩ _ report ControlAndWindow.linkless hgenerators hdistinct rfl
      (by rw [afterAll_nil, houtcome])
  refine ⟨ControlAndWindow.linkless, ControlAndWindow.writesGenerated, hdistinct, report, returned, houtcome, hcode, ?_⟩
  rw [hupdated] at hcode
  obtain ⟨file, hfile, hpath⟩ := List.mem_map.1 hcode
  obtain ⟨hmem, hsome⟩ := List.mem_filter.1 hfile
  obtain ⟨token, htoken⟩ := Option.isSome_iff_exists.1 hsome
  have hsuffixes : ∀ other ∈ [ControlAndWindow.control "ViewModel", ControlAndWindow.window "ViewModel"],
      ".." ∉ (⟨other.scaffolder.config.viewModelSuffix⟩ : Path).pieces :=
    List.forall_mem_cons.2 ⟨ControlAndWindow.found.noWayUp, List.forall_mem_singleton.2 ControlAndWindow.found.noWayUp⟩
  have hkept := (hstands file hmem token htoken).kept.resolve_right fun hover => hclear hsuffixes _ (.inr hover)
  rw [hpath, afterAll_cons, afterAll_nil, hreturned] at hkept
  exact hkept

/-- A window whose view-model is named by a way up overwrites the code of a control, which was scaffolded before. -/
theorem component_overwritten :
    ControlAndWindow.files.Linkless ∧ ControlAndWindow.generator.WritesGenerated ∧
      (ControlAndWindow.scaffolder "Model/../Notes").config.validate = .ok () ∧
      (aims [ControlAndWindow.control "Model/../Notes", ControlAndWindow.window "Model/../Notes"]
        ⟨ControlAndWindow.files, [], []⟩).Nodup ∧
      ∃ report returned,
        (ControlAndWindow.control "Model/../Notes").outcome ⟨ControlAndWindow.files, [], []⟩ = (.ok report, returned) ∧
        ControlAndWindow.code ∈ report.updated ∧
        (afterAll [ControlAndWindow.window "Model/../Notes"] returned).files.readBytes ControlAndWindow.code ≠
          returned.files.readBytes ControlAndWindow.code := by
  obtain ⟨report, returned, houtcome, hcode, hreturned⟩ := ControlAndWindow.control_scaffolded "Model/../Notes"
  have hgenerators : ∀ other ∈ [ControlAndWindow.control "Model/../Notes"],
      other.scaffolder.generator.WritesGenerated :=
    List.forall_mem_singleton.2 ControlAndWindow.writesGenerated
  have hlinkless := (@afterAll_touches [ControlAndWindow.control "Model/../Notes"] ⟨ControlAndWindow.files, [], []⟩
    ControlAndWindow.linkless hgenerators).linkless
  have hafter : afterAll [ControlAndWindow.control "Model/../Notes"] ⟨ControlAndWindow.files, [], []⟩ = returned := by
    rw [afterAll_cons, afterAll_nil, after, houtcome]
  rw [hafter] at hlinkless
  obtain ⟨report', finished, hwindow, hfinished⟩ :=
    ControlAndWindow.window_scaffolded hlinkless.toWellFormed hreturned
  refine ⟨ControlAndWindow.linkless, ControlAndWindow.writesGenerated, ControlAndWindow.found.validate_wayUp,
    ControlAndWindow.nodup_aims_of_control_window _, report, returned, houtcome, hcode, ?_⟩
  rw [afterAll_cons, afterAll_nil, after, hwindow, hfinished, hreturned]
  exact ControlAndWindow.found.overwritten

end Scaffolding

end ComponentScaffold
