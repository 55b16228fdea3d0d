import ComponentScaffold.Proofs.Namespace.Companion
import ComponentScaffold.Proofs.Project.Directories
import ComponentScaffold.Proofs.Scaffold.Absolute
import ComponentScaffold.Proofs.Scaffold.Namespaces
import ComponentScaffold.Scaffold.Plan

/-! # What is planned

A plan follows from the file system alone. Its paths are absolute, and the path of a view-model leads
straight down from the root unless the name of its file says otherwise.

* **`Scaffolder.planned`** — the plan as an answer of the file system.
* **`planViewModel_isOk`** — where a component has its namespaces, its view-model can be planned. -/

namespace ComponentScaffold

open ComponentScaffold.Action

/-! ## The plan as an answer -/

/-- Why an operation of the operating system stops what it is part of. -/
def systemFailure (fault : OsFault) : Failure := .io (.system fault)

namespace Scaffolder

/-- What is planned for the view-model of a request, if it gets one. -/
def viewModelPlanned (scaffolder : Scaffolder) (request : Request) (root : ProjectRoot) (target : Path) :
    Except Failure (Option ViewModelPlan) :=
  if request.withViewModel && request.kind.supportsViewModel then
    ((planViewModel scaffolder.config root target request.name).mapError .namespace).map some
  else .ok none

/-- The plan for a request with what was worked out for it. -/
def planOf (scaffolder : Scaffolder) (request : Request) (root : ProjectRoot) (target : Path)
    (namespaces : NamespacePair) (viewModel : Option ViewModelPlan) : Plan where
  root := root
  target := target
  generatorCommand := scaffolder.generator.describe request.kind.template request.name
  namespaces := namespaces
  files := (request.kind.generatedFiles request.name).map fun file => target.child file.fileName
  viewModel := viewModel

/-- **The plan for a request**, as it follows from the file system. -/
def planned (scaffolder : Scaffolder) (request : Request) (fs : FileSystem) : Except Failure Plan :=
  if isComponentName request.name then do
    let searchRoot ← (fs.absolute request.searchRoot).mapError systemFailure
    let target ← (fs.absolute request.target).mapError systemFailure
    let root ← fs.located scaffolder.config.markers searchRoot
    let namespaces ← (root.namespaceOf target request.name).mapError .namespace
    let viewModel ← scaffolder.viewModelPlanned request root target
    return scaffolder.planOf request root target namespaces viewModel
  else .error (.invalidName request.name)

/-- **Planning only asks** the file system. -/
theorem plan_computes (scaffolder : Scaffolder) (request : Request) :
    Computes (scaffolder.planned request) (scaffolder.plan request) := by
  -- the last step as it is written, in its three branches; only the first one can fail
  have hviewModel (root : ProjectRoot) (target : Path) (namespaces : NamespacePair) :
      Computes (fun _ => scaffolder.viewModelPlanned request root target >>= fun viewModel =>
          .ok (scaffolder.planOf request root target namespaces viewModel))
        (if request.withViewModel && request.kind.supportsViewModel then do
          let viewModel ← some <$> Action.lift
            ((planViewModel scaffolder.config root target request.name).mapError .namespace)
          pure (scaffolder.planOf request root target namespaces viewModel)
        else if request.withViewModel then do
          Action.report .warn "component kind has no view-model, skipping" [("kind", request.kind.label)]
          let viewModel ← pure none
          pure (scaffolder.planOf request root target namespaces viewModel)
        else do
          let viewModel ← pure none
          pure (scaffolder.planOf request root target namespaces viewModel)) := by
    unfold viewModelPlanned
    split
    case isTrue => exact (Computes.lift _).map.bind fun viewModel => Computes.pure _
    case isFalse =>
      have hnone := (Computes.pure (none : Option ViewModelPlan)).bind fun viewModel =>
        Computes.pure (scaffolder.planOf request root target namespaces viewModel)
      split
      case isTrue => exact (Computes.report _ _ _).bind fun _ => hnone
      case isFalse => exact hnone
  have hrest := (Computes.ask (·.absolute request.searchRoot)).bind fun searchRoot =>
    (Computes.ask (·.absolute request.target)).bind fun target =>
    (FileSystem.locateRoot_computes scaffolder.config.markers searchRoot).bind fun root =>
    (Computes.lift ((root.namespaceOf target request.name).mapError .namespace)).bind fun namespaces =>
    (Computes.report .debug "component namespace"
      [("full", namespaces.full), ("code", namespaces.code)]).bind fun _ =>
    hviewModel root target namespaces
  intro session
  unfold plan planned
  cases hname : isComponentName request.name with
  | false => exact ⟨session.records, rfl⟩
  | true => exact hrest session

/-- **What a plan is made of.** -/
theorem planned_ok {scaffolder : Scaffolder} {request : Request} {fs : FileSystem} {plan : Plan}
    (h : scaffolder.planned request fs = .ok plan) :
    isComponentName request.name = true ∧ fs.absolute request.target = .ok plan.target ∧
      (∃ start, fs.absolute request.searchRoot = .ok start ∧
        fs.located scaffolder.config.markers start = .ok plan.root) ∧
      plan.root.namespaceOf plan.target request.name = .ok plan.namespaces ∧
      scaffolder.viewModelPlanned request plan.root plan.target = .ok plan.viewModel := by
  unfold planned at h
  split at h
  case isFalse => cases h
  case isTrue hname =>
    obtain ⟨start, hstart, h⟩ := bind_eq_ok_iff.1 h
    obtain ⟨target, htarget, h⟩ := bind_eq_ok_iff.1 h
    obtain ⟨root, hroot, h⟩ := bind_eq_ok_iff.1 h
    obtain ⟨namespaces, hnamespaces, h⟩ := bind_eq_ok_iff.1 h
    obtain ⟨viewModel, hviewModel, h⟩ := bind_eq_ok_iff.1 h
    obtain rfl := Except.ok.inj h
    exact ⟨hname, mapError_eq_ok_iff.1 htarget, ⟨start, mapError_eq_ok_iff.1 hstart, hroot⟩,
      mapError_eq_ok_iff.1 hnamespaces, hviewModel⟩

/-- Where all else is there, it is the view-model that decides whether there is a plan. -/
theorem planned_of_parts {scaffolder : Scaffolder} (request : Request) {fs : FileSystem} {start target : Path}
    {root : ProjectRoot} {namespaces : NamespacePair} (hname : isComponentName request.name = true)
    (htarget : fs.absolute request.target = .ok target) (hstart : fs.absolute request.searchRoot = .ok start)
    (hroot : fs.located scaffolder.config.markers start = .ok root)
    (hnamespaces : root.namespaceOf target request.name = .ok namespaces) :
    scaffolder.planned request fs =
      (scaffolder.viewModelPlanned request root target).map (scaffolder.planOf request root target namespaces) := by
  unfold planned
  rw [if_pos hname, htarget, hstart]
  simp only [mapError_ok, bind, Except.bind, hroot, hnamespaces]
  cases scaffolder.viewModelPlanned request root target <;> rfl

/-- The root of a plan is absolute, and its path goes through no step up. -/
theorem no_parents_of_located {fs : FileSystem} (hfs : fs.WellFormed) {p start : Path}
    (hstart : fs.absolute p = .ok start) {markers : ProjectMarkers} {root : ProjectRoot}
    (h : fs.located markers start = .ok root) : root.path.isAbsolute = true ∧ ".." ∉ root.path.names := by
  have habs := FileSystem.isAbsolute_of_absolute hstart
  obtain ⟨place, names, hresolve, hleads, hpath, -⟩ := FileSystem.located_ok h
  obtain ⟨hplace⟩ := FileSystem.resolve_holds hfs habs hresolve
  have hnames (name : String) (hname : name ∈ names) : FileSystem.IsEntryName name :=
    hfs.isEntryName_of_mem (hleads.lookup_append hplace) (List.mem_append_right _ hname)
  have hexists := (FileSystem.exists?_iff habs).2 ⟨place, _, hresolve⟩
  rw [hpath, Path.names_descend fun name hname => (hnames name hname).toIsStep, List.mem_append, not_or]
  exact ⟨Path.isAbsolute_descend habs names, FileSystem.no_parents_of_absolute hfs hstart hexists,
    fun hparent => (hnames _ hparent).ne_parent rfl⟩

end Scaffolder

/-! ## View-models -/

/-- What a configuration needs is there, if it is accepted. -/
theorem Config.ne_empty_of_mem_neededFields {config : Config} (h : config.validate = .ok ())
    {field : String × String} (hfield : field ∈ config.neededFields) : field.2 ≠ "" := by
  unfold validate at h
  split at h
  case h_1 => cases h
  case h_2 hneeded =>
    intro hempty
    have := List.find?_eq_none.1 hneeded field hfield
    simp [hempty, isBlankText] at this

/-- The folder of view-models is a single one, if a configuration is accepted. -/
theorem Config.isStep_viewModelsFolder {config : Config} (h : config.validate = .ok ()) :
    Path.IsStep config.viewModelsFolder := by
  have hneeded : ("view_models_folder", config.viewModelsFolder) ∈ config.neededFields := by simp [neededFields]
  refine ⟨ne_empty_of_mem_neededFields h hneeded, ?_⟩
  unfold validate at h
  split at h
  case h_1 => cases h
  case h_2 =>
    split at h
    case isTrue => cases h
    case isFalse hsingle =>
      exact fun hslash => hsingle (List.any_eq_true.2 ⟨'/', hslash, by decide⟩)

/-- The folder of a view-model has an absolute path. -/
theorem isAbsolute_of_companionFolders {root : ProjectRoot} {target : Path} {views viewModels : String}
    {folders : CompanionFolders} (hroot : root.path.isAbsolute = true)
    (h : root.companionFolders target views viewModels = .ok folders) : folders.viewModel.isAbsolute = true := by
  obtain ⟨above, below, hviewModel, -⟩ := ProjectRoot.companionFolders_ok h
  rw [hviewModel]
  exact Path.isAbsolute_descend (Path.isAbsolute_child (Path.isAbsolute_descend hroot above) _) below

/-- What starts with the name of a component is no path from the root. -/
theorem not_isAbsolute_of_isComponentName {name : String} (hname : isComponentName name = true) (rest : String) :
    (⟨name ++ rest⟩ : Path).isAbsolute = false := by
  have hstep := isStep_of_isComponentName hname
  obtain ⟨first, others, hfirst⟩ := hstep.exists_toList_eq_cons
  rw [Bool.eq_false_iff]
  intro habs
  obtain ⟨tail, htail⟩ := Path.isAbsolute_iff.1 habs
  have hlist := congrArg String.toList htail
  simp only [String.toList_append, hfirst, List.cons_append] at hlist
  obtain rfl : first = '/' := (List.cons.inj hlist).1
  exact hstep.no_slash (hfirst ▸ List.mem_cons_self)

/-- What starts with the name of a component and ends like a source file is no path from the root, and leads
up only where what stands between does. -/
theorem no_parents_of_className {name suffix : String} (hname : isComponentName name = true)
    (hsuffix : ".." ∉ (⟨suffix⟩ : Path).pieces) :
    (⟨name ++ suffix ++ ".cs"⟩ : Path).isAbsolute = false ∧
      ".." ∉ (⟨name ++ suffix ++ ".cs"⟩ : Path).names := by
  have hstep := isStep_of_isComponentName hname
  obtain ⟨first, rest, hfirst⟩ := hstep.exists_toList_eq_cons
  constructor
  · rw [String.append_assoc]
    exact not_isAbsolute_of_isComponentName hname _
  · intro hparent
    have hslash : '/' ∉ ".cs".toList := by decide
    rcases Path.mem_pieces_append hstep.no_slash hslash (List.mem_filter.1 hparent).1 with
      hmiddle | hleading | hend
    · exact hsuffix hmiddle
    · rw [hfirst, show "..".toList = ['.', '.'] by decide, List.cons_prefix_cons] at hleading
      have hdot : '.' ∈ name.toList := hfirst ▸ hleading.1 ▸ List.mem_cons_self
      exact absurd (isNamePart_of_mem hname hdot) not_isNamePart.2
    · exact absurd hend.length_le (by decide)

/-- A folder below the root has its namespaces. -/
theorem namespaceOf_isOk {root : ProjectRoot} {target : Path} {entity : String} {segments : List String}
    (h : target.segmentsBelow root.path = .ok segments) (hentity : entity ≠ "") :
    ∃ namespaces, root.namespaceOf target entity = .ok namespaces := by
  have hmem : entity ∈ (root.leadingSegments ++ segments ++ [entity]).filter (· ≠ "") := by
    simp [hentity]
  unfold ProjectRoot.namespaceOf
  rw [h]
  refine ⟨.ofFull (".".intercalate ((root.leadingSegments ++ segments ++ [entity]).filter (· ≠ ""))), ?_⟩
  have hempty := List.isEmpty_eq_false_iff.2 (List.ne_nil_of_mem hmem)
  simp only [bind, Except.bind]
  rw [if_neg (by simpa using hempty)]
  rfl

namespace Scaffolder

/-- **The path of a view-model**: its file lies in its folder, as far as the name of its class goes. -/
theorem planViewModel_ok {config : Config} {root : ProjectRoot} {target : Path} {name : String}
    {plan : ViewModelPlan} (h : planViewModel config root target name = .ok plan) :
    ∃ above below, plan.path = (((root.path.descend above).child config.viewModelsFolder).descend below).child
        (name ++ config.viewModelSuffix ++ ".cs") ∧
      (∀ name ∈ above, Path.IsStep name ∧ name ≠ "." ∧ name ≠ "..") ∧
      ∀ name ∈ below, Path.IsStep name ∧ name ≠ "." ∧ name ≠ ".." := by
  obtain ⟨folders, hfolders, h⟩ := bind_eq_ok_iff.1 h
  obtain ⟨above, below, hviewModel, -, habove, hbelow⟩ := ProjectRoot.companionFolders_ok hfolders
  obtain ⟨namespaces, -, h⟩ := bind_eq_ok_iff.1 h
  obtain rfl := Except.ok.inj h
  exact ⟨above, below, hviewModel ▸ rfl, habove, hbelow⟩

/-- The path of a view-model is absolute. -/
theorem isAbsolute_of_planViewModel {config : Config} {root : ProjectRoot} {target : Path} {name : String}
    {plan : ViewModelPlan} (hroot : root.path.isAbsolute = true)
    (h : planViewModel config root target name = .ok plan) : plan.path.isAbsolute = true := by
  obtain ⟨above, below, hpath, -⟩ := planViewModel_ok h
  rw [hpath]
  exact Path.isAbsolute_child (Path.isAbsolute_descend (Path.isAbsolute_child
    (Path.isAbsolute_descend hroot _) _) _) _

/-- **The path of a view-model leads straight down** if the configuration names no step up. -/
theorem no_parents_of_planViewModel {config : Config} {root : ProjectRoot} {target : Path} {name : String}
    {plan : ViewModelPlan} (hvalid : config.validate = .ok ()) (hrootParents : ".." ∉ root.path.names)
    (hname : isComponentName name = true) (hfolder : config.viewModelsFolder ≠ "..")
    (hsuffix : ".." ∉ (⟨config.viewModelSuffix⟩ : Path).pieces)
    (h : planViewModel config root target name = .ok plan) : ".." ∉ plan.path.names := by
  obtain ⟨above, below, hpath, habove, hbelow⟩ := planViewModel_ok h
  obtain ⟨hrelative, hclass⟩ := no_parents_of_className hname hsuffix
  rw [hpath, Path.child, Path.names_join hrelative, Path.names_descend fun name hname => (hbelow name hname).1,
    Path.names_child (Config.isStep_viewModelsFolder hvalid),
    Path.names_descend fun name hname => (habove name hname).1]
  simp only [List.mem_append, List.mem_singleton, not_or]
  exact ⟨⟨⟨⟨hrootParents, fun hparent => (habove _ hparent).2.2 rfl⟩, hfolder.symm⟩,
    fun hparent => (hbelow _ hparent).2.2 rfl⟩, hclass⟩

/-- **Where a component has its namespaces**, its view-model can be planned, unless the folder of view-models
is a step up. -/
theorem planViewModel_isOk {config : Config} {root : ProjectRoot} {target : Path} {name : String}
    {namespaces : NamespacePair} (hvalid : config.validate = .ok ()) (hroot : root.path.isAbsolute = true)
    (hname : isComponentName name = true) (hfolder : config.viewModelsFolder ≠ "..")
    (h : root.namespaceOf target name = .ok namespaces) :
    ∃ plan, planViewModel config root target name = .ok plan := by
  obtain ⟨segments, hsegments, -⟩ := bind_eq_ok_iff.1 h
  obtain ⟨folders, hfolders⟩ :=
    ProjectRoot.exists_companionFolders config.viewsFolder config.viewModelsFolder hsegments
  obtain ⟨above, below, hviewModel, -, habove, hbelow⟩ := ProjectRoot.companionFolders_ok hfolders
  have hstep := Config.isStep_viewModelsFolder hvalid
  have habsAbove := Path.isAbsolute_descend hroot above
  -- a folder that is a dot is passed over
  obtain ⟨middle, hmiddle⟩ : ∃ middle : List String,
      [config.viewModelsFolder].filterMap Path.Component.ofPiece? = middle.map .name := by
    by_cases hcurrent : config.viewModelsFolder = "."
    · exact ⟨[], by rw [hcurrent]; rfl⟩
    · exact ⟨[config.viewModelsFolder], Path.filterMap_ofPiece?_of_names (by simp [hstep, hcurrent, hfolder])⟩
  have hbelowRoot : folders.viewModel.segmentsBelow root.path = .ok (above ++ middle ++ below) := by
    refine Path.segmentsBelow_of_components ?_
    rw [hviewModel, Path.components_descend hbelow, Path.child,
      Path.components_join habsAbove (Path.not_isAbsolute_of_isStep hstep), Path.names_of_isStep hstep,
      hmiddle, Path.components_descend habove]
    simp
  obtain ⟨namespaces', hnamespaces⟩ := namespaceOf_isOk hbelowRoot
    (show name ++ config.viewModelSuffix ≠ "" by simp [(isStep_of_isComponentName hname).ne_empty])
  unfold planViewModel
  rw [hfolders]
  refine ⟨⟨name ++ config.viewModelSuffix, folders.viewModel.child (name ++ config.viewModelSuffix ++ ".cs"),
    namespaces', folders.base⟩, ?_⟩
  simp only [bind, Except.bind, hnamespaces]
  rfl

end Scaffolder

end ComponentScaffold
