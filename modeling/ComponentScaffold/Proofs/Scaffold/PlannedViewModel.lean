import ComponentScaffold.Proofs.Path.Below
import ComponentScaffold.Proofs.Scaffold.WithoutViewModel

/-! # Where a view-model is planned

A view-model is planned wherever its component is, unless the folder of view-models is a step up, which no
namespace can be made from. It lies in the folder that goes with the component, below the root, as long as
what is added to the name of the component leads nowhere else.

* **`Scaffolder.planned_with`** — the plan with a view-model, from the one without.
* **`Scaffolder.planned_with_outside`** — configurations that are accepted and lead elsewhere. -/

namespace ComponentScaffold

/-! ## Files of classes -/

/-- What follows the name of a component makes it another such name if it has the characters of one. -/
theorem isComponentName_append_iff {name suffix : String} (hname : isComponentName name = true) :
    isComponentName (name ++ suffix) = true ↔ suffix.toList.all isNamePart = true := by
  cases hlist : name.toList with
  | nil => simp [isComponentName, hlist] at hname
  | cons first rest =>
    simp only [isComponentName, hlist, Bool.and_eq_true] at hname
    simp only [isComponentName, String.toList_append, hlist, List.cons_append, List.all_append, hname.1, hname.2,
      Bool.true_and]

/-- What makes the name of a component another such name is a single piece, and no step up. -/
theorem no_parents_of_isComponentName_append {name suffix : String} (hname : isComponentName name = true)
    (h : isComponentName (name ++ suffix) = true) : '/' ∉ suffix.toList ∧ ".." ∉ (⟨suffix⟩ : Path).pieces := by
  have hparts := List.all_eq_true.1 ((isComponentName_append_iff hname).1 h)
  have hslash : '/' ∉ suffix.toList := fun hmem => not_isNamePart.1 (hparts _ hmem)
  refine ⟨hslash, ?_⟩
  rw [Path.pieces_of_no_slash hslash, List.mem_singleton]
  intro hdots
  exact not_isNamePart.2 (hparts '.' (by rw [← hdots]; decide))

/-- What starts with the name of a component goes through a step to a name. -/
theorem exists_step_of_isComponentName {name : String} (hname : isComponentName name = true) (rest : String) :
    ∃ piece ∈ (⟨name ++ rest⟩ : Path).names, Path.Component.ofPiece? piece = some (.name piece) := by
  have hstep := isStep_of_isComponentName hname
  obtain ⟨piece, hpiece, tail, htail⟩ := Path.exists_mem_pieces_of_prefix hstep.no_slash rest
  obtain ⟨first, others, hfirst⟩ := hstep.exists_toList_eq_cons
  rw [hfirst, List.cons_append] at htail
  -- the piece starts as the name does, so it is not empty and starts with no dot
  have hempty : piece ≠ "" := by
    rintro rfl
    cases htail
  have hdot : first ≠ '.' := by
    rintro rfl
    exact absurd (isNamePart_of_mem hname (hfirst ▸ List.mem_cons_self)) not_isNamePart.2
  have hcurrent : piece ≠ "." := by
    rintro rfl
    exact hdot (List.cons.inj htail).1
  have hparent : piece ≠ ".." := by
    rintro rfl
    exact hdot (List.cons.inj htail).1
  exact ⟨piece, List.mem_filter.2 ⟨hpiece, by simpa using hempty⟩,
    by simp [Path.Component.ofPiece?, Path.isIdle, hempty, hcurrent, hparent]⟩

/-- What ends like a source file goes through a step to a name. -/
theorem exists_step_of_source (front : String) :
    ∃ piece ∈ (⟨front ++ ".cs"⟩ : Path).names, Path.Component.ofPiece? piece = some (.name piece) := by
  obtain ⟨piece, hpiece, hsuffix⟩ :=
    Path.exists_mem_pieces_of_suffix (show '/' ∉ ".cs".toList by decide) front
  have hne {text : String} (htext : ¬".cs".toList.length ≤ text.toList.length) : piece ≠ text := by
    rintro rfl
    exact htext hsuffix.length_le
  have hempty : piece ≠ "" := hne (by decide)
  have hcurrent : piece ≠ "." := hne (by decide)
  have hparent : piece ≠ ".." := hne (by decide)
  exact ⟨piece, List.mem_filter.2 ⟨hpiece, by simpa using hempty⟩,
    by simp [Path.Component.ofPiece?, Path.isIdle, hempty, hcurrent, hparent]⟩

/-- **The file of a class lies right in its folder** unless what is added to the name of the component has a
slash. -/
theorem isChildOf_source_iff {folder : Path} (hfolder : folder.isAbsolute = true) {name suffix : String}
    (hname : isComponentName name = true) (habs : (⟨name ++ suffix ++ ".cs"⟩ : Path).isAbsolute = false) :
    (folder.child (name ++ suffix ++ ".cs")).IsChildOf folder ↔ '/' ∉ suffix.toList := by
  unfold Path.IsChildOf
  simp only [Path.child, Path.components_join hfolder habs, List.append_cancel_left_eq]
  constructor
  · rintro ⟨last, hlast⟩ hslash
    obtain ⟨first, rest, hsuffix, -⟩ := List.eq_append_cons_of_mem hslash
    have htext : name ++ suffix ++ ".cs" =
        (name ++ String.ofList first) ++ "/" ++ (String.ofList rest ++ ".cs") :=
      String.toList_injective (by simp [hsuffix])
    have hnames : (⟨name ++ suffix ++ ".cs"⟩ : Path).names =
        (⟨name ++ String.ofList first⟩ : Path).names ++ (⟨String.ofList rest ++ ".cs"⟩ : Path).names := by
      rw [Path.names, htext, Path.pieces_append_slash, List.filter_append]
      rfl
    -- there is a step on either side of the slash
    obtain ⟨piece, hpiece, hstep⟩ := exists_step_of_isComponentName hname (String.ofList first)
    obtain ⟨piece', hpiece', hstep'⟩ := exists_step_of_source (String.ofList rest)
    rw [hnames, List.filterMap_append] at hlast
    rcases List.append_eq_singleton_iff.1 hlast with ⟨hnil, -⟩ | ⟨-, hnil⟩
    · exact List.ne_nil_of_mem (List.mem_filterMap.2 ⟨piece, hpiece, hstep⟩) hnil
    · exact List.ne_nil_of_mem (List.mem_filterMap.2 ⟨piece', hpiece', hstep'⟩) hnil
  · intro hslash
    have hfile : Path.IsStep (name ++ suffix ++ ".cs") :=
      isStep_append (isStep_append (isStep_of_isComponentName hname) hslash) (by decide)
    obtain ⟨piece, hpiece, hstep⟩ := exists_step_of_source (name ++ suffix)
    rw [Path.names_of_isStep hfile] at hpiece ⊢
    obtain rfl := List.mem_singleton.1 hpiece
    exact ⟨_, List.filterMap_cons_some hstep⟩

namespace Scaffolder

/-! ## The plan of a view-model -/

/-- **What the plan of a view-model is made of.** -/
theorem planViewModel_parts {config : Config} {root : ProjectRoot} {target : Path} {name : String}
    {plan : ViewModelPlan} (h : planViewModel config root target name = .ok plan) :
    ∃ folders, root.companionFolders target config.viewsFolder config.viewModelsFolder = .ok folders ∧
      plan.className = name ++ config.viewModelSuffix ∧
      plan.path = folders.viewModel.child (plan.className ++ ".cs") ∧ plan.baseFolder = folders.base ∧
      root.namespaceOf folders.viewModel plan.className = .ok plan.namespaces := by
  obtain ⟨folders, hfolders, h⟩ := bind_eq_ok_iff.1 h
  obtain ⟨namespaces, hnamespaces, h⟩ := bind_eq_ok_iff.1 h
  obtain rfl := Except.ok.inj h
  exact ⟨folders, hfolders, rfl, rfl, rfl, hnamespaces⟩

/-- **A view-model that is not named by a way up lies below the root.** -/
theorem liesBelow_of_planViewModel {config : Config} {root : ProjectRoot} {target : Path} {name : String}
    {plan : ViewModelPlan} (hvalid : config.validate = .ok ()) (hrootParents : ".." ∉ root.path.names)
    (hname : isComponentName name = true) (hfolder : config.viewModelsFolder ≠ "..")
    (hsuffix : ".." ∉ (⟨config.viewModelSuffix⟩ : Path).pieces)
    (h : planViewModel config root target name = .ok plan) : plan.path.LiesBelow root.path := by
  obtain ⟨above, below, hpath, habove, hbelow⟩ := planViewModel_ok h
  obtain ⟨hrelative, hclass⟩ := no_parents_of_className hname hsuffix
  have hnames : plan.path.names = root.path.names ++
      (above ++ [config.viewModelsFolder] ++ below ++ (⟨name ++ config.viewModelSuffix ++ ".cs"⟩ : Path).names) := by
    rw [hpath, Path.child, Path.names_join hrelative, Path.names_descend fun name hname => (hbelow name hname).1,
      Path.names_child (Config.isStep_viewModelsFolder hvalid),
      Path.names_descend fun name hname => (habove name hname).1]
    simp only [List.append_assoc]
  have hparents : ".." ∉ plan.path.names :=
    no_parents_of_planViewModel hvalid hrootParents hname hfolder hsuffix h
  rw [hnames, List.mem_append, not_or] at hparents
  obtain ⟨piece, hpiece, hstep⟩ := exists_step_of_source (name ++ config.viewModelSuffix)
  refine Path.liesBelow_of_names hrootParents hparents.2 ⟨piece, List.mem_append_right _ hpiece, ?_⟩ hnames
  rintro rfl
  cases hstep

/-- **A folder of view-models that is a step up** gets no view-model planned. -/
theorem planViewModel_of_parent {config : Config} {root : ProjectRoot} {target : Path} {name : String}
    {namespaces : NamespacePair} (hroot : root.path.isAbsolute = true)
    (hfolder : config.viewModelsFolder = "..") (h : root.namespaceOf target name = .ok namespaces) :
    ∃ way, planViewModel config root target name = .error (.unnamedStep way) := by
  obtain ⟨segments, hsegments, -⟩ := bind_eq_ok_iff.1 h
  obtain ⟨folders, hfolders⟩ :=
    ProjectRoot.exists_companionFolders config.viewsFolder config.viewModelsFolder hsegments
  obtain ⟨above, below, hviewModel, -, habove, hbelow⟩ := ProjectRoot.companionFolders_ok hfolders
  have hparent : Path.IsStep config.viewModelsFolder := hfolder ▸ ⟨by decide, by decide⟩
  have habsAbove := Path.isAbsolute_descend hroot above
  have habsChild := Path.isAbsolute_child habsAbove config.viewModelsFolder
  have hcomponents : folders.viewModel.components = root.path.components ++
      (above.map .name ++ [config.viewModelsFolder].filterMap Path.Component.ofPiece? ++ below.map .name) := by
    rw [hviewModel, Path.components_descend hbelow, Path.child,
      Path.components_join habsAbove (Path.not_isAbsolute_of_isStep hparent), Path.names_of_isStep hparent,
      Path.components_descend habove]
    simp only [List.append_assoc]
  -- the way down to the view-model passes the step up, which has no name
  obtain ⟨way, hway⟩ := Path.segmentsBelow_of_parent
    (hviewModel ▸ Path.isAbsolute_descend habsChild below) hcomponents
    (List.mem_append_left _ (List.mem_append_right _ (by rw [hfolder]; exact List.mem_singleton_self _)))
  refine ⟨way, ?_⟩
  unfold planViewModel ProjectRoot.namespaceOf
  rw [hfolders]
  simp only [bind, Except.bind, hway]

/-- **Where a component is planned without a view-model, it is planned with one**, unless the folder of
view-models is a step up. The view-model is then in the folder that goes with the component and below the root
as far as what is added to the name of the component leads there, and above all if its class has a name. -/
theorem planned_with {scaffolder : Scaffolder} {request : Request} {fs : FileSystem} {plan : Plan}
    (hfs : fs.WellFormed) (hvalid : scaffolder.config.validate = .ok ())
    (hkind : request.kind.supportsViewModel = true)
    (h : scaffolder.planned (request.asking false) fs = .ok plan) :
    (scaffolder.config.viewModelsFolder = ".." →
      ∃ way, scaffolder.planned (request.asking true) fs = .error (.namespace (.unnamedStep way))) ∧
    (scaffolder.config.viewModelsFolder ≠ ".." → ∃ viewModel folders,
      scaffolder.planned (request.asking true) fs = .ok { plan with viewModel := some viewModel } ∧
      plan.root.companionFolders plan.target scaffolder.config.viewsFolder scaffolder.config.viewModelsFolder =
        .ok folders ∧
      viewModel.className = request.name ++ scaffolder.config.viewModelSuffix ∧
      viewModel.path = folders.viewModel.child (viewModel.className ++ ".cs") ∧
      (isComponentName viewModel.className = true ↔
        scaffolder.config.viewModelSuffix.toList.all isNamePart = true) ∧
      (viewModel.path.IsChildOf folders.viewModel ↔ '/' ∉ scaffolder.config.viewModelSuffix.toList) ∧
      (".." ∉ (⟨scaffolder.config.viewModelSuffix⟩ : Path).pieces → viewModel.path.LiesBelow plan.root.path) ∧
      (isComponentName viewModel.className = true →
        viewModel.path.IsChildOf folders.viewModel ∧ viewModel.path.LiesBelow plan.root.path)) := by
  obtain ⟨hname, htarget, ⟨start, hstart, hroot⟩, hnamespaces, hnone⟩ := planned_ok h
  obtain ⟨-, hrootAbs, hparents, -⟩ := isAbsolute_of_planned hfs h
  have hasked : ((request.asking true).withViewModel && (request.asking true).kind.supportsViewModel) = true := hkind
  have hwith : scaffolder.planned (request.asking true) fs =
      (((planViewModel scaffolder.config plan.root plan.target request.name).mapError .namespace).map some).map
        (scaffolder.planOf request plan.root plan.target plan.namespaces) := by
    rw [planned_of_parts (request.asking true) hname htarget hstart hroot hnamespaces, viewModelPlanned,
      if_pos hasked]
    rfl
  have hbare : plan = scaffolder.planOf request plan.root plan.target plan.namespaces plan.viewModel := by
    have hwithout := planned_of_parts (request.asking false) hname htarget hstart hroot hnamespaces
    rw [h, hnone] at hwithout
    exact Except.ok.inj hwithout
  constructor
  · intro hfolder
    obtain ⟨way, hway⟩ := planViewModel_of_parent hrootAbs hfolder hnamespaces
    exact ⟨way, by rw [hwith, show planViewModel _ _ _ request.name = _ from hway]; rfl⟩
  · intro hfolder
    obtain ⟨viewModel, hplan⟩ := planViewModel_isOk hvalid hrootAbs hname hfolder hnamespaces
    obtain ⟨folders, hfolders, hclass, hpath, -, -⟩ := planViewModel_parts hplan
    have hchild : viewModel.path.IsChildOf folders.viewModel ↔
        '/' ∉ scaffolder.config.viewModelSuffix.toList := by
      rw [hpath, hclass]
      refine isChildOf_source_iff (isAbsolute_of_companionFolders hrootAbs hfolders) hname ?_
      rw [String.append_assoc]
      exact not_isAbsolute_of_isComponentName hname _
    have hbelow (hsuffix : ".." ∉ (⟨scaffolder.config.viewModelSuffix⟩ : Path).pieces) :=
      liesBelow_of_planViewModel hvalid hparents hname hfolder hsuffix hplan
    refine ⟨viewModel, folders, ?_, hfolders, hclass, hpath, hclass ▸ isComponentName_append_iff hname,
      hchild, hbelow, fun hnamed => ?_⟩
    · calc scaffolder.planned (request.asking true) fs
        _ = .ok (scaffolder.planOf request plan.root plan.target plan.namespaces (some viewModel)) := by
          rw [hwith, show planViewModel _ _ _ request.name = _ from hplan]
          rfl
        _ = .ok { scaffolder.planOf request plan.root plan.target plan.namespaces plan.viewModel with
            viewModel := some viewModel } := rfl
        _ = .ok { plan with viewModel := some viewModel } := by rw [← hbare]
    · obtain ⟨hslash, hsuffix⟩ := no_parents_of_isComponentName_append hname (hclass ▸ hnamed)
      exact ⟨hchild.2 hslash, hbelow hsuffix⟩

/-- In a project with notes, a view-model that is named as usual is planned in its folder. -/
theorem planned_with_usual :
    Notes.files.WellFormed ∧ (Notes.scaffolder "ViewModel").config.validate = .ok () ∧
      ∃ plan viewModel, (Notes.scaffolder "ViewModel").planned (Notes.request false) Notes.files = .ok plan ∧
        (Notes.scaffolder "ViewModel").planned (Notes.request true) Notes.files =
          .ok { plan with viewModel := some viewModel } ∧
        viewModel.className = "MainViewModel" ∧ viewModel.path.LiesBelow plan.root.path := by
  have hnone : (Notes.scaffolder "ViewModel").viewModelPlanned (Notes.request false) Notes.root
      ⟨"/proj/Views"⟩ = .ok none := rfl
  have hplanned := Notes.planned hnone
  obtain ⟨-, hwith⟩ := @planned_with (Notes.scaffolder "ViewModel") (Notes.request false) _ _
    Notes.found.wellFormed Notes.found.validate rfl hplanned
  obtain ⟨viewModel, folders, htrue, -, hclass, -, -, -, hbelow, -⟩ := hwith (by decide)
  exact ⟨Notes.found.wellFormed, Notes.found.validate, _, viewModel, hplanned, htrue, hclass,
    hbelow Notes.found.noWayUp⟩

/-! ## Configurations that lead elsewhere -/

namespace Notes

/-- What scaffolds with a step up as the folder of view-models. -/
def above : Scaffolder := ⟨{ Config.standard with viewModelsFolder := ".." }, generator⟩

/-- A view-model that is named by a way out of the project. -/
def outside : ViewModelPlan :=
  ⟨"Main/../../../Outside", ⟨"/proj/ViewModels/Main/../../../Outside.cs"⟩,
    .ofFull "App.ViewModels.Main/../../../Outside", ⟨"/proj/ViewModels"⟩⟩

/-- **What comes of them.** -/
structure FoundElsewhere : Prop where
  /-- A step up is accepted. -/
  validate_above : above.config.validate = .ok ()
  /-- The view-model is then refused. -/
  planned_above : above.viewModelPlanned (request true) root ⟨"/proj/Views"⟩ =
    .error (.namespace (.unnamedStep ⟨".."⟩))
  /-- A way out is accepted. -/
  validate_outside : (scaffolder "/../../../Outside").config.validate = .ok ()
  /-- It is planned. -/
  planned_outside : (scaffolder "/../../../Outside").viewModelPlanned (request true) root ⟨"/proj/Views"⟩ =
    .ok (some outside)
  /-- Its class has no name. -/
  unnamed : isComponentName outside.className = false
  /-- This is where it leads, as it is written. -/
  plainNames : outside.path.plainNames = ["Outside.cs"]
  /-- Nothing is there. -/
  vacant : files.lookup ["Outside.cs"] = none
  /-- It is created there. -/
  created : (finished (plan "/../../../Outside" true (some outside))).lookup ["Outside.cs"] ≠ none

/-- All of this is found. -/
theorem foundElsewhere : FoundElsewhere where
  validate_above := by decide +kernel
  planned_above := by decide +kernel
  validate_outside := by decide +kernel
  planned_outside := by decide +kernel
  unnamed := by decide +kernel
  plainNames := by decide +kernel
  vacant := by decide +kernel
  created := by decide +kernel

end Notes

/-- **Accepted configurations that keep a component from being planned, or put a file outside the project.** -/
theorem planned_with_outside :
    (Notes.above.config.validate = .ok () ∧
      (∃ plan, Notes.above.planned (Notes.request false) Notes.files = .ok plan) ∧
      Notes.above.planned (Notes.request true) Notes.files = .error (.namespace (.unnamedStep ⟨".."⟩))) ∧
    (Notes.scaffolder "/../../../Outside").config.validate = .ok () ∧
      ∃ plan viewModel report after,
        (Notes.scaffolder "/../../../Outside").planned (Notes.request true) Notes.files = .ok plan ∧
        plan.viewModel = some viewModel ∧ isComponentName viewModel.className = false ∧
        ¬viewModel.path.LiesBelow plan.root.path ∧
        ((Notes.scaffolder "/../../../Outside").scaffold (Notes.request true)).perform ⟨Notes.files, [], []⟩ =
          (.ok report, after) ∧
        Notes.files.lookup ["Outside.cs"] = none ∧ after.files.lookup ["Outside.cs"] ≠ none := by
  have hfound := Notes.foundElsewhere
  have hnone : Notes.above.viewModelPlanned (Notes.request false) Notes.root ⟨"/proj/Views"⟩ = .ok none := rfl
  have hroot : Notes.files.located Notes.above.config.markers ⟨"/proj"⟩ = .ok Notes.root := Notes.found.located
  refine ⟨⟨hfound.validate_above, ⟨_, Notes.planned_of_markers rfl hnone⟩, ?_⟩, hfound.validate_outside, ?_⟩
  · rw [planned_of_parts (Notes.request true) Notes.found.name Notes.found.absolute.2
      Notes.found.absolute.1 hroot Notes.found.namespaces, hfound.planned_above]
    rfl
  · obtain ⟨report, after, hrun, hfiles⟩ := Notes.scaffolded hfound.planned_outside
    refine ⟨_, Notes.outside, report, after, Notes.planned hfound.planned_outside, rfl, hfound.unnamed, ?_, hrun,
      hfound.vacant, hfiles ▸ hfound.created⟩
    rintro ⟨rest, -, hrest⟩
    have hplain : Notes.root.path.plainNames = ["proj"] := by decide +kernel
    rw [hfound.plainNames, show (Notes.plan _ _ _).root.path.plainNames = _ from hplain] at hrest
    exact absurd (List.cons.inj hrest).1 (by decide)

end Scaffolder

end ComponentScaffold
