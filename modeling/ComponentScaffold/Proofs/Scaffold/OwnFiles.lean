import ComponentScaffold.Proofs.Files.Linkless
import ComponentScaffold.Proofs.Scaffold.PlannedViewModel
import ComponentScaffold.Proofs.Scaffold.Replanning

/-! # The files of a component and those of others

A component is scaffolded into places of its own, which tell the folder and the name it goes by. In a file system
without links nothing else is touched, but for what a view-model overwrites.

* **`eq_of_owned`** — no two components own one place.
* **`Generator.WritesGenerated`** — a generator that writes the files of a component and no others.
* **`Scaffolder.scaffold_touches`** — what scaffolding touches, whether or not it succeeds.
* **`setNamespaces_takes`** — the files of a component take its namespaces.
* **`Scaffolder.not_overwritten_of_planned`** — nothing is overwritten by a view-model that is not named by a way
  up. -/

namespace ComponentScaffold

open ComponentScaffold.Action

/-! ## Names of files -/

/-- What the name of a generated file has behind the name of the component. -/
theorem exists_ending_of_mem_generatedFiles {kind : ComponentKind} {name : String} {file : GeneratedFile}
    (h : file ∈ kind.generatedFiles name) :
    ∃ ending ∈ [".axaml", ".axaml.cs", ".cs"], file.fileName = name ++ ending := by
  cases kind <;> simp only [ComponentKind.generatedFiles, List.mem_cons, List.not_mem_nil, or_false] at h
  case window | userControl =>
    rcases h with rfl | rfl
    · exact ⟨".axaml", by decide, rfl⟩
    · exact ⟨".axaml.cs", by decide, rfl⟩
  case templatedControl =>
    rcases h with rfl | rfl
    · exact ⟨".axaml", by decide, rfl⟩
    · exact ⟨".cs", by decide, rfl⟩
  case styles | resource =>
    subst h
    exact ⟨".axaml", by decide, rfl⟩

/-- **The name of a component** is what each of its files has before the first dot. -/
theorem takeWhile_fileName {kind : ComponentKind} {name : String} {file : GeneratedFile}
    (hname : isComponentName name = true) (hfile : file ∈ kind.generatedFiles name) :
    file.fileName.toList.takeWhile (· ≠ '.') = name.toList := by
  obtain ⟨ending, hending, hfileName⟩ := exists_ending_of_mem_generatedFiles hfile
  obtain ⟨rest, hrest⟩ : ∃ rest, ending.toList = '.' :: rest := by
    have hdots : ∀ ending ∈ [".axaml", ".axaml.cs", ".cs"], ending.toList.head? = some '.' := by decide
    exact List.head?_eq_some_iff.1 (hdots ending hending)
  have hdotless : ∀ c ∈ name.toList, decide (c ≠ '.') = true := by
    intro c hc
    rw [decide_eq_true_eq]
    rintro rfl
    exact absurd (isNamePart_of_mem hname hc) not_isNamePart.2
  rw [hfileName, String.toList_append, hrest, List.takeWhile_append_of_pos hdotless,
    List.takeWhile_cons_of_neg (by simp), List.append_nil]

/-- A generated file lies right in its folder, under a name of its own. -/
theorem isStep_fileName {kind : ComponentKind} {name : String} {file : GeneratedFile}
    (hname : isComponentName name = true) (hfile : file ∈ kind.generatedFiles name) :
    Path.IsStep file.fileName ∧ file.fileName ≠ "." ∧ file.fileName ≠ ".." := by
  obtain ⟨ending, hending, hfileName⟩ := exists_ending_of_mem_generatedFiles hfile
  have hlength : 2 < file.fileName.length := by
    have hendings : ∀ ending ∈ [".axaml", ".axaml.cs", ".cs"], 2 < ending.length := by decide
    rw [hfileName, String.length_append]
    exact Nat.lt_add_left _ (hendings ending hending)
  refine ⟨isStep_of_mem_generatedFiles hname hfile, ?_, ?_⟩
  · intro hdot
    rw [hdot] at hlength
    exact absurd hlength (by decide)
  · intro hdots
    rw [hdots] at hlength
    exact absurd hlength (by decide)

/-- The files of a component have different names. -/
theorem nodup_fileNames (kind : ComponentKind) (name : String) :
    (kind.generatedFiles name).Pairwise fun file other => file.fileName ≠ other.fileName := by
  cases kind <;> simp [ComponentKind.generatedFiles]

/-! ## Places of their own -/

/-- The paths of the files of a component in a folder. -/
def ComponentKind.pathsIn (kind : ComponentKind) (name : String) (folder : Path) : List Path :=
  (kind.generatedFiles name).map fun file => folder.child file.fileName

/-- **A place that is a component's own**: a file of the component, of whatever kind, has it in the folder. -/
def Owned (target : Path) (name : String) (place : Location) : Prop :=
  ∃ folder, target = .ofLocation folder ∧
    ∃ kind, ∃ file ∈ ComponentKind.generatedFiles kind name, place = folder ++ [file.fileName]

/-- **No two components own one place**: it tells the folder and the name. -/
theorem eq_of_owned {target target' : Path} {name name' : String} {place : Location}
    (hname : isComponentName name = true) (hname' : isComponentName name' = true)
    (h : Owned target name place) (h' : Owned target' name' place) : (target, name) = (target', name') := by
  obtain ⟨folder, rfl, kind, file, hfile, rfl⟩ := h
  obtain ⟨folder', rfl, kind', file', hfile', hplace⟩ := h'
  -- the folders have to be one, and then the names of the files
  obtain ⟨rfl, hlast⟩ := List.append_inj' hplace rfl
  have hsame : name.toList = name'.toList := by
    rw [← takeWhile_fileName hname hfile, ← takeWhile_fileName hname' hfile', List.singleton_inj.1 hlast]
  rw [String.toList_injective hsame]

variable {folder : Location} {kind : ComponentKind} {name : String}

/-- The path of a file of a component in the folder of a place. -/
theorem child_fileName (hfolder : ∀ step ∈ folder, Path.IsStep step ∧ step ≠ "." ∧ step ≠ "..")
    (hname : isComponentName name = true) {file : GeneratedFile} (hfile : file ∈ kind.generatedFiles name) :
    (Path.ofLocation folder).child file.fileName = .ofLocation (folder ++ [file.fileName]) ∧
      (Path.ofLocation (folder ++ [file.fileName])).plainNames = folder ++ [file.fileName] := by
  have hstep := isStep_fileName hname hfile
  refine ⟨Path.child_ofLocation (fun step hmem => (hfolder step hmem).1) hstep.1, Path.plainNames_ofLocation ?_⟩
  intro step hmem
  rcases List.mem_append.1 hmem with hmem | hmem
  · exact hfolder step hmem
  · exact List.mem_singleton.1 hmem ▸ hstep

/-- Writes to the files of a component touch its own places. -/
theorem touches_of_writesAmong {target : Path} {before after : FileSystem} (htarget : target = .ofLocation folder)
    (hfolder : ∀ step ∈ folder, Path.IsStep step ∧ step ≠ "." ∧ step ≠ "..") (hname : isComponentName name = true)
    (hfs : before.Linkless) (h : before.WritesAmong (kind.pathsIn name target) after) :
    before.Touches (Owned target name) after := by
  subst htarget
  refine (h.touches hfs ?_).mono ?_
  · intro path hpath
    obtain ⟨file, -, rfl⟩ := List.mem_map.1 hpath
    exact Path.isAbsolute_child (Path.isAbsolute_ofLocation folder) _
  · rintro place ⟨path, hpath, rfl⟩
    obtain ⟨file, hfile, rfl⟩ := List.mem_map.1 hpath
    obtain ⟨hchild, hplain⟩ := child_fileName hfolder hname hfile
    exact ⟨folder, rfl, kind, file, hfile, by rw [hchild, hplain]⟩

/-- **A generator that writes the files of a component** and nothing else: each with any bytes and as often as it
likes, whether or not it succeeds. -/
def Generator.WritesGenerated (generator : Generator) : Prop :=
  ∀ (kind : ComponentKind) (name : String) (folder : Path) (fs : FileSystem),
    fs.WritesAmong (kind.pathsIn name folder) (generator.perform ⟨kind.template, name, folder⟩ fs).files

/-- Writing namespaces writes to the files alone. -/
theorem setNamespaces_writes (target : Path) (namespaces : NamespacePair) (files : List GeneratedFile) :
    Moves (FileSystem.WritesAmong (files.map fun file => target.child file.fileName))
      (setNamespaces target namespaces files) := by
  induction files with
  | nil => exact (Computes.pure _).moves
  | cons file rest ih =>
    have hrest := ih.mono fun _ _ hwrites =>
      hwrites.mono fun _ hpath => List.mem_cons_of_mem (target.child file.fileName) hpath
    rw [setNamespaces]
    split
    case h_1 => exact (Computes.report _ _ _).moves.bind fun _ => hrest
    case h_2 =>
      refine ((fillRegion_moves _ _ _ _).mono fun _ _ hwrites => .of_writesTo List.mem_cons_self hwrites).bind ?_
      exact fun _ => hrest.bind fun _ => (Computes.pure _).moves

/-- **A file that is created** touches what it overwrites, and nothing else. -/
theorem FileSystem.CreatesFile.touches {before after : FileSystem} {p : Path} (h : CreatesFile p before after)
    (hfs : before.Linkless) (habs : p.isAbsolute = true) : before.Touches (before.Overwrites p) after := by
  have hkept (place : Location) (entry : Entry) := @CreatesFile.keeps _ _ _ h hfs.toWellFormed habs place entry
  cases h with
  | taken => exact .refl _ hfs
  | unfit hup hmade =>
    have hrun := MakesFolders.of_makeDirectories hfs.toWellFormed (Path.isAbsolute_of_parent? habs hup) hmade
    exact hrun.touches hfs _
  | written _ hup hmade hwrites =>
    have hrun := MakesFolders.of_makeDirectories hfs.toWellFormed (Path.isAbsolute_of_parent? habs hup) hmade
    have hmade := hrun.touches hfs (fun _ => False)
    have hwritten := hwrites.touches hmade.linkless habs
    exact ⟨hwritten.linkless, hmade.growsTo.trans hwritten.growsTo, hkept⟩
  | alone _ _ hwrites =>
    have hwritten := hwrites.touches hfs habs
    exact ⟨hwritten.linkless, hwritten.growsTo, hkept⟩

namespace Scaffolder

variable {scaffolder : Scaffolder} {request : Request} {fs made : FileSystem} {plan : Plan} {session : Session}

/-! ## One component -/

/-- **The folder of a plan that was made** is the path of a place. -/
theorem exists_ofLocation_of_planned (hfs : fs.WellFormed) (h : scaffolder.planned request fs = .ok plan)
    (hmade : fs.makeDirectories plan.target = (made, .ok ())) :
    ∃ folder, plan.target = .ofLocation folder ∧ ∀ step ∈ folder, Path.IsStep step ∧ step ≠ "." ∧ step ≠ ".." := by
  obtain ⟨habs, hparents, -⟩ := planned_below hfs h
  rw [Path.parent_mem_components_iff habs] at hparents
  obtain ⟨full, -, hfullAbs, ⟨existing, names, place, entry, hpart, hleads, htarget⟩ | ⟨htarget, -, hnothing⟩⟩ :=
    FileSystem.existingPart_of_absolute hfs (planned_ok h).2.1
  case inr =>
    -- no part of it is there, so it is too long to lead anywhere
    obtain ⟨found, hfound, -⟩ := FileSystem.makeDirectoriesWithin_ok hfs habs hparents hmade
    rw [htarget] at hfound hparents
    exact absurd (hnothing ((FileSystem.resolve_eq_ok_iff hfullAbs).1 hfound).1) hparents
  obtain ⟨hplace⟩ := FileSystem.resolve_holds hfs (hpart.isAbsolute hfullAbs).1 hleads
  refine ⟨place ++ names, htarget, fun step hstep => ?_⟩
  rcases List.mem_append.1 hstep with hmem | hmem
  · have hname := hfs.isEntryName_of_mem hplace hmem
    exact ⟨hname.toIsStep, hname.ne_current, hname.ne_parent⟩
  · exact hpart.isStep hfullAbs step hmem

/-- **What a generator leaves** in the folder of a plan: it has touched the own places of the component. -/
theorem leaves_touches (hfs : session.files.Linkless) (hgenerator : scaffolder.generator.WritesGenerated)
    (h : scaffolder.planned request session.files = .ok plan)
    (hmade : session.files.makeDirectories plan.target = (made, .ok ())) :
    session.files.Touches (Owned plan.target request.name)
      (scaffolder.generator.leaves (invocation request plan) made) := by
  have habs := (planned_below hfs.toWellFormed h).1
  obtain ⟨folder, htarget, hfolder⟩ := exists_ofLocation_of_planned hfs.toWellFormed h hmade
  have hrun : FileSystem.MakesFolders plan.target session.files made :=
    .of_makeDirectories hfs.toWellFormed habs hmade
  have hfolders := hrun.touches hfs (Owned plan.target request.name)
  have hwrites := touches_of_writesAmong htarget hfolder (planned_ok h).1 hfolders.linkless
    (hgenerator request.kind request.name plan.target made)
  exact hfolders.trans ⟨hwrites.linkless.standing _, hwrites.growsTo, hwrites.kept⟩

/-- **Carrying out a plan** touches the own places of the component, however far it comes. -/
theorem carryOut_touches (hfs : session.files.Linkless) (hgenerator : scaffolder.generator.WritesGenerated)
    (records : List Record) (h : scaffolder.planned request session.files = .ok plan) :
    session.files.Touches (Owned plan.target request.name)
      ((scaffolder.carryOut request plan).perform { session with records := records }).2.files := by
  cases hcarry : (scaffolder.carryOut request plan).perform { session with records := records } with
  | mk outcome after =>
    -- once the generator has left its files, namespaces are written into them, to all or to the first ones
    have hfilled {made : FileSystem} {output : GeneratorOutput} {left : Session} {result : Except Failure (List Path)}
        (hgenerates : scaffolder.Generates request plan { session with records := records } made (.ok output) left)
        (hset : (setNamespaces plan.target plan.namespaces (request.kind.generatedFiles request.name)).perform left =
          (result, after)) : session.files.Touches (Owned plan.target request.name) after.files := by
      have hleaves := leaves_touches hfs hgenerator h hgenerates.makes
      rw [← hgenerates.leaves] at hleaves
      obtain ⟨folder, htarget, hfolder⟩ := exists_ofLocation_of_planned hfs.toWellFormed h hgenerates.makes
      have hwrites := (setNamespaces_writes plan.target plan.namespaces
        (request.kind.generatedFiles request.name) left).1
      rw [hset] at hwrites
      exact hleaves.trans (touches_of_writesAmong htarget hfolder (planned_ok h).1 hleaves.linkless hwrites)
    cases carriesOut_of_carryOut hcarry with
    | noFolder hmake =>
      have hrun : FileSystem.MakesFolders plan.target session.files _ :=
        .of_makeDirectories hfs.toWellFormed (planned_below hfs.toWellFormed h).1 hmake
      exact hrun.touches hfs _
    | notGenerated hgenerates =>
      rw [hgenerates.leaves]
      exact leaves_touches hfs hgenerator h hgenerates.makes
    | unfilled hgenerates hset | done hgenerates hset => exact hfilled hgenerates hset

/-- **A place that is a request's own**: its component has it in the folder that it is to go to. -/
def Owns (request : Request) (fs : FileSystem) (place : Location) : Prop :=
  isComponentName request.name = true ∧
    ∃ target, fs.absolute request.target = .ok target ∧ Owned target request.name place

/-- **What is done for a component** touches its own places. -/
theorem component_touches (hfs : session.files.Linkless) (hgenerator : scaffolder.generator.WritesGenerated)
    (request : Request) :
    session.files.Touches (Owns request session.files)
      ((scaffolder.component request).perform session).2.files := by
  obtain ⟨records, hplan⟩ := scaffolder.plan_computes request session
  cases hplanned : scaffolder.planned request session.files with
  | error failure =>
    rw [hplanned] at hplan
    rw [component, perform_bind_of_error hplan]
    exact .refl _ hfs
  | ok plan =>
    obtain ⟨hname, htarget, -⟩ := planned_ok hplanned
    have hcarry := (carryOut_touches hfs hgenerator records hplanned).mono fun place howned =>
      (⟨hname, plan.target, htarget, howned⟩ : Owns request session.files place)
    rw [hplanned] at hplan
    rw [component, perform_bind_of_ok hplan, perform_bind]
    cases hrun : (scaffolder.carryOut request plan).perform { session with records := records } with
    | mk outcome settled =>
      rw [hrun] at hcarry
      cases outcome <;> exact hcarry

/-- What is done for a view-model touches what it overwrites. -/
theorem Furnishes.touches {before after : FileSystem} (h : Furnishes plan before after) (hfs : before.Linkless)
    (habs : ∀ viewModel, plan.viewModel = some viewModel → viewModel.path.isAbsolute = true) :
    before.Touches (Overwritten plan before) after := by
  unfold Furnishes at h
  split at h
  case h_1 =>
    subst h
    exact .refl _ hfs
  case h_2 viewModel hviewModel =>
    exact (h.creates.touches hfs (habs viewModel hviewModel)).mono fun place hover => ⟨viewModel, hviewModel, hover⟩

/-- **What a request overwrites**: the view-model of its component leads there once its folder is made. -/
def Overwrites (scaffolder : Scaffolder) (request : Request) (session : Session) (place : Location) : Prop :=
  ∃ plan output updated settled,
    (scaffolder.component request).perform session = (.ok (plan, output, updated), settled) ∧
      Overwritten plan settled.files place

/-- **Scaffolding touches** the own places of a request and what it overwrites, whether or not it succeeds. -/
theorem scaffold_touches (hfs : session.files.Linkless) (hgenerator : scaffolder.generator.WritesGenerated)
    (request : Request) :
    session.files.Touches
      (fun place => Owns request session.files place ∨ scaffolder.Overwrites request session place)
      ((scaffolder.scaffold request).perform session).2.files := by
  have hcomponent := (component_touches hfs hgenerator request).mono
    fun place howns => show Owns _ _ place ∨ scaffolder.Overwrites request session place from .inl howns
  rcases scaffolder.perform_scaffold request session with
    ⟨plan, output, updated, settled, report, after, hperform, hscaffold, -, hfurnishes, -⟩ |
      ⟨failure, settled, hperform, hscaffold⟩
  · rw [hperform] at hcomponent
    rw [hscaffold]
    have hview := hfurnishes.touches hcomponent.linkless fun viewModel hsome =>
      ((isAbsolute_of_planned hfs.toWellFormed (component_ok hperform).1).2.2.2 viewModel hsome).1
    exact hcomponent.trans (hview.mono fun place hover => .inr ⟨plan, output, updated, settled, hperform, hover⟩)
  · rw [hperform] at hcomponent
    rw [hscaffold]
    exact hcomponent

/-- **Nothing is overwritten** by the view-model of a plan that is not named by a way up. -/
theorem not_overwritten_of_planned {before : FileSystem} (hbefore : before.WellFormed) (hfs : fs.WellFormed)
    (hsuffix : ".." ∉ (⟨scaffolder.config.viewModelSuffix⟩ : Path).pieces)
    (h : scaffolder.planned request before = .ok plan) (place : Location) : ¬Overwritten plan fs place := by
  rintro ⟨viewModel, hviewModel, hover⟩
  obtain ⟨-, hroot, hrootParents, hviewModels⟩ := isAbsolute_of_planned hbefore h
  obtain ⟨habs, hplan⟩ := hviewModels viewModel hviewModel
  obtain ⟨folders, hfolders, hclass, hpath, -, hnamespaces⟩ := planViewModel_parts hplan
  have hfolder := isAbsolute_of_companionFolders hroot hfolders
  -- its folder has namespaces, so it lies straight below the root
  obtain ⟨names, hnames, -⟩ := bind_eq_ok_iff.1 hnamespaces
  rw [Path.segmentsBelow_eq_ok_iff hfolder] at hnames
  have hfolderParents : ".." ∉ folders.viewModel.names := by
    rw [← Path.parent_mem_components_iff hfolder, hnames, List.mem_append, Path.parent_mem_components_iff hroot, not_or]
    exact ⟨hrootParents, by simp⟩
  obtain ⟨hrelative, hfile⟩ := no_parents_of_className (planned_ok h).1 hsuffix
  refine FileSystem.not_overwrites hfs habs ?_ place hover
  rw [hpath, hclass, Path.child, Path.names_join hrelative, List.mem_append, not_or]
  exact ⟨hfolderParents, hfile⟩

end Scaffolder

/-! ## The namespaces of a component -/

/-- **A region that is filled** in a file system without links: its text is taken where the path says. -/
theorem fillRegion_takes {file : Path} {startMarker endMarker content : String} {session after : Session}
    (hfs : session.files.Linkless) (habs : file.isAbsolute = true) (hmarker : startMarker ≠ "")
    (h : (fillRegion file startMarker endMarker content).perform session = (.ok (), after)) :
    ∃ old new : String, FillsRegion startMarker.toList endMarker.toList content.toList old.toList new.toList ∧
      ∃ entry, after.files.lookup file.plainNames = some entry ∧ entry.Took new := by
  obtain ⟨old, new, hread, hfills, hwrite, -⟩ := perform_fillRegion_ok h
  refine ⟨old, new, hfills, hfs.took_of_writeBytes habs ?_ hread hwrite⟩
  rintro rfl
  obtain ⟨before, held, rest, hstart, -⟩ := hfills
  have hempty := hstart.parts.symm.trans String.toList_empty
  exact hmarker (String.toList_injective (List.append_eq_nil_iff.1 (List.append_eq_nil_iff.1 hempty).1).2)

/-- **The files of a component take its namespaces**: the text of each was filled, and is what was written to it
last. -/
theorem setNamespaces_takes {folder : Location} {kind : ComponentKind} {name : String} {namespaces : NamespacePair}
    {files : List GeneratedFile} {session after : Session} {updated : List Path} (hfs : session.files.Linkless)
    (hfolder : ∀ step ∈ folder, Path.IsStep step ∧ step ≠ "." ∧ step ≠ "..") (hname : isComponentName name = true)
    (hfiles : ∀ file ∈ files, file ∈ kind.generatedFiles name)
    (hdistinct : files.Pairwise fun file other => file.fileName ≠ other.fileName)
    (h : (setNamespaces (.ofLocation folder) namespaces files).perform session = (.ok updated, after)) :
    ∀ file ∈ files, ∀ token, file.token = some token →
      ∃ old new : String, token.Fills namespaces old new ∧
        ∃ entry, after.files.lookup (folder ++ [file.fileName]) = some entry ∧ entry.Took new := by
  induction files generalizing session updated with
  | nil => simp
  | cons file rest ih =>
    obtain ⟨hfile, hrestFiles⟩ := List.forall_mem_cons.1 hfiles
    obtain ⟨hapart, hrestDistinct⟩ := List.pairwise_cons.1 hdistinct
    rcases setNamespaces_cons_ok h with ⟨hnone, reported, hsame, hrest⟩ |
      ⟨token, filled, others, hsome, hfill, hothers, -⟩
    · refine List.forall_mem_cons.2 ⟨fun token htoken => ?_, ih (hsame ▸ hfs) hrestFiles hrestDistinct hrest⟩
      rw [hnone] at htoken
      cases htoken
    · have habs (file : GeneratedFile) := Path.isAbsolute_child (Path.isAbsolute_ofLocation folder) file.fileName
      have hplain {file : GeneratedFile} (hfile : file ∈ kind.generatedFiles name) :
          ((Path.ofLocation folder).child file.fileName).plainNames = folder ++ [file.fileName] := by
        rw [(child_fileName hfolder hname hfile).1, (child_fileName hfolder hname hfile).2]
      have hwrites := (fillRegion_moves ((Path.ofLocation folder).child file.fileName) token.startMarker
        token.endMarker (token.select namespaces) session).1
      rw [hfill] at hwrites
      have hfilled := (hwrites.touches hfs (habs file)).linkless
      refine List.forall_mem_cons.2 ⟨fun token' htoken => ?_, ih hfilled hrestFiles hrestDistinct hothers⟩
      obtain rfl := Option.some.inj (hsome.symm.trans htoken)
      have hmarker : token.startMarker ≠ "" := by cases token <;> decide
      obtain ⟨old, new, hfills, entry, hentry, htook⟩ := fillRegion_takes hfs (habs file) hmarker hfill
      rw [hplain hfile] at hentry
      -- the files behind it have other names, so they leave it
      have hlater := (setNamespaces_writes (.ofLocation folder) namespaces rest filled).1
      rw [hothers] at hlater
      refine ⟨old, new, hfills, entry, ?_, htook⟩
      refine ((hlater.touches hfilled ?_).kept hentry).resolve_right ?_
      · intro path hpath
        obtain ⟨other, -, rfl⟩ := List.mem_map.1 hpath
        exact habs other
      · rintro ⟨path, hpath, hplace⟩
        obtain ⟨other, hother, rfl⟩ := List.mem_map.1 hpath
        rw [hplain (hrestFiles other hother)] at hplace
        exact hapart other hother (List.singleton_inj.1 (List.append_cancel_left hplace))

/-- **A component that stands** has its files in the folder of a place, and they have its namespaces. -/
theorem Scaffolder.component_takes {scaffolder : Scaffolder} {request : Request} {plan : Plan}
    {session settled : Session} {output : GeneratorOutput} {updated : List Path} (hfs : session.files.Linkless)
    (hgenerator : scaffolder.generator.WritesGenerated)
    (h : (scaffolder.component request).perform session = (.ok (plan, output, updated), settled)) :
    updated = ((request.kind.generatedFiles request.name).filter (·.token.isSome)).map
        (fun file => plan.target.child file.fileName) ∧
      ∃ folder, plan.target = .ofLocation folder ∧ (∀ step ∈ folder, Path.IsStep step ∧ step ≠ "." ∧ step ≠ "..") ∧
        ∀ file ∈ request.kind.generatedFiles request.name, ∀ token, file.token = some token →
          ∃ old new : String, token.Fills plan.namespaces old new ∧
            ∃ entry, settled.files.lookup (folder ++ [file.fileName]) = some entry ∧ entry.Took new := by
  obtain ⟨hplanned, records, hcarry⟩ := component_ok h
  cases carriesOut_of_carryOut hcarry with
  | done hgenerates hset =>
    obtain ⟨folder, htarget, hfolder⟩ := exists_ofLocation_of_planned hfs.toWellFormed hplanned hgenerates.makes
    have hlinkless := (leaves_touches hfs hgenerator hplanned hgenerates.makes).linkless
    refine ⟨setNamespaces_updated hset, folder, htarget, hfolder, ?_⟩
    rw [htarget] at hset
    refine setNamespaces_takes (hgenerates.leaves ▸ hlinkless) hfolder (planned_ok hplanned).1
      (fun _ hfile => hfile) ?_ hset
    exact nodup_fileNames request.kind request.name

end ComponentScaffold
