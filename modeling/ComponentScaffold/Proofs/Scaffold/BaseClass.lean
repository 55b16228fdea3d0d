import ComponentScaffold.Proofs.Scaffold.FailedViewModel
import ComponentScaffold.Proofs.Scaffold.OwnFiles

/-! # Where the base class of a view-model is from

The file of a base class is looked for when the file of the view-model is written already, and may turn out to be
that very file: where a view-model is named like the base class, and is in the same folder, it is its own base
class. Any other file that a base class is read from was there before, as it is then.

* **`nameViewModel`** — what is done for a view-model before its base class.
* **`ViewModelPlan.BaseRead`** — what is read for its base class, be that its own file or not.
* **`Scaffolder.scaffold_inherits`** — what a view-model inherits from. -/

namespace ComponentScaffold

open ComponentScaffold.Action

/-- What is done for a view-model before its base class: its folder, its file, and its namespace. -/
def nameViewModel (plan : ViewModelPlan) : Action Unit := do
  match plan.path.parent? with
  | some folder => Action.makeDirectories folder
  | none => pure ()
  Action.writeText plan.path (viewModelSource plan.className)
  let token := NamespaceToken.codeNamespace
  fillRegion plan.path token.startMarker token.endMarker (token.select plan.namespaces)

/-- **A view-model that was created** got its namespace, and then its base class. -/
theorem createViewModel_ok {baseFile : String} {plan : ViewModelPlan} {session after : Session}
    {report : ViewModelReport} (hrun : (createViewModel baseFile plan).perform session = (.ok report, after)) :
    report.path = plan.path ∧ ∃ named, (nameViewModel plan).perform session = (.ok (), named) ∧
      (injectBaseClass plan.path plan.className plan.baseFolder baseFile).perform named =
        (.ok report.inheritance, after) := by
  rw [perform_createViewModel] at hrun
  split at hrun
  case isTrue => cases (Prod.mk.inj hrun).1
  case isFalse =>
    obtain ⟨_, named, hnamedRun, hrest⟩ : ∃ value named, (nameViewModel plan).perform session = (.ok value, named) ∧
        (injectBaseClass plan.path plan.className plan.baseFolder baseFile >>= fun inheritance =>
          (pure ⟨plan.path, plan.namespaces, inheritance⟩ : Action ViewModelReport)).perform named =
            (.ok report, after) := by
      refine perform_bind_ok ?_
      unfold nameViewModel
      cases hup : plan.path.parent? with
      | none | some folder => simpa only [hup, writeViewModel, bind_assoc, pure_bind] using hrun
    obtain ⟨inheritance, given, hinherited, hdone⟩ := perform_bind_ok hrest
    obtain ⟨hmade, rfl⟩ := Prod.mk.inj hdone
    obtain rfl := Except.ok.inj hmade
    exact ⟨rfl, named, hnamedRun, hinherited⟩

/-- **A view-model that got its namespace** was written twice in its folder: first its source, and then what was
read back, with the namespace filled in. -/
theorem nameViewModel_parts {plan : ViewModelPlan} {session named : Session} (hfs : session.files.WellFormed)
    (habs : plan.path.isAbsolute = true) (hrun : (nameViewModel plan).perform session = (.ok (), named)) :
    ∃ folder made written, ∃ old text : String, FileSystem.MakesFolders folder session.files made ∧
      made.writeBytes plan.path (viewModelSource plan.className).toUTF8 = .ok written ∧
      written.readBytes plan.path = .ok old.toUTF8 ∧
      NamespaceToken.codeNamespace.Fills plan.namespaces old text ∧
      written.writeBytes plan.path text.toUTF8 = .ok named.files := by
  obtain ⟨folder, made, hmakes, hrest⟩ : ∃ folder made, FileSystem.MakesFolders folder session.files made.files ∧
      (Action.writeText plan.path (viewModelSource plan.className) >>= fun _ =>
        fillRegion plan.path NamespaceToken.codeNamespace.startMarker NamespaceToken.codeNamespace.endMarker
          (NamespaceToken.codeNamespace.select plan.namespaces)).perform made = (.ok (), named) := by
    unfold nameViewModel at hrun
    cases hup : plan.path.parent? with
    | none => exact ⟨plan.path, session, .nothing _, by simpa only [hup, pure_bind] using hrun⟩
    | some folder =>
      simp only [hup] at hrun
      obtain ⟨_, made, hfolders, hrest⟩ := perform_bind_ok hrun
      rw [perform_makeDirectories, Prod.mk.injEq] at hfolders
      obtain ⟨-, rfl⟩ := hfolders
      exact ⟨folder, _, .of_makeDirectories hfs (Path.isAbsolute_of_parent? habs hup) rfl, hrest⟩
  obtain ⟨_, written, hwrite, hfill⟩ := perform_bind_ok hrest
  obtain ⟨old, text, hread, hfills, hsecond, -⟩ := perform_fillRegion_ok hfill
  exact ⟨folder, made.files, written.files, old, text, hmakes, (perform_writeText_ok hwrite).1, hread, hfills, hsecond⟩

/-- **What a view-model that got its namespace left**: its path leads to an entry, which as a file holds the source
with the namespace; and any file of another node was there before, as it is now. -/
structure ViewModelPlan.Named (plan : ViewModelPlan) (before named : FileSystem) (own : Location) (entry : Entry) :
    Prop where
  /-- Names are those of entries, and lie in directories. -/
  wellFormed : named.WellFormed
  /-- The path leads to its entry. -/
  leads : named.resolve plan.path .target = .ok (.entry own entry)
  /-- It is no directory. -/
  writable : entry ≠ .directory
  /-- A file holds the source with the namespace. -/
  holds : ∀ text : String, entry = .file text.toUTF8 →
    NamespaceToken.codeNamespace.Fills plan.namespaces (viewModelSource plan.className) text
  /-- Other files were there before. -/
  others : ∀ place bytes, named.lookup place = some (.file bytes) → named.numberAt place ≠ named.numberAt own →
    before.lookup place = some (.file bytes)
  /-- No links are made. -/
  linkless : before.Linkless → named.Linkless

/-- This is what is left. -/
theorem nameViewModel_ok {plan : ViewModelPlan} {session named : Session} (hfs : session.files.WellFormed)
    (habs : plan.path.isAbsolute = true) (hrun : (nameViewModel plan).perform session = (.ok (), named)) :
    ∃ own entry, plan.Named session.files named.files own entry := by
  obtain ⟨folder, made, written, old, text, hmakes, hfirst, hread, hfills, hsecond⟩ :=
    nameViewModel_parts hfs habs hrun
  have hmadeForm := hmakes.wellFormed hfs
  have hwrittenForm := (FileSystem.writeBytes_wellFormed hmadeForm habs hfirst).1
  obtain ⟨place, held, hlanded⟩ := FileSystem.exists_writeLands hmadeForm habs hfirst
  obtain ⟨own, entry, hlands⟩ := FileSystem.exists_writeLands hwrittenForm habs hsecond
  obtain ⟨rfl, halike, hsteady⟩ := hlands.steady place held hlanded.leads
  refine ⟨place, entry, (FileSystem.writeBytes_wellFormed hwrittenForm habs hsecond).1,
    FileSystem.resolve_target hlands.leads (by simp), hlands.writable, ?holds, ?others, ?linkless⟩
  case holds =>
    rintro final rfl
    obtain ⟨source, rfl⟩ := halike.symm.eq_file
    -- what was read is the source that had been written
    have hsame : old = viewModelSource plan.className := by
      rw [FileSystem.readBytes, FileSystem.resolve_target hlanded.leads (by simp)] at hread
      exact (String.toByteArray_inj.1 ((hlanded.holds _ rfl).symm.trans (Except.ok.inj hread))).symm
    obtain rfl : final = text := String.toByteArray_inj.1 (hlands.holds _ rfl)
    rwa [hsame] at hfills
  case others =>
    intro other bytes hthere hapart
    have hbefore : made.lookup other = some (.file bytes) := by
      rw [← hlanded.others other (by rwa [hsteady, hsteady] at hapart), ← hlands.others other hapart, hthere]
    exact (hmakes.gainsFolders.gains hbefore).resolve_right (by simp)
  case linkless =>
    intro hlinkless
    have hfolders := hmakes.touches hlinkless fun _ => False
    have hsource := FileSystem.touches_of_writeBytes hfolders.linkless habs hfirst
    exact (FileSystem.touches_of_writeBytes hsource.linkless habs hsecond).linkless

/-- **What is read for the base class of a view-model**, when that got its namespace: the text of its own file, or a
text that was there before. -/
structure ViewModelPlan.BaseRead (plan : ViewModelPlan) (basePath : Path) (before named : FileSystem)
    (text : String) : Prop where
  /-- This is read. -/
  read : named.readBytes basePath = .ok text.toUTF8
  /-- Its own file holds its source with the namespace. -/
  own : named.SameFile basePath plan.path →
    NamespaceToken.codeNamespace.Fills plan.namespaces (viewModelSource plan.className) text
  /-- Any other file was there before. -/
  standing : ¬named.SameFile basePath plan.path →
    ∃ place, named.resolve basePath .target = .ok (.entry place (.file text.toUTF8)) ∧
      before.lookup place = some (.file text.toUTF8)
  /-- Without links, the paths tell whether it is its own. -/
  linkless : before.Linkless → (named.SameFile basePath plan.path ↔ basePath.plainNames = plan.path.plainNames)

/-- The file of a base class that is found is read like this. -/
theorem ViewModelPlan.Named.baseRead {plan : ViewModelPlan} {basePath : Path} {before named : FileSystem}
    {own place : Location} {entry : Entry} {text : String} (h : plan.Named before named own entry)
    (habs : plan.path.isAbsolute = true) (hbaseAbs : basePath.isAbsolute = true)
    (hbase : named.resolve basePath .target = .ok (.entry place (.file text.toUTF8))) :
    plan.BaseRead basePath before named text where
  read := by
    rw [FileSystem.readBytes, hbase]
    rfl
  own := by
    rintro ⟨place', own', held, entry', hbase', hleads, hnumber⟩
    rw [hbase, Except.ok.injEq, Destination.entry.injEq] at hbase'
    rw [h.leads, Except.ok.injEq, Destination.entry.injEq] at hleads
    obtain ⟨rfl, rfl⟩ := hbase'
    obtain ⟨rfl, rfl⟩ := hleads
    obtain ⟨hthere⟩ := FileSystem.resolve_holds h.wellFormed hbaseAbs hbase
    obtain ⟨hownThere⟩ := FileSystem.resolve_holds h.wellFormed habs h.leads
    -- one node holds one entry, so the text that was read is that of the view-model
    refine h.holds text ?_
    rw [FileSystem.lookup_eq_of_numberAt_eq (FileSystem.ne_nil_of_lookup hownThere h.writable)
      (FileSystem.ne_nil_of_lookup hthere (by simp)) hnumber, hownThere] at hthere
    exact Option.some.inj hthere
  standing hapart := by
    obtain ⟨hthere⟩ := FileSystem.resolve_holds h.wellFormed hbaseAbs hbase
    exact ⟨place, hbase, h.others place _ hthere fun hnumber => hapart ⟨_, _, _, _, hbase, h.leads, hnumber⟩⟩
  linkless hnoLinks := (h.linkless hnoLinks).sameFile_iff hbaseAbs habs hbase h.leads

/-! ## Files of the same name -/

/-- The name of a source file is no detour. -/
theorem source_ordinary (className : String) : className ++ ".cs" ≠ "." ∧ className ++ ".cs" ≠ ".." := by
  constructor <;>
  · intro hsame
    have hlong := congrArg (fun text => text.toList.length) hsame
    simp at hlong

namespace Scaffolder

/-- **Where no slash is configured**, the file of the view-model is that of the base class only by its name, and only
in the folder of view-models itself. -/
theorem plainNames_eq_iff_of_planViewModel {config : Config} {root : ProjectRoot} {target : Path} {name : String}
    {plan : ViewModelPlan} {folders : CompanionFolders} (hvalid : config.validate = .ok ())
    (hcomponent : isComponentName name = true) (hsuffix : '/' ∉ config.viewModelSuffix.toList)
    (hbaseFile : '/' ∉ config.baseClassFile.toList)
    (hcompanions : root.companionFolders target config.viewsFolder config.viewModelsFolder = .ok folders)
    (hplanned : planViewModel config root target name = .ok plan) :
    (plan.baseFolder.child config.baseClassFile).plainNames = plan.path.plainNames ↔
      folders.viewModel = folders.base ∧ config.baseClassFile = plan.className ++ ".cs" := by
  obtain ⟨folders', hcompanions', hclassName, hpath, hbase, -⟩ := planViewModel_parts hplanned
  obtain rfl := Except.ok.inj (hcompanions'.symm.trans hcompanions)
  obtain ⟨above, below, hmirror, hinside, -, hplain⟩ := ProjectRoot.companionFolders_ok hcompanions'
  rw [← hinside] at hmirror
  have hneeded : ("base_class_file", config.baseClassFile) ∈ config.neededFields := by simp [Config.neededFields]
  have hnamed : Path.IsStep (plan.className ++ ".cs") := by
    rw [hclassName]
    exact isStep_append (isStep_append (isStep_of_isComponentName hcomponent) hsuffix) (by decide)
  rw [hbase, hpath]
  exact Path.plainNames_child_eq_iff hmirror hplain hnamed (source_ordinary _)
    ⟨Config.ne_empty_of_mem_neededFields hvalid hneeded, hbaseFile⟩

/-! ## A project with notes, and base classes in it

In the project with notes, any file can be configured as that of the base class, and so can the file of the
view-model that is about to be made. -/

namespace Notes

/-- What scaffolds there, with a file for the base class. -/
def inheriting (baseFile : String) : Scaffolder := ⟨{ Config.standard with baseClassFile := baseFile }, generator⟩

/-- What is reported of the view-model. -/
def inherited (base : String) : ViewModelReport :=
  ⟨⟨"/proj/ViewModels/MainViewModel.cs"⟩, .ofFull "App.ViewModels.MainViewModel", .inherits base none⟩

/-- **What comes of it.** -/
structure FoundBase : Prop where
  /-- There are no links. -/
  linkless : files.Linkless
  /-- There are none when the component stands. -/
  standing : settled.files.Linkless
  /-- The notes are accepted as the base class. -/
  validate_notes : (inheriting "Notes.cs").config.validate = .ok ()
  /-- They give it the name of their file. -/
  notes : ((createViewModel "Notes.cs" windowModel).perform settled).1 = .ok (inherited "Notes")
  /-- The view-model is accepted as the base class. -/
  validate_own : (inheriting "MainViewModel.cs").config.validate = .ok ()
  /-- It gives it its own name. -/
  own : ((createViewModel "MainViewModel.cs" windowModel).perform settled).1 = .ok (inherited "MainViewModel")
  /-- No slash is configured with them. -/
  plain : '/' ∉ (inheriting "Notes.cs").config.viewModelSuffix.toList ∧
    '/' ∉ (inheriting "Notes.cs").config.baseClassFile.toList
  /-- The view-model is not named like them. -/
  apart : (inheriting "Notes.cs").config.baseClassFile ≠ windowModel.className ++ ".cs"
  /-- It can be named as the base class. -/
  together : windowModel.baseFolder.child "MainViewModel.cs" = windowModel.path
  /-- This is planned in either case. -/
  planned : (scaffolder "ViewModel").viewModelPlanned (request true) root ⟨"/proj/Views"⟩ = .ok (some windowModel)
  /-- There is no view-model before. -/
  free : settled.files.exists? windowModel.path = false

/-- All of this is found. -/
theorem foundBase : FoundBase where
  linkless := .of_places found.wellFormed (by decide +kernel) (by decide +kernel) (by decide +kernel)
  standing := .of_places (.of_places (by decide +kernel)) (by decide +kernel) (by decide +kernel) (by decide +kernel)
  validate_notes := by decide +kernel
  notes := by decide +kernel
  validate_own := by decide +kernel
  own := by decide +kernel
  plain := by decide +kernel
  apart := by decide +kernel
  together := by decide +kernel
  planned := by decide +kernel
  free := by decide +kernel

/-- What is planned. -/
def inheritingPlan (baseFile : String) : Plan :=
  (inheriting baseFile).planOf (request true) root ⟨"/proj/Views"⟩ (.ofFull "App.Views.Main") (some windowModel)

/-- Scaffolding succeeds, with what is reported of the view-model. -/
theorem scaffolded_inheriting {baseFile : String} {created : ViewModelReport}
    (h : ((createViewModel baseFile windowModel).perform settled).1 = .ok created) :
    ∃ output updated standing report after,
      ((inheriting baseFile).component (request true)).perform ⟨files, [], []⟩ =
        (.ok (inheritingPlan baseFile, output, updated), standing) ∧
      standing.files = settled.files ∧
      ((inheriting baseFile).scaffold (request true)).perform ⟨files, [], []⟩ = (.ok report, after) ∧
      report.viewModel = some created := by
  have hplanned := @planned_of_markers (inheriting baseFile) true (some windowModel) rfl foundBase.planned
  obtain ⟨standing, report, after, hcomponent, hsame, hrun, hfinished, -⟩ :=
    @scaffold_of_carryOut (inheriting baseFile) (request true) ⟨files, [], []⟩ settled (inheritingPlan baseFile)
      ⟨"", "", false⟩ [⟨"/proj/Views/Main.axaml"⟩, ⟨"/proj/Views/Main.axaml.cs"⟩] hplanned (Prod.ext found.outcome rfl)
  refine ⟨_, _, standing, report, after, hcomponent, hsame, hrun, ?_⟩
  cases hfinish : ((inheriting baseFile).finish (inheritingPlan baseFile) ⟨"", "", false⟩
      [⟨"/proj/Views/Main.axaml"⟩, ⟨"/proj/Views/Main.axaml.cs"⟩]).perform settled with
  | mk outcome left =>
    rw [hfinish] at hfinished
    obtain rfl : outcome = .ok report := hfinished
    obtain ⟨hnone, -⟩ | ⟨viewModel, outcome, made, hplanned, hcreate, -, hreported, -⟩ := finish_ok hfinish
    · cases hnone
    · obtain rfl : windowModel = viewModel := Option.some.inj hplanned
      rw [show (inheriting baseFile).config.baseClassFile = baseFile from rfl] at hcreate
      rw [hcreate] at h
      obtain rfl : outcome = .ok created := h
      exact hreported

end Notes

/-! ## The base class of a view-model -/

/-- **What a view-model inherits from.** The file of the base class is read after the view-model got its namespace,
and the class that it declares is the base class. That file was there before, as it was read, unless it is the
view-model's own. Without links, it is its own exactly if the two paths are read alike: and where no slash is
configured, that is if the view-model is in the folder of view-models itself, and has the name of the base class's
file. -/
theorem scaffold_inherits {scaffolder : Scaffolder} {request : Request} {session after : Session}
    {report : ScaffoldReport} {created : ViewModelReport} {base : String} {imported : Option String}
    (hfs : session.files.WellFormed) (hkeepsForm : scaffolder.generator.KeepsForm)
    (hvalid : scaffolder.config.validate = .ok ())
    (hrun : (scaffolder.scaffold request).perform session = (.ok report, after))
    (hreported : report.viewModel = some created) (hinherits : created.inheritance = .inherits base imported) :
    ∃ plan settled viewModel folders named text,
      (scaffolder.component request).perform session = (.ok (plan, report.output, report.updated), settled) ∧
      plan.viewModel = some viewModel ∧ created.path = viewModel.path ∧
      plan.root.companionFolders plan.target scaffolder.config.viewsFolder scaffolder.config.viewModelsFolder =
        .ok folders ∧
      viewModel.baseFolder = folders.base ∧
      (nameViewModel viewModel).perform settled = (.ok (), named) ∧
      viewModel.BaseRead (viewModel.baseFolder.child scaffolder.config.baseClassFile) settled.files named.files text ∧
      base = String.ofList
        (BaseClass.ofText (viewModel.baseFolder.child scaffolder.config.baseClassFile) text.toList).name ∧
      (settled.files.Linkless → '/' ∉ scaffolder.config.viewModelSuffix.toList →
        '/' ∉ scaffolder.config.baseClassFile.toList →
        (named.files.SameFile (viewModel.baseFolder.child scaffolder.config.baseClassFile) viewModel.path ↔
          folders.viewModel = folders.base ∧ scaffolder.config.baseClassFile = viewModel.className ++ ".cs")) := by
  obtain ⟨plan, settled, hcomponent, hfinish⟩ := scaffold_ok hrun
  obtain ⟨-, hnone, -⟩ | ⟨viewModel, outcome, left, hsome, hcreate, -, houtcomeReported, -⟩ := finish_ok hfinish
  · rw [hreported] at hnone
    cases hnone
  obtain ⟨hplanned, -⟩ := component_ok hcomponent
  obtain ⟨-, hrootAbs, -, hviewModels⟩ := isAbsolute_of_planned hfs hplanned
  obtain ⟨habs, hplanViewModel⟩ := hviewModels viewModel hsome
  obtain ⟨folders, hcompanions, -, -, hbaseFolder, -⟩ := planViewModel_parts hplanViewModel
  obtain ⟨above, -, -, hbaseBelow, -⟩ := ProjectRoot.companionFolders_ok hcompanions
  have hbaseAbs : (viewModel.baseFolder.child scaffolder.config.baseClassFile).isAbsolute = true := by
    rw [hbaseFolder, hbaseBelow]
    exact Path.isAbsolute_child (Path.isAbsolute_child (Path.isAbsolute_descend hrootAbs above) _) _
  obtain rfl : outcome = .ok created := by
    cases outcome with
    | ok other => exact congrArg Except.ok (Option.some.inj (houtcomeReported.symm.trans hreported))
    | error _ => cases houtcomeReported.symm.trans hreported
  obtain ⟨hpath, named, hnaming, hinjection⟩ := createViewModel_ok hcreate
  rw [hinherits] at hinjection
  obtain ⟨place, text, hleads, hdeclared⟩ := injectBaseClass_ok hinjection
  obtain ⟨own, entry, hnamed⟩ :=
    nameViewModel_ok (component_keepsForm hfs hkeepsForm hcomponent) habs hnaming
  have hbaseRead := hnamed.baseRead habs hbaseAbs hleads
  refine ⟨plan, settled, viewModel, folders, named, text, hcomponent, hsome, hpath, hcompanions, hbaseFolder, hnaming,
    hbaseRead, hdeclared, fun hlinkless hsuffix hbaseFile => ?_⟩
  rw [hbaseRead.linkless hlinkless]
  exact plainNames_eq_iff_of_planViewModel hvalid (planned_ok hplanned).1 hsuffix hbaseFile hcompanions hplanViewModel

/-- In a project with notes, a view-model inherits from them: they were there before. -/
theorem scaffold_inherits_notes :
    Notes.files.WellFormed ∧ Notes.generator.KeepsForm ∧ (Notes.inheriting "Notes.cs").config.validate = .ok () ∧
      ∃ report after created,
        ((Notes.inheriting "Notes.cs").scaffold (Notes.request true)).perform ⟨Notes.files, [], []⟩ =
          (.ok report, after) ∧
        report.viewModel = some created ∧ created.inheritance = .inherits "Notes" none ∧
        ∃ plan settled place, ∃ text : String,
          ((Notes.inheriting "Notes.cs").component (Notes.request true)).perform ⟨Notes.files, [], []⟩ =
            (.ok (plan, report.output, report.updated), settled) ∧
          settled.files.lookup place = some (.file text.toUTF8) := by
  obtain ⟨output, updated, standing, report, after, hcomponent, hsame, hrun, hreported⟩ :=
    Notes.scaffolded_inheriting Notes.foundBase.notes
  obtain ⟨plan, settled, viewModel, folders, named, text, hstands, hplanned, -, -, -, -, hbaseRead, -, htells⟩ :=
    scaffold_inherits Notes.found.wellFormed Notes.generator_keepsForm Notes.foundBase.validate_notes hrun hreported rfl
  have hagain := hstands
  rw [hcomponent, Prod.mk.injEq, Except.ok.injEq, Prod.mk.injEq] at hagain
  obtain ⟨⟨rfl, -⟩, rfl⟩ := hagain
  obtain rfl : Notes.windowModel = viewModel := Option.some.inj hplanned
  have hapart : ¬named.files.SameFile (Notes.windowModel.baseFolder.child "Notes.cs") Notes.windowModel.path := by
    intro hown
    have hlinkless : standing.files.Linkless := by
      rw [hsame]
      exact Notes.foundBase.standing
    exact Notes.foundBase.apart ((htells hlinkless Notes.foundBase.plain.1 Notes.foundBase.plain.2).1 hown).2
  obtain ⟨place, -, hthere⟩ := hbaseRead.standing hapart
  exact ⟨Notes.found.wellFormed, Notes.generator_keepsForm, Notes.foundBase.validate_notes, report, after, _, hrun,
    hreported, rfl, _, standing, place, text, hstands, hthere⟩

/-- **A view-model that becomes its own base class**: its file is the configured one, and is there only when the
base class is looked for. -/
theorem scaffold_inherits_itself :
    Notes.files.Linkless ∧ Notes.generator.KeepsForm ∧
      (Notes.inheriting "MainViewModel.cs").config.validate = .ok () ∧
      ∃ plan output updated settled viewModel report after created,
        ((Notes.inheriting "MainViewModel.cs").component (Notes.request true)).perform ⟨Notes.files, [], []⟩ =
          (.ok (plan, output, updated), settled) ∧
        plan.viewModel = some viewModel ∧
        ((Notes.inheriting "MainViewModel.cs").scaffold (Notes.request true)).perform ⟨Notes.files, [], []⟩ =
          (.ok report, after) ∧
        report.viewModel = some created ∧ created.inheritance = .inherits viewModel.className none ∧
        viewModel.baseFolder.child "MainViewModel.cs" = viewModel.path ∧
        settled.files.exists? viewModel.path = false := by
  obtain ⟨output, updated, standing, report, after, hcomponent, hsame, hrun, hreported⟩ :=
    Notes.scaffolded_inheriting Notes.foundBase.own
  refine ⟨Notes.foundBase.linkless, Notes.generator_keepsForm, Notes.foundBase.validate_own, _, output, updated,
    standing, Notes.windowModel, report, after, _, hcomponent, rfl, hrun, hreported, rfl, Notes.foundBase.together, ?_⟩
  rw [hsame]
  exact Notes.foundBase.free

end Scaffolder

end ComponentScaffold
