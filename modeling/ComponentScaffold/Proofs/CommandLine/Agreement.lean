import ComponentScaffold.Proofs.CommandLine.Answers

/-! # Two commands that agree

Scaffolding and telling namespaces look for the root from the same folder and make the same folder absolute,
by different ways. They agree where they find the same configuration, which is looked for from a path freed of
detours by the one and from the path as it is written by the other.

* **`NewOptions.planned_eq_ok_iff`** — what a dry run plans where namespaces are told.
* **`NewOptions.agrees_with_namespace`** — when both tell the same. -/

namespace ComponentScaffold

variable {fs : FileSystem}

/-- **What namespaces are told from.** -/
theorem NamespaceOptions.answer_ok {options : NamespaceOptions} {root : ProjectRoot}
    {namespaces : NamespacePair} (h : options.answer fs = .ok (root, namespaces)) :
    isComponentName options.name = true ∧ ∃ start searchRoot target config,
      fs.folderOr options.root = .ok start ∧ fs.canonical start = .ok searchRoot ∧
      fs.canonical options.folder = .ok target ∧ fs.configFor searchRoot = .ok config ∧
      fs.located config.markers searchRoot = .ok root ∧
      root.namespaceOf target options.name = .ok namespaces := by
  unfold answer at h
  split at h
  case isFalse => cases h
  case isTrue hname =>
    obtain ⟨start, hstart, h⟩ := bind_eq_ok_iff.1 h
    obtain ⟨searchRoot, hsearchRoot, h⟩ := bind_eq_ok_iff.1 h
    obtain ⟨target, htarget, h⟩ := bind_eq_ok_iff.1 h
    obtain ⟨config, hconfig, h⟩ := bind_eq_ok_iff.1 h
    obtain ⟨root', hroot, h⟩ := bind_eq_ok_iff.1 h
    obtain ⟨namespaces', hnamespaces, h⟩ := bind_eq_ok_iff.1 h
    obtain ⟨rfl, rfl⟩ := Prod.mk.inj (Except.ok.inj h)
    exact ⟨hname, start, searchRoot, target, config, hstart, mapError_eq_ok_iff.1 hsearchRoot,
      mapError_eq_ok_iff.1 htarget, mapError_eq_ok_iff.1 hconfig, mapError_eq_ok_iff.1 hroot,
      mapError_eq_ok_iff.1 (mapError_eq_ok_iff.1 hnamespaces)⟩

/-- A dry run without a view-model. -/
def NewOptions.dry (kind : ComponentKind) (name : String) (folder : Path) (root? : Option Path) : NewOptions :=
  ⟨kind, name, some folder, root?, false, true⟩

/-- **What a dry run plans** for folders that lead to something: the root is located from there, with the
configuration that counts for the path as it is written. -/
theorem NewOptions.planned_eq_ok_iff {host : ProcessHost} {kind : ComponentKind} {name : String}
    {folder start searchRoot target : Path} {root? : Option Path} {plan : Plan}
    (hname : isComponentName name = true) (hstart : fs.folderOr root? = .ok start)
    (hsearchRoot : fs.absolute start = .ok searchRoot) (htarget : fs.absolute folder = .ok target) :
    (dry kind name folder root?).planned host fs = .ok plan ↔
      ∃ config root namespaces, fs.configFor start = .ok config ∧
        fs.located config.markers searchRoot = .ok root ∧ root.namespaceOf target name = .ok namespaces ∧
        plan = Scaffolder.planOf ⟨config, (CommandGenerator.ofConfig config).toGenerator host⟩
          ⟨kind, name, folder, start, false⟩ root target namespaces none := by
  have hfolder : fs.folderOr (some folder) = .ok folder := rfl
  simp only [planned, dry, hstart, hfolder, Scaffolder.planned, Scaffolder.viewModelPlanned, hname,
    bind_eq_ok_iff, mapError_eq_ok_iff, if_true, Bool.false_and, Bool.false_eq_true, if_false,
    Except.ok.injEq, exists_eq_left']
  constructor
  · rintro ⟨config, hconfig, found, hfound, found', hfound', root, hroot, namespaces, hnamespaces, hplan⟩
    obtain rfl := Except.ok.inj (hfound.symm.trans hsearchRoot)
    obtain rfl := Except.ok.inj (hfound'.symm.trans htarget)
    exact ⟨config, root, namespaces, hconfig, hroot, hnamespaces, (Except.ok.inj hplan).symm⟩
  · rintro ⟨config, root, namespaces, hconfig, hroot, hnamespaces, rfl⟩
    exact ⟨config, hconfig, searchRoot, hsearchRoot, target, htarget, root, hroot, namespaces, hnamespaces, rfl⟩

/-! ## A configuration above the folder

A project whose configuration lies in the folder above it, seen from its own folder. -/

namespace ConfigAbove

/-- The project. -/
def files : FileSystem :=
  ((FileSystem.empty 0 0o22).withEntries
    [(["work", "App", "App.fsproj"], .file .empty), (["work", "App"], .directory),
      (["work", ".avalonia-scaffold.json"], .file "\x7b\"project_suffix\":\".fsproj\"\x7d".toUTF8),
      (["work"], .directory)]).seenFrom ["work", "App"]

/-- A host that starts no program. -/
def host : ProcessHost := fun _ _ files => (.error (.system .noEntry), files)

/-- The configuration, by which projects are found. -/
def config : Config := { Config.standard with projectSuffix := ".fsproj" }

/-- The root that is located with the configuration. -/
def root : ProjectRoot := ⟨⟨"/work/App"⟩, false, "App"⟩

/-- **What is found from the folder.** -/
structure Found : Prop where
  /-- Names are those of entries, and lie in directories. -/
  wellFormed : files.WellFormed
  /-- The folder is the current one. -/
  folderOr_none : files.folderOr none = .ok ⟨"/work/App"⟩
  /-- It is there. -/
  standsInFolder : files.StandsInFolder
  /-- Written as a dot, it is the same. -/
  canonical_current : files.canonical ⟨"."⟩ = .ok ⟨"/work/App"⟩
  /-- As it is, it is without detours. -/
  canonical_folder : files.canonical ⟨"/work/App"⟩ = .ok ⟨"/work/App"⟩
  /-- The dot is made absolute alike. -/
  absolute_current : files.absolute ⟨"."⟩ = .ok ⟨"/work/App"⟩
  /-- The paths are not too long. -/
  short : ∀ p ∈ [(⟨"."⟩ : Path), ⟨"/work/App"⟩], ∀ full, files.fullPath p = .ok full →
    full.text.utf8ByteSize ≤ FileSystem.maxPathBytes
  /-- The configuration counts for the folder. -/
  configFor_folder : files.configFor ⟨"/work/App"⟩ = .ok config
  /-- None counts for the dot. -/
  configFor_current : files.configFor ⟨"."⟩ = .ok .standard
  /-- The folder has one file. -/
  fileNames : files.fileNames ["work", "App"] = ["App.fsproj"]
  /-- It has no folders. -/
  subdirectories : files.subdirectories ["work", "App"] = []
  /-- The file makes it a root with the configuration. -/
  isRoot : config.markers.rootOf? ⟨"/work/App"⟩ ["App.fsproj"] = some root
  /-- It makes it none otherwise. -/
  isNoRoot : Config.standard.markers.rootOf? ⟨"/work/App"⟩ ["App.fsproj"] = none
  /-- Components can be named so. -/
  name : isComponentName "Main" = true
  /-- This is their namespace. -/
  namespaces : root.namespaceOf ⟨"/work/App"⟩ "Main" = .ok (.ofFull "App.Main")

/-- All of this is found. -/
theorem found : Found := by
  have hchildren : files.childNames ["work", "App"] = ["App.fsproj"] :=
    FileSystem.childNames_of_sorted (by decide) (by decide)
  refine ⟨.of_places (by decide), by decide +kernel, fun place hplace => ?_, by decide +kernel,
    by decide, by decide +kernel, fun p hp full hfull => ?_, by decide +kernel, by decide +kernel, ?_, ?_,
    by decide, by decide +kernel, by decide +kernel, by decide +kernel⟩
  · have hcurrent : files.current? = some ["work", "App"] := by decide
    obtain rfl := Option.some.inj (hcurrent.symm.trans hplace)
    decide
  · have hcurrent : files.fullPath ⟨"."⟩ = .ok ⟨"/work/App/."⟩ := by decide
    have hfolder : files.fullPath ⟨"/work/App"⟩ = .ok ⟨"/work/App"⟩ := by decide
    simp only [List.mem_cons, List.not_mem_nil, or_false] at hp
    rcases hp with rfl | rfl
    · obtain rfl := Except.ok.inj (hcurrent.symm.trans hfull)
      decide
    · obtain rfl := Except.ok.inj (hfolder.symm.trans hfull)
      decide
  · rw [FileSystem.fileNames, FileSystem.children, hchildren]
    decide
  · rw [FileSystem.subdirectories, FileSystem.children, hchildren]
    decide

/-- The folder has a single file, by which it is a root or not. -/
theorem located (markers : ProjectMarkers) :
    files.located markers ⟨"/work/App"⟩ =
      match markers.rootOf? ⟨"/work/App"⟩ ["App.fsproj"] with
      | some root => .ok root
      | none => .error (.rootNotFound ⟨"/work/App"⟩) := by
  have hresolve : files.resolve ⟨"/work/App"⟩ .name = .ok (.entry ["work", "App"] .directory) := rfl
  have hsize : (⟨"/work/App"⟩ : Path).text.utf8ByteSize ≤ FileSystem.maxPathBytes := by decide
  have hbelow : files.directoriesBelow ["work", "App"] ⟨"/work/App"⟩ = [] := by
    unfold FileSystem.directoriesBelow
    cases files.depth with
    | zero => rfl
    | succ levels =>
      rw [FileSystem.directoriesWithin, FileSystem.openedAt_eq_ok_iff.2 ⟨hsize, rfl⟩]
      simp only [found.subdirectories, List.flatMap_nil]
  rw [FileSystem.located, FileSystem.directoriesFrom, hresolve]
  simp only [hbelow, List.findSome?_cons, List.findSome?_nil, FileSystem.openedRoot?_of_size hsize,
    FileSystem.rootAt?, found.fileNames]
  cases markers.rootOf? ⟨"/work/App"⟩ ["App.fsproj"] <;> rfl

/-- The root and the namespaces are told from the folder, however it is written. -/
theorem told {root? : Option Path} {start : Path} (hstart : files.folderOr root? = .ok start)
    (hcanonical : files.canonical start = .ok ⟨"/work/App"⟩) :
    ∃ text after, (NamespaceOptions.run ⟨⟨"."⟩, "Main", root?, false⟩).perform ⟨files, [], []⟩ =
      (.ok text, after) := by
  have hanswer : NamespaceOptions.answer ⟨⟨"."⟩, "Main", root?, false⟩ files = .ok (root, .ofFull "App.Main") := by
    simp only [NamespaceOptions.answer, found.name, if_true, hstart, hcanonical, found.canonical_current,
      found.configFor_folder, located, found.isRoot, found.namespaces, mapError_ok, bind, Except.bind]
    rfl
  obtain ⟨records, hrun⟩ := NamespaceOptions.run_computes ⟨⟨"."⟩, "Main", root?, false⟩ ⟨files, [], []⟩
  simp only [hanswer] at hrun
  exact ⟨_, _, hrun⟩

end ConfigAbove

/-! ## Agreement -/

/-- **Scaffolding agrees with what is told of namespaces** exactly if the configuration that counts for the
folder as it is written has the same root located. It does where both find the same file, and where the
folder is the current one. -/
theorem NewOptions.agrees_with_namespace {host : ProcessHost} {folder : Path} {root? : Option Path}
    {name text : String} {json : Bool} {session after : Session} (hfs : session.files.WellFormed)
    (hstands : session.files.StandsInFolder)
    (hfolder : ∀ full, session.files.fullPath folder = .ok full →
      full.text.utf8ByteSize ≤ FileSystem.maxPathBytes)
    (hroot : ∀ start full, session.files.folderOr root? = .ok start → session.files.fullPath start = .ok full →
      full.text.utf8ByteSize ≤ FileSystem.maxPathBytes)
    (h : (NamespaceOptions.run ⟨folder, name, root?, json⟩).perform session = (.ok text, after)) :
    ∃ start searchRoot root namespaces,
      session.files.folderOr root? = .ok start ∧ session.files.canonical start = .ok searchRoot ∧
      text = NamespaceOptions.told ⟨folder, name, root?, json⟩ root namespaces ∧
      (∀ kind, (((dry kind name folder root?).run host).perform session).1 =
          ((dry kind name folder root?).planned host session.files).map Plan.display ∧
        ((∃ plan, (dry kind name folder root?).planned host session.files = .ok plan ∧ plan.root = root ∧
            plan.namespaces = namespaces) ↔
          ∃ config, session.files.configFor start = .ok config ∧
            session.files.located config.markers searchRoot = .ok root)) ∧
      (session.files.configFileAbove? start = session.files.configFileAbove? searchRoot ∨ root? = none →
        ∃ config, session.files.configFor start = .ok config ∧
          session.files.located config.markers searchRoot = .ok root) := by
  obtain ⟨records, hrun⟩ := NamespaceOptions.run_computes ⟨folder, name, root?, json⟩ session
  rw [hrun, Prod.mk.injEq] at h
  obtain ⟨⟨root, namespaces⟩, hanswer, htold⟩ := bind_eq_ok_iff.1 h.1
  obtain ⟨hname, start, searchRoot, target, config, hstart, hsearchRoot, htarget, hconfig, hlocated,
    hnamespaces⟩ := NamespaceOptions.answer_ok hanswer
  have habsolute := FileSystem.absolute_of_canonical hfs hstands (hroot start · hstart) hsearchRoot
  have habsolute' := FileSystem.absolute_of_canonical hfs hstands hfolder htarget
  refine ⟨start, searchRoot, root, namespaces, hstart, hsearchRoot, (Except.ok.inj htold).symm,
    fun kind => ⟨?_, ?_⟩, fun hsame => ⟨config, ?_, hlocated⟩⟩
  · obtain ⟨records, hdry⟩ := run_computes host (show (dry kind name folder root?).dryRun = true from rfl) session
    rw [hdry]
    cases hplanned : (dry kind name folder root?).planned host session.files with
    | error failure =>
      simp only [hplanned]
      rfl
    | ok plan =>
      simp only [hplanned]
      rfl
  · simp only [planned_eq_ok_iff hname hstart habsolute habsolute']
    constructor
    · rintro ⟨_, ⟨config', root', namespaces', hconfig', hlocated', -, rfl⟩, hroot, -⟩
      obtain rfl : root' = root := hroot
      exact ⟨config', hconfig', hlocated'⟩
    · rintro ⟨config', hconfig', hlocated'⟩
      exact ⟨_, ⟨config', root, namespaces, hconfig', hlocated', hnamespaces, rfl⟩, rfl, rfl⟩
  · rw [← hconfig]
    rcases hsame with hsame | rfl
    · rw [FileSystem.configFor, FileSystem.configFor, hsame]
    · have hcurrent := mapError_eq_ok_iff.1 hstart
      rw [Except.ok.inj (hsearchRoot.symm.trans (FileSystem.canonical_currentPath hfs hstands hcurrent))]

/-- From the current folder, both tell the same. -/
theorem NewOptions.agrees_from_current_folder :
    ConfigAbove.files.WellFormed ∧ ConfigAbove.files.StandsInFolder ∧
      ∃ text after, (NamespaceOptions.run ⟨⟨"."⟩, "Main", none, false⟩).perform ⟨ConfigAbove.files, [], []⟩ =
          (.ok text, after) ∧
        ∃ root namespaces, ∃ plan : Plan,
          text = NamespaceOptions.told ⟨⟨"."⟩, "Main", none, false⟩ root namespaces ∧
          (((dry .window "Main" ⟨"."⟩ none).run ConfigAbove.host).perform ⟨ConfigAbove.files, [], []⟩).1 =
            .ok plan.display ∧ plan.root = root ∧ plan.namespaces = namespaces := by
  obtain ⟨text, after, hrun⟩ := ConfigAbove.told ConfigAbove.found.folderOr_none ConfigAbove.found.canonical_folder
  have hfolder := ConfigAbove.found.short ⟨"."⟩ (by simp)
  have hroot : ∀ start full, ConfigAbove.files.folderOr none = .ok start →
      ConfigAbove.files.fullPath start = .ok full → full.text.utf8ByteSize ≤ FileSystem.maxPathBytes := by
    intro start full hstart
    obtain rfl := Except.ok.inj (ConfigAbove.found.folderOr_none.symm.trans hstart)
    exact ConfigAbove.found.short ⟨"/work/App"⟩ (by simp) full
  obtain ⟨start, searchRoot, root, namespaces, -, -, htext, hkinds, hagree⟩ :=
    @agrees_with_namespace ConfigAbove.host ⟨"."⟩ none "Main" text false ⟨ConfigAbove.files, [], []⟩ after
      ConfigAbove.found.wellFormed ConfigAbove.found.standsInFolder hfolder hroot hrun
  obtain ⟨hdry, hplans⟩ := hkinds .window
  obtain ⟨plan, hplan, hsame⟩ := hplans.2 (hagree (.inr rfl))
  refine ⟨ConfigAbove.found.wellFormed, ConfigAbove.found.standsInFolder, text, after, hrun, root, namespaces, plan,
    htext, ?_, hsame⟩
  rw [hdry, hplan]
  rfl

/-- With the folder written as a dot, namespaces are told, but a dry run does not find the configuration above
the folder and locates no root. -/
theorem NewOptions.disagrees_from_dot :
    ConfigAbove.files.WellFormed ∧ ConfigAbove.files.StandsInFolder ∧
      (∃ text after, (NamespaceOptions.run ⟨⟨"."⟩, "Main", some ⟨"."⟩, false⟩).perform
        ⟨ConfigAbove.files, [], []⟩ = (.ok text, after)) ∧
      (((dry .window "Main" ⟨"."⟩ (some ⟨"."⟩)).run ConfigAbove.host).perform ⟨ConfigAbove.files, [], []⟩).1 =
        .error (.failed (some (.plan .window "Main")) (.rootNotFound ⟨"/work/App"⟩)) := by
  refine ⟨ConfigAbove.found.wellFormed, ConfigAbove.found.standsInFolder,
    ConfigAbove.told rfl ConfigAbove.found.canonical_current, ?_⟩
  have hfolder : ConfigAbove.files.folderOr (some ⟨"."⟩) = .ok ⟨"."⟩ := rfl
  have hplanned : (dry .window "Main" ⟨"."⟩ (some ⟨"."⟩)).planned ConfigAbove.host ConfigAbove.files =
      .error (.failed (some (.plan .window "Main")) (.rootNotFound ⟨"/work/App"⟩)) := by
    simp only [planned, dry, hfolder, ConfigAbove.found.configFor_current, Scaffolder.planned,
      ConfigAbove.found.name, if_true, ConfigAbove.found.absolute_current, ConfigAbove.located,
      ConfigAbove.found.isNoRoot, mapError_ok, mapError_error, bind, Except.bind]
  obtain ⟨records, hrun⟩ := run_computes ConfigAbove.host
    (show (dry .window "Main" ⟨"."⟩ (some ⟨"."⟩)).dryRun = true from rfl) ⟨ConfigAbove.files, [], []⟩
  simp only [hplanned] at hrun
  rw [hrun]
  rfl

end ComponentScaffold
