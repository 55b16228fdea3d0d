import ComponentScaffold.Config.Document
import ComponentScaffold.Proofs.Files.Folders
import ComponentScaffold.Proofs.Session

/-! # The nearest configuration

The configuration that counts for a folder is that of the nearest file on the way up. It is read from that file alone,
whatever other files there are.

* **`FileSystem.configFor`**, **`FileSystem.discover_computes`** — the configuration follows from the file system.
* **`FileSystem.NearestConfig`** — the folder of the nearest file; `configFileAbove?_eq_some_iff` says that it is found.
* **`FileSystem.NearestConfig.of_differsInFiles`** — it stays the nearest where other files differ.
* **`Config.discover_nearest`** — its file decides alone. -/

namespace ComponentScaffold

/-! ## What is discovered -/

namespace FileSystem

/-- The configuration that a text in a file stands for, if it is one that is accepted. -/
def configOf (path : Path) (text : String) : Except Failure Config :=
  match Config.ofText text with
  | .error fault => .error (.config (.unreadable path fault))
  | .ok config => (config.validate.mapError .config).map fun _ => config

/-- **The configuration in a file.** -/
def configIn (fs : FileSystem) (path : Path) : Except Failure Config :=
  Action.textIn fs path >>= configOf path

/-- **The configuration that counts for a folder.** -/
def configFor (fs : FileSystem) (start : Path) : Except Failure Config :=
  match fs.configFileAbove? start with
  | some path => fs.configIn path
  | none => .ok .standard

/-- Reading a configuration only asks the file system. -/
theorem load_computes (path : Path) : Action.Computes (·.configIn path) (Config.load path) := by
  refine (Action.readText_computes path).bind fun text => ?_
  unfold configOf
  cases Config.ofText text with
  | error fault => exact .throw _
  | ok config =>
    simp only
    cases config.validate with
    | error fault => exact .throw _
    | ok _ => exact .pure config

/-- **Discovering a configuration** only asks the file system. -/
theorem discover_computes (start : Path) : Action.Computes (·.configFor start) (Config.discover start) := by
  have hfound (fs : FileSystem) : Action.Computes
      (fun fs' => match fs.configFileAbove? start with
        | some path => fs'.configIn path
        | none => .ok .standard)
      (match fs.configFileAbove? start with
        | some path => do
          Action.report .debug "loading config" [("path", path.text)]
          Config.load path
        | none => do
          Action.report .debug "no config file, using defaults" []
          return .standard) := by
    cases fs.configFileAbove? start with
    | some path => exact (Action.Computes.report _ _ _).bind fun _ => load_computes path
    | none => exact (Action.Computes.report _ _ _).bind fun _ => .pure _
  have hall := Action.Computes.files.bind hfound
  exact hall

/-- A text stands for a configuration that is accepted. -/
theorem configOf_eq_ok_iff {path : Path} {text : String} {config : Config} :
    configOf path text = .ok config ↔ Config.ofText text = .ok config ∧ config.validate = .ok () := by
  unfold configOf
  cases Config.ofText text with
  | error fault => simp
  | ok read =>
    simp only [Except.ok.injEq]
    constructor
    · intro haccepted
      cases hvalid : read.validate with
      | error fault =>
        rw [hvalid] at haccepted
        cases haccepted
      | ok _ =>
        rw [hvalid] at haccepted
        obtain rfl := Except.ok.inj haccepted
        exact ⟨rfl, hvalid⟩
    · rintro ⟨rfl, hvalid⟩
      rw [hvalid]
      rfl

/-- **A configuration is read from a file** if the text of the file stands for it. -/
theorem configIn_eq_ok_iff {fs : FileSystem} {path : Path} {config : Config} : fs.configIn path = .ok config ↔
    ∃ text : String, fs.readBytes path = .ok text.toUTF8 ∧ Config.ofText text = .ok config ∧
      config.validate = .ok () := by
  simp only [configIn, bind_eq_ok_iff, Action.textIn_eq_ok_iff, configOf_eq_ok_iff]

end FileSystem

/-! ## The way up -/

section

variable {p q : Path}

/-- **The paths that lead to a path** are those on the way to it. -/
theorem Path.mem_ancestorsWithin_iff {levels : Nat} (habs : p.isAbsolute = true)
    (henough : p.components.length ≤ levels) : q ∈ p.ancestorsWithin levels ↔ q.OnWayTo p := by
  induction levels generalizing p with
  | zero => simp [components_of_isAbsolute habs] at henough
  | succ levels ih =>
    rw [ancestorsWithin]
    split
    case h_1 htop => rw [List.mem_singleton, onWayTo_iff_of_top htop]
    case h_2 above hup =>
      have hshorter := components_of_parent? habs hup
      rw [List.mem_cons, onWayTo_iff hup, ih (isAbsolute_of_parent? habs hup) (by omega)]

/-- They are nearest first. -/
theorem Path.pairwise_ancestorsWithin (levels : Nat) (habs : p.isAbsolute = true)
    (henough : p.components.length ≤ levels) :
    (p.ancestorsWithin levels).Pairwise fun near far => far.OnWayTo near := by
  induction levels generalizing p with
  | zero => simp [components_of_isAbsolute habs] at henough
  | succ levels ih =>
    rw [ancestorsWithin]
    split
    case h_1 => exact List.pairwise_singleton _ _
    case h_2 above hup =>
      have hshorter := components_of_parent? habs hup
      have habs' := isAbsolute_of_parent? habs hup
      refine List.pairwise_cons.mpr ⟨fun far hmem => ?_, ih habs' (by omega)⟩
      exact .above hup ((mem_ancestorsWithin_iff habs' (by omega)).mp hmem)

end

namespace FileSystem

variable {fs fs' : FileSystem} {start folder file : Path}

/-- **The folder of the nearest configuration**: of the paths on the way to the start from which a configuration file is
led to, the deepest one. -/
structure NearestConfig (fs : FileSystem) (start folder : Path) : Prop where
  /-- It is on the way. -/
  onWay : folder.OnWayTo start
  /-- The name of configuration files leads to a regular file there. -/
  holds : fs.LeadsToFile (folder.child configFileName)
  /-- Every other such path is on the way to it. -/
  deepest : ∀ other : Path, other.OnWayTo start → fs.LeadsToFile (other.child configFileName) → other.OnWayTo folder

/-- There is no other one. -/
theorem NearestConfig.unique {folder' : Path} (hnearest : fs.NearestConfig start folder)
    (hnearest' : fs.NearestConfig start folder') (habs : start.isAbsolute = true) : folder = folder' :=
  (hnearest'.deepest folder hnearest.onWay hnearest.holds).antisymm
    (hnearest.deepest folder' hnearest'.onWay hnearest'.holds) (hnearest'.onWay.isAbsolute habs)

/-- The first path with a configuration file, of those that lead to the start. -/
def configFolderAbove? (fs : FileSystem) (start : Path) : Option Path :=
  start.ancestors.find? fun folder => fs.isFile (folder.child configFileName)

/-- Its configuration file is the one that is found. -/
theorem configFileAbove?_eq_map (fs : FileSystem) (start : Path) :
    fs.configFileAbove? start = (fs.configFolderAbove? start).map (·.child configFileName) := List.find?_map

/-- **The search comes to the nearest configuration.** -/
theorem nearestConfig_of_configFolderAbove? (habs : start.isAbsolute = true)
    (hfound : fs.configFolderAbove? start = some folder) : fs.NearestConfig start folder := by
  obtain ⟨hholds, nearer, farther, hparts, hnearer⟩ := List.find?_eq_some_iff_append.mp hfound
  have hway (q : Path) : q ∈ start.ancestors ↔ q.OnWayTo start :=
    Path.mem_ancestorsWithin_iff habs (Nat.le_refl _)
  refine ⟨(hway folder).mp (by rw [hparts]; simp), isFile_iff.mp hholds, fun other honWay hholds' => ?_⟩
  have hordered : (nearer ++ folder :: farther).Pairwise fun near far => far.OnWayTo near :=
    hparts ▸ Path.pairwise_ancestorsWithin _ habs (Nat.le_refl _)
  have hmem := hparts ▸ (hway other).mpr honWay
  rcases List.mem_append.mp hmem with hbefore | hafter
  · have habsent := hnearer other hbefore
    simp [isFile_iff.mpr hholds'] at habsent
  · rcases List.mem_cons.mp hafter with rfl | hbehind
    · exact .here other
    · exact List.rel_of_pairwise_cons (List.pairwise_append.mp hordered).2.1 hbehind

/-- Where a path on the way has a configuration file, the search comes to one. -/
theorem exists_configFolderAbove? (habs : start.isAbsolute = true) (honWay : folder.OnWayTo start)
    (hholds : fs.LeadsToFile (folder.child configFileName)) :
    ∃ nearest, fs.configFolderAbove? start = some nearest := by
  rw [← Option.isSome_iff_exists, configFolderAbove?, List.find?_isSome]
  exact ⟨folder, (Path.mem_ancestorsWithin_iff habs (Nat.le_refl _)).mpr honWay, isFile_iff.mpr hholds⟩

/-- **The nearest configuration file** is the one that is found. -/
theorem configFileAbove?_eq_some_iff (habs : start.isAbsolute = true) :
    fs.configFileAbove? start = some file ↔
      ∃ folder, fs.NearestConfig start folder ∧ file = folder.child configFileName := by
  rw [configFileAbove?_eq_map, Option.map_eq_some_iff]
  constructor
  · rintro ⟨folder, hfound, rfl⟩
    exact ⟨folder, nearestConfig_of_configFolderAbove? habs hfound, rfl⟩
  · rintro ⟨folder, hnearest, rfl⟩
    obtain ⟨folder', hfound⟩ := exists_configFolderAbove? habs hnearest.onWay hnearest.holds
    have hsame := hnearest.unique (nearestConfig_of_configFolderAbove? habs hfound) habs
    exact ⟨folder', hfound, by rw [hsame]⟩

/-- None is found if no path on the way has one. -/
theorem configFileAbove?_eq_none_iff (habs : start.isAbsolute = true) :
    fs.configFileAbove? start = none ↔
      ∀ folder : Path, folder.OnWayTo start → ¬fs.LeadsToFile (folder.child configFileName) := by
  rw [configFileAbove?_eq_map, Option.map_eq_none_iff]
  constructor
  · intro habsent folder honWay hholds
    obtain ⟨nearest, hfound⟩ := exists_configFolderAbove? habs honWay hholds
    rw [habsent] at hfound
    cases hfound
  · intro habsent
    refine Option.eq_none_iff_forall_ne_some.mpr fun folder hfound => ?_
    have hnearest := nearestConfig_of_configFolderAbove? habs hfound
    exact habsent folder hnearest.onWay hnearest.holds

/-! ## Other files -/

/-- **Up to a folder, configuration files are the same** in two file systems: from the start up to there, their name
leads to nothing that differs. -/
def SameConfigsUpTo (fs fs' : FileSystem) (start folder : Path) : Prop :=
  ∀ nearer : Path, nearer.OnWayTo start → folder.OnWayTo nearer → fs.LeadsToSame fs' (nearer.child configFileName)

/-- **Other files do not matter** to which configuration is the nearest. -/
theorem NearestConfig.of_differsInFiles (hnearest : fs.NearestConfig start folder) (habs : start.isAbsolute = true)
    (hdiffers : fs.DiffersInFiles fs') (hsame : fs.SameConfigsUpTo fs' start folder) :
    fs'.NearestConfig start folder := by
  have hholds {nearer : Path} (honWay : nearer.OnWayTo start) (hbelow : folder.OnWayTo nearer) :
      fs.LeadsToFile (nearer.child configFileName) ↔ fs'.LeadsToFile (nearer.child configFileName) :=
    (hsame nearer honWay hbelow).leadsToFile_iff hdiffers (Path.isAbsolute_child (honWay.isAbsolute habs) _)
  refine ⟨hnearest.onWay, (hholds hnearest.onWay (.here folder)).mp hnearest.holds, fun other honWay hfile => ?_⟩
  -- a nearer one that is led to in the second file system would be led to in the first one
  rcases honWay.total hnearest.onWay with habove | hbelow
  · exact habove
  · exact hnearest.deepest other honWay ((hholds honWay hbelow).mpr hfile)

/-- Nor to what is read from it. -/
theorem NearestConfig.configIn_eq (hnearest : fs.NearestConfig start folder) (habs : start.isAbsolute = true)
    (hdiffers : fs.DiffersInFiles fs') (hsame : fs.SameConfigsUpTo fs' start folder) :
    fs.configIn (folder.child configFileName) = fs'.configIn (folder.child configFileName) := by
  have hread := (hsame folder hnearest.onWay (.here folder)).readBytes_eq hdiffers
    (Path.isAbsolute_child (hnearest.onWay.isAbsolute habs) _) hnearest.holds
  rw [configIn, configIn, Action.textIn, Action.textIn, hread]

end FileSystem

/-! ## One file decides -/

namespace Config

section

open ComponentScaffold.Action

variable {session : Session} {start file : Path}

/-- A configuration file that is found is loaded, and nothing else is done but a report. -/
theorem perform_discover_of_some (hfound : session.files.configFileAbove? start = some file) :
    (discover start).perform session = (load file).perform
      { session with records := session.records ++ [⟨.debug, "loading config", [("path", file.text)]⟩] } := by
  rw [discover, perform_bind_of_ok (perform_files session), hfound]
  exact perform_bind_of_ok (perform_report ..) _

/-- Where none is found, the usual configuration counts. -/
theorem perform_discover_of_none (habsent : session.files.configFileAbove? start = none) :
    (discover start).perform session = (.ok standard,
      { session with records := session.records ++ [⟨.debug, "no config file, using defaults", []⟩] }) := by
  rw [discover, perform_bind_of_ok (perform_files session), habsent]
  exact perform_bind_of_ok (perform_report ..) _

/-- The outcome is the configuration that counts. -/
theorem perform_discover_fst (start : Path) (session : Session) :
    ((discover start).perform session).1 = session.files.configFor start := by
  obtain ⟨records, hcomputes⟩ := FileSystem.discover_computes start session
  rw [hcomputes]

/-- **The nearest configuration decides alone.** The file that is found is that of the deepest path, of the start and
those that lead to it, from which the name of configuration files leads to a regular file; if there is no such path,
none is found, and the usual configuration counts. Otherwise the file is loaded, and nothing else: what is discovered is
what its text stands for, if that is accepted, and a failure otherwise. It stays so where other files are rewritten,
removed or added, as long as the name leads to none of them up to that path. -/
theorem discover_nearest (habs : start.isAbsolute = true) (session : Session) :
    (∀ file, session.files.configFileAbove? start = some file ↔
      ∃ folder, session.files.NearestConfig start folder ∧ file = folder.child configFileName) ∧
    (session.files.configFileAbove? start = none ↔
      ∀ folder : Path, folder.OnWayTo start → ¬session.files.LeadsToFile (folder.child configFileName)) ∧
    (session.files.configFileAbove? start = none →
      (discover start).perform session = (.ok standard,
        { session with records := session.records ++ [⟨.debug, "no config file, using defaults", []⟩] })) ∧
    ∀ folder, session.files.NearestConfig start folder →
      (discover start).perform session = (load (folder.child configFileName)).perform
        { session with
          records := session.records ++
            [⟨.debug, "loading config", [("path", (folder.child configFileName).text)]⟩] } ∧
      (∀ config, ((discover start).perform session).1 = .ok config ↔
        ∃ text : String, session.files.readBytes (folder.child configFileName) = .ok text.toUTF8 ∧
          ofText text = .ok config ∧ config.validate = .ok ()) ∧
      ∀ other : Session, session.files.DiffersInFiles other.files →
        session.files.SameConfigsUpTo other.files start folder →
        other.files.NearestConfig start folder ∧
          ((discover start).perform other).1 = ((discover start).perform session).1 := by
  have hcounts {session : Session} {folder : Path} (hnearest : session.files.NearestConfig start folder) :
      ((discover start).perform session).1 = session.files.configIn (folder.child configFileName) := by
    have hfound := (FileSystem.configFileAbove?_eq_some_iff habs).mpr ⟨folder, hnearest, rfl⟩
    rw [perform_discover_fst, FileSystem.configFor, hfound]
  refine ⟨fun file => FileSystem.configFileAbove?_eq_some_iff habs,
    FileSystem.configFileAbove?_eq_none_iff habs, perform_discover_of_none, fun folder hnearest => ⟨?_, ?_, ?_⟩⟩
  · exact perform_discover_of_some ((FileSystem.configFileAbove?_eq_some_iff habs).mpr ⟨folder, hnearest, rfl⟩)
  · intro config
    rw [hcounts hnearest, FileSystem.configIn_eq_ok_iff]
  · intro other hdiffers hsame
    have hnearest' := hnearest.of_differsInFiles habs hdiffers hsame
    exact ⟨hnearest', by rw [hcounts hnearest, hcounts hnearest', hnearest.configIn_eq habs hdiffers hsame]⟩

end

/-! ### A broken file below a usable one -/

namespace Broken

/-- A folder with a directory of the name, in a project with a file that is no document, in a folder with a usable
one. -/
def files : FileSystem :=
  (FileSystem.empty 0 0o22).withEntries
    [(["work", "App", "Views", configFileName], .directory), (["work", "App", "Views"], .directory),
      (["work", "App", configFileName], .file "\x7b".toUTF8), (["work", "App"], .directory),
      (["work", configFileName], .file "\x7b\x7d".toUTF8), (["work"], .directory)]

/-- Another usable document. -/
def document : String := "\x7b\"project_suffix\":\".fsproj\"\x7d"

/-- The usable file rewritten. -/
def rewritten : FileSystem := files.rewrite ["work", configFileName] (.file document.toUTF8)

/-- The folder from which the search starts. -/
def start : Path := ⟨"/work/App/Views"⟩

theorem nearestConfig : files.NearestConfig start ⟨"/work/App"⟩ :=
  FileSystem.nearestConfig_of_configFolderAbove? (by decide) (by decide +kernel)

theorem writeBytes_usable :
    files.writeBytes ⟨"/work/.avalonia-scaffold.json"⟩ document.toUTF8 = .ok rewritten := rfl

theorem differsInFiles : files.DiffersInFiles rewritten := by
  refine FileSystem.differsInFiles_of_writeBytes (by decide) (fun place entry hleads => ?_) writeBytes_usable
  have hfound : files.resolve ⟨"/work/.avalonia-scaffold.json"⟩ .target =
      .ok (.entry ["work", configFileName] (.file "\x7b\x7d".toUTF8)) := rfl
  obtain ⟨-, rfl⟩ := Destination.entry.inj (Except.ok.inj (hfound.symm.trans hleads))
  exact ⟨_, rfl⟩

/-- The name leads to the directory and to the broken file, which are in both. -/
theorem sameConfigsUpTo : files.SameConfigsUpTo rewritten start ⟨"/work/App"⟩ := by
  intro nearer honWay hbelow
  have hways : start.ancestors = [⟨"/work/App/Views"⟩, ⟨"/work/App"⟩, ⟨"/work"⟩, ⟨"/"⟩] := by decide +kernel
  have hmem : nearer ∈ start.ancestors := (Path.mem_ancestorsWithin_iff (by decide) (Nat.le_refl _)).mpr honWay
  have habove : (⟨"/work/App"⟩ : Path) ∈ nearer.ancestors :=
    (Path.mem_ancestorsWithin_iff (honWay.isAbsolute (by decide)) (Nat.le_refl _)).mpr hbelow
  simp only [hways, List.mem_cons, List.not_mem_nil, or_false] at hmem
  -- above the project, the project is not on the way
  rcases hmem with rfl | rfl | rfl | rfl
  · have hfound : files.resolve ⟨"/work/App/Views/.avalonia-scaffold.json"⟩ .target =
        .ok (.entry ["work", "App", "Views", configFileName] .directory) := rfl
    have hfound' : rewritten.resolve ⟨"/work/App/Views/.avalonia-scaffold.json"⟩ .target =
        .ok (.entry ["work", "App", "Views", configFileName] .directory) := rfl
    exact FileSystem.leadsToSame_of_resolve hfound hfound' rfl
  · have hfound : files.resolve ⟨"/work/App/.avalonia-scaffold.json"⟩ .target =
        .ok (.entry ["work", "App", configFileName] (.file "\x7b".toUTF8)) := rfl
    have hfound' : rewritten.resolve ⟨"/work/App/.avalonia-scaffold.json"⟩ .target =
        .ok (.entry ["work", "App", configFileName] (.file "\x7b".toUTF8)) := rfl
    exact FileSystem.leadsToSame_of_resolve hfound hfound' rfl
  · exact absurd habove (by decide +kernel)
  · exact absurd habove (by decide +kernel)

end Broken

/-- A broken file is a failure, and stays one where the usable file above it is rewritten. -/
theorem discover_nearest_broken :
    Broken.start.isAbsolute = true ∧ Broken.files.NearestConfig Broken.start ⟨"/work/App"⟩ ∧
      Broken.files.DiffersInFiles Broken.rewritten ∧
      Broken.files.SameConfigsUpTo Broken.rewritten Broken.start ⟨"/work/App"⟩ ∧
      ((discover Broken.start).perform ⟨Broken.files, [], []⟩).1 =
        .error (.config (.unreadable ⟨"/work/App/.avalonia-scaffold.json"⟩ .notJson)) ∧
      ((discover Broken.start).perform ⟨Broken.rewritten, [], []⟩).1 =
        .error (.config (.unreadable ⟨"/work/App/.avalonia-scaffold.json"⟩ .notJson)) := by
  have habs : Broken.start.isAbsolute = true := by decide
  obtain ⟨-, -, -, hdecides⟩ := discover_nearest habs ⟨Broken.files, [], []⟩
  obtain ⟨-, -, hstays⟩ := hdecides _ Broken.nearestConfig
  obtain ⟨-, hsame⟩ := hstays ⟨Broken.rewritten, [], []⟩ Broken.differsInFiles Broken.sameConfigsUpTo
  have hrefused : ((discover Broken.start).perform ⟨Broken.files, [], []⟩).1 =
      .error (.config (.unreadable ⟨"/work/App/.avalonia-scaffold.json"⟩ .notJson)) := by
    rw [perform_discover_fst]
    decide +kernel
  exact ⟨habs, Broken.nearestConfig, Broken.differsInFiles, Broken.sameConfigsUpTo, hrefused, hsame.trans hrefused⟩

/-! ### A file that is the same as one above it -/

namespace Linked

/-- A project whose configuration file is a link to the one in the folder above. -/
def files : FileSystem :=
  (FileSystem.empty 0 0o22).withEntries
    [(["work", "App", configFileName], .link ⟨"../.avalonia-scaffold.json"⟩), (["work", "App"], .directory),
      (["work", configFileName], .file "\x7b\x7d".toUTF8), (["work"], .directory)]

/-- The file above rewritten. -/
def rewritten : FileSystem := files.rewrite ["work", configFileName] (.file Broken.document.toUTF8)

end Linked

/-- **A link to a farther file** hands its contents on: what is discovered changes where that file is rewritten. -/
theorem discover_through_link :
    (⟨"/work/App"⟩ : Path).parent? = some ⟨"/work"⟩ ∧ Linked.files.LeadsToFile ⟨"/work/.avalonia-scaffold.json"⟩ ∧
      Linked.files.writeBytes ⟨"/work/.avalonia-scaffold.json"⟩ Broken.document.toUTF8 = .ok Linked.rewritten ∧
      Linked.files.NearestConfig ⟨"/work/App"⟩ ⟨"/work/App"⟩ ∧
      Linked.rewritten.NearestConfig ⟨"/work/App"⟩ ⟨"/work/App"⟩ ∧
      ((discover ⟨"/work/App"⟩).perform ⟨Linked.files, [], []⟩).1 = .ok standard ∧
      ((discover ⟨"/work/App"⟩).perform ⟨Linked.rewritten, [], []⟩).1 =
        .ok { standard with projectSuffix := ".fsproj" } := by
  refine ⟨by decide +kernel, FileSystem.isFile_iff.mp (by decide +kernel), rfl,
    FileSystem.nearestConfig_of_configFolderAbove? (by decide) (by decide +kernel),
    FileSystem.nearestConfig_of_configFolderAbove? (by decide) (by decide +kernel), ?_, ?_⟩
  · rw [perform_discover_fst]
    decide +kernel
  · rw [perform_discover_fst]
    decide +kernel

end Config

end ComponentScaffold
