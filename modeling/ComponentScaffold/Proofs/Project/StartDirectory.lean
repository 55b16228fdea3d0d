import ComponentScaffold.Proofs.Project.LeastRoot

/-! # Where a search starts

A search looks at its start before it looks at anything below. What it looks at is the entry that the start
names, so a start that is a link to a directory is passed over, and only what lies below it is looked at.

* **`inspected_iff`** — what a single directory is found to be.
* **`FileSystem.located_of_link`** — a search that starts at a link.
* **`locateRoot_start`** — a start that is a root is located exactly if it is no link. -/

namespace ComponentScaffold

open ComponentScaffold.Action

namespace FileSystem

variable {fs : FileSystem} {markers : ProjectMarkers} {start : Path} {place : Location} {root : ProjectRoot}

/-- **The directories below** the one that a path leads to that a search looks at. -/
def Below (fs : FileSystem) (place : Location) (path : Path) (names : List String) : Prop :=
  names ≠ [] ∧ fs.LooksAt place path names

/-- **A search that starts at a link** to a directory looks through the directories below, in the order of
their places. -/
theorem directoriesFrom_of_link {link : Location} {target : Path}
    (hname : fs.resolve start .name = .ok (.entry link (.link target)))
    (htarget : fs.resolve start .target = .ok (.entry place .directory)) :
    fs.directoriesFrom start = .ok (fs.directoriesBelow place start) := by
  have hfind : fs.find start = .ok (place, .directory) := by
    rw [find, htarget]
    rfl
  rw [directoriesFrom, hname]
  simp only [hfind]

/-- **A search that starts at a link** finds the root that comes first below. -/
theorem located_of_link {link : Location} {target : Path}
    (hname : fs.resolve start .name = .ok (.entry link (.link target)))
    (htarget : fs.resolve start .target = .ok (.entry place .directory)) :
    (∀ root, fs.located markers start = .ok root ↔
        fs.FirstRoot markers start place (fs.Below place start) root) ∧
      (fs.located markers start = .error (.rootNotFound start) ↔
        ∀ names, fs.Below place start names → ¬fs.Marked markers (place ++ names)) := by
  refine located_iff_of_exact (located_among (directoriesFrom_of_link hname htarget)
    (fs.pairwise_directoriesWithin _ _ _) fun found => ?_)
  rw [mem_directoriesBelow_iff]
  constructor
  · rintro ⟨⟨name, rest, hcomes, rfl⟩, hsize⟩
    exact ⟨name :: rest, ⟨List.cons_ne_nil _ _, hcomes, hsize⟩, rfl⟩
  · rintro ⟨names, ⟨hne, hcomes, hsize⟩, rfl⟩
    obtain ⟨name, rest, rfl⟩ := List.exists_cons_of_ne_nil hne
    exact ⟨⟨name, rest, hcomes, rfl⟩, hsize⟩

/-- Names that lead down are proper ones. -/
theorem LeadsDown.isEntryName (hfs : fs.WellFormed) {names : List String} (h : fs.LeadsDown place names) :
    ∀ name ∈ names, IsEntryName name := by
  induction h with
  | here => exact fun _ hmem => absurd hmem List.not_mem_nil
  | down hname _ ih => exact List.forall_mem_cons.2 ⟨hfs.named hname, ih⟩

/-- What lies below has another path. -/
theorem Below.descend_ne (hfs : fs.WellFormed) {names : List String} (h : fs.Below place start names) :
    start.descend names ≠ start := by
  intro heq
  have hnames := congrArg Path.names heq
  rw [Path.names_descend fun name hmem => (h.2.1.leadsDown.isEntryName hfs name hmem).toIsStep] at hnames
  exact h.1 (List.self_eq_append_right.1 hnames.symm)

/-- The directory that a path leads to is the entry that it leads to. -/
theorem directoryAt_eq_ok_iff {p : Path} :
    fs.directoryAt p = .ok (some place) ↔ fs.resolve p .target = .ok (.entry place .directory) := by
  unfold directoryAt
  split
  case h_1 htarget | h_2 htarget | h_4 htarget | h_5 htarget => simp [htarget]
  case h_3 hother htarget =>
    simp only [htarget, reduceCtorEq, Except.ok.injEq, Destination.entry.injEq, false_iff, not_and]
    exact fun _ => hother

end FileSystem

variable {markers : ProjectMarkers} {start : Path} {root : ProjectRoot} {session : Session}

/-- **What a single directory is found to be** is what it is. -/
theorem inspected_iff :
    ((inspectDirectory markers start).perform session).1 = .ok (some root) ↔
      ∃ place, session.files.resolve start .target = .ok (.entry place .directory) ∧
        session.files.IsRoot markers place start root := by
  rw [inspectDirectory, perform_bind_of_ok (perform_files session)]
  simp only [← FileSystem.rootAt?_eq_some_iff, ← FileSystem.directoryAt_eq_ok_iff]
  cases session.files.directoryAt start with
  | error fault => simp [inspectOpened, Except.map]
  | ok place? => cases place? <;> simp [inspectOpened, Except.map]

/-! ## A project behind a link

A folder that is the root of a project and holds another one, and a link to it. -/

/-- The folder of a project, with another project in it, and a link to the folder. -/
def linkedProject : FileSystem := (FileSystem.empty 0 0o22).withEntries
  [(["work", "App.csproj"], .file .empty), (["work", "inner", "Inner.csproj"], .file .empty),
    (["work", "inner"], .directory), (["work"], .directory), (["link"], .link ⟨"work"⟩)]

namespace linkedProject

theorem wellFormed : linkedProject.WellFormed := .of_places (by decide)

/-- The names in the folder. -/
theorem childNames_work : linkedProject.childNames ["work"] = ["App.csproj", "inner"] :=
  FileSystem.childNames_of_sorted (by decide) (by decide)

/-- A folder whose only file is that of a project is the root of the project. -/
theorem isRoot_of_fileNames {place : Location} {file name : String} (path : Path)
    (hfiles : linkedProject.fileNames place = [file])
    (hsolution : ProjectMarkers.withoutSuffix? ".sln" file = none)
    (hproject : ProjectMarkers.withoutSuffix? ".csproj" file = some name) :
    linkedProject.IsRoot .standard place path ⟨path, false, name⟩ := by
  refine FileSystem.isRoot_of_rootAt? ?_
  rw [FileSystem.rootAt?, hfiles, ProjectMarkers.rootOf?]
  simp [ProjectMarkers.standard, hsolution, hproject]

/-- The folder is the root of the outer project, however it is reached. -/
theorem isRoot_work (path : Path) : linkedProject.IsRoot .standard ["work"] path ⟨path, false, "App"⟩ := by
  have hfiles : linkedProject.fileNames ["work"] = ["App.csproj"] := by
    rw [FileSystem.fileNames, FileSystem.children, childNames_work]
    decide
  exact isRoot_of_fileNames path hfiles (by decide) (by decide)

/-- The folder in it is the root of the inner one. -/
theorem isRoot_inner (path : Path) :
    linkedProject.IsRoot .standard ["work", "inner"] path ⟨path, false, "Inner"⟩ := by
  have hlisted : linkedProject.childNames ["work", "inner"] = ["Inner.csproj"] :=
    FileSystem.childNames_of_sorted (by decide) (by decide)
  have hfiles : linkedProject.fileNames ["work", "inner"] = ["Inner.csproj"] := by
    rw [FileSystem.fileNames, FileSystem.children, hlisted]
    decide
  exact isRoot_of_fileNames path hfiles (by decide) (by decide)

/-- Below the folder the inner project comes first, if the path to it is not too long. -/
theorem firstRoot_inner {path : Path} (hpath : path.text.utf8ByteSize ≤ FileSystem.maxPathBytes)
    (hinner : (path.child "inner").text.utf8ByteSize ≤ FileSystem.maxPathBytes) :
    linkedProject.FirstRoot .standard path ["work"] (linkedProject.Below ["work"] path)
      ⟨path.child "inner", false, "Inner"⟩ := by
  refine ⟨["inner"], ⟨List.cons_ne_nil _ _, .down hpath rfl (.here _ _), hinner⟩, isRoot_inner _,
    fun other hbelow _ => ?_⟩
  obtain ⟨hne, hcomes, -⟩ := hbelow
  cases hcomes with
  | here => exact absurd rfl hne
  | @down _ _ name rest _ hname _ =>
    have hlisted : linkedProject.subdirectories ["work"] = ["inner"] := by
      rw [FileSystem.subdirectories, FileSystem.children, childNames_work]
      decide
    obtain rfl : name = "inner" := List.mem_singleton.1 (hlisted ▸ FileSystem.mem_subdirectories_iff.2 hname)
    cases rest with
    | nil => exact .inl rfl
    | cons => exact .inr (.cons .nil)

end linkedProject

/-! ## The start of a search -/

/-- **A start that is a root is located** exactly if it is a directory itself. Looked at alone, a start that is
a link to a directory is the same root, but a search from it finds only what lies below: the root that comes
first there, or nothing if no directory below is marked. -/
theorem locateRoot_start (hfs : session.files.WellFormed)
    (h : ((inspectDirectory markers start).perform session).1 = .ok (some root)) :
    ∃ place, session.files.resolve start .target = .ok (.entry place .directory) ∧
      session.files.IsRoot markers place start root ∧
      (((locateRoot markers start).perform session).1 = .ok root ↔
        session.files.resolve start .name = .ok (.entry place .directory)) ∧
      (session.files.resolve start .name = .ok (.entry place .directory) ∨
        (∃ link target, session.files.resolve start .name = .ok (.entry link (.link target))) ∧
          (∀ found, ((locateRoot markers start).perform session).1 = .ok found ↔
            session.files.FirstRoot markers start place (session.files.Below place start) found) ∧
          (((locateRoot markers start).perform session).1 = .error (.rootNotFound start) ↔
            ∀ names, session.files.Below place start names →
              ¬session.files.Marked markers (place ++ names))) := by
  obtain ⟨place, htarget, hroot⟩ := inspected_iff.1 h
  obtain ⟨records, hrecords⟩ := FileSystem.locateRoot_computes markers start session
  rw [hrecords]
  refine ⟨place, htarget, hroot, ?_⟩
  rcases FileSystem.resolve_name_of_directory htarget with hname | ⟨link, target, hname⟩
  · refine ⟨iff_of_true ?_ hname, .inl hname⟩
    -- no names come before those that lead nowhere
    refine (FileSystem.located_eq_ok_iff hname).2
      ⟨[], ⟨.here place start, FileSystem.size_of_resolve htarget⟩, ?_, fun other _ _ => ?_⟩
    · rwa [List.append_nil]
    cases other with
    | nil => exact .inl rfl
    | cons => exact .inr .nil
  · obtain ⟨hfirst, hnone⟩ := FileSystem.located_of_link hname htarget
    refine ⟨iff_of_false (fun hlocated => ?_) (by simp [hname]), .inr ⟨⟨link, target, hname⟩, hfirst, hnone⟩⟩
    -- a root that is found below has the path of its directory
    obtain ⟨names, hbelow, hfound, -⟩ := (hfirst root).1 hlocated
    refine hbelow.descend_ne hfs ?_
    rw [← hfound.path_eq, hroot.path_eq]

/-- From the folder itself the outer project is located, and from the link to it the inner one. -/
theorem locateRoot_start_linkedProject :
    ((locateRoot .standard ⟨"/work"⟩).perform ⟨linkedProject, [], []⟩).1 =
        .ok ⟨⟨"/work"⟩, false, "App"⟩ ∧
      ((locateRoot .standard ⟨"/link"⟩).perform ⟨linkedProject, [], []⟩).1 =
        .ok ⟨⟨"/link/inner"⟩, false, "Inner"⟩ := by
  have hinspected (start : Path)
      (htarget : linkedProject.resolve start .target = .ok (.entry ["work"] .directory)) :
      ((inspectDirectory .standard start).perform ⟨linkedProject, [], []⟩).1 =
        .ok (some ⟨start, false, "App"⟩) :=
    inspected_iff.2 ⟨["work"], htarget, linkedProject.isRoot_work start⟩
  constructor
  · obtain ⟨place, htarget, -, hlocated, -⟩ :=
      locateRoot_start linkedProject.wellFormed (hinspected ⟨"/work"⟩ rfl)
    obtain rfl : place = ["work"] := by
      cases htarget
      rfl
    exact hlocated.2 rfl
  · obtain ⟨place, htarget, -, -, hname | ⟨-, hfirst, -⟩⟩ :=
      locateRoot_start linkedProject.wellFormed (hinspected ⟨"/link"⟩ rfl)
    · cases hname
    · obtain rfl : place = ["work"] := by
        cases htarget
        rfl
      exact (hfirst _).2 (linkedProject.firstRoot_inner (by decide) (by decide))

/-- **A search passes over its start** where that is a link: alone, the link is found to be the root of the
outer project, but the inner one is located. -/
theorem locateRoot_passes_link :
    ((inspectDirectory .standard ⟨"/link"⟩).perform ⟨linkedProject, [], []⟩).1 =
        .ok (some ⟨⟨"/link"⟩, false, "App"⟩) ∧
      ((locateRoot .standard ⟨"/link"⟩).perform ⟨linkedProject, [], []⟩).1 =
        .ok ⟨⟨"/link/inner"⟩, false, "Inner"⟩ := by
  have htarget : linkedProject.resolve ⟨"/link"⟩ .target = .ok (.entry ["work"] .directory) := rfl
  have hname : linkedProject.resolve ⟨"/link"⟩ .name = .ok (.entry ["link"] (.link ⟨"work"⟩)) := rfl
  refine ⟨inspected_iff.2 ⟨["work"], htarget, linkedProject.isRoot_work _⟩, ?_⟩
  obtain ⟨records, hrecords⟩ :=
    FileSystem.locateRoot_computes .standard ⟨"/link"⟩ ⟨linkedProject, [], []⟩
  rw [hrecords]
  exact ((FileSystem.located_of_link hname htarget).1 _).2
    (linkedProject.firstRoot_inner (by decide) (by decide))

end ComponentScaffold
