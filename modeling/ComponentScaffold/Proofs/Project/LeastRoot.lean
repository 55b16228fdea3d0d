import ComponentScaffold.Proofs.Project.WalkOrder
import ComponentScaffold.Proofs.Text.Bytes

/-! # The root that is located

Which root is located is said without a walk: of all directories that are marked by a file, it is the one that
comes first in the order of the names that lead to it.

* **`FileSystem.IsRoot`** — what a marked directory is.
* **`FileSystem.FirstRoot`** — the first of those that are marked.
* **`FileSystem.LocatesRoot`** — the first that a search looks at.
* **`locateRoot_exact`** — locating a root finds it, and nothing if no directory is marked. -/

namespace ComponentScaffold

/-- **Names before others**: those that come first in the order of their bytes, and names before all that go on
from there. -/
def Before (names other : List String) : Prop :=
  List.Lex (fun name other => Text.bytes name < Text.bytes other) names other

/-- The order of bytes is the order of texts. -/
theorem before_iff {names other : List String} : Before names other ↔ names < other := by
  simp only [Before, Text.bytes_lt_iff, List.lex_lt]

namespace FileSystem

variable {fs : FileSystem} {markers : ProjectMarkers} {place : Location} {path : Path} {root : ProjectRoot}

/-- A regular file of a name lies right in a directory. -/
def HasFile (fs : FileSystem) (place : Location) (name : String) : Prop :=
  ∃ bytes, fs.lookup (place ++ [name]) = some (.file bytes)

/-- **A directory that is marked** by one of its files as a solution's or a project's. -/
def Marked (fs : FileSystem) (markers : ProjectMarkers) (place : Location) : Prop :=
  ∃ rest, fs.HasFile place (rest ++ markers.solutionSuffix) ∨ fs.HasFile place (rest ++ markers.projectSuffix)

/-- **What a marked directory is.** -/
inductive IsRoot (fs : FileSystem) (markers : ProjectMarkers) (place : Location) (path : Path) :
    ProjectRoot → Prop
  /-- With the file of a solution, it is the root of the solution. -/
  | solution {rest : String} : fs.HasFile place (rest ++ markers.solutionSuffix) →
    IsRoot fs markers place path ⟨path, true, ""⟩
  /-- Else it is the root of the project whose file has the least name. -/
  | project {name : String} : (∀ rest, ¬fs.HasFile place (rest ++ markers.solutionSuffix)) →
    fs.HasFile place (name ++ markers.projectSuffix) →
    (∀ other, fs.HasFile place (other ++ markers.projectSuffix) → other = name ∨
      Text.bytes (name ++ markers.projectSuffix) < Text.bytes (other ++ markers.projectSuffix)) →
    IsRoot fs markers place path ⟨path, false, name⟩

/-- A file of a given end is looked for by its name. -/
theorem any_withoutSuffix?_iff {suffix : String} :
    ((fs.fileNames place).any fun name => (ProjectMarkers.withoutSuffix? suffix name).isSome) = true ↔
      ∃ rest, fs.HasFile place (rest ++ suffix) := by
  simp only [List.any_eq_true, Option.isSome_iff_exists, ProjectMarkers.withoutSuffix?_eq_some_iff,
    mem_fileNames_iff]
  constructor
  · rintro ⟨_, hname, rest, rfl⟩
    exact ⟨rest, hname⟩
  · rintro ⟨rest, hrest⟩
    exact ⟨_, hrest, rest, rfl⟩

/-- What is left of a name without its end. -/
theorem withoutSuffix?_append (rest suffix : String) :
    ProjectMarkers.withoutSuffix? suffix (rest ++ suffix) = some rest :=
  ProjectMarkers.withoutSuffix?_eq_some_iff.2 rfl

/-- **What a directory is found to be** is what it is. -/
theorem isRoot_of_rootAt? (h : fs.rootAt? markers place path = some root) :
    fs.IsRoot markers place path root := by
  unfold rootAt? ProjectMarkers.rootOf? at h
  split at h
  case isTrue hany =>
    obtain ⟨rest, hrest⟩ := any_withoutSuffix?_iff.1 hany
    rw [← Option.some.inj h]
    exact .solution hrest
  case isFalse hnone =>
    obtain ⟨name, hname, rfl⟩ := Option.map_eq_some_iff.1 h
    obtain ⟨first, hfirst, hsome, hleast⟩ := exists_least_of_findSome? (fs.pairwise_fileNames place) hname
    obtain rfl := ProjectMarkers.withoutSuffix?_eq_some_iff.1 hsome
    refine .project (fun rest hrest => hnone (any_withoutSuffix?_iff.2 ⟨rest, hrest⟩))
      (mem_fileNames_iff.1 hfirst) fun other hother => ?_
    -- names that end alike are in the order of what stands before the ending
    rw [Text.bytes_lt_iff]
    refine (hleast (other ++ markers.projectSuffix) (mem_fileNames_iff.2 hother)
      (by simp [withoutSuffix?_append])).imp_left fun heq => ?_
    have hrest := congrArg (ProjectMarkers.withoutSuffix? markers.projectSuffix) heq
    simpa only [withoutSuffix?_append, Option.some.injEq] using hrest

/-- A directory is found to be something exactly if it is marked. -/
theorem rootAt?_ne_none_iff : fs.rootAt? markers place path ≠ none ↔ fs.Marked markers place := by
  unfold rootAt? ProjectMarkers.rootOf? Marked
  rw [exists_or, ← any_withoutSuffix?_iff, ← any_withoutSuffix?_iff]
  split
  case isTrue hany => simp [hany]
  case isFalse hnone => simp [hnone, Option.isSome_iff_ne_none]

/-- A root has the path of its directory. -/
theorem IsRoot.path_eq (h : fs.IsRoot markers place path root) : root.path = path := by
  cases h <;> rfl

/-- What is a root is marked. -/
theorem IsRoot.marked (h : fs.IsRoot markers place path root) : fs.Marked markers place := by
  cases h with
  | solution hsolution => exact ⟨_, .inl hsolution⟩
  | project _ hproject => exact ⟨_, .inr hproject⟩

/-- A directory is one root only. -/
theorem IsRoot.unique {other : ProjectRoot} (h : fs.IsRoot markers place path root)
    (h' : fs.IsRoot markers place path other) : root = other := by
  cases h with
  | solution hsolution =>
    cases h' with
    | solution => rfl
    | project hnone => exact absurd hsolution (hnone _)
  | @project name hnone hproject hleast =>
    cases h' with
    | solution hsolution => exact absurd hsolution (hnone _)
    | @project name' _ hproject' hleast' =>
      rcases hleast name' hproject' with rfl | hlt
      · rfl
      rcases hleast' name hproject with rfl | hgt
      · rfl
      exact absurd hgt (List.lt_asymm hlt)

/-- What a directory is follows from the names of its files. -/
theorem IsRoot.of_hasFile {other : FileSystem} (hfiles : ∀ name, other.HasFile place name ↔ fs.HasFile place name)
    (h : fs.IsRoot markers place path root) : other.IsRoot markers place path root := by
  cases h with
  | solution hsolution => exact .solution ((hfiles _).2 hsolution)
  | project hnone hproject hleast =>
    simp only [← hfiles] at hnone hproject hleast
    exact .project hnone hproject hleast

/-- A directory is found to be what it is. -/
theorem rootAt?_eq_some_iff : fs.rootAt? markers place path = some root ↔ fs.IsRoot markers place path root := by
  refine ⟨isRoot_of_rootAt?, fun h => ?_⟩
  obtain ⟨found, hfound⟩ := Option.ne_none_iff_exists'.1 (rootAt?_ne_none_iff.2 h.marked)
  rw [hfound, h.unique (isRoot_of_rootAt? hfound)]

/-! ## The first of the marked directories -/

/-- **The root that comes first** among the directories that some names lead to from a place. -/
def FirstRoot (fs : FileSystem) (markers : ProjectMarkers) (start : Path) (place : Location)
    (among : List String → Prop) (root : ProjectRoot) : Prop :=
  ∃ names, among names ∧ fs.IsRoot markers (place ++ names) (start.descend names) root ∧
    ∀ other, among other → fs.Marked markers (place ++ other) → other = names ∨ Before names other

/-- **The root that comes first** among the directories that a search from a place looks at. -/
def LocatesRoot (fs : FileSystem) (markers : ProjectMarkers) (start : Path) (place : Location) :
    ProjectRoot → Prop :=
  fs.FirstRoot markers start place (fs.LooksAt place start)

section

variable {start : Path} {among : List String → Prop}

/-- Only one root comes first. -/
theorem FirstRoot.unique {other : ProjectRoot} (h : fs.FirstRoot markers start place among root)
    (h' : fs.FirstRoot markers start place among other) : root = other := by
  obtain ⟨names, hamong, hroot, hleast⟩ := h
  obtain ⟨names', hamong', hroot', hleast'⟩ := h'
  rcases hleast names' hamong' hroot'.marked with rfl | hlt
  · exact hroot.unique hroot'
  rcases hleast' names hamong hroot.marked with rfl | hgt
  · exact hroot.unique hroot'
  exact absurd (before_iff.1 hgt) (List.lt_asymm (before_iff.1 hlt))

/-- Places below one are in the order of the names that lead there. -/
theorem before_of_append_lt {names other : List String} (h : place ++ names < place ++ other) :
    Before names other := by
  rw [before_iff]
  induction place with
  | nil => exact h
  | cons name rest ih =>
    rcases List.cons_lt_cons_iff.1 h with hlt | ⟨-, hrest⟩
    · exact absurd hlt (String.lt_irrefl _)
    · exact ih hrest

/-- **A search through directories in order** finds the root that comes first among those that it opens. -/
theorem located_among {directories : List (Location × Path)} (hlisted : fs.directoriesFrom start = .ok directories)
    (hordered : directories.Pairwise fun found other => found.1 < other.1)
    (hmem : ∀ found, found ∈ directories ∧ found.2.text.utf8ByteSize ≤ maxPathBytes ↔
      ∃ names, among names ∧ found = (place ++ names, start.descend names)) :
    (∃ root, fs.located markers start = .ok root ∧ fs.FirstRoot markers start place among root) ∨
      fs.located markers start = .error (.rootNotFound start) ∧
        ∀ names, among names → ¬fs.Marked markers (place ++ names) := by
  have hopens {names : List String} (hamong : among names) (hmarked : fs.Marked markers (place ++ names)) :
      (place ++ names, start.descend names) ∈ directories ∧
        fs.openedRoot? markers (place ++ names) (start.descend names) ≠ none := by
    obtain ⟨hlists, hsize⟩ := (hmem _).2 ⟨names, hamong, rfl⟩
    obtain ⟨root, hroot⟩ := Option.ne_none_iff_exists'.1 (rootAt?_ne_none_iff.2 hmarked)
    exact ⟨hlists, Option.ne_none_iff_exists'.2 ⟨root, openedRoot?_eq_some_iff.2 ⟨hsize, hroot⟩⟩⟩
  unfold located
  rw [hlisted]
  simp only
  split
  case h_1 hnone =>
    refine .inr ⟨rfl, fun names hamong hmarked => ?_⟩
    rw [List.findSome?_eq_none_iff] at hnone
    obtain ⟨hlists, hopened⟩ := hopens hamong hmarked
    exact hopened (hnone _ hlists)
  case h_2 root hroot =>
    refine .inl ⟨root, rfl, ?_⟩
    obtain ⟨first, hfirst, hsome, hleast⟩ := exists_least_of_findSome? hordered hroot
    obtain ⟨hsize, hfound⟩ := openedRoot?_eq_some_iff.1 hsome
    obtain ⟨names, hamong, rfl⟩ := (hmem _).1 ⟨hfirst, hsize⟩
    refine ⟨names, hamong, isRoot_of_rootAt? hfound, fun other hother hmarked => ?_⟩
    obtain ⟨hlists, hopened⟩ := hopens hother hmarked
    refine (hleast _ hlists hopened).imp (fun heq => ?_) before_of_append_lt
    exact List.append_cancel_left (Prod.mk.inj heq).1

/-- What a search finds is the root that comes first, and that there is none is found where no directory is
marked. -/
theorem located_iff_of_exact
    (h : (∃ root, fs.located markers start = .ok root ∧ fs.FirstRoot markers start place among root) ∨
      fs.located markers start = .error (.rootNotFound start) ∧
        ∀ names, among names → ¬fs.Marked markers (place ++ names)) :
    (∀ root, fs.located markers start = .ok root ↔ fs.FirstRoot markers start place among root) ∧
      (fs.located markers start = .error (.rootNotFound start) ↔
        ∀ names, among names → ¬fs.Marked markers (place ++ names)) := by
  rcases h with ⟨first, hlocated, hfirst⟩ | ⟨hlocated, hnone⟩
  · have ⟨names, hamong, hroot, _⟩ := hfirst
    rw [hlocated]
    refine ⟨fun root => ?_, nofun, fun hnone => absurd hroot.marked (hnone names hamong)⟩
    rw [Except.ok.injEq]
    exact ⟨fun heq => heq ▸ hfirst, hfirst.unique⟩
  · rw [hlocated]
    refine ⟨fun root => ⟨nofun, ?_⟩, fun _ => hnone, fun _ => rfl⟩
    rintro ⟨names, hamong, hroot, -⟩
    exact absurd hroot.marked (hnone names hamong)

end

/-- **Locating finds the root that comes first**, if there is one. -/
theorem located_exact {start : Path} (h : fs.resolve start .name = .ok (.entry place .directory)) :
    (∃ root, fs.located markers start = .ok root ∧ fs.LocatesRoot markers start place root) ∨
      fs.located markers start = .error (.rootNotFound start) ∧
        ∀ names, fs.LooksAt place start names → ¬fs.Marked markers (place ++ names) := by
  obtain ⟨directories, hdirectories, hordered, hmem⟩ := fs.directoriesFrom_of_directory h
  refine located_among hdirectories hordered fun found => ?_
  rw [hmem]
  constructor
  · rintro ⟨⟨names, hcomes, rfl⟩, hsize⟩
    exact ⟨names, ⟨hcomes, hsize⟩, rfl⟩
  · rintro ⟨names, ⟨hcomes, hsize⟩, rfl⟩
    exact ⟨⟨names, hcomes, rfl⟩, hsize⟩

/-- A root that comes first is located. -/
theorem located_eq_ok_iff {start : Path} (h : fs.resolve start .name = .ok (.entry place .directory)) :
    fs.located markers start = .ok root ↔ fs.LocatesRoot markers start place root :=
  (located_iff_of_exact (located_exact h)).1 root

/-- Nothing is located where no directory is marked. -/
theorem located_eq_error_iff {start : Path} (h : fs.resolve start .name = .ok (.entry place .directory)) :
    fs.located markers start = .error (.rootNotFound start) ↔
      ∀ names, fs.LooksAt place start names → ¬fs.Marked markers (place ++ names) :=
  (located_iff_of_exact (located_exact h)).2

/-! ## How directories are listed -/

section

variable {other : FileSystem} (hlookup : ∀ place, other.lookup place = fs.lookup place)

include hlookup

/-- What a search comes to follows from what is there. -/
theorem ComesTo.of_lookup {names : List String} (h : fs.ComesTo place path names) :
    other.ComesTo place path names := by
  induction h with
  | here => exact .here _ _
  | down hsize hname _ ih => exact .down hsize ((hlookup _).trans hname) ih

theorem LooksAt.of_lookup {names : List String} (h : fs.LooksAt place path names) :
    other.LooksAt place path names :=
  ⟨h.1.of_lookup hlookup, h.2⟩

theorem hasFile_of_lookup {name : String} : other.HasFile place name ↔ fs.HasFile place name := by
  simp only [HasFile, hlookup]

theorem marked_of_lookup : other.Marked markers place ↔ fs.Marked markers place := by
  simp only [Marked, hasFile_of_lookup hlookup]

theorem IsRoot.of_lookup (h : fs.IsRoot markers place path root) : other.IsRoot markers place path root :=
  h.of_hasFile fun _ => hasFile_of_lookup hlookup

/-- **The root that comes first** follows from what is there. -/
theorem LocatesRoot.of_lookup {start : Path} (h : fs.LocatesRoot markers start place root) :
    other.LocatesRoot markers start place root := by
  obtain ⟨names, hlooks, hroot, hleast⟩ := h
  refine ⟨names, hlooks.of_lookup hlookup, hroot.of_lookup hlookup, fun names' hlooks' hmarked => ?_⟩
  exact hleast names' (hlooks'.of_lookup fun place => (hlookup place).symm)
    ((marked_of_lookup hlookup).1 hmarked)

end

end FileSystem

/-- **Locating a root** from a directory finds the root that comes first among the directories that the search
looks at, and fails exactly if none of them is marked. It looks at all that names lead down to, but for those
that are listed by a path too long. In which order the entries of directories are listed makes no difference. -/
theorem locateRoot_exact {markers : ProjectMarkers} {start : Path} {place : Location} {session : Session}
    (h : session.files.resolve start .name = .ok (.entry place .directory)) :
    (((locateRoot markers start).perform session).1 = .error (.rootNotFound start) ↔
        ∀ names, session.files.LooksAt place start names → ¬session.files.Marked markers (place ++ names)) ∧
      (∀ root, ((locateRoot markers start).perform session).1 = .ok root ↔
        session.files.LocatesRoot markers start place root) ∧
      (((locateRoot markers start).perform session).1 = .error (.rootNotFound start) ∨
        ∃ root, ((locateRoot markers start).perform session).1 = .ok root) ∧
      ((∀ names, session.files.LeadsDown place names →
          (start.descend names).text.utf8ByteSize ≤ FileSystem.maxPathBytes) →
        ∀ names, session.files.LooksAt place start names ↔ session.files.LeadsDown place names) ∧
      ∀ other : Session, (∀ held, other.files.lookup held = session.files.lookup held) →
        other.files.resolve start .name = .ok (.entry place .directory) →
          ((locateRoot markers start).perform other).1 = ((locateRoot markers start).perform session).1 := by
  have hperform (session : Session) :
      ((locateRoot markers start).perform session).1 = session.files.located markers start := by
    obtain ⟨records, hrecords⟩ := FileSystem.locateRoot_computes markers start session
    rw [hrecords]
  simp only [hperform]
  refine ⟨FileSystem.located_eq_error_iff h, fun root => FileSystem.located_eq_ok_iff h, ?_,
    fun hsize _ => FileSystem.looksAt_iff_leadsDown hsize, fun other hlookup hother => ?_⟩
  · rcases FileSystem.located_exact h with ⟨root, hroot, -⟩ | ⟨hnone, -⟩
    · exact .inr ⟨root, hroot⟩
    · exact .inl hnone
  · rcases FileSystem.located_exact h with ⟨root, hroot, hfirst⟩ | ⟨hnone, hmarked⟩
    · rw [hroot, FileSystem.located_eq_ok_iff hother]
      exact hfirst.of_lookup hlookup
    · rw [hnone, FileSystem.located_eq_error_iff hother]
      intro names hlooks
      rw [FileSystem.marked_of_lookup hlookup]
      exact hmarked names (hlooks.of_lookup fun place => (hlookup place).symm)

/-- A project in a folder that also holds one that comes later. -/
def nestedProjects : FileSystem := (FileSystem.empty 0 0o22).withEntries
  [(["work", "App.csproj"], .file .empty), (["work", "inner", "Inner.sln"], .file .empty),
    (["work", "inner"], .directory), (["work"], .directory)]

/-- The outer project is located, though the inner one is marked as a solution's. -/
theorem locateRoot_nestedProjects :
    nestedProjects.resolve ⟨"/work"⟩ .name = .ok (.entry ["work"] .directory) ∧
      ((locateRoot .standard ⟨"/work"⟩).perform ⟨nestedProjects, [], []⟩).1 =
        .ok ⟨⟨"/work"⟩, false, "App"⟩ := by
  have hresolve : nestedProjects.resolve ⟨"/work"⟩ .name = .ok (.entry ["work"] .directory) := rfl
  have hchildren : nestedProjects.childNames ["work"] = ["App.csproj", "inner"] :=
    FileSystem.childNames_of_sorted (by decide) (by decide)
  have hnames : nestedProjects.fileNames ["work"] = ["App.csproj"] := by
    rw [FileSystem.fileNames, FileSystem.children, hchildren]
    decide
  have hroot : nestedProjects.rootAt? .standard ["work"] ⟨"/work"⟩ =
      some ⟨⟨"/work"⟩, false, "App"⟩ := by
    rw [FileSystem.rootAt?, hnames]
    decide
  refine ⟨hresolve, ((@locateRoot_exact _ _ _ ⟨nestedProjects, [], []⟩ hresolve).2.1 _).2
    ⟨[], ⟨.here _ _, by decide⟩, FileSystem.isRoot_of_rootAt? hroot, fun other _ _ => ?_⟩⟩
  cases other with
  | nil => exact .inl rfl
  | cons => exact .inr .nil

end ComponentScaffold
