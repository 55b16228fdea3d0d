import ComponentScaffold.Project.Locate
import ComponentScaffold.Proofs.Files.Paths
import ComponentScaffold.Proofs.Session

/-! # Directories that are looked through

The walk over the directories below a place, in terms of the file system alone: it comes to every
directory that names lead to through directories, as long as the paths on the way are not too long.

* **`FileSystem.mem_subdirectories_iff`**, **`FileSystem.mem_fileNames_iff`** — the names in a directory.
* **`FileSystem.LeadsDown`** — names that lead down through directories.
* **`FileSystem.ComesTo`**, **`FileSystem.LooksAt`** — those that the walk comes to, and those that it looks at.
* **`FileSystem.mem_directoriesBelow_iff`** — the directories that the walk comes to.
* **`FileSystem.located`** — the root that is located, as an answer of the file system. -/

namespace ComponentScaffold

namespace FileSystem

variable {fs : FileSystem}

/-! ## Names in a directory -/

/-- A name in a directory is the last of a place in it. -/
theorem nameIn?_eq_some_iff {directory place : Location} {name : String} :
    nameIn? directory place = some name ↔ place = directory ++ [name] := by
  unfold nameIn?
  rcases List.eq_nil_or_concat place with rfl | ⟨front, last, rfl⟩
  · simp
  · rw [List.concat_eq_append, List.dropLast_concat, List.getLast?_concat]
    split
    case isTrue h => simp [h]
    case isFalse h =>
      simp only [reduceCtorEq, false_iff]
      exact fun heq => h (List.append_inj' heq rfl).1

/-- The name of an entry is one of the names in its directory. -/
theorem mem_childNames_of_lookup {directory : Location} {name : String} {entry : Entry}
    (h : fs.lookup (directory ++ [name]) = some entry) : name ∈ fs.childNames directory := by
  obtain ⟨number, node, hnumber, -⟩ := (lookup_eq_some_iff (by simp)).1 h
  rw [childNames, List.mem_mergeSort, List.mem_eraseDups, List.mem_filterMap]
  exact ⟨_, mem_places_of_lookup hnumber, nameIn?_eq_some_iff.2 rfl⟩

/-- Names that stand in order are listed as they stand. -/
theorem childNames_of_sorted {directory : Location} {names : List String}
    (h : (fs.places.filterMap fun (place, _) => nameIn? directory place).eraseDups = names)
    (hsorted : names.Pairwise fun name other => decide (name ≤ other) = true) :
    fs.childNames directory = names := by
  rw [childNames, h, List.mergeSort_of_pairwise hsorted]

/-- An entry is listed with its name exactly if it is there. -/
theorem mem_children_iff {directory : Location} {name : String} {entry : Entry} :
    (name, entry) ∈ fs.children directory ↔ fs.lookup (directory ++ [name]) = some entry := by
  simp only [children, List.mem_filterMap, Option.map_eq_some_iff, Prod.mk.injEq]
  constructor
  · rintro ⟨other, -, held, hheld, rfl, rfl⟩
    exact hheld
  · intro h
    exact ⟨name, mem_childNames_of_lookup h, entry, h, rfl, rfl⟩

/-- **The directories in a directory.** -/
theorem mem_subdirectories_iff {directory : Location} {name : String} :
    name ∈ fs.subdirectories directory ↔ fs.lookup (directory ++ [name]) = some .directory := by
  simp only [subdirectories, List.mem_filterMap, Prod.exists]
  constructor
  · rintro ⟨other, entry, hmem, hname⟩
    split at hname
    case isTrue hentry =>
      obtain rfl := Option.some.inj hname
      exact hentry ▸ mem_children_iff.1 hmem
    case isFalse => cases hname
  · intro h
    exact ⟨name, .directory, mem_children_iff.2 h, if_pos rfl⟩

/-- **The regular files in a directory.** -/
theorem mem_fileNames_iff {directory : Location} {name : String} :
    name ∈ fs.fileNames directory ↔
      ∃ bytes, fs.lookup (directory ++ [name]) = some (.file bytes) := by
  simp only [fileNames, List.mem_filterMap, Prod.exists]
  constructor
  · rintro ⟨other, entry, hmem, hname⟩
    split at hname
    case h_1 bytes =>
      obtain rfl := Option.some.inj hname
      exact ⟨bytes, mem_children_iff.1 hmem⟩
    case h_2 => cases hname
  · rintro ⟨bytes, h⟩
    exact ⟨name, .file bytes, mem_children_iff.2 h, rfl⟩

/-! ## The directories below a place -/

/-- **Names that lead down** from a place, through directories only. -/
inductive LeadsDown (fs : FileSystem) : Location → List String → Prop
  /-- No name leads to where one is. -/
  | here (place : Location) : LeadsDown fs place []
  /-- The name of a directory leads into it. -/
  | down {place : Location} {name : String} {rest : List String} :
    fs.lookup (place ++ [name]) = some .directory → LeadsDown fs (place ++ [name]) rest →
    LeadsDown fs place (name :: rest)

/-- No entry lies deeper than the depth. -/
theorem length_le_depth {place : Location} {entry : Entry} (h : fs.lookup place = some entry) :
    place.length ≤ fs.depth := by
  rcases Decidable.em (place = []) with rfl | hne
  · exact Nat.zero_le _
  obtain ⟨number, node, hnumber, -⟩ := (lookup_eq_some_iff hne).1 h
  have hle (lengths : List Nat) (start length : Nat) (h : length ∈ lengths ∨ length ≤ start) :
      length ≤ lengths.foldl max start := by
    induction lengths generalizing start with
    | nil => simpa using h
    | cons head rest ih =>
      refine ih _ ?_
      rcases h with hmem | hstart
      · rcases List.mem_cons.1 hmem with rfl | hrest
        · exact .inr (Nat.le_max_right _ _)
        · exact .inl hrest
      · exact .inr (Nat.le_trans hstart (Nat.le_max_left _ _))
  exact hle _ 0 _ (.inl (List.mem_map.2 ⟨_, mem_places_of_lookup hnumber, rfl⟩))

/-- Names that lead down lead to a directory. -/
theorem LeadsDown.lookup_append {place : Location} {names : List String} (h : fs.LeadsDown place names)
    (hplace : fs.lookup place = some .directory) : fs.lookup (place ++ names) = some .directory := by
  induction h with
  | here => simpa using hplace
  | down hname _ ih => simpa using ih hname

/-- **Names by which a search comes to a directory** below the one that a path leads to: each directory before
it on the way is opened. -/
inductive ComesTo (fs : FileSystem) : Location → Path → List String → Prop
  /-- No name leads to where one is. -/
  | here (place : Location) (path : Path) : ComesTo fs place path []
  /-- The name of a directory in one that is opened leads into it. -/
  | down {place : Location} {path : Path} {name : String} {rest : List String} :
    path.text.utf8ByteSize ≤ maxPathBytes → fs.lookup (place ++ [name]) = some .directory →
    ComesTo fs (place ++ [name]) (path.child name) rest → ComesTo fs place path (name :: rest)

/-- **Names of a directory that a search looks at**: it is opened itself. -/
def LooksAt (fs : FileSystem) (place : Location) (path : Path) (names : List String) : Prop :=
  fs.ComesTo place path names ∧ (path.descend names).text.utf8ByteSize ≤ maxPathBytes

/-- Names by which a search comes to a directory lead down to it. -/
theorem ComesTo.leadsDown {place : Location} {path : Path} {names : List String}
    (h : fs.ComesTo place path names) : fs.LeadsDown place names := by
  induction h with
  | here => exact .here _
  | down _ hname _ ih => exact .down hname ih

/-- **A search looks at all directories** that names lead down to, if the path to none of them is too long. -/
theorem looksAt_iff_leadsDown {place : Location} {path : Path}
    (hsize : ∀ names, fs.LeadsDown place names → (path.descend names).text.utf8ByteSize ≤ maxPathBytes)
    {names : List String} : fs.LooksAt place path names ↔ fs.LeadsDown place names := by
  refine ⟨fun h => h.1.leadsDown, fun h => ⟨?_, hsize names h⟩⟩
  induction h generalizing path with
  | here => exact .here _ _
  | down hname _ ih => exact .down (hsize [] (.here _)) hname (ih fun names h => hsize _ (.down hname h))

/-- A directory is opened where it is, by a path that is not too long. -/
theorem openedAt_eq_ok_iff {place opened : Location} {path : Path} :
    openedAt place path = .ok opened ↔ path.text.utf8ByteSize ≤ maxPathBytes ∧ place = opened := by
  rw [openedAt]
  split
  case isTrue hlong => simp [Nat.not_le_of_lt hlong]
  case isFalse hshort => simp [Nat.le_of_not_lt hshort]

/-- A directory that is not opened is asked for by a path that is too long. -/
theorem not_size_of_openedAt {place : Location} {path : Path} {fault : OsFault}
    (h : openedAt place path = .error fault) : ¬path.text.utf8ByteSize ≤ maxPathBytes := by
  intro hsize
  rw [openedAt_eq_ok_iff.2 ⟨hsize, rfl⟩] at h
  cases h

/-- The directories right below a place, and those below these. -/
theorem mem_directoriesWithin_succ_iff {levels : Nat} {place : Location} {path : Path}
    {found : Location × Path} :
    found ∈ fs.directoriesWithin (levels + 1) place path ↔
      path.text.utf8ByteSize ≤ maxPathBytes ∧ ∃ name, fs.lookup (place ++ [name]) = some .directory ∧
        (found = (place ++ [name], path.child name) ∨
          found ∈ fs.directoriesWithin levels (place ++ [name]) (path.child name)) := by
  rw [directoriesWithin]
  split
  case h_1 hfault => simp [not_size_of_openedAt hfault]
  case h_2 hopened =>
    obtain ⟨hsize, rfl⟩ := openedAt_eq_ok_iff.1 hopened
    simp [hsize, List.mem_flatMap, mem_subdirectories_iff]

/-- The directories at most so many levels below a place. -/
theorem mem_directoriesWithin_iff {levels : Nat} {place : Location} {path : Path}
    {found : Location × Path} :
    found ∈ fs.directoriesWithin levels place path ↔
      ∃ name rest, rest.length < levels ∧ fs.ComesTo place path (name :: rest) ∧
        found = (place ++ name :: rest, path.descend (name :: rest)) := by
  induction levels generalizing place path with
  | zero => simp [directoriesWithin]
  | succ levels ih =>
    rw [mem_directoriesWithin_succ_iff]
    constructor
    · rintro ⟨hsize, name, hname, rfl | hfound⟩
      · exact ⟨name, [], Nat.succ_pos _, .down hsize hname (.here _ _), rfl⟩
      · obtain ⟨next, rest, hlength, hcomes, rfl⟩ := ih.1 hfound
        refine ⟨name, next :: rest, Nat.succ_lt_succ hlength, .down hsize hname hcomes, ?_⟩
        rw [List.append_assoc, List.singleton_append]
        rfl
    · rintro ⟨name, rest, hlength, hcomes, rfl⟩
      cases hcomes with
      | down hsize hname hrest =>
        refine ⟨hsize, name, hname, ?_⟩
        cases rest with
        | nil => exact .inl rfl
        | cons next rest =>
          refine .inr (ih.2 ⟨next, rest, Nat.lt_of_succ_lt_succ hlength, hrest, ?_⟩)
          rw [List.append_assoc, List.singleton_append]
          rfl

/-- **The directories below a place** are those that a search comes to. -/
theorem mem_directoriesBelow_iff {place : Location} {path : Path} {found : Location × Path} :
    found ∈ fs.directoriesBelow place path ↔
      ∃ name rest, fs.ComesTo place path (name :: rest) ∧
        found = (place ++ name :: rest, path.descend (name :: rest)) := by
  rw [directoriesBelow, mem_directoriesWithin_iff]
  constructor
  · rintro ⟨name, rest, -, hcomes, rfl⟩
    exact ⟨name, rest, hcomes, rfl⟩
  · rintro ⟨name, rest, hcomes, rfl⟩
    refine ⟨name, rest, ?_, hcomes, rfl⟩
    cases hcomes with
    | down _ hname hrest =>
      have := length_le_depth (hrest.leadsDown.lookup_append hname)
      simp only [List.length_append, List.length_cons, List.length_nil] at this
      omega

/-! ## The root that is located -/

/-- The root that a search finds a directory to be, which it has to open. -/
def openedRoot? (fs : FileSystem) (markers : ProjectMarkers) (place : Location) (path : Path) :
    Option ProjectRoot :=
  match openedAt place path with
  | .error _ => none
  | .ok place => fs.rootAt? markers place path

/-- **The root that is located** from a path, or that there is none. -/
def located (fs : FileSystem) (markers : ProjectMarkers) (start : Path) : Except Failure ProjectRoot :=
  match fs.directoriesFrom start with
  | .error _ => .error (.rootNotFound start)
  | .ok directories =>
    match directories.findSome? fun (place, path) => fs.openedRoot? markers place path with
    | none => .error (.rootNotFound start)
    | some root => .ok root

/-- A search opens what is listed by a path that is not too long. -/
theorem openedRoot?_of_size {markers : ProjectMarkers} {place : Location} {path : Path}
    (hsize : path.text.utf8ByteSize ≤ maxPathBytes) :
    fs.openedRoot? markers place path = fs.rootAt? markers place path := by
  rw [openedRoot?, openedAt_eq_ok_iff.2 ⟨hsize, rfl⟩]

/-- What a search finds a directory to be it is, and the directory is opened. -/
theorem openedRoot?_eq_some_iff {markers : ProjectMarkers} {place : Location} {path : Path}
    {root : ProjectRoot} :
    fs.openedRoot? markers place path = some root ↔
      path.text.utf8ByteSize ≤ maxPathBytes ∧ fs.rootAt? markers place path = some root := by
  by_cases hsize : path.text.utf8ByteSize ≤ maxPathBytes
  · simp [openedRoot?_of_size hsize, hsize]
  · rw [openedRoot?, openedAt, if_pos (Nat.lt_of_not_le hsize)]
    simp [hsize]

/-- Looking at a directory in a search only asks the file system. -/
theorem inspectOpened_computes (markers : ProjectMarkers) (place : Location) (path : Path) :
    Action.Computes (fun fs => .ok (fs.openedRoot? markers place path))
      (inspectOpened markers path ((openedAt place path).map some)) := by
  unfold openedRoot?
  cases openedAt place path with
  | error fault => exact (Action.Computes.report _ _ _).bind fun _ => Action.Computes.pure none
  | ok place => exact Action.Computes.files.bind fun fs => Action.Computes.pure (fs.rootAt? markers place path)

/-- Reporting what a search could not open is no part of its answer. -/
theorem reportUnopened_computes (path : Path) (opened : Except OsFault Location) :
    Action.Computes (fun _ => .ok ()) (reportUnopened path opened) := by
  cases opened with
  | error fault => exact Action.Computes.report _ _ _
  | ok place => exact Action.Computes.pure ()

/-- Looking at directories in turn only asks the file system. -/
theorem firstRoot_computes (markers : ProjectMarkers) (directories : List (Location × Path)) :
    Action.Computes
      (fun fs => .ok (directories.findSome? fun (place, path) => fs.openedRoot? markers place path))
      (firstRoot markers directories) := by
  induction directories with
  | nil => exact Action.Computes.pure none
  | cons directory rest ih =>
    obtain ⟨place, path⟩ := directory
    have hnext (root? : Option ProjectRoot) : Action.Computes
        (fun fs => .ok (root?.or (rest.findSome? fun (place, path) => fs.openedRoot? markers place path)))
        (if root?.isSome then return root? else do
          reportUnopened path (openedAt place path)
          firstRoot markers rest) := by
      cases root? with
      | some root => exact Action.Computes.pure (some root)
      | none => exact (reportUnopened_computes path (openedAt place path)).bind fun _ => ih
    have hfirst (fs : FileSystem) :
        (((place, path) :: rest).findSome? fun (place, path) => fs.openedRoot? markers place path) =
          (fs.openedRoot? markers place path).or
            (rest.findSome? fun (place, path) => fs.openedRoot? markers place path) := by
      simp only [List.findSome?_cons]
      cases fs.openedRoot? markers place path <;> rfl
    simp only [hfirst]
    exact (inspectOpened_computes markers place path).bind hnext

/-- Locating a root only asks the file system. -/
theorem locateRoot_computes (markers : ProjectMarkers) (start : Path) :
    Action.Computes (·.located markers start) (locateRoot markers start) := by
  -- what is reported after the search is no part of the answer
  have hfound (root? : Option ProjectRoot) : Action.Computes
      (fun _ => match root? with
        | none => .error (.rootNotFound start)
        | some root => .ok root)
      (match root? with
        | none => throw (.rootNotFound start)
        | some root => do
          Action.report .info "project root located"
            [("path", root.path.text), ("solution", if root.isSolution then "true" else "false"),
              ("project", root.projectName)]
          return root) := by
    cases root? with
    | none => exact Action.Computes.throw _
    | some root => exact (Action.Computes.report _ _ _).bind fun _ => Action.Computes.pure root
  have hsearch (listed : Except OsFault (List (Location × Path))) : Action.Computes
      (fun fs => match listed with
        | .error _ => .error (.rootNotFound start)
        | .ok directories =>
          match directories.findSome? fun (place, path) => fs.openedRoot? markers place path with
          | none => .error (.rootNotFound start)
          | some root => .ok root)
      (match listed with
        | .error fault => do
          reportSkipped start fault
          throw (.rootNotFound start)
        | .ok directories => do
          match ← firstRoot markers directories with
          | none => throw (.rootNotFound start)
          | some root =>
            Action.report .info "project root located"
              [("path", root.path.text), ("solution", if root.isSolution then "true" else "false"),
                ("project", root.projectName)]
            return root) := by
    cases listed with
    | error fault => exact (Action.Computes.report _ _ _).bind fun _ => Action.Computes.throw _
    | ok directories => exact (firstRoot_computes markers directories).bind hfound
  have hall := (Action.Computes.report .debug "searching for project root" [("start", start.text)]).bind
    fun _ => Action.Computes.files.bind fun fs => hsearch (fs.directoriesFrom start)
  exact hall

/-- The directories that a search comes to are among those that names lead down to. -/
theorem directoriesFrom_ok {start : Path} {directories : List (Location × Path)}
    (h : fs.directoriesFrom start = .ok directories) {found : Location × Path}
    (hfound : found ∈ directories) :
    ∃ place names, fs.resolve start .target = .ok (.entry place .directory) ∧
      fs.LeadsDown place names ∧ found = (place ++ names, start.descend names) := by
  unfold directoriesFrom at h
  split at h
  -- the start is a directory, and comes first
  case h_4 place hresolve =>
    obtain rfl := Except.ok.inj h
    have htarget := resolve_target hresolve (by simp)
    rcases List.mem_cons.1 hfound with rfl | hbelow
    · exact ⟨place, [], htarget, .here place, by rw [List.append_nil]; rfl⟩
    · obtain ⟨name, rest, hcomes, rfl⟩ := mem_directoriesBelow_iff.1 hbelow
      exact ⟨place, name :: rest, htarget, hcomes.leadsDown, rfl⟩
  -- the start is a link: it is passed over, but not what is below it
  case h_5 =>
    split at h
    case h_2 place hfind =>
      obtain rfl := Except.ok.inj h
      have htarget := bind_entryAt_eq_ok_iff.1 hfind
      obtain ⟨name, rest, hcomes, rfl⟩ := mem_directoriesBelow_iff.1 hfound
      exact ⟨place, name :: rest, htarget, hcomes.leadsDown, rfl⟩
    case h_1 => cases h
    case h_3 =>
      obtain rfl := Except.ok.inj h
      cases hfound
  case h_3 | h_6 =>
    obtain rfl := Except.ok.inj h
    cases hfound
  all_goals cases h

/-- A root has the path of its directory. -/
theorem path_of_rootAt? {markers : ProjectMarkers} {place : Location} {path : Path} {root : ProjectRoot}
    (h : fs.rootAt? markers place path = some root) : root.path = path := by
  unfold rootAt? ProjectMarkers.rootOf? at h
  split at h
  case isTrue => exact (congrArg ProjectRoot.path (Option.some.inj h)).symm
  case isFalse =>
    obtain ⟨name, -, hroot⟩ := Option.map_eq_some_iff.1 h
    exact (congrArg ProjectRoot.path hroot).symm

/-- **A root that is located** is a directory that names lead down to from the start. -/
theorem located_ok {markers : ProjectMarkers} {start : Path} {root : ProjectRoot}
    (h : fs.located markers start = .ok root) :
    ∃ place names, fs.resolve start .target = .ok (.entry place .directory) ∧
      fs.LeadsDown place names ∧ root.path = start.descend names ∧
      fs.rootAt? markers (place ++ names) root.path = some root := by
  unfold located at h
  split at h
  case h_1 => cases h
  case h_2 directories hdirectories =>
    split at h
    case h_1 => cases h
    case h_2 root' hroot =>
      obtain rfl := Except.ok.inj h
      obtain ⟨found, hmem, hfound⟩ := List.exists_of_findSome?_eq_some hroot
      obtain ⟨place, names, hresolve, hleads, rfl⟩ := directoriesFrom_ok hdirectories hmem
      have hfound := (openedRoot?_eq_some_iff.1 hfound).2
      have hpath := path_of_rootAt? hfound
      exact ⟨place, names, hresolve, hleads, hpath, hpath ▸ hfound⟩

end FileSystem

end ComponentScaffold
