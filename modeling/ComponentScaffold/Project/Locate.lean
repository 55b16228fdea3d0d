import ComponentScaffold.Project.Root
import ComponentScaffold.Session

/-! # Locating the project root

The root of a project is looked for from a start directory downwards: a directory before those in it,
those in one directory in the order of their names, and never through a link. A directory is listed by the
path that leads to it from the start. Where that is too long the directory is reported, but neither looked at
nor gone into.

* **`FileSystem.directoriesFrom`** — the directories that a search comes to, in order.
* **`inspectDirectory`** — what a single directory is.
* **`firstRoot`** — the first root among directories.
* **`locateRoot`** — the first directory of a search that is a root. -/

namespace ComponentScaffold

namespace FileSystem

/-- The directory at a place, opened by a path that leads there. -/
def openedAt (place : Location) (path : Path) : Except OsFault Location :=
  if maxPathBytes < path.text.utf8ByteSize then .error .nameTooLong else .ok place

/-- The directories below a place, at most the given number of levels down, each with the path that
leads to it along `path`. A directory comes before those in it. -/
def directoriesWithin (fs : FileSystem) : (levels : Nat) → Location → Path → List (Location × Path)
  | 0, _, _ => []
  | levels + 1, place, path =>
    match openedAt place path with
    | .error _ => []
    | .ok place =>
      (fs.subdirectories place).flatMap fun name =>
        (place ++ [name], path.child name) ::
          fs.directoriesWithin levels (place ++ [name]) (path.child name)

/-- **The directories below a place** in the order in which a search comes to them. -/
def directoriesBelow (fs : FileSystem) (place : Location) (path : Path) :
    List (Location × Path) :=
  fs.directoriesWithin fs.depth place path

/-- The directories that a search from a path comes to. A path that is a link is not looked at
itself, but if it leads to a directory, those below are. A path that leads nowhere is a fault. A removed
directory has nothing to look through. -/
def directoriesFrom (fs : FileSystem) (start : Path) : Except OsFault (List (Location × Path)) :=
  match fs.resolve start .name with
  | .error fault => .error fault
  | .ok (.vacant _ _ _) => .error .noEntry
  | .ok (.removed _) => .ok []
  -- the start itself comes first
  | .ok (.entry place .directory) => .ok ((place, start) :: fs.directoriesBelow place start)
  | .ok (.entry _ (.link _)) =>
    match fs.find start with
    | .error fault => .error fault
    | .ok (place, .directory) => .ok (fs.directoriesBelow place start)
    | .ok _ => .ok []
  | .ok (.entry _ _) => .ok []

end FileSystem

/-- The root that a directory at a place is, if it is one. -/
def FileSystem.rootAt? (fs : FileSystem) (markers : ProjectMarkers) (place : Location) (path : Path) :
    Option ProjectRoot :=
  markers.rootOf? path (fs.fileNames place)

/-- What a directory is that was opened by a path, or not. A removed one has no place, and is nothing. -/
def inspectOpened (markers : ProjectMarkers) (path : Path) :
    Except OsFault (Option Location) → Action (Option ProjectRoot)
  | .error fault => do
    Action.report .warn "cannot list directory" [("path", path.text), ("error", fault.message)]
    return none
  | .ok place? => do
    let fs ← Action.files
    return place?.bind fun place => fs.rootAt? markers place path

/-- **The root that a directory is**, if it is one. -/
def inspectDirectory (markers : ProjectMarkers) (path : Path) : Action (Option ProjectRoot) := do
  let fs ← Action.files
  inspectOpened markers path (fs.directoryAt path)

/-- Report that a search does not go into what a path leads to. -/
def reportSkipped (path : Path) (fault : OsFault) : Action Unit :=
  Action.report .warn "skipping unreadable directory"
    [("path", path.text), ("error", s!"IO error for operation on {path}: {fault.message}")]

/-- Report that a search does not go into a directory that it could not open. -/
def reportUnopened (path : Path) : Except OsFault Location → Action Unit
  | .error fault => reportSkipped path fault
  | .ok _ => return ()

/-- **The first root among directories**, which are looked at in turn. -/
def firstRoot (markers : ProjectMarkers) : List (Location × Path) → Action (Option ProjectRoot)
  | [] => return none
  | (place, path) :: rest => do
    let opened := FileSystem.openedAt place path
    let root? ← inspectOpened markers path (opened.map some)
    if root?.isSome then return root?
    reportUnopened path opened
    firstRoot markers rest

/-- **The first root** in a search from a path. -/
def locateRoot (markers : ProjectMarkers) (start : Path) : Action ProjectRoot := do
  Action.report .debug "searching for project root" [("start", start.text)]
  let fs ← Action.files
  match fs.directoriesFrom start with
  | .error fault =>
    reportSkipped start fault
    throw (.rootNotFound start)
  | .ok directories =>
    match ← firstRoot markers directories with
    | none => throw (.rootNotFound start)
    | some root =>
      Action.report .info "project root located"
        [("path", root.path.text), ("solution", if root.isSolution then "true" else "false"),
          ("project", root.projectName)]
      return root

end ComponentScaffold
