import ComponentScaffold.Shell.Expand
import ComponentScaffold.Shell.Program.Basic
import ComponentScaffold.Shell.Utility.Process

/-! # Paths and what they lead to

* **`Program.lastName`**, **`Program.below`** — the parts of paths.
* **`Program.Facts`** — what is known of a file besides its bytes.
* **`Program.contents`** — all that is below a directory.
* **`Program.canonicalPlace`** — where a path leads, told from the root.
* **`Program.relativeTo`** — a place as it is called from another one. -/

namespace ComponentScaffold

namespace Shell

namespace Program

/-! ## Parts of paths -/

/-- A path without the slashes at its end. -/
def withoutSlashes (path : Octets) : Octets := (path.reverse.dropWhile (· = '/')).reverse

/-- The last name of a path. -/
def lastName (path : Octets) : Octets :=
  let trimmed := withoutSlashes path
  if trimmed.isEmpty && !path.isEmpty then ['/']
  else (trimmed.reverse.takeWhile (· ≠ '/')).reverse

/-- A path without its last name. -/
def folderOf (path : Octets) : Octets :=
  let trimmed := path.reverse.dropWhile (· = '/')
  if trimmed.isEmpty then (if path.isEmpty then ['.'] else ['/'])
  else
    let behind := trimmed.dropWhile (· ≠ '/')
    if behind.isEmpty then ['.']
    else
      let folder := (behind.dropWhile (· = '/')).reverse
      if folder.isEmpty then ['/'] else folder

/-- A name in the directory of a path. -/
def below (folder name : Octets) : Octets :=
  if folder.getLast? = some '/' then folder ++ name else folder ++ '/' :: name

/-- The paths that lead to a path, step by step, the path itself last. -/
def stepsTo (path : Octets) : List Octets :=
  let cuts := (List.range path.length).filter fun i =>
    i > 0 && path[i]? = some '/' && path[i - 1]? ≠ some '/' && (path.drop i).any (· ≠ '/')
  cuts.map path.take ++ [path]

/-- Whether a name stands for a directory itself or for the one above it. -/
def isDots (name : Octets) : Bool := name = ['.'] || name = ['.', '.']

/-! ## Facts -/

/-- **What is known of a file** besides its bytes. -/
structure Facts where
  /-- Its number. -/
  number : Nat
  /-- The file. -/
  node : Node

namespace Facts

/-- What it is. -/
def entry (facts : Facts) : Entry := facts.node.entry

/-- Whether it is a directory. -/
def isFolder (facts : Facts) : Bool := facts.entry = .directory

/-- Whether it is a symbolic link. -/
def isLink (facts : Facts) : Bool := facts.entry matches .link _

/-- How many places it has; a directory is named by itself and by those in it as well. -/
def links (facts : Facts) (files : FileSystem) : Nat :=
  if facts.isFolder then
    match files.placeOf? facts.number with
    | some place => 2 + (files.subdirectories place).length
    | none => 0
  else files.places.countP fun held => held.2 = facts.number

/-- How many bytes a directory takes. -/
def folderSize : Nat := 4096

/-- How many bytes it has. -/
def size (facts : Facts) : Nat :=
  match facts.entry with
  | .file bytes => bytes.size
  | .directory => folderSize
  | .link target => target.text.utf8ByteSize
  | _ => 0

/-- How many kilobytes of space it takes. -/
def space (facts : Facts) : Nat :=
  match facts.entry with
  | .file _ | .directory => (facts.size + 4095) / 4096 * 4
  | _ => 0

/-- The two numbers of a device. -/
def deviceNumbers? (facts : Facts) : Option (Nat × Nat) :=
  match facts.entry with
  | .device .null => some (1, 3)
  | .device .zero => some (1, 5)
  | .device .full => some (1, 7)
  | .device .random => some (1, 9)
  | .device .terminal => some (5, 0)
  | _ => none

end Facts

/-- What is known of the file that a path is followed to. -/
def factsOf (files : FileSystem) (purpose : Purpose) (path : Octets) : Except OsFault Facts :=
  (files.findNode (pathOf path) purpose).map fun found => ⟨found.1, found.2⟩

/-- What is known of the file that a path names. -/
def factsNamed (files : FileSystem) (path : Octets) : Except OsFault Facts :=
  factsOf files .name path

/-- What is known of the file that a path leads to. -/
def factsFound (files : FileSystem) (path : Octets) : Except OsFault Facts :=
  factsOf files .target path

/-- What kind of thing an entry is. -/
def kindName : Entry → String
  | .directory => "directory"
  | .link _ => "symbolic link"
  | .file bytes => if bytes.size = 0 then "regular empty file" else "regular file"
  | .device _ => "character special file"
  | .queue _ => "fifo"

/-- Whether two paths lead to the same file. -/
def areSame (files : FileSystem) (a b : Octets) : Bool :=
  match factsFound files a, factsFound files b with
  | .ok one, .ok other => one.number == other.number
  | _, _ => false

/-- Whether a path names something. -/
def isNamed (files : FileSystem) (path : Octets) : Bool := (factsNamed files path).toOption.isSome

/-- The place where a path names a file or would name a new one. -/
def placeNamed? (files : FileSystem) (path : Octets) : Option Location :=
  match files.resolveName (pathOf path) with
  | .ok (.entry place _) => some place
  | .ok (.vacant folder name _) => some (folder ++ [name])
  | _ => none

/-- Whether a path is that of a link behind which slashes stand, so that it is not the link that it names. -/
def isSlashedLink (files : FileSystem) (path : Octets) : Bool :=
  path.getLast? = some '/' && (factsNamed files (withoutSlashes path)).toOption.any Facts.isLink

/-! ## Directories -/

/-- The parts of a directory below it: paths and entries, each before what is in it, at most so many
levels deep. -/
def contents (files : FileSystem) : (levels : Nat) → Octets → List (Octets × Entry)
  | 0, _ => []
  | levels + 1, folder =>
    (namesAt files folder).flatMap fun name =>
      match files.findName (pathOf (below folder name)) with
      | .ok (_, entry) =>
        (name, entry) :: (if entry = .directory then
          (contents files levels (below folder name)).map fun (path, entry) =>
            (name ++ '/' :: path, entry)
          else [])
      | .error _ => []

/-! ## Paths without detours

The path from the root to where a path leads goes through no link. It can be told of paths of which not all
names are there. -/

/-- Which names of a path have to be there. -/
inductive Presence
  /-- All. -/
  | all
  /-- All but the last one. -/
  | allButLast
  /-- None. -/
  | none
deriving DecidableEq, Repr

/-- How a walk goes on from a directory along names. -/
abbrev Onwards := Location → List String → Except OsFault Location

/-- Walk along names up to the first link that is followed, from which `jump` goes on. -/
def walkNames (fs : FileSystem) (presence : Presence) (follows slashed : Bool) (jump : Onwards)
    (place : Location) : List String → Except OsFault Location
  | [] => .ok place
  | name :: rest =>
    if name = "." then walkNames fs presence follows slashed jump place rest
    else if name = ".." then walkNames fs presence follows slashed jump place.dropLast rest
    else if FileSystem.maxNameBytes < name.utf8ByteSize && presence ≠ .none then .error .nameTooLong
    else
      let here := place ++ [name]
      match fs.lookup here with
      | some (.link target) =>
        if follows then jump (if target.isAbsolute then [] else place) (target.names ++ rest)
        else walkNames fs presence follows slashed jump here rest
      | some .directory => walkNames fs presence follows slashed jump here rest
      | some _ =>
        if (rest.isEmpty && !slashed) || presence = .none then
          walkNames fs presence follows slashed jump here rest
        else .error .notDirectory
      | none =>
        if presence = .none || (presence = .allButLast && rest.isEmpty) then
          walkNames fs presence follows slashed jump here rest
        else .error .noEntry

/-- Walk along names through at most so many links. -/
def walkLinks (fs : FileSystem) (presence : Presence) (follows slashed : Bool) : (links : Nat) → Onwards
  | 0 => walkNames fs presence follows slashed fun place names =>
    -- a link that leads to itself is a name like any other where none has to be there
    if presence = .none then .ok (place ++ names)
    else .error .tooManyLinks
  | links + 1 => walkNames fs presence follows slashed (walkLinks fs presence follows slashed links)

/-- **Where a path leads** from the root, where links are followed if `follows`. -/
def canonicalPlace (fs : FileSystem) (presence : Presence) (follows : Bool) (path : Octets) :
    Except OsFault Location := do
  let p := pathOf path
  if p.text.isEmpty then .error .noEntry
  else
    let start ← if p.isAbsolute then pure [] else
      match fs.current? with
      | some place => pure place
      | none => .error .noEntry
    walkLinks fs presence follows p.isSlashed FileSystem.maxLinks start p.names

/-- The path from the root to where a path leads. -/
def canonicalPath (fs : FileSystem) (presence : Presence) (follows : Bool) (path : Octets) :
    Except OsFault Octets :=
  (canonicalPlace fs presence follows path).map fun place => octets (Path.ofLocation place).text

/-- Where a path leads whose parts above a name are taken away by it as they are written. -/
def logicalPath (fs : FileSystem) (path : Octets) : Octets :=
  Utility.writtenPath (Utility.currentFolder fs) path

/-- **A place as it is called from another one.** -/
def relativeTo (base place : Location) : Octets :=
  let rec go : Location → Location → List String
    | a :: base, b :: place => if a = b then go base place else (a :: base).map (fun _ => "..") ++ b :: place
    | base, place => base.map (fun _ => "..") ++ place
  let names := go base place
  if names.isEmpty then ['.'] else joinWith ['/'] (names.map octets)

/-! ## New files in the place of others -/

/-- Put a new file at a path, instead of whatever it names. Other places of that keep it. -/
def putNewFile (path : Octets) (mode : Nat) (bytes : ByteArray) : Exec Unit := do
  let fs ← files
  if let some place := placeNamed? fs path then
    if let some name := place.getLast? then
      putFiles (fs.putNode place.dropLast name ⟨.file bytes, mode, fs.now⟩)

/-- Give the file at a path the place that another path names, instead of its own. -/
def moveFile (path target : Octets) : Exec Unit := do
  let fs ← files
  if let (some place, some there) := (placeNamed? fs path, placeNamed? fs target) then
    if place ≠ there then putFiles (fs.move place there)

/-! ## What is said -/

/-- Say what was done, if asked. -/
def report (name : Octets) (verbose : Bool) (text : Octets) : Exec Unit := do
  if verbose then
    let _ ← emit name (text ++ ['\n'])

/-- Ask on the standard error, and tell whether the next line of the standard input agrees. -/
def agrees (question : Octets) : Exec Bool := do
  complain question
  let answer ← readSome 0 fun bytes => (bytes.toList.takeWhile (· ≠ 10)).length + 1
  match answer with
  | .ok bytes => return ((octetsOf bytes).head?.any fun c => c = 'y' || c = 'Y')
  | .error _ => return false

end Program

end Shell

end ComponentScaffold
