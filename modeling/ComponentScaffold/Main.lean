import ComponentScaffold.CommandLine.Run
import ComponentScaffold.Shell.Host

/-! # The program

The program takes the files that its command can come to into a session, runs the command there, and carries
out what has changed. What is taken are, for the current directory and for each path that the command is given,
the configurations on the way there and all that is below, and where a link is come to also what it leads to.
Programs are run by the host of the project, so the files of its system are there too. What is carried out are
directories and the bytes of files: no link is made, and no mode is changed.

* **`Program.take`** — what is taken along a path.
* **`Program.writeBack`** — what is carried out. -/

namespace ComponentScaffold

namespace Program

/-! ## What is taken -/

/-- What has been taken. -/
structure Taken where
  /-- The entries. -/
  entries : List (Location × Entry)
  /-- The directories of which all is taken. -/
  whole : List Location

/-- The entry at a place, taken if there is one. A link is taken with the path that it leads to in the end. One that
leads nowhere is passed over, as it cannot be told what it says. -/
def takeEntry (place : Location) : StateT Taken IO (Option Entry) := do
  let taken ← get
  if let some entry := taken.entries.lookup place then return some entry
  let path := System.mkFilePath [(Path.ofLocation place).text]
  let found? : Option Entry ← try
      match (← path.symlinkMetadata).type with
      | .dir => pure (some Entry.directory)
      | .file => pure (some (Entry.file (← IO.FS.readBinFile path)))
      | .symlink => pure (some (Entry.link ⟨(← IO.FS.realPath path).toString⟩))
      | .other => pure none
    catch _ => pure none
  if let some entry := found? then set { taken with entries := (place, entry) :: taken.entries }
  return found?

/-- **Take what names lead to** from a directory, and all that is below it. -/
partial def take (place : Location) : (names : List String) → StateT Taken IO Unit
  | [] => do
    let taken ← get
    if taken.whole.contains place then return
    set { taken with whole := place :: taken.whole }
    for found in ← (System.mkFilePath [(Path.ofLocation place).text]).readDir do
      take place [found.fileName]
  | "." :: rest => take place rest
  | ".." :: rest => take place.dropLast rest
  | name :: rest => do
    if name ≠ configFileName then take place [configFileName]
    match ← takeEntry (place ++ [name]) with
    | some .directory => take (place ++ [name]) rest
    | some (.link target) => take [] (target.names ++ rest)
    | _ => return

/-- The paths that a command is given. -/
def pathsOf : Subcommand → List Path
  | .new options => options.directory.toList ++ options.root.toList
  | .namespace options => options.folder :: options.root.toList
  | .init options => options.folder.toList

/-- The session that a command starts from. -/
def readSession (subcommand : Subcommand) : IO Session := do
  let current : Path := ⟨(← IO.currentDir).toString⟩
  let takeAll := (current :: pathsOf subcommand).forM fun path => take [] (current.join path).names
  let (_, taken) ← takeAll.run ⟨[], []⟩
  return ⟨((Shell.systemFiles 0).withEntries taken.entries).seenFrom current.names, [], []⟩

/-! ## What is carried out -/

/-- Whether an entry is a directory. -/
def isDirectory (held : Option Entry) : Bool := held = some .directory

/-- Remove what is no longer there, and directories before what takes their places. -/
def removeGone (before after : FileSystem) : IO Unit := do
  let places := (before.places.map Prod.fst).mergeSort fun a b => b.length ≤ a.length
  for place in places do
    let path := (Path.ofLocation place).text
    let old := before.lookup place
    let new := after.lookup place
    if new.isNone || isDirectory old ≠ isDirectory new then
      if isDirectory old then IO.FS.removeDir path else IO.FS.removeFile path

/-- Write what is new. -/
def writeNew (before after : FileSystem) : IO Unit := do
  let places := (after.places.map Prod.fst).mergeSort fun a b => a.length ≤ b.length
  for place in places do
    let path := (Path.ofLocation place).text
    match after.lookup place, before.lookup place with
    | some .directory, old => if !isDirectory old then IO.FS.createDirAll path
    | some (.file bytes), some (.file old) =>
      if bytes.data ≠ old.data then IO.FS.writeBinFile path bytes
    | some (.file bytes), _ => IO.FS.writeBinFile path bytes
    | _, _ => pure ()

/-- **Carry out what differs** between two states of the files. -/
def writeBack (before after : FileSystem) : IO Unit := do
  removeGone before after
  writeNew before after

/-- Run a line of arguments and return the exit status. -/
def run (arguments : List String) : IO UInt32 := do
  match Subcommand.ofArguments arguments with
  | .error stop =>
    (if stop.exitCode = 0 then IO.print else IO.eprint) (ofLines Subcommand.usage)
    return stop.exitCode.toUInt32
  | .ok subcommand =>
    let session ← readSession subcommand
    let (outcome, after) := (subcommand.run Shell.host).perform session
    writeBack session.files after.files
    match outcome with
    | .ok output =>
      IO.print output
      return 0
    | .error failure =>
      IO.eprint failure.display
      return CommandFailure.exitCode.toUInt32

end Program

end ComponentScaffold

/-- Run the program. -/
def main (arguments : List String) : IO UInt32 := ComponentScaffold.Program.run arguments
