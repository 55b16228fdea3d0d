import ComponentScaffold.Shell.State

/-! # Installed programs

An installed program is a file whose bytes say that it is one, and which one. It is looked for in the folders
that a variable lists.

* **`Shell.programBytes`**, **`Shell.installedProgram?`** — the bytes of a program, and the program that
  bytes are.
* **`Shell.programPath`** — where the program of a name is. -/

namespace ComponentScaffold

namespace Shell

/-- What the bytes of an installed program start with. -/
def programMark : Octets := ['\x7f', 'E', 'L', 'F']

/-- The bytes of an installed program. -/
def programBytes (name : Octets) : ByteArray := bytesOf (programMark ++ name)

/-- **The program that bytes are**, if they are one. -/
def installedProgram? (bytes : Octets) : Option Octets :=
  if programMark.isPrefixOf bytes then some (bytes.drop programMark.length) else none

/-- The folders of a list of them; the empty one is the current one. -/
def foldersOf (list : Octets) : List Octets := list.splitOn ':'

/-- The folders in which commands are looked for. -/
def commandFolders (context : Context) : List Octets :=
  match value? context (octets "PATH") with
  | none => []
  | some value => foldersOf value

/-- A name in a folder; the empty folder is the current one. -/
def inFolder (folder name : Octets) : Octets := if folder.isEmpty then name else folder ++ '/' :: name

/-- The first file of a name in some folders. Where there is only something else, it may not be run. -/
def firstFile (files : FileSystem) (name : Octets) (folders : List Octets) : Except OsFault Octets :=
  let paths := folders.map fun folder => inFolder folder name
  match paths.find? fun path => files.isFile (pathOf path) with
  | some path => .ok path
  | none =>
    .error (if FileSystem.maxNameBytes < name.length then .nameTooLong
      else if paths.any fun path => files.exists? (pathOf path) then .permissionDenied
      else .noEntry)

/-- **Where the program of a name is.** A name with a slash is a path. -/
def programPath (files : FileSystem) (context : Context) (name : Octets) : Except OsFault Octets :=
  if name.contains '/' then .ok name
  else
    let found? := if context.isExtended then (context.found.lookup name).map Prod.fst else none
    match found?.filter fun path => files.isFile (pathOf path) with
    | some path => .ok path
    | none => firstFile files name (commandFolders context)

/-- Why a command could not be started, as the shell words it. -/
def notStarted (context : Context) (name : Octets) (fault : OsFault) : Octets :=
  let reason := match fault with
    | .noEntry =>
      if !context.isExtended then "not found"
      else if name.contains '/' then fault.description
      else "command not found"
    | .notDirectory => if context.isExtended then fault.description else "not found"
    | fault => fault.description
  name ++ octets s!": {reason}"

/-- Why the program of a path cannot be started: what is a folder is told apart in the extended dialect. -/
def startFault (files : FileSystem) (context : Context) (path : Octets) (fault : OsFault) : OsFault :=
  if context.isExtended && fault = .permissionDenied && files.isDirectory (pathOf path) then .isDirectory else fault

/-- The status of a command that could not be started. -/
def notStartedStatus (context : Context) : OsFault → Nat
  | .noEntry => 127
  | .notDirectory => if context.isExtended then 126 else 127
  | _ => 126

end Shell

end ComponentScaffold
