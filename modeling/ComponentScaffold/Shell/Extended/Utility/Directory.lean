import ComponentScaffold.Shell.Extended.Utility.Reference
import ComponentScaffold.Shell.Utility.Process

/-! # The directory of a process

* **`Extended.changeFolder`** — moves to another directory.
* **`Extended.folder`** — tells the directory.
* **`Extended.push`**, **`Extended.pop`**, **`Extended.folders`** — directories that are kept to come back to. -/

namespace ComponentScaffold

namespace Shell

namespace Extended

open Utility

/-- The path of a directory to which a process moves, along the path as it is written unless `physical`. -/
def targetFor (context : Context) (physical : Bool) (path : Octets) : Octets :=
  let isWritten := !physical && (path.head? = some '/' || !context.folder.isEmpty)
  if !isWritten then path
  else
    let written := writtenPath context.folder path
    -- two slashes at the start stay there
    let isDouble := (octets "//").isPrefixOf path && path[2]? ≠ some '/'
    if isDouble then '/' :: written else written

/-- Move to a directory, or say why that cannot be done. -/
def moveTo (physical : Bool) (path : Octets) : Exec (Option OsFault) := do
  let context ← context
  let target := targetFor context physical path
  let fs ← files
  let moved := match fs.changeDirectory (pathOf target) with
    | .ok moved => Except.ok (moved, target)
    | .error _ => (fs.changeDirectory (pathOf path)).map fun moved => (moved, currentFolder moved)
  match moved with
  | .error fault => return some fault
  | .ok (moved, target) =>
    putFiles moved
    noteFolder (if physical then currentFolder moved else target)
    return none

/-- Refuse a directory to which a process cannot move. -/
def refuseFolder {α : Type} (path : Octets) (fault : OsFault) : Exec α :=
  fail (path ++ octets s!": {fault.description}")

/-- **Move to another directory**: the one of a path, the home directory, or by a minus sign the one before. -/
def changeFolder : Utility := fun _ arguments => do
  let (options, operands) ← options "LPe" "" arguments
  let context ← context
  let physical := isLast (options.filter fun option => option.1 ≠ 'e') 'P'
  let go (path : Octets) (isShown : Bool) : Exec Nat := do
    match ← moveTo physical path with
    | some fault => refuseFolder path fault
    | none => if isShown then say ((← Shell.context).folder ++ ['\n']) else return 0
  match operands with
  | _ :: _ :: _ => fail (octets "too many arguments")
  | [] =>
    match value? context (octets "HOME") with
    | none => fail (octets "HOME not set")
    | some home => if home.isEmpty then return 0 else go home false
  | [['-']] =>
    match value? context formerFolderName with
    | none => fail (octets "OLDPWD not set")
    | some former => if former.isEmpty then say ['\n'] else go former true
  | [path] =>
    if path.isEmpty then return 0
    let (target, isFound) := searchFolder (← files) (value? context (octets "CDPATH")) path
    let target := if isFound && (octets "//").isPrefixOf target then target.tail else target
    match ← moveTo physical target with
    | none => if isFound then say ((← Shell.context).folder ++ ['\n']) else return 0
    | some fault => refuseFolder path fault

/-- **Tell the directory.** -/
def folder : Utility := fun _ arguments => do
  let (options, _) ← options "LP" "" arguments
  let fs ← files
  let written := (← Shell.context).folder
  say ((if isLast options 'P' then currentFolder fs else written) ++ ['\n'])

/-! ## Directories to come back to -/

/-- A path as it is listed: behind a tilde if it is in the home directory. -/
def shownFolder (context : Context) (isLong : Bool) (path : Octets) : Octets :=
  match value? context (octets "HOME") with
  | none => path
  | some home =>
    if isLong || home.isEmpty || home = ['/'] then path
    else if path = home then ['~']
    else if (home ++ ['/']).isPrefixOf path then '~' :: path.drop home.length
    else path

/-- The directories, the present one first. -/
def allFolders (context : Context) : List Octets := context.folder :: context.folders

/-- List the directories in a line. -/
def listFolders : Exec Nat := do
  let context ← context
  say (joinWith [' '] ((allFolders context).map (shownFolder context false)) ++ ['\n'])

/-- The place in a list of so many that a signed number tells. -/
def placeOf? (count : Nat) (argument : Octets) : Option (Option Nat) :=
  match argument with
  | '+' :: digits => (natOf? digits).map fun n => if n < count then some n else none
  | '-' :: digits => (natOf? digits).map fun n => if n < count then some (count - 1 - n) else none
  | _ => none

/-- Refuse an argument that is no signed number. -/
def refusePlace {α : Type} (argument : Octets) (what : String) : Exec α := do
  warn (argument ++ octets s!": {what}")
  failUsage

/-- Refuse a place that is none. -/
def refuseIndex {α : Type} (argument : Octets) (count : Nat) : Exec α :=
  if count ≤ 1 then fail (octets "directory stack empty")
  else fail (argument.drop 1 ++ octets ": directory stack index out of range")

/-- Move to the first of some directories and keep the others. -/
def takeFolders (folders : List Octets) : Exec Nat := do
  match folders with
  | [] => return 0
  | first :: others =>
    match ← moveTo false first with
    | some fault => refuseFolder first fault
    | none =>
      changeContext fun c => { c with folders := others }
      listFolders

/-- Whether an argument is a signed number or meant to be one. -/
def isSigned (argument : Octets) : Bool :=
  match argument with
  | '+' :: _ => true
  | '-' :: rest => !rest.isEmpty
  | _ => false

/-- **Move to a directory and keep the present one.** -/
def push : Utility := fun _ arguments => do
  let staysHere := arguments.contains ['-', 'n']
  let arguments := (arguments.filter (· ≠ ['-', 'n'])).filter (· ≠ ['-', '-'])
  let context ← context
  let all := allFolders context
  match arguments with
  | [] =>
    match all with
    | first :: second :: others =>
      if staysHere then return 0 else takeFolders (second :: first :: others)
    | _ => fail (octets "no other directory")
  | [argument] =>
    if isSigned argument then
      match placeOf? all.length argument with
      | none => refusePlace argument "invalid number"
      | some none => refuseIndex argument all.length
      | some (some place) => takeFolders (all.drop place ++ all.take place)
    else if staysHere then
      changeContext fun c => { c with folders := argument :: c.folders }
      listFolders
    else
      match ← moveTo false argument with
      | some fault => refuseFolder argument fault
      | none =>
        changeContext fun c => { c with folders := all }
        listFolders
  | _ => fail (octets "too many arguments")

/-- **Come back to a directory that was kept.** -/
def pop : Utility := fun _ arguments => do
  let staysHere := arguments.contains ['-', 'n']
  let arguments := (arguments.filter (· ≠ ['-', 'n'])).filter (· ≠ ['-', '-'])
  let all := allFolders (← context)
  let dropAt (place : Nat) : Exec Nat := do
    changeContext fun c => { c with folders := c.folders.eraseIdx (place - 1) }
    listFolders
  match arguments with
  | [] =>
    if all.length ≤ 1 then fail (octets "directory stack empty")
    if staysHere then dropAt 1 else takeFolders all.tail
  | argument :: _ =>
    match placeOf? all.length argument with
    | none => refusePlace argument (if isSigned argument then "invalid number" else "invalid argument")
    | some none => refuseIndex argument all.length
    | some (some place) =>
      if all.length ≤ 1 then fail (octets "directory stack empty")
      if place = 0 then takeFolders all.tail else dropAt place

/-- **List the directories.** -/
def folders : Utility := fun _ arguments => do
  let context ← context
  let all := allFolders context
  let isPlain (argument : Octets) : Bool :=
    match argument with
    | '-' :: c :: rest => (c :: rest).all "clpv".toList.contains
    | _ => false
  let letters := (arguments.filter isPlain).flatten
  if letters.contains 'c' then
    changeContext fun c => { c with folders := [] }
    return 0
  let shown := shownFolder context (letters.contains 'l')
  match arguments.filter (fun argument => !isPlain argument) with
  | argument :: _ =>
    match placeOf? all.length argument with
    | none => refusePlace argument "invalid number"
    | some none => refuseIndex argument all.length
    | some (some place) => say (shown ((all[place]?).getD []) ++ ['\n'])
  | [] =>
    if letters.contains 'v' then
      say (all.zipIdx.flatMap fun (path, i) =>
        let number := natText i
        List.replicate (2 - number.length) ' ' ++ number ++ octets "  " ++ shown path ++ ['\n'])
    else if letters.contains 'p' then say (all.flatMap fun path => shown path ++ ['\n'])
    else say (joinWith [' '] (all.map shown) ++ ['\n'])

end Extended

end Shell

end ComponentScaffold
