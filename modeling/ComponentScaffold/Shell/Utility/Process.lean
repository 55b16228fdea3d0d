import ComponentScaffold.Shell.Utility.Basic

/-! # Utilities for what is a process's own

* **`Utility.changeFolder`**, **`Utility.folder`** — move to another directory, and tell the directory.
* **`Utility.umask`** — the permissions that new files do not get.
* **`Utility.ulimit`**, **`Utility.times`** — limits, of which there are none, and times, which are not
  measured. -/

namespace ComponentScaffold

namespace Shell

namespace Utility

/-! ## The directory -/

/-- The name of the variable with the path of the directory. -/
def folderName : Octets := octets "PWD"

/-- The name of the variable with the path of the directory before. -/
def formerFolderName : Octets := octets "OLDPWD"

/-- The path from the root to the directory of a process, or nothing if the directory was removed. -/
def currentFolder (files : FileSystem) : Octets :=
  match files.currentPath with
  | .ok path => octets path.text
  | .error _ => []

/-- The names of a path after those before, last name first; `..` takes the last name away. -/
def stepNames : (before : List Octets) → List Octets → List Octets
  | before, [] => before
  | before, name :: rest =>
    if name.isEmpty || name = ['.'] then stepNames before rest
    else if name = ['.', '.'] then stepNames before.tail rest
    else stepNames (name :: before) rest

/-- **A path as it is written from the root**, without the steps that lead nowhere. -/
def writtenPath (folder path : Octets) : Octets :=
  let whole := if path.head? = some '/' then path else folder ++ '/' :: path
  '/' :: joinWith ['/'] (stepNames [] (whole.splitOn '/')).reverse

/-- Take note of the directory that was moved to. -/
def noteFolder (folder : Octets) : Exec Unit := do
  let before := (← context).folder
  assign formerFolderName before true
  changeContext fun c => { c with folder := folder }
  assign folderName folder true

/-- Move to a directory, along the path as it is written unless `physical`, and say whether it is
there. -/
def moveTo (path : Octets) (physical : Bool) : Exec Bool := do
  let folder := (← context).folder
  let isWritten := !physical && (path.head? = some '/' || !folder.isEmpty)
  let target := if isWritten then writtenPath folder path else path
  match (← files).changeDirectory (pathOf target) with
  | .error _ => return false
  | .ok moved =>
    putFiles moved
    noteFolder (if isWritten then target else currentFolder moved)
    return true

/-- The last of some options that exclude each other. -/
def isLast (options : Options) (option : Char) : Bool := (options.getLast?.map Prod.fst) == some option

/-- Whether a path starts from the root, from the directory itself or from the one above it, and so is not
looked for. -/
def isAnchored (path : Octets) : Bool :=
  path.head? = some '/' || [['.'], ['.', '.']].contains (path.takeWhile (· ≠ '/'))

/-- The path of a directory that is looked for in those of a list, and whether it was found in one that is
named there. -/
def searchFolder (files : FileSystem) (list? : Option Octets) (path : Octets) : Octets × Bool :=
  let folders := match list? with
    | some list => if isAnchored path then [] else list.splitOn ':'
    | none => []
  -- nothing stands for the directory itself, which is looked for all the same
  let path := if path.isEmpty then ['.'] else path
  let found? := folders.findSome? fun folder =>
    let place := if folder.isEmpty then path else folder ++ '/' :: path
    if files.isDirectory (pathOf place) then some (place, !folder.isEmpty) else none
  found?.getD (path, false)

/-- **Move to another directory**: the one of a path, the home directory, or by a minus sign the one
before. -/
def changeFolder : Utility := fun _ arguments => do
  let (options, operands) ← options "LP" "" arguments
  let context ← context
  let isFormer := operands.head? = some ['-']
  let path := match operands with
    | [] => (value? context (octets "HOME")).getD []
    | operand :: _ => if isFormer then (value? context formerFolderName).getD [] else operand
  let (target, isFound) := searchFolder (← files) (value? context (octets "CDPATH")) path
  if ← moveTo target (isLast options 'P') then
    if isFormer || isFound then say ((← Shell.context).folder ++ ['\n']) else return 0
  else fail (octets "can't cd to " ++ if path.isEmpty then ['.'] else path)

/-- **Tell the directory.** -/
def folder : Utility := fun _ arguments => do
  let (options, _) ← options "LP" "" arguments
  let fs ← files
  let written := (← Shell.context).folder
  say ((if isLast options 'P' then currentFolder fs else written) ++ ['\n'])

/-! ## Permissions, limits and times -/

/-- Who has permissions, with the place of theirs in a number. -/
def holders : List (Char × Nat) := [('u', 6), ('g', 3), ('o', 0)]

/-- The permissions, with their values. -/
def permissions : List (Char × Nat) := [('r', 4), ('w', 2), ('x', 1)]

/-- The permissions that a mask leaves, by their letters. -/
def maskText (mask : Nat) : Octets :=
  [','].intercalate (holders.map fun (holder, place) =>
    holder :: '=' :: (permissions.filter fun entry =>
      ((mask >>> place) &&& entry.2) = 0).map Prod.fst)

/-- The digits of a mask. -/
def maskDigits (mask : Nat) : Octets :=
  let digits := Nat.toDigits 8 mask
  List.replicate (4 - digits.length) '0' ++ digits

/-- A set of permissions after a change of one kind. -/
def changePermissions (held : Nat) (kind : Char) (given : Nat) : Nat :=
  if kind = '+' then held ||| given
  else if kind = '-' then held &&& (7 ^^^ given)
  else given

/-- The mask after a part of a change: for whom, how, and which permissions. -/
def maskAfter? (mask : Nat) (part : Octets) : Option Nat :=
  let who := part.takeWhile fun c => "ugoa".toList.contains c
  match part.drop who.length with
  | kind :: letters =>
    if !"+-=".toList.contains kind || !letters.all fun c => (permissions.lookup c).isSome then none
    else
      let given := (letters.filterMap fun c => permissions.lookup c).foldl (· ||| ·) 0
      let isMeant (holder : Char) : Bool := who.isEmpty || who.contains 'a' || who.contains holder
      some (holders.foldl (fun mask (holder, place) =>
        if !isMeant holder then mask else
          let held := 7 ^^^ ((mask >>> place) &&& 7)
          let left := 7 ^^^ changePermissions held kind given
          (mask - (((mask >>> place) &&& 7) <<< place)) + (left <<< place)) mask)
  | [] => none

/-- The mask that a text asks for. -/
def askedMask (mask : Nat) (text : Octets) : Exec Nat := do
  if text.head?.any Char.isDigit then
    if text.all fun c => '0' ≤ c && c ≤ '7' then
      return text.foldl (fun value c => 8 * value + (c.toNat - '0'.toNat)) 0
    fail (octets "Illegal number: " ++ text)
  match (text.splitOn ',').foldlM maskAfter? mask with
  | some mask => return mask
  | none => fail (octets "Illegal mode: " ++ text)

/-- **Change the permissions that new files do not get**, or tell them. -/
def umask : Utility := fun _ arguments => do
  let (options, operands) ← options "S" "" arguments
  let mask := (← files).standing.mask
  match operands with
  | [] => say ((if options.isEmpty then maskDigits mask else maskText mask) ++ ['\n'])
  | text :: _ =>
    let asked ← askedMask mask text
    putFiles ((← files).setMask asked)
    return 0

/-- **Tell a limit.** There is none, and setting one has no effect. -/
def ulimit : Utility := fun _ arguments => do
  let (_, operands) ← options "HSatfdscmlpnvwr" "" arguments
  match operands with
  | [] => say (octets "unlimited\n")
  | [_] => return 0
  | _ => fail (octets "too many arguments")

/-- **Tell how long the shell and its children have worked.** -/
def times : Utility := fun _ _ =>
  let line := "0m0.000000s 0m0.000000s\n"
  say (octets (line ++ line))

end Utility

end Shell

end ComponentScaffold
