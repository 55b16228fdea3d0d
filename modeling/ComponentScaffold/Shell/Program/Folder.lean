import ComponentScaffold.Shell.Mode
import ComponentScaffold.Shell.Program.Paths

/-! # Programs for directories and special files

* **`Program.mkdir`**, **`Program.rmdir`** — make and remove directories.
* **`Program.mkfifo`**, **`Program.mknod`** — make queues and devices. -/

namespace ComponentScaffold

namespace Shell

namespace Program

/-! ## Making directories -/

/-- The options of `mkdir`. -/
def mkdirForms : List OptionForm :=
  [⟨'p', true, ["parents"], .none⟩, ⟨'v', true, ["verbose"], .none⟩,
    ⟨'m', true, ["mode"], .required⟩, .short 'Z' .none]

/-- The change of modes that the options of a program ask for, if they do. -/
def modeAsked (chosen : Chosen) : Except Octets (Option ModeChange) :=
  match chosen.value? 'm' with
  | none => .ok none
  | some text =>
    match ModeChange.parse? text with
    | some change => .ok (some change)
    | none => .error (octets "invalid mode " ++ quotedAlways text)

/-- Give what was just made at a path the mode that is asked for, if one is. -/
def giveMode (path : Octets) (usual : Nat) (change? : Option ModeChange) : Exec Unit := do
  let fs ← files
  match change?, factsNamed fs path with
  | some change, .ok facts =>
    putFiles (fs.setMode facts.number (change.apply fs.standing.mask facts.isFolder usual))
  | _, _ => return ()

/-- Make a directory, and say so if asked. -/
def makeFolder (name path : Octets) (verbose : Bool) (change? : Option ModeChange) :
    Exec (Except OsFault Unit) := do
  match (← files).makeDirectory (pathOf path) with
  | .error fault => return .error fault
  | .ok made =>
    putFiles made
    giveMode path directoryMode change?
    report name verbose (name ++ octets ": created directory " ++ quotedAlways path)
    return .ok ()

/-- Complain that a directory cannot be made. -/
def refuseFolder (name path : Octets) (fault : OsFault) : Exec Nat :=
  refuse name (faultText (octets "cannot create directory " ++ quotedAlways path) fault) 1

/-- The bits by which the owner may use a directory. -/
def ownerBits : Nat := 0o300

/-- Make the directories on the way to a path that are missing. The owner may use those before it. -/
def makeFolders (name : Octets) (verbose : Bool) (change? : Option ModeChange) : List Octets → Exec Nat
  | [] => return 0
  | path :: rest => do
    let mask := (← files).standing.mask
    let usual : ModeChange := [⟨.set, .given, allBits, maskedMode mask directoryMode ||| ownerBits, 0⟩]
    match ← makeFolder name path verbose (if rest.isEmpty then change? else some usual) with
    | .ok () => makeFolders name verbose change? rest
    | .error .exists =>
      if (← files).isDirectory (pathOf path) then makeFolders name verbose change? rest
      else
        let isFile := !rest.isEmpty && (← files).exists? (pathOf path)
        refuseFolder name path (if isFile then .notDirectory else .exists)
    | .error fault => refuseFolder name path fault

/-- **Make directories.** -/
def mkdir : Program := withOptions mkdirForms false 1 fun _ name chosen => do
  if chosen.operands.isEmpty then return ← refuseUse name (octets "missing operand") 1
  match modeAsked chosen with
  | .error message => refuse name message 1
  | .ok change? =>
    let verbose := chosen.has 'v'
    forAll chosen.operands fun operand => do
      if chosen.has 'p' then makeFolders name verbose change? (stepsTo operand)
      else match ← makeFolder name operand verbose change? with
        | .ok () => return 0
        | .error fault => refuseFolder name operand fault

/-! ## Removing directories -/

/-- The options of `rmdir`. -/
def rmdirForms : List OptionForm :=
  [⟨'p', true, ["parents"], .none⟩, ⟨'v', true, ["verbose"], .none⟩,
    ⟨'i', false, ["ignore-fail-on-non-empty"], .none⟩]

/-- The disk without an empty directory. -/
def withoutFolder (files : Disk) (path : Octets) : Except OsFault Disk := do
  let (place, entry) ← files.findName (pathOf path)
  if isSlashedLink files path then .error .notDirectory
  let last := ((withoutSlashes path).reverse.takeWhile (· ≠ '/')).reverse
  if entry ≠ .directory then .error .notDirectory
  else if last = ['.'] then .error .invalid
  else if last = ['.', '.'] || !(files.childNames place).isEmpty then .error .notEmpty
  else return files.drop place

/-- Remove an empty directory, and say so if asked. It is called what it is where it was not named. -/
def removeFolder (name : Octets) (chosen : Chosen) (isNamed : Bool) (path : Octets) : Exec Nat := do
  let shown := octets (if isNamed then "failed to remove " else "failed to remove directory ") ++
    quotedAlways path
  report name (chosen.has 'v') (name ++ octets ": removing directory, " ++ quotedAlways path)
  match withoutFolder (← files) path with
  | .ok changed =>
    putFiles changed
    return 0
  | .error .notEmpty =>
    if chosen.has 'i' then return 0
    refuse name (faultText shown .notEmpty) 1
  | .error fault =>
    let isFollowed := fault = .notDirectory && isSlashedLink (← files) path
    refuse name (if isFollowed then shown ++ octets ": Symbolic link not followed"
      else faultText shown fault) 1

/-- Remove directories up to one that cannot be removed. -/
def removeFolders (name : Octets) (chosen : Chosen) : (isNamed : Bool) → List Octets → Exec Nat
  | _, [] => return 0
  | isNamed, path :: rest => do
    let status ← removeFolder name chosen isNamed path
    if status = 0 then removeFolders name chosen false rest else return status

/-- **Remove empty directories.** -/
def rmdir : Program := withOptions rmdirForms false 1 fun _ name chosen => do
  if chosen.operands.isEmpty then return ← refuseUse name (octets "missing operand") 1
  forAll chosen.operands fun operand =>
    if chosen.has 'p' then
      let trimmed := withoutSlashes operand
      removeFolders name chosen true (stepsTo (if trimmed.isEmpty then operand else trimmed)).reverse
    else removeFolder name chosen true operand

/-! ## Special files -/

/-- The options of the programs that make special files. -/
def specialForms : List OptionForm := [⟨'m', true, ["mode"], .required⟩, .short 'Z' .none]

/-- The change of modes that is asked for, if one is; only permissions can be given. -/
def permissionsAsked (mask : Nat) (chosen : Chosen) : Except Octets (Option ModeChange) :=
  match modeAsked chosen with
  | .error _ => .error (octets "invalid mode")
  | .ok none => .ok none
  | .ok (some change) =>
    if directoryMode < change.apply mask false fileMode then
      .error (octets "mode must specify only file permission bits")
    else .ok (some change)

/-- Make a special file, of which `kind` says what it is where it cannot be told by its path alone. -/
def makeSpecial (name : Octets) (kind : String) (change? : Option ModeChange) (path : Octets)
    (entry : Entry) : Exec Nat := do
  match (← files).makeEntry (pathOf path) entry with
  | .ok made =>
    putFiles made
    giveMode path fileMode change?
    return 0
  | .error fault =>
    let shown := if kind.isEmpty then quotedIfNeeded path else octets kind ++ quotedAlways path
    refuse name (faultText shown fault) 1

/-- **Make queues.** -/
def mkfifo : Program := withOptions specialForms false 1 fun _ name chosen => do
  if chosen.operands.isEmpty then return ← refuseUse name (octets "missing operand") 1
  match permissionsAsked (← files).standing.mask chosen with
  | .error message => refuse name message 1
  | .ok change? =>
    forAll chosen.operands fun operand =>
      makeSpecial name "cannot create fifo " change? operand (.queue ByteArray.empty)

/-- The device of two numbers, if it is one of those that are there. -/
def deviceOf? (major minor : Octets) : Option Device :=
  match natOf? major, natOf? minor with
  | some 1, some 3 => some .null
  | some 1, some 5 => some .zero
  | some 1, some 7 => some .full
  | some 1, some 8 | some 1, some 9 => some .random
  | some 5, some 0 => some .terminal
  | _, _ => none

/-- Complain about an operand of `mknod`, and tell more about it. -/
def refuseNode (name message : Octets) (more : String) : Exec Nat := do
  tell name message
  complain (octets more)
  complain (hint name)
  return 1

/-- **Make a queue or a device.** -/
def mknod : Program := withOptions specialForms false 1 fun _ name chosen => do
  match permissionsAsked (← files).standing.mask chosen with
  | .error message => refuse name message 1
  | .ok change? =>
    let lacks (operand : Octets) (more : String) : Exec Nat :=
      refuseNode name (octets "missing operand after " ++ quotedPlainly operand) more
    match chosen.operands with
    | [] => refuseUse name (octets "missing operand") 1
    | [path] => lacks path ""
    | path :: kind :: rest =>
      let devicesOnly := "Special files require major and minor device numbers.\n"
      match kind.head?, rest with
      | some 'p', [] => makeSpecial name "" change? path (.queue ByteArray.empty)
      | some 'p', extra :: _ =>
        refuseNode name (octets "extra operand " ++ quotedPlainly extra)
          (if rest.length = 2 then "Fifos do not have major and minor device numbers.\n" else "")
      | _, [] => lacks kind devicesOnly
      | _, [major] => lacks major ""
      | some c, [major, minor] =>
        if !"bcu".toList.contains c then
          return ← refuseUse name (octets "invalid device type " ++ quotedPlainly kind) 1
        if (natOf? major).isNone then
          return ← refuse name (octets "invalid major device number " ++ quotedPlainly major) 1
        if (natOf? minor).isNone then
          return ← refuse name (octets "invalid minor device number " ++ quotedPlainly minor) 1
        match deviceOf? major minor with
        | some device => makeSpecial name "" change? path (.device device)
        | none => refuse name (faultText (quotedIfNeeded path) .notPermitted) 1
      | _, _ :: _ :: extra :: _ =>
        refuseUse name (octets "extra operand " ++ quotedPlainly extra) 1
      | none, _ => refuseUse name (octets "invalid device type " ++ quotedPlainly kind) 1

end Program

end Shell

end ComponentScaffold
