import ComponentScaffold.Shell.Mode
import ComponentScaffold.Shell.Program.Paths

/-! # Permissions

* **`Program.chmod`** — changes what may be done with files.
* **`Program.chown`**, **`Program.chgrp`** — give files to their owner, of whom there is one. -/

namespace ComponentScaffold

namespace Shell

namespace Program

/-! ## Modes -/

/-- How modes are changed. -/
structure ModeManner where
  /-- The mode of a file after the change. -/
  after : (isFolder : Bool) → (mode : Nat) → Nat
  /-- The mode that somebody may have in mind who does not think of the mask. -/
  naive : (isFolder : Bool) → (mode : Nat) → Nat
  /-- Whether it is told where that is not the same. -/
  surprises : Bool
  /-- Whether all changes are told. -/
  verbose : Bool
  /-- Whether what did not change is told as well. -/
  all : Bool
  /-- Whether nothing is said about what goes wrong. -/
  quiet : Bool
  /-- Whether what is in directories is changed too. -/
  recursive : Bool

/-- A mode by its digits and its letters. -/
def modeShown (mode : Nat) : Octets :=
  let digits := modeDigits mode
  List.replicate (4 - digits.length) '0' ++ digits ++ octets " (" ++ modeText mode ++ [')']

/-- Change the mode of a file, which is known by a path. -/
def changeModeOf (name : Octets) (manner : ModeManner) (path : Octets) (facts : Facts) : Exec Nat := do
  let old := facts.node.mode
  let new := manner.after facts.isFolder old
  let naive := manner.naive facts.isFolder old
  modify fun state => { state with files := state.files.setMode facts.number new }
  let told := if new = old then quotedAlways path ++ octets " retained as " ++ modeShown old
    else quotedAlways path ++ octets " changed from " ++ modeShown old ++ octets " to " ++ modeShown new
  report name (manner.verbose && (manner.all || new ≠ old)) (octets "mode of " ++ told)
  if manner.surprises && withoutBits new naive ≠ 0 then
    return ← refuse name (quotedIfNeeded path ++ octets ": new permissions are " ++ modeText new ++
      octets ", not " ++ modeText naive) 1
  return 0

/-- Change the modes of what is in a directory, at most so many levels deep. Links are left alone. -/
def changeModesBelow (name : Octets) (manner : ModeManner) : (levels : Nat) → Octets → Exec Nat
  | 0, _ => return 0
  | levels + 1, folder => do
    forAll (namesAt (← files) folder) fun inside => do
      let path := below folder inside
      match factsNamed (← files) path with
      | .error _ => return 0
      | .ok facts =>
        if facts.isLink then
          report name (manner.verbose && manner.all) (octets "neither symbolic link " ++
            quotedAlways path ++ octets " nor referent has been changed")
          return 0
        let status ← changeModeOf name manner path facts
        if facts.isFolder then
          return worse status (← changeModesBelow name manner levels path)
        return status

/-- Change the mode of the file that an operand leads to. -/
def changeMode (name : Octets) (manner : ModeManner) (operand : Octets) : Exec Nat := do
  let fs ← files
  match factsFound fs operand with
  | .error fault =>
    if !manner.quiet then
      if isNamed fs operand then
        tell name (octets "cannot operate on dangling symlink " ++ quotedAlways operand)
      else tell name (faultText (octets "cannot access " ++ quotedAlways operand) fault)
    report name (manner.verbose && manner.all)
      (quotedAlways operand ++ octets " could not be accessed")
    return 1
  | .ok facts =>
    let status ← changeModeOf name manner operand facts
    if manner.recursive && facts.isFolder then
      return worse status (← changeModesBelow name manner (fs.depth + 1) operand)
    return status

/-- The options of `chmod`. -/
def chmodForms : List OptionForm :=
  [⟨'R', true, ["recursive"], .none⟩, ⟨'v', true, ["verbose"], .none⟩,
    ⟨'f', true, ["silent", "quiet"], .none⟩, ⟨'c', true, ["changes"], .none⟩,
    ⟨'@', false, ["reference"], .required⟩, ⟨'n', false, ["no-preserve-root"], .none⟩,
    ⟨'p', false, ["preserve-root"], .none⟩]

/-- Whether an argument with a minus sign is a mode. -/
def isModeArgument (argument : Octets) : Bool :=
  match argument with
  | '-' :: c :: _ => "rwxXstugoa,+=01234567".toList.contains c
  | _ => false

/-- The modes among arguments up to the end of the options, and the other arguments. -/
def partModes (arguments : List Octets) : List Octets × List Octets :=
  let before := arguments.takeWhile (· ≠ ['-', '-'])
  let (modes, others) := before.partition isModeArgument
  (modes, others ++ arguments.drop before.length)

/-- The manner in which a change is made that the options tell. -/
def modeMannerOf (chosen : Chosen) (surprises : Bool) (mask : Nat) (change : ModeChange) : ModeManner :=
  { after := change.apply mask, naive := change.apply 0, surprises := surprises
    verbose := chosen.has 'v' || chosen.has 'c', all := chosen.last? ['v', 'c'] = some 'v'
    quiet := chosen.has 'f', recursive := chosen.has 'R' }

/-- **Change what may be done with files.** -/
def chmod : Program := fun engine name arguments =>
  let (modes, others) := partModes arguments
  withOptions chmodForms false 1 (fun _ name chosen => do
    let fs ← files
    let given := joinWith [','] modes
    match chosen.value? '@' with
    | some path =>
      if !modes.isEmpty then
        return ← refuseUse name (octets "cannot combine mode and --reference options") 1
      if chosen.operands.isEmpty then return ← refuseUse name (octets "missing operand") 1
      match factsFound fs path with
      | .error fault =>
        refuse name (faultText (octets "failed to get attributes of " ++ quotedAlways path) fault) 1
      | .ok facts =>
        let manner := modeMannerOf chosen false 0 []
        forAll chosen.operands
          (changeMode name { manner with after := fun _ _ => facts.node.mode })
    | none =>
      let (mode, operands) := if modes.isEmpty then (chosen.operands.headD [], chosen.operands.tail)
        else (given, chosen.operands)
      if operands.isEmpty then
        let behind := if modes.isEmpty && !chosen.operands.isEmpty then
            octets " after " ++ quotedPlainly mode
          else []
        return ← refuseUse name (octets "missing operand" ++ behind) 1
      match ModeChange.parse? mode with
      | none => refuseUse name (octets "invalid mode: " ++ quotedPlainly mode) 1
      | some change =>
        forAll operands
          (changeMode name (modeMannerOf chosen (!modes.isEmpty) fs.standing.mask change)))
    engine name others

/-! ## Owners -/

/-- The options of `chown`. -/
def chownForms : List OptionForm :=
  [⟨'R', true, ["recursive"], .none⟩, ⟨'v', true, ["verbose"], .none⟩,
    ⟨'f', true, ["silent", "quiet"], .none⟩, ⟨'c', true, ["changes"], .none⟩,
    ⟨'h', true, ["no-dereference"], .none⟩, ⟨'d', false, ["dereference"], .none⟩, .short 'H' .none,
    .short 'L' .none, .short 'P' .none, ⟨'@', false, ["reference"], .required⟩]

/-- Whether a text is what the one owner is called, or nobody. -/
def isOwner (text : Octets) : Bool := text.isEmpty || text = octets "root" || text = ['0']

/-- Tell that a file stays with its owner. -/
def keepOwner (name : Octets) (chosen : Chosen) (what held : Octets) (operand : Octets) : Exec Nat := do
  match factsOf (← files) (if chosen.has 'h' then .name else .target) operand with
  | .ok _ =>
    report name (chosen.has 'v') (what ++ octets " of " ++ quotedAlways operand ++
      octets " retained as " ++ held)
    return 0
  | .error fault =>
    if chosen.has 'f' then return 1
    let text := if isNamed (← files) operand then octets "cannot dereference "
      else octets "cannot access "
    refuse name (faultText (text ++ quotedAlways operand) fault) 1

/-- Give files to an owner, who is told as the first operand: by the name of the user, the one of the group,
or both. -/
def give (parts : Octets → Except Octets Octets) (what : String) : Program :=
  withOptions chownForms false 1 fun _ name chosen => do
    match chosen.operands with
    | [] => refuseUse name (octets "missing operand") 1
    | [one] => refuseUse name (octets "missing operand after " ++ quotedPlainly one) 1
    | first :: operands =>
      match parts first with
      | .error message => refuse name message 1
      | .ok held => forAll operands (keepOwner name chosen (octets what) held)

/-- **Give files to their owner.** -/
def chown : Program := give (fun text =>
  let user := text.takeWhile fun c => c ≠ ':' && c ≠ '.'
  let group := text.drop (user.length + 1)
  let hasGroup := user.length < text.length
  if !isOwner user then .error (octets "invalid user: " ++ quotedPlainly text)
  else if !isOwner group then .error (octets "invalid group: " ++ quotedPlainly text)
  else .ok (octets (if hasGroup then "root:root" else "root"))) "ownership"

/-- **Give files to their group.** -/
def chgrp : Program := give (fun text =>
  if isOwner text then .ok (octets "root")
  else .error (octets "invalid group: " ++ quotedPlainly text)) "group"

end Program

end Shell

end ComponentScaffold
