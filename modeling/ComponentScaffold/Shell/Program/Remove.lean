import ComponentScaffold.Shell.Program.Paths

/-! # Removing files

* **`Program.rm`** — removes files, and directories with what is in them.
* **`Program.unlink`** — removes one file. -/

namespace ComponentScaffold

namespace Shell

namespace Program

/-- How often it is asked whether something is to be removed. -/
inductive AskPolicy
  /-- Never. -/
  | never
  /-- Once, if there is much. -/
  | once
  /-- Always. -/
  | always
deriving DecidableEq, Repr

/-- How files are removed. -/
structure RemoveManner where
  /-- Whether directories are removed with what is in them. -/
  recursive : Bool
  /-- Whether empty directories are removed. -/
  folders : Bool
  /-- Whether nothing is said about what is not there. -/
  forced : Bool
  /-- Whether it is told what is removed. -/
  verbose : Bool
  /-- How often it is asked. -/
  asks : AskPolicy
  /-- Whether all may be removed at once. -/
  root : Bool

/-- The options of `rm`. -/
def rmForms : List OptionForm :=
  [⟨'f', true, ["force"], .none⟩, .short 'i' .none, .short 'I' .none,
    ⟨'?', false, ["interactive"], .optional⟩, ⟨'r', true, ["recursive"], .none⟩, .short 'R' .none,
    ⟨'d', true, ["dir"], .none⟩, ⟨'v', true, ["verbose"], .none⟩,
    ⟨'n', false, ["no-preserve-root"], .none⟩, ⟨'p', false, ["preserve-root"], .optional⟩,
    ⟨'o', false, ["one-file-system"], .none⟩]

/-- The policy that a word names, if it names one. -/
def askPolicyOf? (word : Octets) : Option AskPolicy :=
  match String.ofList word with
  | "never" | "no" | "none" => some .never
  | "once" => some .once
  | "always" | "yes" | "" => some .always
  | _ => none

/-- The policy that the options ask for. -/
def askPolicyOfOptions (chosen : Chosen) : AskPolicy :=
  chosen.options.foldl (fun policy (key, value) =>
    match key with
    | 'f' => .never
    | 'i' => .always
    | 'I' => .once
    | '?' => (askPolicyOf? value).getD policy
    | _ => policy) .never

/-- Complain that something cannot be removed. -/
def refuseRemoval (name path : Octets) (fault : OsFault) : Exec Nat :=
  refuse name (faultText (octets "cannot remove " ++ quotedAlways path) fault) 1

/-- Ask whether something is to be done with a path. -/
def agreesTo (name : Octets) (what : String) (path : Octets) : Exec Bool :=
  agrees (name ++ octets s!": {what} " ++ quotedAlways path ++ octets "? ")

/-- Remove what is at a path and in it, at most so many levels deep. The status is returned, and whether
nothing is left. -/
def removeTree (name : Octets) (manner : RemoveManner) : (levels : Nat) → Octets → Exec (Nat × Bool)
  | 0, _ => return (1, false)
  | levels + 1, path => do
    let fs ← files
    let asks := manner.asks = .always
    match fs.findName (pathOf path) with
    | .error fault => return (← refuseRemoval name path fault, false)
    | .ok (place, .directory) =>
      let names := namesAt fs path
      if asks && !names.isEmpty then
        if !(← agreesTo name "descend into directory" path) then return (0, false)
      let (status, isEmpty) ← names.foldlM (fun (status, isEmpty) inside => do
        let (other, isGone) ← removeTree name manner levels (below path inside)
        return (worse status other, isEmpty && isGone)) (0, true)
      if !isEmpty then return (status, false)
      if isSlashedLink fs path then return (← refuseRemoval name path .notDirectory, false)
      if asks then
        if !(← agreesTo name "remove directory" path) then return (0, false)
      putFiles ((← files).drop place)
      report name manner.verbose (octets "removed directory " ++ quotedAlways path)
      return (status, true)
    | .ok (place, entry) =>
      if asks then
        if !(← agreesTo name s!"remove {kindName entry}" path) then return (0, false)
      putFiles (fs.drop place)
      report name manner.verbose (octets "removed " ++ quotedAlways path)
      return (0, true)

/-- Remove what an operand names. -/
def removeOperand (name : Octets) (manner : RemoveManner) (operand : Octets) : Exec Nat := do
  let fs ← files
  let isDotted := manner.recursive && isDots (lastName operand)
  let refuseDots : Exec Nat :=
    refuse name (octets "refusing to remove '.' or '..' directory: skipping " ++ quotedAlways operand) 1
  match fs.findName (pathOf operand) with
  | .error fault =>
    let fault := if fault = .noEntry && isSlashedLink fs operand then .notDirectory else fault
    if manner.forced && (fault = .noEntry || fault = .notDirectory) then return 0
    if isDotted then return ← refuseDots
    refuseRemoval name operand fault
  | .ok (place, entry) =>
    if entry = .directory && !manner.recursive then
      if !manner.folders then return ← refuseRemoval name operand .isDirectory
      if !(fs.childNames place).isEmpty then return ← refuseRemoval name operand .notEmpty
    if entry = .directory && isDotted then return ← refuseDots
    if entry = .directory && place = [] && !manner.root then
      return ← refuse name (octets "it is dangerous to operate recursively on '/'\n" ++ name ++
        octets ": use --no-preserve-root to override this failsafe") 1
    if manner.verbose || manner.asks = .always || isSlashedLink fs operand then
      return (← removeTree name manner (fs.depth + 1) operand).1
    putFiles (fs.drop place)
    return 0

/-- How many files may be removed before it is asked once. -/
def manyOperands : Nat := 3

/-- **Remove files.** -/
def rm : Program := withOptions rmForms false 1 fun _ name chosen => do
  if let some option := chosen.options.find? fun option =>
      option.1 = '?' && (askPolicyOf? option.2).isNone then
    tell name (octets "invalid argument " ++ quotedAlways option.2 ++ octets " for '--interactive'")
    complain (octets ("Valid arguments are:\n  - 'never', 'no', 'none'\n  - 'once'\n" ++
      "  - 'always', 'yes'\n") ++ hint name)
    return 1
  if chosen.operands.isEmpty then
    if chosen.has 'f' then return 0
    return ← refuseUse name (octets "missing operand") 1
  let manner : RemoveManner :=
    { recursive := chosen.has 'r' || chosen.has 'R', folders := chosen.has 'd'
      forced := chosen.last? ['f', 'i', 'I', '?'] = some 'f', verbose := chosen.has 'v'
      asks := askPolicyOfOptions chosen, root := chosen.last? ['n', 'p'] = some 'n' }
  let count := chosen.operands.length
  if manner.asks = .once && (manner.recursive || manyOperands < count) then
    let many := octets (if count = 1 then " argument" else " arguments")
    let question := name ++ octets ": remove " ++ natText count ++ many ++
      (if manner.recursive then octets " recursively" else []) ++ octets "? "
    if !(← agrees question) then return 0
  forAll chosen.operands (removeOperand name manner)

/-- **Remove one file.** -/
def unlink : Program := withOptions [] false 1 fun _ name chosen => do
  match chosen.operands with
  | [] => refuseUse name (octets "missing operand") 1
  | _ :: extra :: _ => refuseUse name (octets "extra operand " ++ quotedPlainly extra) 1
  | [path] =>
    let fs ← files
    let refusal (fault : OsFault) : Exec Nat :=
      refuse name (faultText (octets "cannot unlink " ++ quotedAlways path) fault) 1
    match fs.findName (pathOf path) with
    | .error fault =>
      refusal (if fault = .noEntry && isSlashedLink fs path then .notDirectory else fault)
    | .ok (place, entry) =>
      if isSlashedLink fs path then refusal .notDirectory
      else if entry = .directory then refusal .isDirectory
      else
        putFiles (fs.drop place)
        return 0

end Program

end Shell

end ComponentScaffold
