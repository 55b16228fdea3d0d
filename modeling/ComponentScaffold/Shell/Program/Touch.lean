import ComponentScaffold.Shell.Calendar.Reading
import ComponentScaffold.Shell.Program.Paths

/-! # Times of files

* **`Program.touch`** — makes files that are not there, and changes their times. -/

namespace ComponentScaffold

namespace Shell

namespace Program

/-- The options of `touch`. -/
def touchForms : List OptionForm :=
  [⟨'c', true, ["no-create"], .none⟩, .short 'a' .none, .short 'm' .none, .short 'f' .none,
    ⟨'d', true, ["date"], .required⟩, ⟨'r', true, ["reference"], .required⟩, .short 't' .required,
    ⟨'h', true, ["no-dereference"], .none⟩, ⟨'T', false, ["time"], .required⟩]

/-- How times are changed. -/
structure TouchManner where
  /-- Whether files are made that are not there. -/
  makes : Bool
  /-- Whether the time of the last change is changed, and not only that of the last use. -/
  changes : Bool
  /-- Whether links are changed and not what they lead to. -/
  links : Bool
  /-- The time. -/
  time : Time

/-- Change the time of the file that an operand names, and make it if it is not there. -/
def touchOperand (name : Octets) (manner : TouchManner) (operand : Octets) : Exec Nat := do
  if operand = ['-'] then return 0
  let fs ← files
  let refusal (what : String) (fault : OsFault) : Exec Nat :=
    refuse name (faultText (octets what ++ quotedAlways operand) fault) 1
  let settled (fs : Disk) (facts : Facts) : Disk :=
    if manner.changes then fs.setModified facts.number manner.time else fs
  match factsOf fs (if manner.links then .name else .target) operand with
  | .ok facts =>
    putFiles (settled fs facts)
    return 0
  | .error .noEntry =>
    if !manner.makes || manner.links then return 0
    if operand.getLast? = some '/' then return ← refusal "setting times of " .noEntry
    match fs.writeBytes (pathOf operand) ByteArray.empty with
    | .ok made =>
      putFiles (match factsFound made operand with
        | .ok facts => settled made facts
        | .error _ => made)
      return 0
    | .error fault => refusal "cannot touch " fault
  | .error fault =>
    refusal (if operand.getLast? = some '/' then "setting times of " else "cannot touch ") fault

/-- The time that the options ask for. -/
def touchTime (name : Octets) (now : Time) (chosen : Chosen) : Exec (Except Nat Time) := do
  let wrongDate (text : Octets) : Exec (Except Nat Time) :=
    return .error (← refuse name (octets "invalid date format " ++ quotedAlways text) 1)
  let fs ← files
  let start? : Except OsFault Time := match chosen.value? 'r' with
    | none => .ok now
    | some path =>
      (factsOf fs (if chosen.has 'h' then .name else .target) path).map fun facts =>
        facts.node.modified
  match start?, chosen.value? 'd', chosen.value? 't' with
  | .error fault, _, _ =>
    let text := octets "failed to get attributes of " ++ quotedAlways ((chosen.value? 'r').getD [])
    return .error (← refuse name (faultText text fault) 1)
  | .ok start, none, none => return .ok start
  | .ok start, some text, none =>
    match Calendar.read? start text with
    | some time => return .ok time
    | none => wrongDate text
  | .ok _, _, some text =>
    if chosen.has 'd' || chosen.has 'r' then
      return .error (← refuseUse name (octets "cannot specify times from more than one source") 1)
    match Calendar.readStamp? now text with
    | some time => return .ok time
    | none => wrongDate text

/-- The words for the time of the last change. -/
def changeWords : List String := ["mtime", "modify"]

/-- The words for the time of the last use. -/
def useWords : List String := ["atime", "access", "use"]

/-- **Make files that are not there**, and change the times of others. -/
def touch : Program := withOptions touchForms false 1 fun _ name chosen => do
  let word := String.ofList ((chosen.value? 'T').getD (octets "mtime"))
  if !(changeWords ++ useWords).contains word then
    tell name (octets "invalid argument " ++ quotedAlways (octets word) ++ octets " for '--time'")
    complain (octets ("Valid arguments are:\n  - 'atime', 'access', 'use'\n  - 'mtime', 'modify'\n") ++
      hint name)
    return 1
  match ← touchTime name (← files).now chosen with
  | .error status => return status
  | .ok time =>
    if chosen.operands.isEmpty then return ← refuseUse name (octets "missing file operand") 1
    let isUse := chosen.has 'a' || (chosen.has 'T' && useWords.contains word)
    let isChange := chosen.has 'm' || (chosen.has 'T' && changeWords.contains word)
    forAll chosen.operands (touchOperand name
      { makes := !chosen.has 'c', changes := isChange || !isUse, links := chosen.has 'h', time := time })

end Program

end Shell

end ComponentScaffold
