import ComponentScaffold.Shell.Engine
import ComponentScaffold.Shell.Installation
import ComponentScaffold.Shell.Program.Options

/-! # Programs

A program runs in a process of its own: of the context it finds there it uses the descriptors, the variables
that are exported, and the directory. What it complains about is written to the standard error, behind the
name by which it was called.

* **`Shell.Program`** — a program: what it does with its arguments, and its status.
* **`Program.withOptions`** — a program that takes options.
* **`Program.emit`**, **`Program.refuse`** — output, and complaints. -/

namespace ComponentScaffold

namespace Shell

/-- **A program.** It is given the name by which it was called and its arguments; its status is
returned, zero for success. -/
abbrev Program := Engine → (name : Octets) → List Octets → Exec Nat

namespace Program

/-- Write a complaint of a program. -/
def tell (name message : Octets) : Exec Unit := complain (name ++ octets ": " ++ message ++ ['\n'])

/-- Complain, with a status. -/
def refuse (name message : Octets) (status : Nat) : Exec Nat := do
  tell name message
  return status

/-- Where more can be read about a program. -/
def hint (name : Octets) : Octets :=
  octets "Try '" ++ name ++ octets " --help' for more information.\n"

/-- Complain about how a program was called, with a status. -/
def refuseUse (name message : Octets) (status : Nat) : Exec Nat := do
  tell name message
  complain (hint name)
  return status

/-- What is said about a fault with a file. -/
def faultText (file : Octets) (fault : OsFault) : Octets :=
  file ++ octets s!": {fault.description}"

/-- Complain about a fault with a file. -/
def refuseFile (name file : Octets) (fault : OsFault) : Exec Nat :=
  refuse name (faultText (quotedIfNeeded file) fault) 1

/-- **Write to the standard output.** The status says whether that went well. -/
def emit (name text : Octets) : Exec Nat := do
  if text.isEmpty then return 0
  match ← write 1 text with
  | none => return 0
  | some fault => refuse name (faultText (octets "write error") fault) 1

/-- A text in a width, to the right. -/
def toRight (width : Nat) (text : Octets) : Octets :=
  List.replicate (width - text.length) ' ' ++ text

/-- A text in a width, to the left. -/
def toLeft (width : Nat) (text : Octets) : Octets :=
  text ++ List.replicate (width - text.length) ' '

/-- The greater of two statuses. -/
def worse (a b : Nat) : Nat := max a b

/-- Do something for each of some things; the status is the worst one. -/
def forAll {α : Type} (items : List α) (action : α → Exec Nat) : Exec Nat :=
  items.foldlM (fun status item => do return worse status (← action item)) 0

/-- **A program that takes options.** Wrong ones end it with a status. -/
def withOptions (forms : List OptionForm) (leading : Bool) (failure : Nat)
    (run : Engine → (name : Octets) → Chosen → Exec Nat) : Program := fun engine name arguments => do
  match choose forms leading arguments with
  | .error fault => refuseUse name fault.message failure
  | .ok chosen => run engine name chosen

/-- The bytes of an operand: those of a file, or for a minus sign those of the standard input. -/
def readOperand (operand : Octets) : Exec (Except OsFault Octets) := do
  let read ← if operand = ['-'] then readAll 0 else readPath operand
  return read.map octetsOf

/-- Do something with the bytes of each operand, or of the standard input if there are none. -/
def forContents (name : Octets) (operands : List Octets) (action : Octets → Octets → Exec Nat) :
    Exec Nat :=
  forAll (if operands.isEmpty then [['-']] else operands) fun operand => do
    match ← readOperand operand with
    | .error fault => refuseFile name operand fault
    | .ok text => action operand text

/-- The bytes of all operands one after the other, and the worst status. -/
def readOperands (name : Octets) (operands : List Octets) : Exec (Octets × Nat) :=
  (if operands.isEmpty then [['-']] else operands).foldlM (fun (before, status) operand => do
    match ← readOperand operand with
    | .error fault => return (before, worse status (← refuseFile name operand fault))
    | .ok text => return (before ++ text, status)) ([], 0)

/-- The lines of a text, each with its end. -/
def fullLines (text : Octets) : List Octets :=
  let (lines, isEnded) := linesOf text
  match lines.reverse with
  | [] => []
  | last :: before =>
    before.reverse.map (· ++ ['\n']) ++ [if isEnded then last ++ ['\n'] else last]

end Program

end Shell

end ComponentScaffold
