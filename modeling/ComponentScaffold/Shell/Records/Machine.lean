import ComponentScaffold.Shell.Calendar.Basic
import ComponentScaffold.Shell.Program.Environment
import ComponentScaffold.Shell.Records.Field
import ComponentScaffold.Shell.Records.Format
import ComponentScaffold.Shell.Records.Table

/-! # What is at hand while a script over records runs

The variables and tables of a script, its record with the fields, and what it reads from and writes to. What is
written to the standard output is kept until something else is to be seen behind it.

* **`Records.Machine`** — all of that.
* **`Records.Work`** — what works on it.
* **`Records.emitTo`**, **`Records.readLine`** — write to and read from files and commands. -/

namespace ComponentScaffold

namespace Shell

namespace Records

/-- What a function's own name stands for. -/
inductive Slot
  /-- A value. -/
  | value (value : Value)
  /-- The table of a number. -/
  | table (index : Nat)

/-- Where something is written to. -/
inductive Outlet
  /-- The standard output. -/
  | output
  /-- The standard error. -/
  | error
  /-- The channel of a number. -/
  | channel (index : Nat)
  /-- A command, with what was written, the last first. -/
  | command (written : List Octets)

/-- Something that was opened to be read. -/
structure Inlet where
  /-- Whether it is what a command writes. -/
  isCommand : Bool
  /-- The name of the file, or the command. -/
  name : Octets
  /-- What is left to read. -/
  rest : Octets
  /-- The status of the command. -/
  status : Nat

/-- **What is at hand while a script runs.** -/
structure Machine where
  /-- The name by which the program was called. -/
  program : Octets
  /-- The values of the variables. -/
  values : Std.HashMap Octets Value
  /-- The numbers of the tables by their names. -/
  names : Std.HashMap Octets Nat
  /-- The tables. -/
  tables : Array Table
  /-- The own names of the functions that run, innermost first. -/
  frames : List (List (Octets × Slot))
  /-- The record. -/
  record : Octets
  /-- Its fields. -/
  fields : Array Value
  /-- What stood in the variable that tells what stands between fields, and what it tells. -/
  separator : Octets × Separator
  /-- What was written to the standard output and kept, the last first. -/
  kept : List Octets
  /-- What is written to. -/
  outlets : List (Octets × Outlet)
  /-- What is read from. -/
  inlets : List Inlet
  /-- What is left of the file that records are taken from. -/
  input : Octets
  /-- The number of the next operand. -/
  operand : Nat
  /-- Whether a file was taken for records. -/
  hasInput : Bool
  /-- The patterns with two ends of which the first one was met. -/
  active : List Nat
  /-- The state of the random numbers. -/
  random : Nat
  /-- From which number the random numbers started. -/
  seed : Value
  /-- The status with which the script ends. -/
  status : Nat
  /-- The value that a function returns. -/
  returned : Value

/-- Why a script does not go on with the next statement. -/
inductive Halt
  /-- The next record is taken, or the next file. -/
  | next (file : Bool)
  /-- The script ends. -/
  | exit
  /-- Something is wrong, and the script ends. -/
  | failure
  /-- The function returns. -/
  | return
  /-- The loop ends, or its next round begins. -/
  | leave (again : Bool)
deriving DecidableEq, Repr

/-- **What works while a script runs.** -/
abbrev Work := ExceptT Halt (StateT Machine Exec)

/-- Do something besides. -/
def aside {α : Type} (action : Exec α) : Work α := ExceptT.lift (StateT.lift action)

/-! ## Variables -/

/-- The variables by which a script is told how to work, and how it was left. -/
def startValues : List (String × Value) :=
  [("CONVFMT", .text (octets "%.6g")), ("OFMT", .text (octets "%.6g")), ("FS", .text [' ']),
    ("OFS", .text [' ']), ("ORS", .text ['\n']), ("RS", .text ['\n']), ("SUBSEP", .text ['\x1c']),
    ("NR", .number 0.0), ("FNR", .number 0.0), ("RSTART", .number 0.0), ("RLENGTH", .number (-1.0)),
    ("FILENAME", .text [])]

/-- The value of a variable of the whole script. -/
def valueOf (name : String) : Work Value := return ((← get).values[octets name]?).getD .none

/-- Give a variable of the whole script a value. -/
def putValue (name : Octets) (value : Value) : Work Unit :=
  modify fun machine => { machine with values := machine.values.insert name value }

/-- How fractions are written where texts are made of numbers. -/
def writer : Work (Float → Octets) := do
  let format := ((← valueOf "CONVFMT").toText fun _ => [])
  return fractionText format

/-- The text of a value. -/
def textOf (value : Value) : Work Octets := return value.toText (← writer)

/-- The text of a variable of the whole script. -/
def variableText (name : String) : Work Octets := do textOf (← valueOf name)

/-! ## Output -/

/-- Complain, and end the script. -/
def failWith {α : Type} (message : Octets) : Work α := do
  aside (Program.tell (← get).program message)
  modify fun machine => { machine with status := 2 }
  throw .failure

/-- Complain about something that cannot be done while the script runs. -/
def runFailure {α : Type} (message : Octets) : Work α := do
  let file := (← variableText "FILENAME")
  let number (name : String) : Work Octets := return ← variableText name
  let place := octets "\n\tFILENAME=\"" ++ file ++ octets "\" FNR=" ++ (← number "FNR") ++ octets " NR=" ++
    (← number "NR")
  failWith (octets "run time error: " ++ message ++ place)

/-- Complain that something cannot be written. -/
def closeFailure {α : Type} (name : Octets) (fault : OsFault) : Work α :=
  failWith (octets "close failed on file \"" ++ name ++ octets s!"\" ({fault.description})")

/-- Write what was kept. -/
def flush : Work Unit := do
  let kept := (← get).kept
  if kept.isEmpty then return ()
  modify fun machine => { machine with kept := [] }
  if let some fault ← aside (write 1 kept.reverse.flatten) then
    closeFailure (octets "/dev/stdout") fault

/-- Run a command in a process of its own, which reads a text if there is one. -/
def runShellCommand (engine : Engine) (input : Option Octets) (command : Octets) : Work Nat := do
  let action : Exec Unit := do
    match ← Program.runInstead engine [octets "sh", octets "-c", command] with
    | .ok status => setStatus status
    | .error fault => setStatus (Program.startFailure fault)
  let run : Exec Nat := do
    match ← attempt (asProcess engine action) with
    | .ok status => return status
    | .error (.killed signal) => return 256 + signal
    | .error stop => throw stop
  match input with
  | none => aside run
  | some text => do
    let channel ← aside (newPipe (bytesOf text))
    aside (withDescriptor 0 channel run)

/-- Close something that was written to, and tell the status. -/
def closeOutlet (engine : Engine) (name : Octets) : Outlet → Work Nat
  | .command written => do
    flush
    runShellCommand engine (some written.reverse.flatten) name
  | .output | .error => do
    flush
    return 0
  | .channel _ => return 0

/-- Where something is written to by a name, opened if need be. -/
def outletOf (sink : Sink) (name : Octets) : Work Outlet := do
  match (← get).outlets.lookup name with
  | some outlet => return outlet
  | none =>
    let outlet ← match sink with
      | .command => do
        flush
        pure (Outlet.command [])
      | _ =>
        if name = ['-'] || name = octets "/dev/stdout" then pure Outlet.output
        else if name = octets "/dev/stderr" then pure Outlet.error
        else match ← aside (openPath name (if sink = .append then .append else .write true)) with
          | .ok index => pure (Outlet.channel index)
          | .error fault =>
            failWith (octets "cannot open \"" ++ name ++
              octets s!"\" for output ({fault.description})")
    modify fun machine => { machine with outlets := machine.outlets ++ [(name, outlet)] }
    return outlet

/-- Keep a text for the standard output. -/
def keep (text : Octets) : Work Unit := modify fun machine => { machine with kept := text :: machine.kept }

/-- **Write a text** where a name tells. -/
def emitTo (sink : Sink) (name text : Octets) : Work Unit := do
  match ← outletOf sink name with
  | .output => keep text
  | .error =>
    let _ ← aside (write 2 text)
  | .channel index =>
    let fault? ← aside (do
      match (← get).channels[index]? with
      | some channel => writeChannel index channel (bytesOf text)
      | none => return none)
    if let some fault := fault? then closeFailure name fault
  | .command written =>
    let outlet := Outlet.command (text :: written)
    modify fun machine =>
      { machine with outlets := machine.outlets.map fun held =>
          if held.1 = name then (name, outlet) else held }

/-- Close all that is written to. -/
def closeAll (engine : Engine) : Work Unit := do
  let outlets := (← get).outlets
  modify fun machine => { machine with outlets := [] }
  flush
  outlets.forM fun (name, outlet) => do
    let _ ← closeOutlet engine name outlet

/-- Close what a name tells, and return the status, if there is such. -/
def closeNamed (engine : Engine) (name : Octets) : Work (Option Nat) := do
  let machine ← get
  let inlet? := machine.inlets.find? fun inlet => inlet.name = name
  let outlet? := machine.outlets.lookup name
  set { machine with
    inlets := machine.inlets.filter fun inlet => inlet.name ≠ name
    outlets := machine.outlets.filter fun held => held.1 ≠ name }
  match outlet? with
  | some outlet => return some (← closeOutlet engine name outlet)
  | none => return inlet?.map Inlet.status

/-! ## Input -/

/-- What stands between records. -/
def recordEnd : Work RecordEnd := do
  let text ← variableText "RS"
  match RecordEnd.ofText text with
  | .ok ending => return ending
  | .error fault =>
    runFailure (octets s!"regular expression compile failed ({fault.message})\n" ++ text)

/-- What a command writes, and its status. -/
def outputOf (engine : Engine) (command : Octets) : Work (Octets × Nat) := do
  flush
  let action : Exec Unit := do
    match ← Program.runInstead engine [octets "sh", octets "-c", command] with
    | .ok status => setStatus status
    | .error fault => setStatus (Program.startFailure fault)
  aside (do
    match ← attempt (capture engine action) with
    | .ok found => return found
    | .error (.killed signal) => return ([], 256 + signal)
    | .error stop => throw stop)

/-- The bytes of a file, of which the standard input has names of its own. -/
def contentsOf (name : Octets) : Work (Except OsFault Octets) := do
  let isInput := name = ['-'] || name = octets "/dev/stdin"
  let found ← aside (if isInput then Shell.readAll 0 else readPath name)
  match found with
  | .error .isDirectory => failWith (octets s!"read error ({OsFault.isDirectory.description})")
  | .error fault => return .error fault
  | .ok bytes => return .ok (octetsOf bytes)

/-- What is read from by a name, opened if need be and if that can be. -/
def inletOf (engine : Engine) (isCommand : Bool) (name : Octets) : Work (Option Inlet) := do
  match (← get).inlets.find? fun inlet => inlet.isCommand = isCommand && inlet.name = name with
  | some inlet => return some inlet
  | none =>
    let inlet? ← do
      if isCommand then
        let (text, status) ← outputOf engine name
        pure (some (Inlet.mk true name text status))
      else match ← contentsOf name with
        | .ok text => pure (some (Inlet.mk false name text 0))
        | .error _ => pure none
    if let some inlet := inlet? then modify fun machine => { machine with inlets := inlet :: machine.inlets }
    return inlet?

/-- **The next record** of a file or of what a command writes, or none at its end; nothing where it cannot be
read. -/
def readLine (engine : Engine) (isCommand : Bool) (name : Octets) : Work (Option (Option Octets)) := do
  match ← inletOf engine isCommand name with
  | none => return none
  | some inlet =>
    match cutRecord? (← recordEnd) inlet.rest with
    | none => return some none
    | some (record, rest) =>
      modify fun machine =>
        { machine with inlets := machine.inlets.map fun other =>
            if other.isCommand = isCommand && other.name = name then { other with rest := rest }
            else other }
      return some (some record)

/-! ## Records -/

/-- The separator of fields. -/
def separatorNow : Work Separator := do
  let text ← variableText "FS"
  let machine ← get
  let separator ← if machine.separator.1 = text then pure machine.separator.2
    else match Separator.ofText text with
      | .ok separator =>
        set { machine with separator := (text, separator) }
        pure separator
      | .error fault =>
        runFailure (octets s!"regular expression compile failed ({fault.message})\n" ++ text)
  return if (← variableText "RS").isEmpty then separator.orLine else separator

/-- Take a text for the record. -/
def putRecord (text : Octets) : Work Unit := do
  let separator ← separatorNow
  modify fun machine =>
    { machine with record := text, fields := ((separator.cut text).map valueRead).toArray }

/-- Put the record together of its fields. -/
def joinRecord : Work Unit := do
  let between ← variableText "OFS"
  let write ← writer
  modify fun machine =>
    { machine with record := joinWith between (machine.fields.toList.map (Value.toText write)) }

/-- The value of a field, or for zero the record. -/
def fieldValue (index : Int) : Work Value := do
  if index < 0 then runFailure (octets s!"negative field index ${index}")
  let machine ← get
  match index.toNat with
  | 0 => return valueRead machine.record
  | index + 1 => return (machine.fields[index]?).getD .none

/-- The fields with so many of them. -/
def resized (fields : Array Value) (count : Nat) : Array Value :=
  fields.extract 0 count ++ Array.replicate (count - fields.size) Value.none

/-- Give a field a value, or for zero take a text for the record. -/
def putField (index : Int) (value : Value) : Work Unit := do
  if index < 0 then runFailure (octets s!"negative field index ${index}")
  match index.toNat with
  | 0 => putRecord (← textOf value)
  | index + 1 =>
    modify fun machine =>
      { machine with fields :=
          (resized machine.fields (max machine.fields.size (index + 1))).setIfInBounds index value }
    joinRecord

/-- Let the record have so many fields. -/
def putCount (value : Value) : Work Unit := do
  let count := clampedWhole value.toNumber
  if count < 0 then runFailure (octets "negative value assigned to NF")
  modify fun machine => { machine with fields := resized machine.fields count.toNat }
  joinRecord

/-- Add one to a variable that counts records. -/
def countUp (name : String) : Work Unit := do
  putValue (octets name) (.number ((← valueOf name).toNumber + 1.0))

end Records

end Shell

end ComponentScaffold
