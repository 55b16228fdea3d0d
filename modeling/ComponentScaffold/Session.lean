import ComponentScaffold.Failure
import ComponentScaffold.Files.Operations

/-! # Sessions

An operation of this library works on a session: a file system, and what was reported and asked of
template generators so far. It either gives a result or fails; what it changed and reported before a
failure stays.

* **`Record`** — what an operation reports.
* **`Action`** — such an operation.
* **`Action.readText`**, **`Action.writeText`** — files as text. -/

namespace ComponentScaffold

/-! ## Log records

An operation reports what it does as records. A record has a level, a message and named fields, and is
shown as one event whose fields are written `key=value`. -/

/-- How important a record is. -/
inductive Level
  /-- Something failed. -/
  | error
  /-- Something was passed over. -/
  | warn
  /-- Something was done. -/
  | info
  /-- A detail on the way. -/
  | debug
  /-- A detail of a detail. -/
  | trace
deriving DecidableEq, Repr

/-- The name of a level. -/
def Level.label : Level → String
  | .error => "ERROR"
  | .warn => "WARN"
  | .info => "INFO"
  | .debug => "DEBUG"
  | .trace => "TRACE"

/-- The level of a name. -/
def Level.ofLabel? (label : String) : Option Level :=
  [Level.error, .warn, .info, .debug, .trace].find? (·.label = label)

/-- Every level is found by its name. -/
@[simp] theorem Level.ofLabel?_label (level : Level) : Level.ofLabel? level.label = some level := by
  cases level <;> decide

/-- **One report** of an operation. -/
structure Record where
  /-- How important it is. -/
  level : Level
  /-- What happened. -/
  message : String
  /-- The particulars, in order. -/
  fields : List (String × String)
deriving DecidableEq, Repr

namespace Record

/-- The value of the first field of a name. -/
def field? (record : Record) (key : String) : Option String := record.fields.lookup key

/-- The fields of a record as one text. -/
def fieldText (record : Record) : String :=
  " ".intercalate (record.fields.map fun (key, value) => s!"{key}={value}")

end Record

/-- A record as it is shown: its level, its message and its fields as one text. -/
structure LogEvent where
  /-- The level of the record. -/
  level : Level
  /-- The message of the record. -/
  message : String
  /-- The fields of the record, written out. -/
  fields : String
deriving DecidableEq, Repr

/-- The event that shows a record. -/
def Record.event (record : Record) : LogEvent := ⟨record.level, record.message, record.fieldText⟩

/-! ## Actions -/

/-- What a template generator is asked for. -/
structure Invocation where
  /-- The template. -/
  template : String
  /-- The name of the component. -/
  name : String
  /-- The folder that its files go to. -/
  directory : Path
deriving DecidableEq, Repr

/-- The state that operations work on. -/
structure Session where
  /-- The file system. -/
  files : FileSystem
  /-- The records reported so far, oldest first. -/
  records : List Record
  /-- What generators were asked for so far, oldest first. -/
  invocations : List Invocation

/-- **An operation** on a session, which may fail. -/
abbrev Action := ExceptT Failure (StateM Session)

namespace Action

/-- The outcome of an operation and the session after it. -/
def perform {α : Type} (action : Action α) (session : Session) : Except Failure α × Session :=
  StateT.run (ExceptT.run action) session

/-- The file system as it is. -/
def files : Action FileSystem := return (← get).files

/-- Take a state for the file system. -/
def putFiles (files : FileSystem) : Action Unit := modify fun session => { session with files }

/-- Report a record. -/
def report (level : Level) (message : String) (fields : List (String × String)) : Action Unit :=
  modify fun session => { session with records := session.records ++ [⟨level, message, fields⟩] }

/-- The answer to a question to the file system. -/
def ask {α : Type} (question : FileSystem → Except OsFault α) : Action α := do
  match question (← files) with
  | .ok answer => return answer
  | .error fault => throw (.io (.system fault))

/-- A change of the file system, which is left alone where the change is refused. -/
def change (operation : FileSystem → Except OsFault FileSystem) : Action Unit := do
  match operation (← files) with
  | .ok changed => putFiles changed
  | .error fault => throw (.io (.system fault))

/-- The text of the file that a path leads to. -/
def readText (path : Path) : Action String := do
  match String.fromUTF8? (← ask (·.readBytes path)) with
  | some text => return text
  | none => throw (.io .notUtf8)

/-- Write a text as the file that a path leads to. -/
def writeText (path : Path) (text : String) : Action Unit :=
  change (·.writeBytes path text.toUTF8)

/-- Make a directory and those on the way to it. -/
def makeDirectories (path : Path) : Action Unit := do
  let (made, outcome) := (← files).makeDirectories path
  putFiles made
  match outcome with
  | .ok () => return ()
  | .error fault => throw (.io (.system fault))

/-- The result of a pure computation. -/
def lift {α : Type} (result : Except Failure α) : Action α :=
  match result with
  | .ok value => return value
  | .error failure => throw failure

/-- The outcome of an operation as a value, so that its failure is not one of what comes around it. -/
def attempt {α : Type} (action : Action α) : Action (Except Failure α) :=
  -- what the operation changed before it failed stays
  ExceptT.mk fun session =>
    let (outcome, after) := action.perform session
    (.ok outcome, after)

end Action

end ComponentScaffold
