import ComponentScaffold.Component.Kind
import ComponentScaffold.Text.Search

/-! # Forms of arguments

A form says which operands and options a command takes. Arguments are read one by one: an option is
written `--name`, `--name value`, `--name=value`, or in short `-n`, `-n value`, `-nvalue`, `-n=value`,
and short options without values may share a hyphen. After `--` everything is an operand.

A value is looked at only when the next argument that fits is reached, so of two faults in a line it is
not always the first that is reported.

* **`UsageStop`** — why reading stops without a command.
* **`Form.read`** — the values that a line of arguments gives. -/

namespace ComponentScaffold

/-! ## Where reading the command line stops

The arguments of the program may ask for help or for its version, or be such as no command takes. All
of these end the program before a command is run. -/

/-- **Why reading the command line stops** without a command. -/
inductive UsageStop
  /-- Help is asked for. -/
  | help
  /-- The version is asked for. -/
  | version
  /-- Nothing is asked for. -/
  | nothing
  /-- A word stands where the name of a command is needed and is none. -/
  | unknownCommand
  /-- An argument is neither an option of the command nor one of its operands. -/
  | unknownArgument
  /-- An operand of the command is missing. -/
  | missingOperand
  /-- An option is not followed by the value it needs, or an operand or value that must not be empty
  is. -/
  | missingValue
  /-- A value is not one of those that are needed. -/
  | badValue
  /-- An option is given twice. -/
  | repeated
  /-- A value is attached to an option that takes none. -/
  | unexpectedValue
deriving DecidableEq, Repr

/-- The exit status where reading stops: only what was asked for is no error. -/
def UsageStop.exitCode : UsageStop → Nat
  | .help | .version => 0
  | _ => 2

/-! ## Forms -/

open Text

/-- What an argument can be about. -/
inductive Slot
  /-- The kind of a component. -/
  | kind
  /-- The name of a component. -/
  | name
  /-- The folder that a component would lie in. -/
  | folder
  /-- The folder that a component goes to. -/
  | directory
  /-- The folder from which the root of the project is looked for. -/
  | root
  /-- The folder that a configuration goes to. -/
  | configFolder
  /-- That a view-model is wanted. -/
  | viewModel
  /-- That nothing is to be written. -/
  | dryRun
  /-- That JSON is wanted. -/
  | json
  /-- That an existing file may be overwritten. -/
  | force
deriving DecidableEq, Repr

namespace Slot

/-- Whether a slot holds a path, which is never empty. -/
def isPath : Slot → Bool
  | .folder | .directory | .root => true
  | _ => false

/-- What is wrong with a value for a slot, if anything is. -/
def fault? (slot : Slot) (value : String) : Option UsageStop :=
  if slot = .kind then if (ComponentKind.parse? value).isSome then none else some .badValue
  else if slot.isPath && value.isEmpty then some .missingValue
  else none

end Slot

/-- What an option does. -/
inductive Effect
  /-- It asks for help. -/
  | help
  /-- It marks a slot. -/
  | mark (slot : Slot)
  /-- It takes a value for a slot. -/
  | value (slot : Slot)
deriving DecidableEq, Repr

/-- An option. -/
structure Switch where
  /-- Its long name. -/
  long : String
  /-- Its short name, if it has one. -/
  short : Option Char
  /-- What it does. -/
  effect : Effect
deriving DecidableEq, Repr

/-- **A form**: the operands in order, and the options. -/
structure Form where
  /-- The operands, all of which are needed. -/
  operands : List Slot
  /-- The options, none of which is. -/
  switches : List Switch
deriving DecidableEq, Repr

/-- The option that every form has. -/
def Switch.help : Switch := ⟨"help", some 'h', .help⟩

/-! ## The shapes of arguments -/

/-- The name and the attached value of a long option. -/
def longOption? (argument : String) : Option (String × Option String) :=
  match argument.toList with
  | '-' :: '-' :: c :: rest =>
    match splitFirst? ['='] (c :: rest) with
    | some (name, value) => some (String.ofList name, some (String.ofList value))
    | none => some (String.ofList (c :: rest), none)
  | _ => none

/-- The characters behind the hyphen of short options. -/
def shortOptions? (argument : String) : Option (List Char) :=
  match argument.toList with
  | '-' :: c :: rest => if c = '-' then none else some (c :: rest)
  | _ => none

/-! ## Reading -/

/-- What has been read of a line. -/
structure Reading where
  /-- The values that were looked at. -/
  given : List (Slot × String)
  /-- The slot last reached and the value for it, which may still have to come. -/
  pending : Option (Slot × Option String)
  /-- The operands that have not been reached. -/
  operands : List Slot

namespace Reading

/-- Look at the value that is pending. -/
def settle (reading : Reading) : Except UsageStop Reading :=
  match reading.pending with
  | none => .ok reading
  | some (_, none) => .error .missingValue
  | some (slot, some value) =>
    if (reading.given.lookup slot).isSome then .error .repeated
    else match slot.fault? value with
      | some fault => .error fault
      | none => .ok { reading with given := reading.given ++ [(slot, value)], pending := none }

/-- Go on to a slot, with its value if that is known. -/
def reach (reading : Reading) (slot : Slot) (value : Option String) : Except UsageStop Reading := do
  return { (← reading.settle) with pending := some (slot, value) }

/-- Give a slot a value that belongs to it whatever follows. -/
def give (reading : Reading) (slot : Slot) (value : String) : Except UsageStop Reading := do
  (← reading.reach slot (some value)).settle

/-- Take an argument as an operand. -/
def operand (reading : Reading) (argument : String) : Except UsageStop Reading :=
  match reading.operands with
  | [] => .error .unknownArgument
  | slot :: operands => do
    return { (← reading.reach slot (some argument)) with operands := operands }

/-- Take an argument that is no option: the value that is waited for, or an operand. -/
def plain (reading : Reading) (argument : String) : Except UsageStop Reading :=
  match reading.pending with
  | some (slot, none) => .ok { reading with pending := some (slot, some argument) }
  | _ => reading.operand argument

/-- Take an option together with the value attached to it. -/
def option (reading : Reading) (effect : Effect) (attached : Option String) :
    Except UsageStop Reading :=
  match effect, attached with
  | .value slot, some value => reading.give slot value
  | .value slot, none => reading.reach slot none
  | _, some _ => .error .unexpectedValue
  -- a mark has no value of its own
  | .mark slot, none => reading.give slot ""
  -- a pending value that is at fault comes before the help
  | .help, none => do
    let _ ← reading.settle
    throw .help

end Reading

namespace Form

/-- All options of a form. -/
def allSwitches (form : Form) : List Switch := form.switches ++ [.help]

/-- What the option of a long name does. -/
def long? (form : Form) (name : String) : Option Effect :=
  (form.allSwitches.find? (·.long = name)).map (·.effect)

/-- What the option of a short name does. -/
def short? (form : Form) (name : Char) : Option Effect :=
  (form.allSwitches.find? (·.short = some name)).map (·.effect)

/-- Take short options that share a hyphen. The first that takes a value takes the rest as its value,
if there is a rest. -/
def readShort (form : Form) (reading : Reading) : List Char → Except UsageStop Reading
  | [] => .ok reading
  | name :: rest =>
    match form.short? name, rest with
    | none, _ => .error .unknownArgument
    | some (.value slot), [] => reading.option (.value slot) none
    | some (.value slot), '=' :: value => reading.option (.value slot) (some (String.ofList value))
    | some (.value slot), value => reading.option (.value slot) (some (String.ofList value))
    | some effect, rest => do form.readShort (← reading.option effect none) rest

/-- Take the rest of a line, given whether only operands can follow. -/
def readFrom (form : Form) : (reading : Reading) → (ended : Bool) → List String →
    Except UsageStop Reading
  | reading, _, [] => reading.settle
  | reading, true, argument :: rest => do form.readFrom (← reading.operand argument) true rest
  | reading, false, argument :: rest =>
    if argument = "--" then form.readFrom reading true rest
    else match longOption? argument, shortOptions? argument with
      | some (name, attached), _ =>
        match form.long? name with
        | none => .error .unknownArgument
        | some effect => do form.readFrom (← reading.option effect attached) false rest
      | none, some names => do form.readFrom (← form.readShort reading names) false rest
      | none, none => do form.readFrom (← reading.plain argument) false rest

/-- **The values that a line of arguments gives.** -/
def read (form : Form) (arguments : List String) : Except UsageStop (List (Slot × String)) := do
  let reading ← form.readFrom ⟨[], none, form.operands⟩ false arguments
  if reading.operands.isEmpty then return reading.given else throw .missingOperand

end Form

end ComponentScaffold
