import ComponentScaffold.CommandLine.Form
import ComponentScaffold.Path.Basic

/-! # The commands of the program

The program has three commands: one scaffolds a component, one tells the namespaces that a component
would have, and one writes a configuration.

* **`Subcommand`** — a command with its values.
* **`Subcommand.ofArguments`** — the command that a line of arguments asks for. -/

namespace ComponentScaffold

/-- What scaffolding a component is given. -/
structure NewOptions where
  /-- The kind of the component. -/
  kind : ComponentKind
  /-- Its name. -/
  name : String
  /-- The folder it goes to, if it is not the current directory. -/
  directory : Option Path
  /-- The folder from which the root is looked for, if it is not the current directory. -/
  root : Option Path
  /-- Whether a view-model is wanted too. -/
  viewModel : Bool
  /-- Whether nothing is to be written. -/
  dryRun : Bool
deriving DecidableEq, Repr

/-- What telling namespaces is given. -/
structure NamespaceOptions where
  /-- The folder that the component would lie in. -/
  folder : Path
  /-- Its name. -/
  name : String
  /-- The folder from which the root is looked for, if it is not the current directory. -/
  root : Option Path
  /-- Whether JSON is wanted. -/
  json : Bool
deriving DecidableEq, Repr

/-- What writing a configuration is given. -/
structure InitOptions where
  /-- The folder it goes to, if it is not the current directory. -/
  folder : Option Path
  /-- Whether a configuration that is there may be overwritten. -/
  force : Bool
deriving DecidableEq, Repr

/-- **A command** of the program. -/
inductive Subcommand
  /-- Scaffold a component. -/
  | new (options : NewOptions)
  /-- Tell the namespaces of a component. -/
  | namespace (options : NamespaceOptions)
  /-- Write a configuration. -/
  | init (options : InitOptions)
deriving DecidableEq, Repr

/-- Which command it is. -/
inductive CommandKind
  /-- The one that scaffolds. -/
  | new
  /-- The one that tells namespaces. -/
  | namespace
  /-- The one that writes a configuration. -/
  | init
deriving DecidableEq, Repr

namespace CommandKind

/-- The names of a command. -/
def names : CommandKind → List String
  | .new => ["new", "n"]
  | .namespace => ["namespace", "ns"]
  | .init => ["init"]

/-- The command of a name. -/
def ofName? (name : String) : Option CommandKind :=
  [CommandKind.new, .namespace, .init].find? (·.names.contains name)

/-- What a command takes. -/
def form : CommandKind → Form
  | .new => ⟨[.kind, .name],
      [⟨"dir", some 'd', .value .directory⟩, ⟨"root", some 'r', .value .root⟩,
        ⟨"view-model", none, .mark .viewModel⟩, ⟨"dry-run", none, .mark .dryRun⟩]⟩
  | .namespace => ⟨[.folder, .name],
      [⟨"root", some 'r', .value .root⟩, ⟨"json", none, .mark .json⟩]⟩
  | .init => ⟨[],
      [⟨"cwd", some 'c', .value .configFolder⟩, ⟨"force", some 'f', .mark .force⟩]⟩

/-- The command with the values given for it. -/
def withValues (command : CommandKind) (given : List (Slot × String)) :
    Except UsageStop Subcommand :=
  let path (slot : Slot) : Option Path := (given.lookup slot).map Path.mk
  let marked (slot : Slot) : Bool := (given.lookup slot).isSome
  match command with
  | .new =>
    match (given.lookup .kind).bind ComponentKind.parse?, given.lookup .name with
    | some kind, some name =>
      .ok (.new ⟨kind, name, path .directory, path .root, marked .viewModel, marked .dryRun⟩)
    | _, _ => .error .missingOperand
  | .namespace =>
    match path .folder, given.lookup .name with
    | some folder, some name => .ok (.namespace ⟨folder, name, path .root, marked .json⟩)
    | _, _ => .error .missingOperand
  | .init => .ok (.init ⟨path .configFolder, marked .force⟩)

end CommandKind

namespace Subcommand

/-- The word that asks for help in place of a command. -/
def helpWord : String := "help"

/-- Where asking for help on something stops. Only the commands and the help itself have any. -/
def helpOn : List String → UsageStop
  | [] => .help
  | [topic] =>
    if topic = helpWord || (CommandKind.ofName? topic).isSome then .help else .unknownCommand
  | _ => .unknownCommand

/-- Whether a word stands in the place of a command. -/
def isCommandWord (word : String) : Bool := word = helpWord || (CommandKind.ofName? word).isSome

/-- Where an option stops that stands before any command. -/
def leadingLong (name : String) (attached : Option String) : UsageStop :=
  if name = "help" || name = "version" then
    if attached.isSome then .unexpectedValue else if name = "help" then .help else .version
  else .unknownArgument

/-- Where short options stop that stand before any command. -/
def leadingShort : List Char → UsageStop
  | 'h' :: _ => .help
  | 'V' :: _ => .version
  | _ => .unknownArgument

/-- Where a word stops that follows `--` before any command. -/
def leadingOperand : List String → UsageStop
  | [] => .nothing
  | word :: _ => if isCommandWord word then .unknownArgument else .unknownCommand

/-- **The command that a line of arguments asks for.** -/
def ofArguments : List String → Except UsageStop Subcommand
  | [] => .error .nothing
  | first :: rest =>
    match CommandKind.ofName? first with
    | some command => do command.withValues (← command.form.read rest)
    | none =>
      if first = helpWord then .error (helpOn rest)
      else if first = "--" then .error (leadingOperand rest)
      else match longOption? first, shortOptions? first with
        | some (name, attached), _ => .error (leadingLong name attached)
        | none, some names => .error (leadingShort names)
        | none, none => .error .unknownCommand

/-- How the commands are written. -/
def usage : List String :=
  ["new KIND NAME [--dir DIR] [--root DIR] [--view-model] [--dry-run]",
    "namespace DIR NAME [--root DIR] [--json]",
    "init [--cwd DIR] [--force]"]

end Subcommand

end ComponentScaffold
