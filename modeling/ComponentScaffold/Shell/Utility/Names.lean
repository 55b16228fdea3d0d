import ComponentScaffold.Shell.Grammar
import ComponentScaffold.Shell.Installation
import ComponentScaffold.Shell.Utility.Basic

/-! # Utilities for names of commands

* **`Utility.setAlias`**, **`Utility.unalias`** — other words for commands.
* **`Utility.describe`** — what the names of commands stand for. -/

namespace ComponentScaffold

namespace Shell

namespace Utility

/-- The names of the utilities that are not special. -/
def regularNames : List String :=
  ["alias", "bg", "cd", "chdir", "command", "echo", "false", "fg", "getopts", "hash", "jobs", "kill",
    "printf", "pwd", "read", "test", "[", "true", "type", "ulimit", "umask", "unalias", "wait"]

/-- Whether a utility is special: what goes wrong in it ends the shell, and assignments before it stay. -/
def isSpecial (name : Octets) : Bool :=
  let name := String.ofList name
  Rules.specialNames.contains name || name = "local"

/-- Another word for a command, as it is listed. -/
def aliasLine (held : Octets × Octets) : Octets :=
  held.1 ++ '=' :: quoted held.2 ++ ['\n']

/-- Take another word for a command, or list one. -/
def putAlias (argument : Octets) : Exec Nat := do
  let name := argument.takeWhile (· ≠ '=')
  let held := (← context).aliases
  if argument.contains '=' && !name.isEmpty then
    let others := held.filter fun other => other.1 ≠ name
    changeContext fun c =>
      { c with aliases := others ++ [(name, argument.drop (name.length + 1))] }
    return 0
  match held.lookup argument with
  | some value => say (aliasLine (argument, value))
  | none =>
    complain (octets "alias: " ++ argument ++ octets " not found\n")
    return 1

/-- **Take other words for commands**, or list them. -/
def setAlias : Utility := fun _ arguments => do
  if arguments.isEmpty then return ← say ((← context).aliases.flatMap aliasLine)
  let statuses ← arguments.mapM putAlias
  return if statuses.all (· = 0) then 0 else 1

/-- **Give up other words for commands.** -/
def unalias : Utility := fun _ arguments => do
  let (options, names) ← options "a" "" arguments
  if !options.isEmpty then
    changeContext fun c => { c with aliases := [] }
    return 0
  let held := (← context).aliases
  let unknown := names.filter fun name => (held.lookup name).isNone
  unknown.forM fun name => complain (octets "unalias: " ++ name ++ octets " not found\n")
  changeContext fun c => { c with aliases := c.aliases.filter fun held => !names.contains held.1 }
  return if unknown.isEmpty then 0 else 1

/-! ## What names stand for -/

/-- What a name of a command stands for. -/
inductive Meaning
  /-- A word with a meaning in scripts. -/
  | keyword
  /-- Another word for a command. -/
  | otherWord (value : Octets)
  /-- A function. -/
  | function
  /-- A utility. -/
  | utility (isSpecial : Bool)
  /-- A program, by its path. -/
  | program (path : Octets)

/-- What a name of a command stands for, if it stands for something. -/
def meaning? (context : Context) (files : FileSystem) (name : Octets) : Option Meaning :=
  if reservedWords.contains (String.ofList name) then some .keyword
  else match context.aliases.lookup name with
    | some value => some (.otherWord value)
    | none =>
      if (context.functions.lookup name).isSome then some .function
      else if isSpecial name then some (.utility true)
      else if regularNames.contains (String.ofList name) then some (.utility false)
      else match programPath files context name with
        | .error _ => none
        | .ok path => if files.exists? (pathOf path) then some (.program path) else none

/-- What is said about the meaning of a name. -/
def Meaning.description (name : Octets) : Meaning → Octets
  | .keyword => name ++ octets " is a shell keyword\n"
  | .otherWord value => name ++ octets " is an alias for " ++ value ++ ['\n']
  | .function => name ++ octets " is a shell function\n"
  | .utility true => name ++ octets " is a special shell builtin\n"
  | .utility false => name ++ octets " is a shell builtin\n"
  | .program path => name ++ octets " is " ++ path ++ ['\n']

/-- The command that a name stands for. -/
def Meaning.word (name : Octets) : Meaning → Octets
  | .otherWord value => octets "alias " ++ aliasLine (name, value)
  | .program path => path ++ ['\n']
  | _ => name ++ ['\n']

/-- The status for a name that stands for nothing. -/
def notFoundStatus : Nat := 127

/-- Say what a name stands for. -/
def describeOne (verbose : Bool) (name : Octets) : Exec Nat := do
  match meaning? (← context) (← files) name with
  | some meaning => say (if verbose then meaning.description name else meaning.word name)
  | none =>
    let _ ← say (if verbose then name ++ octets ": not found\n" else [])
    return notFoundStatus

/-- **Say what names of commands stand for.** -/
def describe : Utility := fun _ arguments => do
  let statuses ← arguments.mapM (describeOne true)
  return if statuses.all (· = 0) then 0 else notFoundStatus

/-- Say what a command stands for, shortly or at length; run nothing. -/
def command : Utility := fun _ arguments => do
  let (options, operands) ← options "pvV" "" arguments
  match operands with
  | [] => return 0
  | name :: _ =>
    if options.any fun option => option.1 = 'V' then describeOne true name
    else if options.any fun option => option.1 = 'v' then describeOne false name
    else return 0

/-- Look for commands. Nothing about them is kept. -/
def hash : Utility := fun _ arguments => do
  let (_, names) ← options "rv" "" arguments
  let statuses ← names.mapM fun name => do
    match meaning? (← context) (← files) name with
    | some _ => return 0
    | none =>
      warn (name ++ octets ": not found")
      return 1
  return if statuses.all (· = 0) then 0 else 1

end Utility

end Shell

end ComponentScaffold
