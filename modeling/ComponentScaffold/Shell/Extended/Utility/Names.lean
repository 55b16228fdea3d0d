import ComponentScaffold.Shell.Condition
import ComponentScaffold.Shell.Extended.Utility.Declare
import ComponentScaffold.Shell.Utility.Names

/-! # Names of commands

* **`Extended.describe`**, **`Extended.command`** — tell what names of commands stand for.
* **`Extended.setAlias`**, **`Extended.unalias`** — other words for commands.
* **`Extended.hash`** — where programs were found. -/

namespace ComponentScaffold

namespace Shell

namespace Extended

open Utility

/-- The words with a meaning in scripts. -/
def keywords : List String :=
  ["!", "[[", "]]", "case", "coproc", "do", "done", "elif", "else", "esac", "fi", "for", "function", "if", "in",
    "select", "then", "time", "until", "while", "\x7b", "\x7d"]

/-- The names of the utilities, in order. -/
def utilityNames : List String :=
  [".", ":", "[", "alias", "bg", "bind", "break", "builtin", "caller", "cd", "command", "compgen", "complete",
    "compopt", "continue", "declare", "dirs", "disown", "echo", "enable", "eval", "exec", "exit", "export", "false",
    "fc", "fg", "getopts", "hash", "help", "history", "jobs", "kill", "let", "local", "logout", "mapfile", "popd",
    "printf", "pushd", "pwd", "read", "readarray", "readonly", "return", "set", "shift", "shopt", "source",
    "suspend", "test", "times", "trap", "true", "type", "typeset", "ulimit", "umask", "unalias", "unset", "wait"]

/-! ## Meanings -/

/-- Whether a file can be run. -/
def isRunnable (files : FileSystem) (path : Octets) : Bool :=
  files.isFile (pathOf path) && Condition.askOne files "-x" path

/-- The paths of the programs of a name. -/
def programPaths (context : Context) (files : FileSystem) (name : Octets) : List Octets :=
  if name.contains '/' then [name].filter (isRunnable files)
  else ((commandFolders context).map fun folder => inFolder folder name).filter (isRunnable files)

/-- What a name of a command stands for besides programs: what comes first is run. -/
inductive Sense
  /-- Another word for a command. -/
  | otherWord (value : Octets)
  /-- A word with a meaning in scripts. -/
  | keyword
  /-- A function. -/
  | function
  /-- A utility. -/
  | utility
  /-- A program that was found before. -/
  | hashed (path : Octets)
  /-- A program. -/
  | program (path : Octets)

/-- What a name of a command stands for. Functions are left out if told. -/
def senses (context : Context) (files : FileSystem) (skipsFunctions : Bool) (name : Octets) : List Sense :=
  let word := String.ofList name
  let alias? := if context.switches.contains "expand_aliases" then context.aliases.lookup name else none
  let known := !skipsFunctions && (context.functions.lookup name).isSome
  (alias?.map Sense.otherWord).toList ++ (if keywords.contains word then [.keyword] else []) ++
    (if known then [.function] else []) ++ (if utilityNames.contains word then [.utility] else []) ++
    ((context.found.lookup name).map fun held => Sense.hashed held.1).toList ++
    (programPaths context files name).map .program

/-- The word for a kind of meaning. -/
def Sense.kind : Sense → String
  | .otherWord _ => "alias"
  | .keyword => "keyword"
  | .function => "function"
  | .utility => "builtin"
  | .hashed _ | .program _ => "file"

/-- The path of a program. -/
def Sense.path? : Sense → Option Octets
  | .hashed path | .program path => some path
  | _ => none

/-- What is said about the meaning of a name. -/
def Sense.description (name : Octets) : Sense → Octets
  | .otherWord value => name ++ octets " is aliased to \x60" ++ value ++ octets "'\n"
  | .keyword => name ++ octets " is a shell keyword\n"
  | .function => name ++ octets " is a function\n"
  | .utility => name ++ octets " is a shell builtin\n"
  | .hashed path => name ++ octets " is hashed (" ++ path ++ octets ")\n"
  | .program path => name ++ octets " is " ++ path ++ ['\n']

/-- The command that a name stands for. -/
def Sense.word (name : Octets) : Sense → Octets
  | .otherWord value => octets "alias " ++ name ++ '=' :: Quoted.single value ++ ['\n']
  | .hashed path | .program path => path ++ ['\n']
  | _ => name ++ ['\n']

/-- Say what a name stands for, in short or at length. A name that stands for nothing is told if `tells`. -/
def describeWith (tells : Bool) (shown : Sense → Octets) (found : List Sense) (name : Octets) : Exec Nat := do
  if found.isEmpty then
    if tells then warn (name ++ octets ": not found")
    return 1
  say (found.flatMap shown)

/-- **Say what names of commands stand for.** -/
def describe : Utility := fun _ arguments => do
  let (options, names) ← options "afptP" "" arguments
  let has (letter : Char) : Bool := options.any fun option => option.1 = letter
  let statuses ← names.mapM fun name => do
    let context ← context
    let files ← files
    let all := senses context files (has 'f') name
    let all := if has 'P' then (programPaths context files name).map .program
      else if has 'a' then all.filter fun sense => !(sense matches .hashed _)
      else all.take 1
    let isShort := has 't' || has 'p' || has 'P'
    let shown (sense : Sense) : Octets :=
      if has 't' then octets (sense.kind ++ "\n")
      else if has 'p' || has 'P' then (sense.path?.map (· ++ ['\n'])).getD []
      else sense.description name
    let found := if has 'P' && !has 'a' then all.take 1 else all
    describeWith (!isShort) shown found name
  return if statuses.all (· = 0) then 0 else 1

/-- **Say what commands stand for**, shortly or at length; run nothing. -/
def command : Utility := fun _ arguments => do
  let (options, names) ← options "pvV" "" arguments
  let isLong := options.any fun option => option.1 = 'V'
  if !isLong && !(options.any fun option => option.1 = 'v') then return 0
  let statuses ← names.mapM fun name => do
    let found := (senses (← context) (← files) false name).take 1
    describeWith isLong (if isLong then Sense.description name else Sense.word name) found name
  return if names.isEmpty || statuses.any (· = 0) then 0 else 1

/-- Refuse a name that is none of a utility. -/
def builtin : Utility := fun _ arguments => do
  let (_, names) ← options "" "" arguments
  match names with
  | [] => return 0
  | name :: _ => fail (name ++ octets ": not a shell builtin")

/-- **Turn utilities on or off**, which has no effect, or list them. -/
def enable : Utility := fun _ arguments => do
  let (options, names) ← options "adnps" "f" arguments
  if names.isEmpty then
    if options.any fun option => option.1 = 'n' then return 0
    return ← say (octets ("".intercalate (utilityNames.map fun name => "enable " ++ name ++ "\n")))
  forAll names fun name => do
    if !utilityNames.contains (String.ofList name) then fail (name ++ octets ": not a shell builtin")

/-! ## Other words for commands -/

/-- Another word for a command, as it is listed. -/
def aliasLine (held : Octets × Octets) : Octets :=
  octets "alias " ++ held.1 ++ '=' :: Quoted.single held.2 ++ ['\n']

/-- Whether a text can be another word for a command. -/
def isAliasName (name : Octets) : Bool :=
  !name.any fun c => Quoted.special.contains c && c ≠ '!' && c ≠ ',' && c ≠ '^' && c ≠ '?' && c ≠ '*' &&
    c ≠ '[' && c ≠ ']' && c ≠ '\x7b' && c ≠ '\x7d' || c = '/'

/-- **Take other words for commands**, or list them. -/
def setAlias : Utility := fun _ arguments => do
  let (options, operands) ← options "p" "" arguments
  if operands.isEmpty || !options.isEmpty then
    let held := (← context).aliases.mergeSort fun a b => isBefore a.1 b.1
    let _ ← say (held.flatMap aliasLine)
  forAll operands fun argument => do
    let name := argument.takeWhile (· ≠ '=')
    let held := (← context).aliases
    if argument.contains '=' && !name.isEmpty then
      if !isAliasName name then fail ('\x60' :: name ++ octets "': invalid alias name")
      let others := held.filter fun held => held.1 ≠ name
      changeContext fun c => { c with aliases := others ++ [(name, argument.drop (name.length + 1))] }
    else match held.lookup argument with
      | some value =>
        let _ ← say (aliasLine (argument, value))
      | none => fail (argument ++ octets ": not found")

/-- **Give up other words for commands.** -/
def unalias : Utility := fun _ arguments => do
  let (options, names) ← options "a" "" arguments
  if !options.isEmpty then
    changeContext fun c => { c with aliases := [] }
    return 0
  if names.isEmpty then failUsage
  forAll names fun name => do
    if ((← context).aliases.lookup name).isNone then fail (name ++ octets ": not found")
    changeContext fun c => { c with aliases := c.aliases.filter fun held => held.1 ≠ name }

/-! ## Where programs were found -/

/-- Take note of where a program was found. -/
def noteProgram (name path : Octets) (times : Nat) : Exec Unit :=
  changeContext fun c =>
    { c with found := (name, path, times) :: c.found.filter fun held => held.1 ≠ name }

/-- The programs that were found, in a table or as the commands that bring that about. -/
def foundListing (asCommands : Bool) (held : List (Octets × Octets × Nat)) : Octets :=
  let line (entry : Octets × Octets × Nat) : Octets :=
    let times := natText entry.2.2
    if asCommands then octets "builtin hash -p " ++ entry.2.1 ++ ' ' :: entry.1 ++ ['\n']
    else List.replicate (4 - times.length) ' ' ++ times ++ '\t' :: entry.2.1 ++ ['\n']
  if asCommands then held.flatMap line else octets "hits\tcommand\n" ++ held.flatMap line

/-- Look for a program, and take note of where it is. -/
def findProgram (name : Octets) : Exec Unit := do
  let context ← context
  if name.contains '/' || utilityNames.contains (String.ofList name) ||
      (context.functions.lookup name).isSome then return ()
  match programPaths context (← files) name with
  | [] => fail (name ++ octets ": not found")
  | path :: _ => noteProgram name path 0

/-- **Look for programs**, tell where they were found, or forget it. -/
def hash : Utility := fun _ arguments => do
  let (options, names) ← options "ldrt" "p" arguments
  let has (letter : Char) : Bool := options.any fun option => option.1 = letter
  let unknown {α : Type} (name : Octets) : Exec α := fail (name ++ octets ": not found")
  if has 'r' then changeContext fun c => { c with found := [] }
  let held := (← context).found
  if names.isEmpty then
    if has 'r' then return 0
    if held.isEmpty then return ← say (octets "hash: hash table empty\n")
    return ← say (foundListing (has 'l') held)
  match options.lookup 'p' with
  | some path => forAll names fun name => noteProgram name path 0
  | none =>
    if has 'd' then
      forAll names fun name => do
        if (held.lookup name).isNone then unknown name
        changeContext fun c => { c with found := c.found.filter fun held => held.1 ≠ name }
    else if has 't' then
      forAll names fun name => do
        match held.lookup name with
        | some (path, _) =>
          let before := if names.length > 1 then name ++ ['\t'] else []
          let _ ← say (before ++ path ++ ['\n'])
        | none => unknown name
    else forAll names findProgram

end Extended

end Shell

end ComponentScaffold
