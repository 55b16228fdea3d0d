import ComponentScaffold.Shell.Engine

/-! # Utilities of the shell

A utility is a command that is part of the shell: it works on the shell's own variables, functions and
descriptors. Its options are single letters behind a minus sign.

* **`Shell.Utility`** — a utility: what it does with its arguments, and its status.
* **`Shell.Utility.options`** — the options at the start of arguments, and the arguments behind them.
* **`Shell.Utility.say`** — what it writes to its standard output. -/

namespace ComponentScaffold

namespace Shell

/-! ## How utilities are called

Where a utility of the extended dialect is called in another way, it is told how.

* **`Shell.usage`** — how the utility of a name is called. -/

/-- How utilities are called, by their names. -/
def usages : List (String × String) :=
  [(".", ". filename [arguments]"),
    ("alias", "alias [-p] [name[=value] ... ]"),
    ("bg", "bg [job_spec ...]"),
    ("builtin", "builtin [shell-builtin [arg ...]]"),
    ("cd", "cd [-L|[-P [-e]] [-@]] [dir]"),
    ("command", "command [-pVv] command [arg ...]"),
    ("declare", "declare [-aAfFgiIlnrtux] [name[=value] ...] or declare -p [-aAfFilnrtux] [name ...]"),
    ("dirs", "dirs [-clpv] [+N] [-N]"),
    ("disown", "disown [-h] [-ar] [jobspec ... | pid ...]"),
    ("echo", "echo [-neE] [arg ...]"),
    ("enable", "enable [-a] [-dnps] [-f filename] [name ...]"),
    ("eval", "eval [arg ...]"),
    ("exec", "exec [-cl] [-a name] [command [argument ...]] [redirection ...]"),
    ("exit", "exit [n]"),
    ("export", "export [-fn] [name[=value] ...] or export -p"),
    ("fc", "fc [-e ename] [-lnr] [first] [last] or fc -s [pat=rep] [command]"),
    ("fg", "fg [job_spec]"),
    ("getopts", "getopts optstring name [arg ...]"),
    ("hash", "hash [-lr] [-p pathname] [-dt] [name ...]"),
    ("help", "help [-dms] [pattern ...]"),
    ("history", "history [-c] [-d offset] [n] or history -anrw [filename] or history -ps arg [arg...]"),
    ("jobs", "jobs [-lnprs] [jobspec ...] or jobs -x command [args]"),
    ("kill", "kill [-s sigspec | -n signum | -sigspec] pid | jobspec ... or kill -l [sigspec]"),
    ("let", "let arg [arg ...]"),
    ("local", "local [option] name[=value] ..."),
    ("logout", "logout [n]"),
    ("mapfile", "mapfile [-d delim] [-n count] [-O origin] [-s count] [-t] [-u fd] [-C callback] [-c quantum]" ++
      " [array]"),
    ("popd", "popd [-n] [+N | -N]"),
    ("printf", "printf [-v var] format [arguments]"),
    ("pushd", "pushd [-n] [+N | -N | dir]"),
    ("pwd", "pwd [-LP]"),
    ("read", "read [-ers] [-a array] [-d delim] [-i text] [-n nchars] [-N nchars] [-p prompt] [-t timeout]" ++
      " [-u fd] [name ...]"),
    ("readarray", "readarray [-d delim] [-n count] [-O origin] [-s count] [-t] [-u fd] [-C callback] [-c quantum]" ++
      " [array]"),
    ("readonly", "readonly [-aAf] [name[=value] ...] or readonly -p"),
    ("return", "return [n]"),
    ("set", "set [-abefhkmnptuvxBCEHPT] [-o option-name] [--] [-] [arg ...]"),
    ("shift", "shift [n]"),
    ("shopt", "shopt [-pqsu] [-o] [optname ...]"),
    ("source", "source filename [arguments]"),
    ("suspend", "suspend [-f]"),
    ("test", "test [expr]"),
    ("times", "times"),
    ("trap", "trap [-lp] [[arg] signal_spec ...]"),
    ("type", "type [-afptP] name [name ...]"),
    ("typeset", "typeset [-aAfFgiIlnrtux] name[=value] ... or typeset -p [-aAfFilnrtux] [name ...]"),
    ("ulimit", "ulimit [-SHabcdefiklmnpqrstuvxPRT] [limit]"),
    ("umask", "umask [-p] [-S] [mode]"),
    ("unalias", "unalias [-a] name [name ...]"),
    ("unset", "unset [-f] [-v] [-n] [name ...]"),
    ("wait", "wait [-fn] [-p var] [id ...]"),
    ("break", "break [n]"),
    ("continue", "continue [n]"),
    ("caller", "caller [expr]"),
    ("bind", "bind [-lpsvPSVX] [-m keymap] [-f filename] [-q name] [-u name] [-r keyseq] [-x" ++
      " keyseq:shell-command] [keyseq:readline-function or readline-command]"),
    ("compgen", "compgen [-abcdefgjksuv] [-o option] [-A action] [-G globpat] [-W wordlist] [-F function] [-C" ++
      " command] [-X filterpat] [-P prefix] [-S suffix] [word]"),
    ("complete", "complete [-abcdefgjksuv] [-pr] [-DEI] [-o option] [-A action] [-G globpat] [-W wordlist] [-F" ++
      " function] [-C command] [-X filterpat] [-P prefix] [-S suffix] [name ...]"),
    ("compopt", "compopt [-o|+o option] [-DEI] [name ...]")]

/-- **How the utility of a name is called.** -/
def usage (name : String) : String := (usages.lookup name).getD name

/-! ## Utilities -/

/-- **A utility.** Its status is returned, zero for success. -/
abbrev Utility := Engine → List Octets → Exec Nat

namespace Utility

/-- Write to the standard output. The status says whether that went well. -/
def say (text : Octets) : Exec Nat := do
  if text.isEmpty then return 0
  match ← write outputDescriptor text with
  | none => return 0
  | some fault =>
    let context ← context
    warn (if context.isExtended then octets s!"write error: {fault.description}"
      else context.utility.getD [] ++ octets ": I/O error")
    return 1

/-- Write a complaint and give up with a status. -/
def failWith {α : Type} (status : Nat) (message : Octets) : Exec α := do
  warn message
  setStatus status
  throw .failure

/-- The status of a utility that was called in a wrong way. -/
def usageStatus : Nat := 2

/-- Say how the utility that runs is called, and give up. -/
def failUsage {α : Type} : Exec α := do
  let name := (← context).utility.getD []
  complain (name ++ octets (": usage: " ++ usage (String.ofList name) ++ "\n"))
  setStatus usageStatus
  throw .failure

/-- Options, each with the value it was given. -/
abbrev Options := List (Char × Octets)

/-- What is wrong with options. -/
inductive OptionFault
  /-- A letter is unknown. -/
  | unknown (letter : Char)
  /-- The value of an option is lacking. -/
  | lacking (letter : Char)
deriving DecidableEq, Repr

/-- The options at the start of arguments, after `started`, the rest of an argument with options: those
that are `plain`, and those that are `valued` and take the text behind them or the next argument. -/
def optionsWithin (plain valued : String) : (bound : Nat) → (started : Octets) → List Octets →
    Except OptionFault (Options × List Octets)
  | 0, _, rest => .ok ([], rest)
  | bound + 1, c :: more, rest =>
    if plain.contains c then do
      let (options, operands) ← optionsWithin plain valued bound more rest
      return ((c, []) :: options, operands)
    else if valued.contains c then
      match more, rest with
      | [], [] => .error (.lacking c)
      | [], value :: rest => do
        let (options, operands) ← optionsWithin plain valued bound [] rest
        return ((c, value) :: options, operands)
      | value, rest => do
        let (options, operands) ← optionsWithin plain valued bound [] rest
        return ((c, value) :: options, operands)
    else .error (.unknown c)
  | _ + 1, [], [] => .ok ([], [])
  | bound + 1, [], argument :: rest =>
    match argument with
    | ['-', '-'] => .ok ([], rest)
    | '-' :: c :: more => optionsWithin plain valued bound (c :: more) rest
    | _ => .ok ([], argument :: rest)

/-- Say what is wrong with options, and give up. -/
def refuseOptions {α : Type} (fault : OptionFault) : Exec α := do
  if (← context).isExtended then
    warn (match fault with
      | .unknown letter => '-' :: letter :: octets ": invalid option"
      | .lacking letter => '-' :: letter :: octets ": option requires an argument")
    failUsage
  fail (match fault with
    | .unknown letter => octets "Illegal option -" ++ [letter]
    | .lacking letter => octets "No arg for -" ++ letter :: octets " option")

/-- **The options at the start of arguments**, and the arguments behind them. -/
def options (plain valued : String) (arguments : List Octets) : Exec (Options × List Octets) := do
  let bound := arguments.foldl (fun size argument => size + (argument.length + 1)) 0 + 1
  match optionsWithin plain valued bound [] arguments with
  | .ok found => return found
  | .error fault => refuseOptions fault

/-- The arguments of a utility without options. -/
def operands (arguments : List Octets) : Exec (List Octets) := return (← options "" "" arguments).2

/-- The number that an argument writes. -/
def number (argument : Octets) : Exec Nat := do
  match natOf? argument with
  | some n => if n < Nat.pow 2 31 then return n else fail (octets "Illegal number: " ++ argument)
  | none => fail (octets "Illegal number: " ++ argument)

/-- A character of a text as it is quoted, in single quotes or, if it is one, in double quotes. -/
def quoteRuns : (inQuotes : Bool) → Octets → Octets
  | true, [] => ['"']
  | false, [] => ['\x27']
  | true, c :: rest =>
    if c = '\x27' then c :: quoteRuns true rest else '"' :: '\x27' :: c :: quoteRuns false rest
  | false, c :: rest =>
    if c = '\x27' then '\x27' :: '"' :: c :: quoteRuns true rest else c :: quoteRuns false rest

/-- **A text in quotes**, such that a shell reads the text from them. -/
def quoted (text : Octets) : Octets := '\x27' :: quoteRuns false text

end Utility

end Shell

end ComponentScaffold
