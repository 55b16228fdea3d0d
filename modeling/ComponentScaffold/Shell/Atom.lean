import ComponentScaffold.Shell.Engine
import ComponentScaffold.Shell.Extended.Arithmetic
import ComponentScaffold.Shell.Pattern

/-! # Values in words

When a command is run, values are put in place of the parameters and expressions in its words. What comes of a word is
made of atoms: characters that are quoted or not, and marks between fields.

* **`Shell.Atom`** — a part of an expanded word.
* **`Shell.parameterValue?`** — the value of a parameter.
* **`Shell.evaluateText`** — the value of an expression. -/

namespace ComponentScaffold

namespace Shell

/-! ## Values -/

/-- The letters of the options in the order in which they are listed, with their long names. -/
def optionNames : List (Char × String) :=
  [('e', "errexit"), ('f', "noglob"), ('I', "ignoreeof"), ('i', "interactive"), ('m', "monitor"),
    ('n', "noexec"), ('s', "stdin"), ('x', "xtrace"), ('v', "verbose"), ('V', "vi"), ('E', "emacs"),
    ('C', "noclobber"), ('a', "allexport"), ('b', "notify"), ('u', "nounset"), ('p', "privileged")]

/-- The long names of the options that the extended dialect has on top. -/
def extendedOptionNames : List (Char × String) :=
  [('B', "braceexpand"), ('T', "functrace"), ('h', "hashall"), ('H', "histexpand"), ('k', "keyword"),
    ('E', "errtrace"), ('t', "onecmd"), ('P', "physical"), ('p', "privileged")]

/-- **The switches of the extended dialect**, each with whether it is on from the start. -/
def switchNames : List (String × Bool) :=
  let on := ["checkwinsize", "cmdhist", "complete_fullquote", "extquote", "force_fignore", "globasciiranges",
    "globskipdots", "hostcomplete", "interactive_comments", "patsub_replacement", "progcomp", "promptvars",
    "sourcepath"]
  let names := ["autocd", "assoc_expand_once", "cdable_vars", "cdspell", "checkhash", "checkjobs", "checkwinsize",
    "cmdhist", "compat31", "compat32", "compat40", "compat41", "compat42", "compat43", "compat44",
    "complete_fullquote", "direxpand", "dirspell", "dotglob", "execfail", "expand_aliases", "extdebug", "extglob",
    "extquote", "failglob", "force_fignore", "globasciiranges", "globskipdots", "globstar", "gnu_errfmt",
    "histappend", "histreedit", "histverify", "hostcomplete", "huponexit", "inherit_errexit",
    "interactive_comments", "lastpipe", "lithist", "localvar_inherit", "localvar_unset", "login_shell",
    "mailwarn", "no_empty_cmd_completion", "nocaseglob", "nocasematch", "noexpand_translation", "nullglob",
    "patsub_replacement", "progcomp", "progcomp_alias", "promptvars", "restricted_shell", "shift_verbose",
    "sourcepath", "varredir_close", "xpg_echo"]
  names.map fun name => (name, on.contains name)

/-- The characters that part fields, if they are set. -/
def separators? (context : Context) : Option Octets := value? context (octets "IFS")

/-- The characters that part fields. -/
def separators (context : Context) : Octets := (separators? context).getD [' ', '\t', '\n']

/-- What stands between arguments that are joined. -/
def joint (context : Context) : Octets :=
  match separators? context with
  | some found => found.take 1
  | none => [' ']

/-- The letters of the options of the extended dialect in the order in which they are told. -/
def extendedLetters : List Char := "abefhikmnprtuvxBCEHPTcs".toList

/-- The letters of the options that are on. -/
def optionLetters (context : Context) : Octets :=
  if context.isExtended then extendedLetters.filter context.options.contains
  else (optionNames.reverse.map Prod.fst).filter context.options.contains

/-- The names of the calls that run, which are told within functions. -/
def callNames (context : Context) : List Octets :=
  if context.locals.isEmpty then [] else context.calls.map Call.name

/-- The parts of the version of the extended dialect. -/
def versionParts : List String := ["5", "2", "15", "1", "release", "x86_64-pc-linux-gnu"]

/-- The entries of the variables of the extended dialect that follow what happens. -/
def changingEntries? (context : Context) (name : Octets) : Option (List Octets) :=
  if !context.isExtended then none
  else match String.ofList name with
    | "PIPESTATUS" =>
      some ((if context.stageStatuses.isEmpty then [context.status] else context.stageStatuses).map natText)
    | "FUNCNAME" => some (callNames context)
    | "BASH_SOURCE" => some (context.calls.map Call.source)
    | "BASH_LINENO" => some (context.calls.map fun call => natText call.line)
    | "BASH_VERSINFO" => some (versionParts.map octets)
    | "DIRSTACK" => some (context.folder :: context.folders)
    | "GROUPS" => some [['0']]
    | _ => none

/-- The letters of options with their long names, and the names of the other switches, that are on. -/
def namesOn (context : Context) : List String :=
  ((extendedOptionNames ++ optionNames.filter fun entry => "efnxvCabum".toList.contains entry.1).filter
    fun entry => context.has entry.1).map Prod.snd ++
  (["pipefail", "posix", "history", "interactive-comments"].filter fun name =>
    name = "interactive-comments" || context.switches.contains name)

/-- The values of variables that follow what happens. -/
def changingValue? (context : Context) (name : Octets) : Option Octets :=
  if name = octets "LINENO" then some (natText context.line)
  else if !context.isExtended then none
  else match String.ofList name with
    | "BASHPID" => some (natText context.process)
    | "BASH_SUBSHELL" => some (if context.isCopy then ['1'] else ['0'])
    | "SHELLOPTS" => some (octets (":".intercalate ((namesOn context).mergeSort fun a b => decide (a ≤ b))))
    | "BASHOPTS" =>
      let isTold (name : String) : Bool := (switchNames.lookup name).isSome
      some (octets (":".intercalate ((context.switches.filter isTold).mergeSort fun a b => decide (a ≤ b))))
    | "RANDOM" => some (natText ((context.line * 7919 + context.status * 104729 + 12345) % 32768))
    | "SECONDS" => some ['0']
    | _ => (changingEntries? context name).bind List.head?

/-- The value of a variable, if it has one. -/
def variableValue? (context : Context) (name : Octets) : Option Octets :=
  let name := context.realName name
  (value? context name).orElse fun _ => changingValue? context name

/-- The value of a parameter as one text, if it has one. -/
def parameterValue? (context : Context) : Parameter → Option Octets
  | .variable name => variableValue? context name
  | .argument 0 => some context.name
  | .argument (index + 1) => context.arguments[index]?
  | .arguments _ => some (joinWith (joint context) context.arguments)
  | .count => some (natText context.arguments.length)
  | .status => some (natText context.status)
  | .options => some (optionLetters context)
  | .process => some (natText context.process)
  | .background => context.lastBackground.map natText

/-- How a parameter is called in a complaint. -/
def Parameter.label : Parameter → Octets
  | .variable name => name
  | .argument index => natText index
  | .arguments joined => if joined then ['*'] else ['@']
  | .count => ['#']
  | .status => ['?']
  | .options => ['-']
  | .process => ['$']
  | .background => ['!']

/-! ## Atoms -/

/-- A part of an expanded word. -/
inductive Atom
  /-- A character, which may stand for others in a pattern unless it is quoted. -/
  | char (c : Char) (quoted : Bool)
  /-- A character of a value that is not quoted, where the word may be split. -/
  | loose (c : Char)
  /-- The start of a field that may stay empty. -/
  | start
  /-- The end of a field, even of an empty one. -/
  | parting
  /-- The end of a field, unless it is empty. -/
  | gap
deriving DecidableEq, Repr

/-- How a word is expanded. -/
structure Manner where
  /-- Whether it is split into fields. -/
  splits : Bool
  /-- Whether its own characters can be where it is split. -/
  isLoose : Bool
  /-- Whether it is the value of an assignment, in which a tilde counts after each colon. -/
  isValue : Bool

/-- The atoms of a value. -/
def valueAtoms (quoted : Bool) (value : Octets) : List Atom :=
  value.map fun c => if quoted then .char c true else .loose c

/-- The atoms of quoted values, each of which is a field. -/
def fieldAtoms (values : List Octets) : List Atom :=
  [Atom.parting].intercalate (values.map fun value => .start :: valueAtoms true value)

/-- The atoms of several values. -/
def listAtoms (context : Context) (manner : Manner) (joined quoted : Bool) (values : List Octets) : List Atom :=
  if !manner.splits || (joined && quoted) then valueAtoms quoted (joinWith (joint context) values)
  else if quoted then fieldAtoms values
  else [Atom.gap].intercalate (values.map (valueAtoms false))

/-- The atoms of all arguments. -/
def argumentAtoms (context : Context) (manner : Manner) (joined quoted : Bool) : List Atom :=
  listAtoms context manner joined quoted context.arguments

/-- The character of an atom. -/
def Atom.char? : Atom → Option Char
  | .char c _ => some c
  | .loose c => some c
  | _ => none

/-- The text of atoms. -/
def atomsText (atoms : List Atom) : Octets := atoms.filterMap Atom.char?

/-- The letters of atoms, quoted or not. -/
def atomsLetters (atoms : List Atom) : List Lettered :=
  atoms.filterMap fun atom =>
    match atom with
    | .char c quoted => some (c, quoted)
    | .loose c => some (c, false)
    | _ => none

/-! ## Tildes -/

/-- The home directory that a tilde before a name stands for. -/
def home? (context : Context) (name : Octets) : Option Octets :=
  if name.isEmpty then value? context (octets "HOME")
  else if name = octets "root" then some (octets "/root")
  else none

/-- The text of a piece that is an unquoted character. -/
def plainChar? : Piece → Option Char
  | .char c false => some c
  | _ => none

/-- A word with the home directory in place of a tilde at its start, up to a slash, or also a colon in a
value. -/
def replaceTilde (context : Context) (isValue : Bool) : Word → Word
  | .char '~' false :: rest =>
    let isEnd (c : Char) : Bool := c == '/' || (isValue && c == ':')
    let name := rest.takeWhile fun piece => (plainChar? piece).any fun c => !isEnd c
    let isClosed : Bool := match rest[name.length]? with
      | none => true
      | some piece => (plainChar? piece).any isEnd
    match if isClosed then home? context (name.filterMap plainChar?) else none with
    | some home => home.map (fun c => Piece.char c true) ++ rest.drop name.length
    | none => .char '~' false :: rest
  | word => word

/-- A value with home directories in place of the tildes after its colons. -/
def replaceTildes (context : Context) (isValue : Bool) (word : Word) : Word :=
  if !isValue then replaceTilde context false word else
    let isColon (piece : Piece) : Bool := plainChar? piece == some ':'
    let parts := word.splitOnP isColon
    [Piece.char ':' false].intercalate (parts.map (replaceTilde context true))

/-! ## Entries -/

/-- The entries of a variable, if it has such. -/
def entriesOf? (context : Context) (name : Octets) : Option Entries :=
  let name := context.realName name
  match variableOf? context name with
  | some held => held.entries
  | none => (changingEntries? context name).map Entries.ofList

/-- The keys and the values of a variable: one without entries has a single one, if it has a value. -/
def listedOf (context : Context) (name : Octets) : List (Octets × Octets) :=
  match entriesOf? context name with
  | some entries => entries.listed
  | none => ((variableValue? context name).map fun value => (['0'], value)).toList

/-- Whether the keys of the entries of a variable are texts. -/
def isTable (context : Context) (name : Octets) : Bool :=
  (entriesOf? context name).any Entries.isTable ||
    (variableOf? context (context.realName name)).any fun held => held.traits.contains 'A'

/-- The value of the entry of a key, which is settled. -/
def entryValue? (context : Context) (name key : Octets) : Option Octets := (listedOf context name).lookup key

/-- The name and the key of a reference. -/
def cutReference (reference : Octets) : Octets × Option Octets :=
  let name := reference.takeWhile (· ≠ '[')
  let behind := reference.drop name.length
  (name, if behind.isEmpty then none else some behind.tail.dropLast)

/-- A number for which one behind the last entry stands, where numbers below zero are counted from there. -/
def settleIndex? (context : Context) (name : Octets) (index : Int) : Option Nat :=
  let length : Nat := match entriesOf? context name with
    | some entries => entries.next
    | none => if (variableValue? context name).isSome then 1 else 0
  if 0 ≤ index then some index.toNat
  else if 0 ≤ index + length then some (index + length).toNat
  else none

open Arithmetic.Extended in
/-- How the variables of expressions are found, whose values are expressions themselves, at most so many times over. -/
def expressionHooks (context : Context) : (bound : Nat) → Hooks
  | 0 =>
    { look := fun _ reference => .error ⟨reference, "expression recursion level exceeded", reference⟩
      settle := fun _ reference => .ok reference }
  | bound + 1 =>
    let inner := expressionHooks context bound
    let settle (assigned : List (Octets × Int)) (reference : Octets) : Except Fault Octets :=
      match cutReference reference with
      | (_, none) => .ok reference
      | (name, some key) =>
        if isTable context name then .ok reference
        else do
          let (index, _) ← evaluate inner assigned key
          match settleIndex? context name index with
          | some index => return name ++ '[' :: natText index ++ [']']
          | none => throw ⟨reference, "bad array subscript", []⟩
    { settle := settle
      look := fun assigned reference => do
        let settled ← settle assigned reference
        match assigned.lookup settled with
        | some value => return value
        | none =>
          let text? := match cutReference settled with
            | (name, none) => variableValue? context name
            | (name, some key) => entryValue? context name key
          match text? with
          | some text => return (← evaluate inner assigned text).1
          | none => if context.has 'u' then throw ⟨settled, "unbound variable", []⟩ else return 0 }

/-- How often values are expressions that lead to others. -/
def maxExpressions : Nat := 64

/-- **Put an entry into a variable**, by a key that is settled. -/
def putEntry (name key value : Octets) : Exec Unit := do
  let name := (← context).realName name
  let held := (variableOf? (← context) name).getD .empty
  if held.fixed then failFixed name
  let entries : Entries := match held.entries with
    | some (.table entries) =>
      if entries.any fun entry => entry.1 = key then
        .table (entries.map fun entry => if entry.1 = key then (key, value) else entry)
      else .table (entries ++ [(key, value)])
    | some (.row entries) => .row (putSorted ((natOf? key).getD 0) value entries)
    | none =>
      if held.traits.contains 'A' then .table [(key, value)]
      else .row (putSorted ((natOf? key).getD 0) value (held.value.map fun value => (0, value)).toList)
  changeContext fun c => c.withVariable name (some { held with value := entries.main?, entries := some entries })

/-- Give what a reference names a value. -/
def putReference (reference value : Octets) : Exec Unit :=
  match cutReference reference with
  | (name, none) => assign name value false
  | (name, some key) => putEntry name key value

/-! ## Expressions -/

/-- Complain about a parameter without a value, and end the process. -/
def failUnset {α : Type} (message : Octets) : Exec α := do
  warn message
  let context ← context
  throw (.exit (some (if context.isCopy || !context.has 'c' then 1 else 127)))

/-- The value of an expression of the extended dialect, which is evaluated for a command of a name if there is one. -/
def evaluateExtended (command : String) (text : Octets) : Exec Int := do
  let before ← context
  match Arithmetic.Extended.evaluate (expressionHooks before maxExpressions) [] text with
  | .ok (value, assigned) =>
    assigned.reverse.forM fun (reference, number) => putReference reference (intText number)
    return value
  | .error fault =>
    if fault.message = "unbound variable" then failUnset (fault.expression ++ octets ": unbound variable")
    let place := if fault.message = "bad array subscript" then []
      else octets " (error token is \"" ++ fault.token ++ octets "\")"
    fail (octets command ++ fault.expression ++ octets s!": {fault.message}" ++ place)

/-- **The value of an expression.** What it assigns is assigned. -/
def evaluateText (text : Octets) : Exec Int := do
  let before ← context
  if before.isExtended then return ← evaluateExtended "" text
  let look (name : Octets) : Except Arithmetic.Fault Int :=
    match variableValue? before name with
    | none => .ok 0
    | some value =>
      match Arithmetic.valueOf? value with
      | some number => .ok number
      | none => .error (.number value)
  match Arithmetic.evaluate look text with
  | .ok (value, assigned) =>
    assigned.reverse.forM fun (name, number) => assign name (intText number) false
    return value
  | .error (.expression message) =>
    fail (octets s!"arithmetic expression: {message}: \"" ++ text ++ ['"'])
  | .error (.number text) => fail (octets "Illegal number: " ++ text)
  | .error (.unset name) => fail (name ++ octets ": parameter not set")

/-- **Settle the key** of an entry: that of a table is a text, and that of a row an expression. -/
def settleKey (name key : Octets) : Exec Octets := do
  if isTable (← context) name then return key
  let index ← evaluateText key
  match settleIndex? (← context) name index with
  | some index => return natText index
  | none => fail (name ++ '[' :: key ++ octets "]: bad array subscript")

/-- Refuse a parameter without a value, if such are refused. -/
def requireSet (parameter : Parameter) (value : Option Octets) : Exec Unit := do
  let context ← context
  if value.isNone && context.has 'u' then
    if context.isExtended then failUnset (parameter.label ++ octets ": unbound variable")
    fail (parameter.label ++ octets ": parameter not set")

/-- How words inside a word are expanded. -/
abbrev Inner := Manner → Word → Exec (List Atom)

/-- What an empty or missing value is called. -/
def missing (orEmpty : Bool) : String :=
  if orEmpty then "parameter not set or null" else "parameter not set"

end Shell

end ComponentScaffold
