import ComponentScaffold.Shell.Extended.Utility.Declare
import ComponentScaffold.Shell.Utility.Arguments

/-! # Switches and arguments

* **`Extended.set`** — changes the options of the shell and its arguments.
* **`Extended.shopt`** — changes the switches of the extended dialect.
* **`Extended.shift`** — drops arguments.
* **`Extended.getopts`** — finds the options in arguments.
* **`Extended.compute`** — evaluates expressions. -/

namespace ComponentScaffold

namespace Shell

namespace Extended

open Utility

/-! ## Options -/

/-- The options that have names and no letters. -/
def letterlessNames : List String :=
  ["emacs", "history", "ignoreeof", "interactive-comments", "nolog", "pipefail", "posix", "vi"]

/-- The names of all options, in order. -/
def optionTable : List String :=
  let lettered := extendedOptionNames ++ optionNames.filter fun entry => "efnxvCabum".toList.contains entry.1
  (lettered.map Prod.snd ++ letterlessNames).mergeSort fun a b => decide (a ≤ b)

/-- A name and whether it is on, in a table. -/
def tableLine (name : String) (isOn : Bool) : Octets :=
  let gap := String.ofList (List.replicate (15 - name.length) ' ')
  octets (name ++ gap ++ "\t" ++ (if isOn then "on" else "off") ++ "\n")

/-- The state of the options, as a table or as the commands that bring it about. -/
def optionListing (asTable : Bool) (context : Context) : Octets :=
  optionTable.flatMap fun name =>
    let isOn := (namesOn context).contains name
    if asTable then tableLine name isOn
    else octets ("set " ++ (if isOn then "-o " else "+o ") ++ name ++ "\n")

/-- The letters of options that `set` takes. -/
def settingLetters : List Char := "abefhkmnptuvxBCEHPT".toList

/-- Turn the options of some letters on or off; the long ones are named by the arguments behind. -/
def putLetters (isOn : Bool) : (letters : Octets) → List Octets → Exec (List Octets)
  | [], rest => return rest
  | 'o' :: letters, rest => do
    match rest with
    | [] =>
      let _ ← say (optionListing isOn (← context))
      putLetters isOn letters []
    | name :: rest =>
      putNamedOption isOn name
      putLetters isOn letters rest
  | letter :: letters, rest => do
    if !settingLetters.contains letter then
      warn ((if isOn then '-' else '+') :: letter :: octets ": invalid option")
      failUsage
    putOption isOn letter
    putLetters isOn letters rest

/-- The arguments behind options, which are turned on or off, if those are new arguments. -/
def takeSettings : (bound : Nat) → List Octets → Exec (Option (List Octets))
  | 0, _ => return none
  | _ + 1, [] => return none
  | bound + 1, argument :: rest =>
    match argument with
    | ['-'] => do
      changeContext fun c => { c with options := c.options.filter fun o => o ≠ 'x' && o ≠ 'v' }
      return if rest.isEmpty then none else some rest
    | ['+'] => takeSettings bound rest
    | ['-', '-'] => return some rest
    | '-' :: letters => do takeSettings bound (← putLetters true letters rest)
    | '+' :: letters => do takeSettings bound (← putLetters false letters rest)
    | _ => return some (argument :: rest)

/-- **Change options and arguments**, or list the variables. -/
def set : Utility := fun _ arguments => do
  if arguments.isEmpty then
    return ← say ((sortedVariables (← context) fun _ => true).flatMap fun (name, held) => settingText name held)
  if let some arguments ← takeSettings (arguments.length + 1) arguments then
    changeContext fun c => { c with arguments := arguments }
  return 0

/-! ## Switches -/

/-- Whether a switch is on. -/
def isSwitched (context : Context) (name : String) : Bool := context.switches.contains name

/-- Turn a switch on or off. -/
def putSwitch (isOn : Bool) (name : String) : Exec Unit :=
  changeContext fun c =>
    let others := c.switches.filter (· ≠ name)
    { c with switches := if isOn then name :: others else others }

/-- What `shopt` works on: the switches, or the options. -/
structure SwitchKind where
  /-- The names, in order. -/
  names : List String
  /-- Whether one is on. -/
  isOn : Context → String → Bool
  /-- Turns one on or off. -/
  put : Bool → String → Exec Unit
  /-- What is said about an unknown name. -/
  unknown : String
  /-- The command that brings a state about. -/
  command : Bool → String

/-- The switches. -/
def SwitchKind.switches : SwitchKind where
  names := switchNames.map Prod.fst
  isOn := isSwitched
  put := putSwitch
  unknown := "invalid shell option name"
  command isOn := if isOn then "shopt -s " else "shopt -u "

/-- The options. -/
def SwitchKind.options : SwitchKind where
  names := optionTable
  isOn context name := (namesOn context).contains name
  put isOn name := putNamedOption isOn (octets name)
  unknown := "invalid option name"
  command isOn := if isOn then "set -o " else "set +o "

/-- A switch as it is listed. -/
def SwitchKind.line (kind : SwitchKind) (asCommand : Bool) (context : Context) (name : String) : Octets :=
  let isOn := kind.isOn context name
  if asCommand then octets (kind.command isOn ++ name ++ "\n") else tableLine name isOn

/-- Refuse an unknown switch. -/
def SwitchKind.check (kind : SwitchKind) (name : Octets) : Exec Unit :=
  if kind.names.any fun known => octets known = name then return ()
  else fail (name ++ octets s!": {kind.unknown}")

/-- **Change switches**, or list them. -/
def shopt : Utility := fun _ arguments => do
  let (options, operands) ← options "psuqo" "" arguments
  let has (letter : Char) : Bool := options.any fun option => option.1 = letter
  let kind := if has 'o' then SwitchKind.options else SwitchKind.switches
  if has 's' && has 'u' then fail (octets "cannot set and unset shell options simultaneously")
  if operands.isEmpty then
    if has 'q' then return 0
    let context ← context
    let isListed (name : String) : Bool :=
      if has 's' then kind.isOn context name else if has 'u' then !kind.isOn context name else true
    return ← say ((kind.names.filter isListed).flatMap (kind.line (has 'p') context))
  if has 's' || has 'u' then
    return ← forAll operands fun name => do
      kind.check name
      kind.put (has 's') (String.ofList name)
  forAll operands fun name => do
    kind.check name
    let context ← context
    if !has 'q' then
      let _ ← say (kind.line (has 'p') context (String.ofList name))
    if !kind.isOn context (String.ofList name) then
      setStatus 1
      throw .failure

/-! ## Arguments -/

/-- End the process because a utility was given too many arguments. -/
def endForArguments {α : Type} : Exec α := do
  warn (octets "too many arguments")
  throw (.exit (some 1))

/-- **Drop the first arguments**, one or as many as are told. -/
def shift : Utility := fun _ arguments => do
  match if arguments.head? = some ['-', '-'] then arguments.tail else arguments with
  | _ :: _ :: _ => endForArguments
  | [argument] =>
    match intOf? argument with
    | none => fail (argument ++ octets ": numeric argument required")
    | some count =>
      if count < 0 then fail (argument ++ octets ": shift count out of range")
      drop count.toNat
  | [] => drop 1
where
  /-- Drop so many arguments, if there are so many. -/
  drop (count : Nat) : Exec Nat := do
    let held := (← context).arguments
    if held.length < count then
      if (← context).switches.contains "shift_verbose" then
        fail (natText count ++ octets ": shift count out of range")
      return 1
    changeContext fun c => { c with arguments := held.drop count }
    return 0

/-! ## Finding options -/

/-- Take note of an option that was found, and of where the next one is. -/
def noteFound (name : Octets) (letter : Char) (index : Nat) (offset : Option Nat) : Exec Unit := do
  assign optionIndexName (natText (index + 1)) false
  changeContext fun c => { c with optionIndex := index + 1, optionOffset := offset }
  requireReference name 1
  putNamed name [letter]

/-- Take note of an option that is not as it should be. In the quiet manner its letter becomes the value, else there
is a complaint, unless those are not wanted. -/
def refuseLetter (quiet : Bool) (letter : Char) (message : String) : Exec Unit := do
  let context ← context
  if quiet then assign optionValueName [letter] false
  else
    changeContext fun c => c.withVariable optionValueName none
    if value? context (octets "OPTERR") ≠ some ['0'] then
      complain (context.name ++ octets s!": {message} -- " ++ [letter, '\n'])

/-- Find the next option among arguments. -/
def findLetter (letters name : Octets) (arguments : List Octets) : Exec Nat := do
  let c ← context
  let index := min (c.optionIndex - 1) arguments.length
  let quiet := letters.head? = some ':'
  let letters := if quiet then letters.tail else letters
  match nextOption arguments index c.optionOffset with
  | .done index =>
    changeContext fun c => c.withVariable optionValueName none
    noteFound name '?' index none
    return 1
  | .letter c rest index =>
    let length := ((arguments[index - 1]?).getD []).length
    let offset := if rest.isEmpty then none else some (length - rest.length)
    let behind := if rest.isEmpty then index else index - 1
    let note (letter : Char) : Exec Unit := do
      noteFound name letter behind none
      changeContext fun c => { c with optionIndex := index + 1, optionOffset := offset }
    match isKnownOption letters c with
    | none =>
      refuseLetter quiet c "illegal option"
      note '?'
    | some false =>
      changeContext fun c => c.withVariable optionValueName none
      note c
    | some true =>
      if !rest.isEmpty then
        assign optionValueName rest false
        noteFound name c index none
      else match arguments[index]? with
        | some value =>
          assign optionValueName value false
          noteFound name c (index + 1) none
        | none =>
          refuseLetter quiet c "option requires an argument"
          noteFound name (if quiet then ':' else '?') index none
    return 0

/-- **Find the next option** among the arguments of the script, or those that are given. -/
def getopts : Utility := fun _ arguments => do
  match (← options "" "" arguments).2 with
  | letters :: name :: rest =>
    let held := (← context).arguments
    findLetter letters name (if rest.isEmpty then held else rest)
  | _ => failUsage

/-! ## Expressions -/

/-- **Evaluate expressions.** The last one tells the status. -/
def compute : Utility := fun _ arguments => do
  let operands := if arguments.head? = some ['-', '-'] then arguments.tail else arguments
  if operands.isEmpty then fail (octets "expression expected")
  let values ← operands.mapM evaluateText
  return if values.getLast? = some 0 then 1 else 0

end Extended

end Shell

end ComponentScaffold
