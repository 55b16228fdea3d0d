import ComponentScaffold.Shell.Utility.Variables

/-! # Utilities for arguments and options

* **`Utility.set`** — changes the options of the shell and its arguments.
* **`Utility.shift`** — drops arguments.
* **`Utility.getopts`** — finds the options in arguments, one after the other. -/

namespace ComponentScaffold

namespace Shell

namespace Utility

/-- The long names of the options in the order in which they are listed. -/
def listedOptions : List (Option Char × String) :=
  optionNames.map (fun (letter, name) => (some letter, name)) ++ [(none, "nolog"), (none, "debug")]

/-- Turn an option on or off. -/
def putOption (isOn : Bool) (letter : Char) : Exec Unit := do
  if !(optionNames.any fun entry => entry.1 = letter) && !(← context).isExtended then
    fail (octets "Illegal option -" ++ [letter])
  changeContext fun c =>
    let others := c.options.filter (· ≠ letter)
    { c with options := if isOn then letter :: others else others }

/-- The state of the options, as a table or as the commands that bring it about. -/
def optionListing (asTable : Bool) (context : Context) : Octets :=
  let isOn (letter : Option Char) : Bool := letter.any context.has
  let line (entry : Option Char × String) : String :=
    if asTable then
      let gap := String.ofList (List.replicate (16 - entry.2.length) ' ')
      entry.2 ++ gap ++ (if isOn entry.1 then "on" else "off") ++ "\n"
    else "set " ++ (if isOn entry.1 then "-o " else "+o ") ++ entry.2 ++ "\n"
  octets ((if asTable then "Current option settings\n" else "") ++
    "".intercalate (listedOptions.map line))

/-- Turn an option on or off by its long name, or list the options if no name is given. -/
def putLongOption (isOn : Bool) : List Octets → Exec (List Octets)
  | [] => do
    let _ ← say (optionListing isOn (← context))
    return []
  | name :: rest => do
    match listedOptions.find? fun entry => octets entry.2 = name with
    | some (some letter, _) => putOption isOn letter
    | some (none, _) => return rest
    | none => fail (octets "Illegal option -o " ++ name)
    return rest

/-- Turn an option of the extended dialect on or off by its long name. -/
def putNamedOption (isOn : Bool) (name : Octets) : Exec Unit := do
  let turn (letter : Char) : Exec Unit := changeContext fun c =>
    let others := c.options.filter (· ≠ letter)
    { c with options := if isOn then letter :: others else others }
  let isNamed (entry : Char × String) : Bool := octets entry.2 = name
  let common := optionNames.filter fun entry => "efnxvCabum".toList.contains entry.1
  match (extendedOptionNames ++ common).find? isNamed with
  | some (letter, _) => turn letter
  | none =>
    if ["pipefail", "posix", "emacs", "vi", "history", "ignoreeof", "interactive-comments", "nolog"].any
        fun known => octets known = name then
      changeContext fun c =>
        let others := c.switches.filter (· ≠ String.ofList name)
        { c with switches := if isOn then String.ofList name :: others else others }
    else
      warn (name ++ octets ": invalid option name")
      setStatus 2
      throw .failure

/-- Turn the options of some letters on or off; the long ones are named by the arguments behind. -/
def putOptions (isOn : Bool) : (letters : Octets) → List Octets → Exec (List Octets)
  | [], rest => return rest
  | 'o' :: letters, rest => do putOptions isOn letters (← putLongOption isOn rest)
  | letter :: letters, rest => do
    putOption isOn letter
    putOptions isOn letters rest

/-- The arguments behind options, which are turned on or off, if those are new arguments. -/
def takeOptions : (bound : Nat) → List Octets → Exec (Option (List Octets))
  | 0, _ => return none
  | _ + 1, [] => return none
  | bound + 1, argument :: rest =>
    match argument with
    | ['-'] => do
      changeContext fun c => { c with options := c.options.filter fun o => o ≠ 'x' && o ≠ 'v' }
      return if rest.isEmpty then none else some rest
    | ['-', '-'] => return some rest
    | '-' :: letters => do takeOptions bound (← putOptions true letters rest)
    | '+' :: letters => do takeOptions bound (← putOptions false letters rest)
    | _ => return some (argument :: rest)

/-- Take new arguments. -/
def putArguments (arguments : List Octets) : Exec Unit :=
  changeContext fun c => { c with arguments := arguments }.withOptionIndex 1

/-- **Change options and arguments**, or list the variables. -/
def set : Utility := fun _ arguments => do
  if arguments.isEmpty then return ← say (listing [] (fun held => held.value.isSome) (← context))
  if let some arguments ← takeOptions (arguments.length + 1) arguments then putArguments arguments
  return 0

/-- **Drop the first arguments**, one or as many as are told. -/
def shift : Utility := fun _ arguments => do
  let count ← match arguments with
    | [] => pure 1
    | argument :: _ => number argument
  let held := (← context).arguments
  if held.length < count then fail (octets "can't shift that many")
  putArguments (held.drop count)
  return 0

/-! ## Finding options -/

/-- What is found at the next place where an option can be. -/
inductive NextOption
  /-- The end of the options, and how many arguments have been gone through. -/
  | done (index : Nat)
  /-- A letter, the text behind it in its argument, and how many arguments have been gone through. -/
  | letter (c : Char) (rest : Octets) (index : Nat)

/-- What is found in arguments of which a number has been gone through, the last one up to an offset. -/
def nextOption (arguments : List Octets) (index : Nat) (offset : Option Nat) : NextOption :=
  let started : Octets := match offset with
    | some offset => if index = 0 then [] else ((arguments[index - 1]?).getD []).drop offset
    | none => []
  match started with
  | c :: rest => .letter c rest index
  | [] =>
    match arguments[index]? with
    | some ['-', '-'] => .done (index + 1)
    | some ('-' :: c :: rest) => .letter c rest (index + 1)
    | _ => .done index

/-- How `getopts` knows a letter: not at all, as an option, or as one with a value. -/
def isKnownOption (letters : Octets) (c : Char) : Option Bool :=
  match letters.dropWhile (· ≠ c) with
  | [] => none
  | _ :: rest => if c = ':' then none else some (rest.head? = some ':')

/-- Take note of what was found: the value of the variable, and where the next option is. -/
def noteOption (name : Octets) (letter : Char) (index : Nat) (offset : Option Nat) : Exec Unit := do
  assign optionIndexName (natText (index + 1)) false
  requireName name
  assign name [letter] false
  changeContext fun c => { c with optionIndex := index + 1, optionOffset := offset }

/-- The name of the variable for the value of an option. -/
def optionValueName : Octets := octets "OPTARG"

/-- Take note of an option that is not as it should be. In the quiet manner its letter becomes the value,
else there is a complaint. -/
def refuseOption (quiet : Bool) (letter : Char) (message : Octets) : Exec Unit := do
  if quiet then assign optionValueName [letter] false
  else
    complain (message ++ ['\n'])
    unsetVariable optionValueName

/-- Find the next option among arguments. -/
def findOption (letters name : Octets) (arguments : List Octets) : Exec Nat := do
  let c ← context
  let isReset := arguments.length + 1 < c.optionIndex
  let index := if isReset then 0 else c.optionIndex - 1
  let quiet := letters.head? = some ':'
  let letters := if quiet then letters.tail else letters
  match nextOption arguments index (if isReset then none else c.optionOffset) with
  | .done index =>
    noteOption name '?' index none
    return 1
  | .letter c rest index =>
    let length := ((arguments[index - 1]?).getD []).length
    let offset := some (length - rest.length)
    match isKnownOption letters c with
    | none =>
      refuseOption quiet c (octets "Illegal option -" ++ [c])
      noteOption name '?' index offset
    | some false =>
      assign optionValueName [] false
      noteOption name c index offset
    | some true =>
      if !rest.isEmpty then
        assign optionValueName rest false
        noteOption name c index none
      else match arguments[index]? with
        | some value =>
          assign optionValueName value false
          noteOption name c (index + 1) none
        | none =>
          refuseOption quiet c (octets s!"No arg for -{c} option")
          noteOption name (if quiet then ':' else '?') index none
    return 0

/-- **Find the next option** among the arguments of the script, or those that are given. -/
def getopts : Utility := fun _ arguments => do
  match ← operands arguments with
  | letters :: name :: rest =>
    let held := (← context).arguments
    findOption letters name (if rest.isEmpty then held else rest)
  | _ => fail (octets "Usage: getopts optstring var [arg...]")

end Utility

end Shell

end ComponentScaffold
