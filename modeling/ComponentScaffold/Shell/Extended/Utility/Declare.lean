import ComponentScaffold.Shell.Extended.Form
import ComponentScaffold.Shell.Extended.Utility.Reference
import ComponentScaffold.Shell.Utility.Variables

/-! # Declarations

Variables are declared to be of a kind, and listed with what they were declared to be.

* **`Extended.declarationText`** — the command that declares a variable as it is.
* **`Extended.declare`**, **`Extended.makeLocal`** — declare variables, or those of a function.
* **`Extended.markAs`** — exports variables, or keeps them from being changed.
* **`Extended.unset`** — takes variables, entries and functions away. -/

namespace ComponentScaffold

namespace Shell

namespace Extended

open Utility

/-! ## Texts -/

/-- Whether a text means more to a shell than itself. -/
def hasSpecial (text : Octets) : Bool :=
  text.any (fun c => c ≠ ',' && Quoted.special.contains c) || text.head?.any fun c => c = '~' || c = '#'

/-- The key of an entry of a table as it is listed. -/
def keyText (key : Octets) : Octets :=
  if key.any Quoted.isHidden || hasSpecial key || key.isEmpty then Quoted.double key else key

/-- Entries as they are listed. -/
def entriesText (entries : Entries) : Octets :=
  let entry (key value : Octets) : Octets := '[' :: key ++ octets "]=" ++ Quoted.double value
  match entries with
  | .row _ => '(' :: joinWith [' '] (entries.listed.map fun (key, value) => entry key value) ++ [')']
  | .table _ => '(' :: (entries.listed.flatMap fun (key, value) => entry (keyText key) value ++ [' ']) ++ [')']

/-- **The command that declares a variable** as it is. -/
def declarationText (name : Octets) (held : Variable) : Octets :=
  let letters := traitLetters held
  let value : Octets := match held.entries, held.value with
    | some entries, _ => '=' :: entriesText entries
    | none, some value => '=' :: Quoted.double value
    | none, none => []
  octets "declare -" ++ (if letters.isEmpty then ['-'] else letters) ++ ' ' :: name ++ value ++ ['\n']

/-- A variable as it is listed without what it was declared to be. -/
def settingText (name : Octets) (held : Variable) : Octets :=
  match held.entries, held.value with
  | some entries, _ => name ++ '=' :: entriesText entries ++ ['\n']
  | none, some value =>
    name ++ '=' :: (if value.any Quoted.isHidden || hasSpecial value then Quoted.single value else value) ++ ['\n']
  | none, none => []

/-- The variables for which a test holds, in order of their names. -/
def sortedVariables (context : Context) (isListed : Variable → Bool) : List (Octets × Variable) :=
  (context.bindings.filter fun held => isListed held.2).mergeSort fun a b => isBefore a.1 b.1

/-- The names of the functions, in order. -/
def functionNames (context : Context) : List Octets :=
  (context.functions.map Prod.fst).mergeSort isBefore

/-! ## Declaring -/

/-- What is changed about variables: letters that are turned on, and letters that are turned off. -/
structure Change where
  /-- The letters that are turned on. -/
  on : List Char
  /-- The letters that are turned off. -/
  off : List Char

/-- The letters of declarations. -/
def declaringLetters : List Char := "aAfFgiIlnprtux".toList

/-- Take the letters of an argument with options. -/
def takeMarks (isOn : Bool) : Octets → Change → Exec Change
  | [], change => return change
  | letter :: letters, change => do
    if !declaringLetters.contains letter then
      warn ((if isOn then '-' else '+') :: letter :: octets ": invalid option")
      failUsage
    takeMarks isOn letters
      (if isOn then { change with on := change.on ++ [letter] } else { change with off := change.off ++ [letter] })

/-- What is changed by the options at the start of arguments, and the arguments behind them. -/
def takeChange : List Octets → Change → Exec (Change × List Octets)
  | [], change => return (change, [])
  | argument :: rest, change =>
    match argument with
    | ['-', '-'] => return (change, rest)
    | '-' :: c :: letters => do takeChange rest (← takeMarks true (c :: letters) change)
    | '+' :: c :: letters => do takeChange rest (← takeMarks false (c :: letters) change)
    | _ => return (change, argument :: rest)

/-- An argument that may assign a value to what it names, behind what is there if told. -/
def cutAssignment (argument : Octets) : Octets × Option Octets × Bool :=
  let target := argument.takeWhile (· ≠ '=')
  if target.length = argument.length then (argument, none, false)
  else
    let value := argument.drop (target.length + 1)
    if target.getLast? = some '+' then (target.dropLast, some value, true) else (target, some value, false)

/-- Make a variable local to the function that runs, if it is not so already. It keeps its value if told. -/
def makeLocalOne (keeps : Bool) (name : Octets) : Exec Unit :=
  changeContext fun c =>
    match c.locals with
    | innermost :: others =>
      if (innermost.lookup name).isSome then c
      else
        let before := variableOf? c name
        let fresh : Variable := { Variable.empty with exported := before.any Variable.exported }
        let c := { c with locals := ((name, before) :: innermost) :: others }
        if keeps then c else c.withVariable name (some fresh)
    | [] => c

/-- The letters of what a variable is declared to be, after a change. -/
def changedTraits (change : Change) (held : List Char) : List Char :=
  let kept := held.filter fun letter =>
    !change.off.contains letter && !(letter = 'l' && change.on.contains 'u') &&
      !(letter = 'u' && change.on.contains 'l')
  let isBoth := change.on.contains 'l' && change.on.contains 'u'
  let added := "aAilntu".toList.filter fun letter =>
    change.on.contains letter && !kept.contains letter && !(isBoth && (letter = 'l' || letter = 'u'))
  kept ++ added

/-- The entries of a variable that is declared to have some, where its value becomes the first of them. -/
def changedEntries (change : Change) (held : Variable) : Option Entries :=
  match held.entries, held.value with
  | some entries, _ => some entries
  | none, none => none
  | none, some value =>
    if change.on.contains 'a' then some (.row [(0, value)])
    else if change.on.contains 'A' then some (.table [(['0'], value)])
    else none

/-- Refuse a change of what a variable is. -/
def checkChange (change : Change) (name : Octets) (held : Variable) (assigns : Bool) : Exec Unit := do
  if held.fixed && (assigns || change.off.contains 'r') then fail (name ++ octets ": readonly variable")
  match held.entries with
  | some (.row _) =>
    if change.on.contains 'A' then fail (name ++ octets ": cannot convert indexed to associative array")
    if change.off.contains 'a' then fail (name ++ octets ": cannot destroy array variables in this way")
  | some (.table _) =>
    if change.on.contains 'a' then fail (name ++ octets ": cannot convert associative to indexed array")
    if change.off.contains 'A' then fail (name ++ octets ": cannot destroy array variables in this way")
  | none => return ()

/-- Give a declared variable, or an entry of it, a value. -/
def putDeclared (name : Octets) (key : Option Octets) (appends : Bool) (value : Octets) : Exec Unit := do
  let held := (variableOf? (← context) name).getD .empty
  let key ← key.mapM (settleKey name)
  let context ← context
  let before := match key with
    | some key => (entryValue? context name key).getD []
    | none => held.value.getD []
  let value ← traitedText held.traits (if appends then appended held.traits before value else value)
  match key with
  | some key => putEntry name key value
  | none =>
    if held.traits.contains 'n' then
      if value = name then fail (name ++ octets ": nameref variable self references not allowed")
      changeContext fun c => c.withVariable name (some { held with value := some value })
    else assign name value false

/-- Declare what an argument names, and give it a value if there is one. -/
def declareOne (change : Change) (isLocal : Bool) (argument : Octets) : Exec Unit := do
  let (target, value, appends) := cutAssignment argument
  if !isReference target then fail (notIdentifier argument)
  let (name, key) := cutReference target
  let isName := change.on.contains 'n' || change.off.contains 'n'
  let real := (← context).realName name
  let name := if isName || isLocal then name else real
  if isLocal then
    if ((variableOf? (← context) name).any Variable.fixed) then fail (name ++ octets ": readonly variable")
    makeLocalOne (change.on.contains 'I') name
  let held := (variableOf? (← context) name).getD .empty
  checkChange change name held value.isSome
  let exported := (held.exported || change.on.contains 'x') && !change.off.contains 'x'
  let entries := changedEntries change held
  changeContext fun c => c.withVariable name (some { held with
    traits := changedTraits change held.traits, exported := exported, entries := entries })
  if let some value := value then putDeclared name key appends value
  if change.on.contains 'r' then
    changeContext fun c =>
      c.withVariable name ((variableOf? c name).map fun held => { held with fixed := true })

/-- List the command that declares what a name names. -/
def showDeclaration (name : Octets) : Exec Unit := do
  match variableOf? (← context) name with
  | some held =>
    let _ ← say (declarationText name held)
  | none =>
    match changingEntries? (← context) name, changingValue? (← context) name with
    | some values, _ =>
      let _ ← say (declarationText name { Variable.empty with entries := some (.ofList values) })
    | none, some value =>
      let _ ← say (declarationText name { Variable.empty with value := some value })
    | none, none => fail (name ++ octets ": not found")

/-- Tell functions by their names. -/
def showFunctions (names : List Octets) : Exec Nat := do
  let known := functionNames (← context)
  if names.isEmpty then return ← say (known.flatMap fun name => octets "declare -f " ++ name ++ ['\n'])
  let statuses ← names.mapM fun name =>
    if known.contains name then say (name ++ ['\n']) else return 1
  return if statuses.all (· = 0) then 0 else 1

/-- Whether a variable is of a kind that is asked for. -/
def isOfKind (change : Change) (held : Variable) : Bool :=
  let letters := traitLetters held
  let asked := change.on.filter "aAilnrtux".toList.contains
  asked.isEmpty || asked.any letters.contains

/-- Do what the arguments of a declaration say. -/
def declareAll (isLocal : Bool) (change : Change) (operands : List Octets) : Exec Nat := do
  if change.on.contains 'f' || change.on.contains 'F' then
    if change.on.contains 'r' || change.on.contains 'x' || change.on.contains 't' then return 0
    return ← showFunctions operands
  if operands.isEmpty then
    let asked := change.on.any fun letter => letter ≠ 'g'
    let listed := sortedVariables (← context) (isOfKind change)
    return ← say (listed.flatMap fun (name, held) =>
      if asked then declarationText name held else settingText name held)
  if change.on.contains 'p' then return ← forAll operands showDeclaration
  forAll operands (declareOne change (isLocal && !change.on.contains 'g'))

/-- **Declare variables**, which are local to the function that runs unless told otherwise. -/
def declare : Utility := fun _ arguments => do
  let (change, operands) ← takeChange arguments ⟨[], []⟩
  declareAll (!(← context).locals.isEmpty) change operands

/-- The name by which the options are kept that a function leaves as they were. -/
def optionsName : Octets := ['-']

/-- Keep the options, which the function that runs leaves as they were. -/
def keepOptions : Exec Unit :=
  changeContext fun c =>
    match c.locals with
    | innermost :: others =>
      if (innermost.lookup optionsName).isSome then c
      else { c with locals := ((optionsName, some (.ofValue c.options false)) :: innermost) :: others }
    | [] => c

/-- **Declare variables of the function that runs.** -/
def makeLocal : Utility := fun _ arguments => do
  let context ← context
  if context.locals.isEmpty then fail (octets "can only be used in a function")
  let (change, operands) ← takeChange arguments ⟨[], []⟩
  if operands.isEmpty then
    let names := (context.locals.headD []).map Prod.fst
    let listed := (sortedVariables context fun _ => true).filter fun held => names.contains held.1
    return ← say (listed.flatMap fun (name, held) => declarationText name held)
  if operands.contains optionsName then keepOptions
  if operands.all (· = optionsName) then return 0
  declareAll true change (operands.filter (· ≠ optionsName))

/-! ## Marking -/

/-- Mark a variable, after it was given a value if there is one. -/
def markOne (mark : Mark) (isOn : Bool) (argument : Octets) : Exec Unit := do
  let (name, value, appends) := cutAssignment argument
  if !isName name then fail (notIdentifier argument)
  let name := (← context).realName name
  let held := (variableOf? (← context) name).getD .empty
  if value.isSome && held.fixed then failFixed name
  if let some value := value then putDeclared name none appends value
  changeContext fun c =>
    let held := (variableOf? c name).getD .empty
    c.withVariable name (some (if isOn then mark.put held else { held with exported := false }))

/-- **Mark variables**, or list those that are marked. -/
def markAs (mark : Mark) : Utility := fun _ arguments => do
  let letters := match mark with
    | .exported => "fnp"
    | .fixed => "aAfp"
  let (options, operands) ← options letters "" arguments
  let has (letter : Char) : Bool := options.any fun option => option.1 = letter
  if has 'f' then
    let known := functionNames (← context)
    return ← forAll operands fun name =>
      if known.contains name then return () else fail (name ++ octets ": not a function")
  if operands.isEmpty then
    let listed := sortedVariables (← context) fun held =>
      mark.holds held && (!has 'a' || (held.entries matches some (.row _))) &&
        (!has 'A' || (held.entries matches some (.table _)))
    return ← say (listed.flatMap fun (name, held) => declarationText name held)
  forAll operands (markOne mark (!has 'n'))

/-! ## Taking away -/

/-- Take an entry of a variable away. -/
def unsetEntry (name key : Octets) : Exec Unit := do
  let name := (← context).realName name
  match variableOf? (← context) name with
  | none => return ()
  | some held =>
    if held.fixed then fail (name ++ octets ": cannot unset: readonly variable")
    let entries? ← match held.entries with
      | none =>
        if key = ['0'] || key = ['@'] || key = ['*'] then pure none
        else fail (name ++ octets ": not an array variable")
      | some entries =>
        if key = ['@'] || key = ['*'] then pure none else
          let key ← settleKey name key
          match entries with
          | .row entries => pure (some (Entries.row (entries.filter fun entry => natText entry.1 ≠ key)))
          | .table entries => pure (some (Entries.table (entries.filter fun entry => entry.1 ≠ key)))
    changeContext fun c => c.withVariable name (entries?.map fun entries =>
      { held with value := entries.main?, entries := some entries })

/-- Take a variable away. -/
def unsetVariable (name : Octets) : Exec Unit := do
  if (variableOf? (← context) name).any Variable.fixed then
    fail (name ++ octets ": cannot unset: readonly variable")
  changeContext fun c =>
    -- what is local to the function that runs stays so without a value
    let isLocal := (c.locals.headD []).any fun held => held.1 = name
    c.withVariable name (if isLocal then some .empty else none)

/-- Take what a name names away. -/
def unsetOne (asVariable asFunction : Bool) (target : Octets) : Exec Unit := do
  let (name, key) := cutReference target
  if asFunction then
    let _ ← unsetFunction target
  else if !isReference target then
    if asVariable then fail (notIdentifier target)
    let _ ← unsetFunction target
  else match key with
    | some key => unsetEntry name key
    | none =>
      let real := (← context).realName name
      if asVariable || (variableOf? (← context) real).isSome then unsetVariable real
      else
        let _ ← unsetFunction name

/-- **Take variables, entries and functions away.** -/
def unset : Utility := fun _ arguments => do
  let (options, operands) ← options "vfn" "" arguments
  let has (letter : Char) : Bool := options.any fun option => option.1 = letter
  if has 'v' && has 'f' then fail (octets "cannot simultaneously unset a function and a variable")
  if has 'n' then return ← forAll operands unsetVariable
  forAll operands (unsetOne (has 'v') (has 'f'))

end Extended

end Shell

end ComponentScaffold
