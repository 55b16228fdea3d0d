import ComponentScaffold.Shell.Redirection
import ComponentScaffold.Shell.Trace
import ComponentScaffold.Shell.Utility.Table

/-! # Simple commands

A simple command assigns variables, and runs what its first word names: a function, a utility, or a
program. Its words are expanded first, then its redirections are opened, then its variables are assigned.

* **`Shell.Callee`** — what a command runs.
* **`Shell.runSimple`** — runs a simple command. -/

namespace ComponentScaffold

namespace Shell

/-- **What a command runs.** -/
inductive Callee
  /-- Nothing: there are no words. -/
  | nothing
  /-- A function. -/
  | function (body : Script)
  /-- A utility, which may be one for which faults end the shell. -/
  | utility (utility : Utility) (isSpecial : Bool)
  /-- A program. -/
  | program

/-! ## Words -/

/-- The words behind `command`, if it is there to run them as a plain command. -/
def plainWords? : List Octets → Option (List Octets)
  | [] => none
  | word :: rest =>
    match word with
    | ['-', '-'] => if rest.isEmpty then none else some rest
    | '-' :: c :: letters => if (c :: letters).all (· = 'p') then plainWords? rest else none
    | _ => some (word :: rest)

/-- The utilities that run what stands behind them as a plain command. -/
def plainNames (dialect : Dialect) : List String :=
  match dialect with
  | .common => ["command"]
  | .extended => ["command", "builtin"]

/-- The words that are run, and whether they are run as a plain command: no function, and nothing
special. -/
def calledWords (dialect : Dialect) : (bound : Nat) → List Octets → List Octets × Bool
  | 0, words => (words, false)
  | _ + 1, [] => ([], false)
  | bound + 1, word :: rest =>
    if (plainNames dialect).contains (String.ofList word) then
      match plainWords? rest with
      | some words =>
        if word = octets "builtin" && (words.head?.bind extendedUtility?).isNone then (word :: rest, true)
        else ((calledWords dialect bound words).1, true)
      | none => (word :: rest, true)
    else (word :: rest, false)

/-- Whether the words so far are those of a utility whose arguments can be assignments. -/
def takesAssignments (dialect : Dialect) (words : List Octets) : Bool :=
  match (calledWords dialect words.length words).1 with
  | name :: _ =>
    match dialect with
    | .common => Utility.takesAssignments name
    | .extended => Rules.declaringNames.contains (String.ofList name)
  | [] => false

/-- The texts of an assignment that is an argument, and what is still to be assigned behind the utility. -/
def assignmentTexts (engine : Engine) : Assignment → Exec (List Octets × List Assignment)
  | .text name none appends word => do
    let sign := octets (if appends then "+=" else "=")
    return ([name ++ sign ++ (← expandValue engine word)], [])
  | .text name (some key) appends word => return ([name], [.text name (some key) appends word])
  | .entries name appends entries => return ([name], [.entries name appends entries])

/-- Expand the words of a command, behind those expanded so far. What is to be assigned behind it is returned as
well. -/
def expandWords (engine : Engine) : (before : List Octets) → List Word → Exec (List Octets × List Assignment)
  | before, [] => return (before, [])
  | before, word :: rest => do
    let dialect := (← context).dialect
    let (fields, held) ← match if takesAssignments dialect before then Word.assignment? word else none with
      | some assignment => assignmentTexts engine assignment
      | none => pure (← expandWord engine word, [])
    let (words, further) ← expandWords engine (before ++ fields) rest
    return (words, held ++ further)

/-- The utility of a name in a dialect. -/
def utilityIn? (dialect : Dialect) (name : Octets) : Option Utility :=
  match dialect with
  | .common => utility? name
  | .extended => extendedUtility? name

/-- What the words of a command run. -/
def calleeOf (context : Context) (words : List Octets) : Callee × List Octets :=
  let (called, isPlain) := calledWords context.dialect words.length words
  let isPlain := isPlain && (context.functions.lookup (octets "command")).isNone
  let words := if isPlain then called else words
  match words with
  | [] => (.nothing, [])
  | name :: _ =>
    match if isPlain then none else context.functions.lookup name with
    | some body => (.function body, words)
    | none =>
      match utilityIn? context.dialect name with
      | some utility =>
        (.utility utility (!isPlain && !context.isExtended && Utility.isSpecial name), words)
      | none => (.program, words)

/-! ## Calls -/

/-- Variables as they were, which they become again. -/
def restoreVariables (held : List (Octets × Option Variable)) : Exec Unit :=
  changeContext fun c => held.foldl (fun c (name, held) => c.withVariable name held) c

/-- The variable that holds the last word of the last command. -/
def lastWordName : Octets := ['_']

/-- The greatest number of functions that run inside each other. -/
def maxCalls : Nat := 1000

/-- Where a function stands that no file holds. -/
def nowhere : Octets := octets "environment"

/-- The call of a function. -/
def callOf (context : Context) (name : Octets) : Call :=
  ⟨name, (context.functionSources.lookup name).getD nowhere, context.line⟩

/-- Run a function. -/
def callFunction (engine : Engine) (tested : Bool) (body : Script) (name : Octets) (arguments : List Octets) :
    Exec Nat := do
  let before ← context
  if maxCalls ≤ before.locals.length then
    fail (octets s!"Maximum function recursion depth ({maxCalls}) reached")
  changeContext fun c =>
    { c with
      arguments := arguments, loops := 0, locals := [] :: c.locals
      calls := if c.isExtended then callOf c name :: c.calls else c.calls }.withOptionIndex 1
  let leave : Exec Unit := do
    let held := (← context).locals.headD []
    restoreVariables (held.filter fun entry => entry.1 ≠ Extended.optionsName)
    if let some (some kept) := held.lookup Extended.optionsName then
      changeContext fun c => { c with options := kept.value.getD [] }
    changeContext fun c =>
      { c with
        arguments := before.arguments, loops := before.loops, locals := before.locals, calls := before.calls
        optionIndex := before.optionIndex, optionOffset := before.optionOffset }
  match ← attempt (ensuring (engine.script tested body) leave) with
  | .ok () => return (← context).status
  | .error (.return _) => return (← context).status
  | .error stop => throw stop

/-- Run a utility. What goes wrong in it is its status, unless it is special. -/
def callUtility (engine : Engine) (utility : Utility) (isSpecial : Bool) (name : Octets)
    (arguments : List Octets) : Exec Nat := do
  let before := (← context).utility
  changeContext fun c => { c with utility := some name }
  let action := ensuring (utility engine arguments)
    (changeContext fun c => { c with utility := before })
  match ← attempt action with
  | .ok status => return status
  | .error .failure => if isSpecial then throw .failure else return (← context).status
  | .error stop => throw stop

/-- Say why a program was not started, and tell the status. -/
def refuseStart (name : Octets) (fault : OsFault) : Exec Nat := do
  let context ← context
  let fault := startFault (← files) context name fault
  warn (notStarted context name fault)
  return notStartedStatus context fault

/-- Make the process ready to become the program of a path. -/
def startProgram (path : Octets) : Exec Unit :=
  changeContext fun c =>
    let c := c.forProgram
    if c.isExtended then (c.withVariable lastWordName none).withVariable lastWordName (some (.ofValue path true)) else c

/-- Run a program in a process of its own, or in the running one if that does nothing behind it. -/
def callProgram (engine : Engine) (words : List Octets) : Exec Nat := do
  let name := words.headD []
  match programPath (← files) (← context) name with
  | .error fault =>
    let status ← refuseStart name fault
    let context ← context
    return if context.isExtended then status else notStartedStatus context .noEntry
  | .ok path =>
    if (← context).isExtended && !name.contains '/' then
      let times := (((← context).found.lookup name).map fun held => held.2 + 1).getD 1
      Extended.noteProgram name path times
    let action : Exec Unit := do
      startProgram path
      match ← engine.program words with
      | .ok status => setStatus status
      | .error fault => setStatus (← refuseStart name fault)
    match ← attempt (asProcess engine action) with
    | .ok status => return status
    | .error (.killed signal) =>
      let after ← context
      if after.isLast && after.traps.isEmpty then throw (.killed signal)
      tellKilled signal
      return killedStatus signal
    | .error stop => throw stop

/-! ## Commands -/

/-- Assign the variables of a command and return them as they were, with the assigned values. They are
given to what runs if `exported`. -/
def assignAll (engine : Engine) (exported : Bool) : List Assignment →
    Exec (List (Octets × Option Variable) × List Octets)
  | [] => return ([], [])
  | assignment :: rest => do
    let name := assignmentName assignment
    let before := variableOf? (← context) name
    let text ← perform engine exported assignment
    let (held, texts) ← assignAll engine exported rest
    return (held ++ [(name, before)], text :: texts)

/-- Show a command before it runs, if that is asked for. -/
def trace (errorChannel : Option Nat) (assigned words : List Octets) : Exec Unit := do
  let context ← context
  if context.isExtended then
    let lines := if words.isEmpty then [] else [joinWith [' '] (words.map (tracedWord context))]
    traceLines errorChannel (assigned.map (tracedAssignment context) ++ lines)
  else traceLines errorChannel [joinWith [' '] (assigned ++ words)]

/-- Run what a command calls. -/
def call (engine : Engine) (tested : Bool) (callee : Callee) (words : List Octets) : Exec Nat :=
  match callee with
  | .nothing => return (← context).wordStatus
  | .function body => notLast (callFunction engine tested body (words.headD []) words.tail)
  | .utility utility isSpecial =>
    notLast (callUtility (engine.within tested) utility isSpecial (words.headD []) words.tail)
  | .program => callProgram engine words

/-- Whether the assignments before a call stay. -/
def Callee.keepsAssignments : Callee → Bool
  | .nothing => true
  | .utility _ isSpecial => isSpecial
  | _ => false

/-- Whether a fault before a call ends the shell. -/
def Callee.isSpecial : Callee → Bool
  | .utility _ isSpecial => isSpecial
  | _ => false

/-- Assign the variables of a command and run what it calls. -/
def assignAndCall (engine : Engine) (tested : Bool) (callee : Callee) (words shown : List Octets)
    (errorChannel : Option Nat) (assignments : List Assignment) : Exec Nat := do
  let isReplacing := words.head? = some (octets "exec") && words.length > 1
  let keeps := callee.keepsAssignments
  let (held, texts) ← assignAll engine (!keeps || isReplacing) assignments
  trace errorChannel texts shown
  if keeps then call engine tested callee words
  else ensuring (call engine tested callee words) (restoreVariables held)

/-- Whether a program reads the files that it is given. -/
def readsFiles (name : Octets) : Bool :=
  ["awk", "bash", "cat", "cmp", "comm", "cut", "dash", "diff", "fold", "grep", "head", "mawk", "nl", "od",
    "paste", "rev", "sed", "sh", "sort", "tac", "tail", "uniq", "wc"].contains (String.ofList name)

/-- The paths that a command reads. -/
def pathsOf (words : List Octets) (openings : List Opening) : List Octets :=
  (if readsFiles (words.headD []) then words.tail else []) ++ pathsRead openings

/-- The descriptors without those that no script names and that were not there before. -/
def dropHidden (before : List (Nat × Nat)) : Exec Unit :=
  changeContext fun c =>
    { c with descriptors := c.descriptors.filter fun held => held.1 ≤ 13 || (before.lookup held.1).isSome }

/-- Do what is assigned behind a utility, for which variables that it has fixed can still be changed. -/
def assignBehind (engine : Engine) (fixedBefore : Octets → Bool) (assignment : Assignment) : Exec Unit := do
  let name := assignmentName assignment
  let isFixed := ((variableOf? (← context) name).any Variable.fixed)
  let put (fixed : Bool) : Exec Unit := changeContext fun c =>
    c.withVariable name ((variableOf? c name).map fun held => { held with fixed := fixed })
  if isFixed && !fixedBefore name then
    put false
    let _ ← perform engine false assignment
    put true
  else
    let _ ← perform engine false assignment

/-- What is done before a command runs. -/
def beforeCommand (engine : Engine) : Exec Unit := do
  let context ← context
  if let some action := context.traps.lookup commandEvent then
    if context.locals.isEmpty || context.has 'T' then runEvent engine action

/-- **Run a simple command.** -/
def runSimple (engine : Engine) (tested : Bool) (line : Nat) (assignments : List Assignment)
    (words : List Word) (redirects : List Redirect) : Exec Unit := do
  changeContext fun c => { c with line := line, wordStatus := 0 }
  let before ← context
  if before.isExtended then beforeCommand engine
  let fixedBefore (name : Octets) : Bool := (variableOf? before name).any Variable.fixed
  let (shown, further) ← expandWords engine [] words
  let (callee, words) := calleeOf (← context) shown
  let errorChannel := (← context).descriptors.lookup 2
  match ← expandRedirects engine redirects with
  | none => setStatus (← context).failureStatus
  | some openings =>
    awaitWriters engine (pathsOf words openings)
    let keepsDescriptors := words.head? = some (octets "exec")
    let action : Exec Nat := do
      if ← openAll openings then
        let status ← assignAndCall engine tested callee words shown errorChannel assignments
        if status = 0 then further.forM (assignBehind engine fixedBefore)
        return status
      else
        if callee.isSpecial then throw .failure
        return (← context).failureStatus
    setStatus (← if keepsDescriptors then action else keepingDescriptors action)
  if before.isExtended then
    changeContext fun c =>
      { c with stageStatuses := [] }.withVariable lastWordName (some (.ofValue (shown.getLastD []) false))
    dropHidden before.descriptors

end Shell

end ComponentScaffold
