import ComponentScaffold.Shell.Command
import ComponentScaffold.Shell.Extended.Question
import ComponentScaffold.Shell.Grammar

/-! # Running scripts

What a script does. The scripts inside it, and those of functions and texts, are run by the engine that is
given.

* **`Shell.runScript`** — runs a script.
* **`Shell.runText`** — runs the commands of a text, line by line. -/

namespace ComponentScaffold

namespace Shell

/-- Do what was asked for at the signals that came. The last status stays. -/
def runTraps (engine : Engine) : Exec Unit := do
  let context ← context
  if context.signals.isEmpty then return ()
  changeContext fun c => { c with signals := [] }
  context.signals.forM fun signal =>
    match context.traps.lookup signal with
    | some action => engine.text false action
    | none => return ()
  setStatus context.status

/-- Do what was asked for if the last command failed, and end the process where failures do that. -/
def checkFailure (engine : Engine) (tested : Bool) : Exec Unit := do
  let context ← context
  if context.status ≠ 0 && !tested then
    if let some action := context.traps.lookup failureEvent then
      if context.locals.isEmpty || context.has 'E' then runEvent engine action
    if context.has 'e' then throw (.exit none)

/-- Whether the last command succeeded. -/
def succeeded : Exec Bool := return (← context).status = 0

/-! ## Loops -/

/-- Do something as part of a loop. -/
def withinLoop {α : Type} (action : Exec α) : Exec α := do
  changeContext fun c => { c with loops := c.loops + 1 }
  ensuring action (changeContext fun c => { c with loops := c.loops - 1 })

/-- Do a part of a round of a loop, and tell what it gives, or how the loop goes on if the part was left:
whether with another round. -/
def roundPart {α : Type} (action : Exec α) : Exec (Except Bool α) := do
  match ← attempt action with
  | .ok value => return .ok value
  | .error (.leave levels again) =>
    if levels ≤ 1 then return .error again else throw (.leave (levels - 1) again)
  | .error stop => throw stop

/-- Do the condition of a loop. What is left in it without a status has that of the last round. -/
def loopCondition (status : Nat) (action : Exec Unit) : Exec Unit := do
  match ← attempt action with
  | .error (.return false) =>
    setStatus status
    throw (.return false)
  | .error stop => throw stop
  | .ok () => return ()

/-- The rounds of a loop by a condition, at most the given number of them. The status is that of the last
round. -/
def runRounds (engine : Engine) (tested negated : Bool) (condition body : Script) : (rounds : Nat) →
    (status : Nat) → Exec Nat
  | 0, status => return status
  | rounds + 1, status => do
    match ← roundPart (loopCondition status (engine.script true condition)) with
    | .error again =>
      if again then runRounds engine tested negated condition body rounds status else return status
    | .ok () =>
      if (← succeeded) == negated then return status
      match ← roundPart (engine.script tested body) with
      | .error false => return (← context).status
      | _ => runRounds engine tested negated condition body rounds (← context).status

/-- The rounds of a loop over values. -/
def runValues (engine : Engine) (tested : Bool) (name : Octets) (shown : Octets) (body : Script) : List Octets →
    (status : Nat) → Exec Nat
  | [], status => return status
  | value :: rest, _ => do
    traceHere shown
    match ← attempt (assign name value false) with
    | .error .failure => if (← context).isExtended then return 1 else throw .failure
    | .error stop => throw stop
    | .ok () =>
      match ← roundPart (engine.script tested body) with
      | .error false => return (← context).status
      | _ => runValues engine tested name shown body rest (← context).status

/-- The value of an expression that is a command, or a part of one. -/
def evaluatePart (engine : Engine) (expression : Word) : Exec Int := do
  evaluateExtended "((: " (← expandText engine expression)

/-- The rounds of a loop by expressions, at most the given number of them. The status is that of the last round. -/
def runCounted (engine : Engine) (tested : Bool) (condition step : Word) (body : Script) : (rounds : Nat) →
    (status : Nat) → Exec Nat
  | 0, status => return status
  | rounds + 1, status => do
    let isEmpty := condition.all fun piece => piece matches .char ' ' _
    let value ← if isEmpty then pure 1 else evaluatePart engine condition
    if value = 0 then return status
    match ← roundPart (engine.script tested body) with
    | .error false => return (← context).status
    | _ =>
      let status := (← context).status
      let _ ← evaluatePart engine step
      runCounted engine tested condition step body rounds status

/-- Take the answer to a question for the status. What goes wrong with it has a status of its own. -/
def askStatus (question : Exec Bool) : Exec Unit := do
  match ← attempt question with
  | .ok answer => setStatus (if answer then 0 else 1)
  | .error .failure => return ()
  | .error stop => throw stop

/-! ## Choices -/

/-- Whether a text fits one of some patterns. -/
def fitsOne (engine : Engine) (text : Octets) : List Word → Exec Bool
  | [] => return false
  | pattern :: rest => do
    if fits (← expandPattern engine pattern) text then return true else fitsOne engine text rest

/-- Run the first script for whose patterns a text is one. -/
def runClauses (engine : Engine) (tested : Bool) (text : Octets) : List (List Word × Script) →
    Exec Unit
  | [] => setStatus 0
  | (patterns, body) :: rest => do
    if ← fitsOne engine text patterns then
      match body with
      | .nothing => setStatus 0
      | body => engine.script tested body
    else runClauses engine tested text rest

/-! ## Processes -/

/-- Run the stages of a pipeline, of which the first one reads from a channel if there is one, and return their
statuses. -/
def runStages (engine : Engine) (tested : Bool) : (input : Option Nat) → List Script → Exec (List Nat)
  | _, [] => return []
  | input, stage :: rest => do
    let body := engine.script tested stage
    let reading : Exec Unit := match input with
      | some channel => withDescriptor inputDescriptor channel body
      | none => body
    if rest.isEmpty then
      if input.isSome && (← context).switches.contains "lastpipe" then
        notLast reading
        return [(← context).status]
      return [← asProcess engine reading]
    else
      let channel ← newPipe ByteArray.empty
      let status ← withDescriptor outputDescriptor channel (asProcess engine reading)
      return status :: (← runStages engine tested (some channel) rest)

/-- The status of a pipeline: that of its last stage, or of the last one that failed. -/
def pipelineStatus (context : Context) (statuses : List Nat) : Nat :=
  let last := statuses.getLast?.getD 0
  if context.switches.contains "pipefail" then ((statuses.reverse.find? (· ≠ 0))).getD 0 else last

/-- Let a script run later, in a process in the background. -/
def runLater (body : Script) : Exec Unit := do
  let empty ← newChannel (.device .null)
  let state ← get
  let process := state.nextProcess
  let inside := { state.context.forChild with
    isLast := true
    descriptors := (inputDescriptor, empty) :: state.context.descriptors }
  let delayed : Delayed := ⟨process, inside, state.files.standing, body⟩
  set { state with
    delayed := state.delayed ++ [delayed]
    nextProcess := process + 1
    context := { state.context with lastBackground := some process, status := 0 } }

/-! ## Scripts -/

/-- What a script does, apart from signals. -/
def runParts (engine : Engine) (tested : Bool) : Script → Exec Unit
  | .nothing => return ()
  | .simple line assignments words redirects => do
    runSimple engine tested line assignments words redirects
    checkFailure engine tested
  | .sequence first second => do
    notLast (engine.script tested first)
    engine.script tested second
  | .both first second => do
    notLast (engine.script true first)
    if ← succeeded then engine.script tested second
  | .either first second => do
    notLast (engine.script true first)
    if !(← succeeded) then engine.script tested second
  | .negation body => do
    notLast (engine.script true body)
    setStatus (if ← succeeded then 1 else 0)
  | .pipeline stages => do
    let statuses ← runStages engine tested none stages
    setStatus (pipelineStatus (← context) statuses)
    changeContext fun c => { c with stageStatuses := statuses }
    checkFailure engine tested
  | .background body => runLater body
  | .branch condition yes no => do
    notLast (engine.script true condition)
    if ← succeeded then engine.script tested yes
    else match no with
      | .nothing => setStatus 0
      | no => engine.script tested no
  | .loop negated condition body => do
    setStatus (← notLast (withinLoop (runRounds engine tested negated condition body engine.rounds 0)))
  | .each line name values body => do
    changeContext fun c => { c with line := line }
    let fields ← values.flatMapM (expandWord engine)
    let shown := octets "for " ++ name ++ octets " in " ++ joinWith [' '] (values.map Word.shown)
    setStatus (← notLast (withinLoop (runValues engine tested name shown body fields 0)))
  | .choice line subject clauses => do
    changeContext fun c => { c with line := line }
    traceHere (octets "case " ++ Word.shown subject ++ octets " in")
    runClauses engine tested (← expandText engine subject) clauses
  | .enclosed line body redirects => do
    changeContext fun c => { c with line := line }
    match ← expandRedirects engine redirects with
    | none => setStatus (← context).failureStatus
    | some openings =>
      awaitWriters engine (pathsRead openings)
      let status ← asProcess engine (do
        if ← openAll openings then engine.script tested body)
      setStatus status
    checkFailure engine tested
  | .redirected line body redirects => do
    changeContext fun c => { c with line := line }
    match ← expandRedirects engine redirects with
    | none =>
      setStatus (← context).failureStatus
      checkFailure engine tested
    | some openings =>
      awaitWriters engine (pathsRead openings)
      notLast (keepingDescriptors (do
        if ← openAll openings then engine.script tested body))
      if (← context).isExtended then dropHidden []
  | .define _ name body => do
    changeContext fun c =>
      let source := (c.calls.head?.map Call.source).getD nowhere
      { c with
        functions := (name, body) :: c.functions.filter fun held => held.1 ≠ name
        functionSources := if !c.isExtended then []
          else (name, source) :: c.functionSources.filter fun held => held.1 ≠ name }
    setStatus 0
  | .question line question => do
    changeContext fun c => { c with line := line }
    askStatus (askQuestion engine question)
    checkFailure engine tested
  | .compute line expression => do
    changeContext fun c => { c with line := line }
    traceLines ((← context).descriptors.lookup errorDescriptor)
      [octets "(( " ++ expression.flatMap Piece.shown ++ octets " ))"]
    askStatus (return (← evaluatePart engine expression) ≠ 0)
    checkFailure engine tested
  | .counted line first condition step body => do
    changeContext fun c => { c with line := line }
    match ← attempt (evaluatePart engine first) with
    | .ok _ =>
      setStatus (← notLast (withinLoop (runCounted engine tested condition step body engine.rounds 0)))
    | .error .failure => setStatus 1
    | .error stop => throw stop

/-- **Run a script.** Nothing is run where scripts are only read. -/
def runScript (engine : Engine) (tested : Bool) (script : Script) : Exec Unit := do
  if (← context).has 'n' then return ()
  runTraps engine
  runParts engine tested script
  runTraps engine

/-! ## Texts -/

/-- What is wrong with a text, as the common dialect words it. -/
def commonFault (fault : SyntaxFault) : Octets :=
  match fault.reason with
  | .told message => octets "Syntax error: " ++ message
  | _ => octets "Syntax error"

/-- The lines in which the extended dialect tells what is wrong with a text, whose first line has a number. -/
def extendedFault (text : Octets) (first : Nat) (fault : SyntaxFault) : Nat × List Octets :=
  let lines := (linesOf text).1
  let shown := octets "\x60" ++ (lines[fault.line - first]?).getD [] ++ ['\x27']
  match fault.reason with
  | .told message => (fault.line, [message])
  | .token token => (fault.line, [octets "syntax error near unexpected token \x60" ++ token ++ ['\x27'], shown])
  | .line messages => (fault.line, messages ++ [shown])
  | .finish => (lines.length + first, [octets "syntax error: unexpected end of file"])
  | .unclosed mark _ =>
    (fault.line, [octets "unexpected EOF while looking for matching \x60" ++ mark :: ['\x27']])

/-- The status of a text that is no script. -/
def syntaxStatus : Nat := 2

/-- Say what is wrong with a text, whose first line has a number. -/
def refuseText (text : Octets) (first : Nat) (fault : SyntaxFault) : Exec Unit := do
  let context ← context
  if !context.isExtended then
    changeContext fun c => { c with line := fault.line }
    fail (commonFault fault)
  let (line, messages) := extendedFault text first fault
  let place := context.source ++ octets ": " ++ context.origin ++ octets s!"line {line}: "
  messages.forM fun message => complain (place ++ message ++ ['\n'])
  setStatus syntaxStatus

/-- Run commands of a text. In the extended dialect something that goes wrong ends those of the line alone, unless the
process is a copy of another one. -/
def runUnit (action : Exec Unit) : Exec Unit := do
  if !(← context).isExtended then return ← action
  match ← attempt action with
  | .ok () => return ()
  | .error .failure => if (← context).isCopy then throw .failure else return ()
  | .error stop => throw stop

/-- The other words for commands that are looked for: in the extended dialect none, unless that is switched on. -/
def knownAliases (context : Context) : List (Octets × Octets) :=
  if context.isExtended && !context.switches.contains "expand_aliases" then [] else context.aliases

/-- Run the commands of a text, whose first line has a number, from a point on, at most so many lines of it. -/
def runUnits (engine : Engine) (tested : Bool) (text : Octets) (first : Nat) : (bound : Nat) → Reading → Exec Unit
  | 0, _ => return ()
  | bound + 1, reading => do
    let state ← get
    match readUnit.run
        { reading with
          documents := state.documents
          aliases := knownAliases state.context
          hasGroups := state.context.switches.contains "extglob" } with
    | .error fault => refuseText text first fault
    | .ok (none, _) => return ()
    | .ok (some script, reading) =>
      modify fun state => { state with documents := reading.documents }
      if reading.rest.isEmpty then runUnit (engine.script tested script)
      else runUnit (notLast (engine.script tested script))
      runUnits engine tested text first bound reading

/-- **Run the commands of a text**, line by line: what stands before a fault in it is done. -/
def runText (engine : Engine) (tested : Bool) (text : Octets) : Exec Unit := do
  let context ← context
  let start := Reading.start context.dialect text
  let first := if context.isExtended then max 1 context.line else start.line
  runUnits engine tested text first (text.length + 2) { start with line := first }

end Shell

end ComponentScaffold
