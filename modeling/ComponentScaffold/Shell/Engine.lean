import ComponentScaffold.Shell.State

/-! # Processes

A script can start processes: a subshell, a stage of a pipeline, a program. Each gets a copy of the
context it starts from, and of what it does to its own nothing comes back but a status. Processes run one
after the other; one in the background runs when it is waited for, or when its parent has ended.

* **`Shell.Engine`** — what runs scripts and programs inside others.
* **`Shell.asProcess`** — something done in a process of its own. -/

namespace ComponentScaffold

namespace Shell

/-- **What runs scripts and programs** inside others. -/
structure Engine where
  /-- Runs a script. Where its success is `tested`, a failure does not end the process. -/
  script : (tested : Bool) → Script → Exec Unit
  /-- Runs the commands of a text. -/
  text : (tested : Bool) → Octets → Exec Unit
  /-- Runs a program, which is given by its words, in the running process. -/
  program : List Octets → Exec (Except OsFault Nat)
  /-- More rounds than a loop takes. -/
  rounds : Nat

/-- The engine for what runs where its success is `tested`. -/
def Engine.within (engine : Engine) (tested : Bool) : Engine :=
  if tested then { engine with text := fun _ => engine.text true } else engine

/-- What is said when a signal has killed a process, unless nothing is. -/
def signalText (signal : Nat) : String :=
  let texts : List (Nat × String) :=
    [(1, "Hangup"), (2, ""), (3, "Quit"), (4, "Illegal instruction"), (5, "Trace/breakpoint trap"),
      (6, "Aborted"), (7, "Bus error"), (8, "Floating point exception"), (9, "Killed"),
      (10, "User defined signal 1"), (11, "Segmentation fault"), (12, "User defined signal 2"),
      (13, ""), (14, "Alarm clock"), (15, "Terminated")]
  (texts.lookup signal).getD s!"Signal {signal}"

/-- Say that a signal has killed a process. -/
def tellKilled (signal : Nat) : Exec Unit := do
  let text := signalText signal
  if !text.isEmpty then complain (octets (text ++ "\n"))

/-- The status of a process that a signal killed. -/
def killedStatus (signal : Nat) : Nat := 128 + signal

/-- The numbers of what is waited for besides signals: a command, and one that failed. -/
def commandEvent : Nat := 65

@[inherit_doc commandEvent]
def failureEvent : Nat := 66

/-- Do what was asked for when something happens. The last status stays. -/
def runEvent (engine : Engine) (action : Octets) : Exec Unit := do
  let before ← context
  changeContext fun c =>
    { c with
      traps := c.traps.filter fun trap => trap.1 ≠ commandEvent && trap.1 ≠ failureEvent
      utility := none, level := c.level + 1 }
  engine.text false action
  changeContext fun c =>
    let events := before.traps.filter fun trap => trap.1 = commandEvent || trap.1 = failureEvent
    { c with traps := events ++ c.traps, utility := before.utility, line := before.line, level := before.level }
  setStatus before.status

/-- What is done at the end of a process is done, if there is such. -/
def endProcess (engine : Engine) : Exec Unit := do
  match (← context).traps.lookup 0 with
  | none => return ()
  | some action =>
    let status := (← context).status
    changeContext fun c =>
      { c with
        traps := c.traps.filter fun trap => trap.1 ≠ 0, utility := none, loops := 0, isLast := false
        line := if c.isExtended then 0 else c.line, origin := octets "exit trap: ", calls := [] }
    match ← attempt (engine.text false action) with
    | .error (.exit (some given)) => setStatus given
    | .error (.killed signal) => throw (.killed signal)
    | _ => setStatus status

/-- **The end of a process** after something it did: its last status is known, and what is done at the end
is done unless the process was killed. -/
def finish (engine : Engine) (outcome : Except Stop Unit) : Exec (Except Stop Unit) := do
  match outcome with
  | .error (.killed signal) => return .error (.killed signal)
  | .error (.exit (some status)) =>
    setStatus status
    attempt (endProcess engine)
  | _ => attempt (endProcess engine)

/-- The traps that go on to other processes: those by which signals are ignored. -/
def Context.keptTraps (context : Context) : List (Nat × Octets) :=
  context.traps.filter fun trap => trap.1 ≠ 0 && trap.2.isEmpty

/-- What a process starts with that gets a copy of a context: traps are for the one that set them. -/
def Context.forChild (context : Context) : Context :=
  let isKept (event : Nat) (letter : Char) : Bool := context.isExtended && event ≠ 0 && context.has letter
  let events := context.traps.filter fun trap =>
    (trap.1 = failureEvent && isKept trap.1 'E') || (trap.1 = commandEvent && isKept trap.1 'T')
  { context with
    traps := events ++ context.keptTraps
    signals := []
    isCopy := true
    isLast := false }

/-- Do something behind which the process does something else. -/
def notLast {α : Type} (action : Exec α) : Exec α := do
  let isLast := (← context).isLast
  changeContext fun c => { c with isLast := false }
  ensuring action (changeContext fun c => { c with isLast := isLast })

/-- The signals that do nothing to a process that does not ask for them. -/
def harmlessSignals : List Nat := [0, 17, 18, 19, 20, 21, 22, 23, 28]

/-- The signal that kills for sure. -/
def killSignal : Nat := 9

/-- Send a signal to the running process. -/
def receive (signal : Nat) : Exec Unit := do
  if (← context).ignored.contains signal then return ()
  match (← context).traps.lookup signal with
  | some action =>
    if signal = killSignal then throw (.killed signal)
    if signal ≠ 0 && !action.isEmpty then
      changeContext fun c => { c with signals := c.signals ++ [signal] }
  | none => if !harmlessSignals.contains signal then throw (.killed signal)

/-- The running process gets the signals that were sent to it while it was waiting. -/
def receivePending : Exec Unit := do
  let state ← get
  if state.context.isCopy then return ()
  let isOwn (sent : Nat × Nat) : Bool := sent.1 = state.context.process
  set { state with pending := state.pending.filter fun sent => !isOwn sent }
  (state.pending.filter isOwn).forM fun sent => receive sent.2

/-- **Run the processes in the background** that were started since one of a number. -/
def runDelayed (engine : Engine) (since : Nat) : (bound : Nat) → Exec Unit
  | 0 => return ()
  | bound + 1 => do
    let state ← get
    match state.delayed.find? fun delayed => since ≤ delayed.process with
    | none => return ()
    | some delayed =>
      set { state with
        delayed := state.delayed.filter fun other => other.process ≠ delayed.process
        files := state.files.standAs delayed.standing
        context := delayed.context }
      let outcome ← finish engine (← attempt (engine.script false delayed.script))
      modify fun after =>
        let (status, killed) := match outcome with
          | .error (.killed signal) => (killedStatus signal, [(delayed.process, signal)])
          | _ => (after.context.status % 256, [])
        { after with
          killed := killed ++ after.killed
          files := after.files.standAs state.files.standing
          context := state.context
          ended := (delayed.process, status) :: after.ended }
      receivePending
      runDelayed engine since bound

/-- The greatest number of processes in the background. -/
def maxDelayed : Nat := 1000

/-- **Do something in a process of its own**, and return its status. A signal that kills the process in
which the whole script runs goes on to it. -/
def asProcess (engine : Engine) (action : Exec Unit) : Exec Nat := do
  let before ← get
  changeContext Context.forChild
  let outcome ← finish engine (← attempt action)
  let status := (← context).status
  runDelayed engine before.nextProcess maxDelayed
  modify fun after =>
    { after with
      killed := []
      context := before.context
      files := after.files.standAs before.files.standing }
  receivePending
  match outcome with
  | .error (.killed signal) => throw (.killed signal)
  | _ => return status % 256

/-- Do something with another channel for a descriptor. -/
def withDescriptor {α : Type} (descriptor index : Nat) (action : Exec α) : Exec α := do
  let before := (← context).descriptors
  changeContext fun c => { c with descriptors := (descriptor, index) :: before }
  ensuring action (changeContext fun c => { c with descriptors := before })

/-- **What a process writes** to its standard output, and its status. -/
def capture (engine : Engine) (action : Exec Unit) : Exec (Octets × Nat) := do
  let index ← newPipe ByteArray.empty
  let status ← withDescriptor 1 index (asProcess engine action)
  match (← get).channels[index]? with
  | some (.pipe bytes _ _) => return (octetsOf bytes, status)
  | _ => return ([], status)

end Shell

end ComponentScaffold
