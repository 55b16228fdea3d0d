import ComponentScaffold.Shell.Utility.Basic

/-! # Utilities for signals and processes

* **`Utility.trap`** — tells what is done at a signal, or at the end of the process.
* **`Utility.kill`** — sends a signal.
* **`Utility.wait`** — waits for processes in the background. -/

namespace ComponentScaffold

namespace Shell

namespace Utility

/-- The names of the signals in the order of their numbers. The first one stands for the end. -/
def signalNames : List String :=
  ["EXIT", "HUP", "INT", "QUIT", "ILL", "TRAP", "ABRT", "BUS", "FPE", "KILL", "USR1", "SEGV", "USR2",
    "PIPE", "ALRM", "TERM", "16", "CHLD", "CONT", "STOP", "TSTP", "TTIN", "TTOU", "URG", "XCPU",
    "XFSZ", "VTALRM", "PROF", "WINCH", "IO" , "PWR", "SYS", "32", "33", "RTMIN"] ++
  (List.range 15).map (fun i => s!"RTMIN+{i + 1}") ++
  (List.range 14).map (fun i => s!"RTMAX-{14 - i}") ++ ["RTMAX"]

/-- The number of a signal that is named or numbered. -/
def signal? (text : Octets) : Option Nat :=
  match natOf? text with
  | some n => if n < signalNames.length then some n else none
  | none => signalNames.findIdx? fun name => octets name = text.map Char.toUpper

/-- The name of the signal of a number. -/
def signalName (signal : Nat) : Octets := octets ((signalNames[signal]?).getD "")

/-- The actions that were set, each in a line. -/
def trapListing (context : Context) : Octets :=
  (context.traps.mergeSort fun a b => a.1 ≤ b.1).flatMap fun (signal, action) =>
    octets "trap -- " ++ quoted action ++ ' ' :: signalName signal ++ ['\n']

/-- Set the action for a signal, or take it away. -/
def setTrap (action : Option Octets) (signal : Nat) : Exec Unit :=
  changeContext fun c =>
    let others := c.traps.filter fun trap => trap.1 ≠ signal
    match action with
    | some action => { c with traps := (signal, action) :: others }
    | none => { c with traps := others }

/-- Set the action for signals up to one that is unknown. -/
def setTraps (action : Option Octets) : List Octets → Exec Nat
  | [] => return 0
  | condition :: rest =>
    match signal? condition with
    | some signal => do
      setTrap action signal
      setTraps action rest
    | none => do
      complain (octets "trap: " ++ condition ++ octets ": bad trap\n")
      return 1

/-- **Tell what is done at signals**, or list it. Without an action, or with a minus sign for one, it is
what it was from the start. -/
def trap : Utility := fun _ arguments => do
  match ← operands arguments with
  | [] => say (trapListing (← context))
  | [condition] => setTraps none [condition]
  | first :: rest =>
    if (natOf? first).isSome && (signal? first).isSome then setTraps none (first :: rest)
    else setTraps (if first = ['-'] then none else some first) rest

/-- Send a signal to the process of a number, and say whether there is one. -/
def send (signal process : Nat) : Exec Bool := do
  let state ← get
  if process = state.context.process && !state.context.isCopy then
    receive signal
    return true
  if process = state.context.process || state.context.waiting.contains process then
    set { state with pending := state.pending ++ [(process, signal)] }
    return true
  if state.delayed.any fun delayed => delayed.process = process then
    if !harmlessSignals.contains signal then
      set { state with
        delayed := state.delayed.filter fun delayed => delayed.process ≠ process
        ended := (process, killedStatus signal) :: state.ended
        killed := (process, signal) :: state.killed }
    return true
  return false

/-- Send a signal to some processes. -/
def sendAll (signal : Nat) : List Octets → Exec Nat
  | [] => return 0
  | target :: rest => do
    let process ← number (if target.head? = some '-' then target.tail else target)
    let isThere ← send signal process
    if !isThere then warn (octets "No such process\n")
    let status ← sendAll signal rest
    return if isThere then status else 1

/-- How `kill` is used. -/
def killUsage : Octets :=
  octets ("Usage: kill [-s sigspec | -signum | -sigspec] [pid | job]... or\n" ++
    "kill -l [exitstatus]")

/-- List the signals, or name the one of a number or of a status. -/
def nameSignals : List Octets → Exec Nat
  | [] => say ((octets "0" :: signalNames.tail.map octets).flatMap fun name => name ++ ['\n'])
  | argument :: _ => do
    let n ← number argument
    let signal := if n > 128 then n - 128 else n
    if signal = 0 || signalNames.length ≤ signal then
      fail (octets "invalid signal number or exit status: " ++ argument)
    say (signalName signal ++ ['\n'])

/-- The signal that asks a process to end. -/
def endSignal : Nat := 15

/-- **Send a signal** to processes. -/
def kill : Utility := fun _ arguments => do
  let given := match arguments with
    | ('-' :: first) :: rest =>
      (signal? first).bind fun signal => if first.isEmpty then none else some (signal, rest)
    | _ => none
  match given with
  | some (signal, targets) => if targets.isEmpty then fail killUsage else sendAll signal targets
  | none =>
    let (options, operands) ← options "l" "s" arguments
    let asked ← options.filterMapM fun (letter, value) =>
      if letter ≠ 's' then return none
      else match signal? value with
        | some signal => return some signal
        | none => fail (octets "invalid signal number or name: " ++ value)
    if options.any fun option => option.1 = 'l' then nameSignals operands
    else if operands.isEmpty then fail killUsage
    else sendAll (asked.getLast?.getD endSignal) operands

/-- The status of a process that is no child. -/
def unknownStatus : Nat := 127

/-- The processes in the background that were started and are known, the first one first. -/
def jobs (state : State) : List Nat :=
  ((state.delayed.map Delayed.process ++ state.ended.map Prod.fst).mergeSort).eraseDups

/-- The process that an operand means: that of a number, or behind a percent sign that of a job. -/
def waitedFor (target : Octets) : Exec Nat := do
  match target with
  | '%' :: job =>
    let known := jobs (← get)
    match if let some index := natOf? job then known[index - 1]? else known.getLast? with
    | some process => return process
    | none => fail (octets "No such job: " ++ target)
  | _ => number target

/-- Wait for a process, and say so if a signal killed it, the first time. -/
def waitForOne (process : Nat) : Exec Nat := do
  let state ← get
  if let some signal := state.killed.lookup process then
    set { state with killed := state.killed.filter fun held => held.1 ≠ process }
    tellKilled signal
  return (state.ended.lookup process).getD unknownStatus

/-- **Wait for processes in the background**, for all of them or those of some numbers. -/
def wait : Utility := fun engine arguments => do
  let targets ← (← operands arguments).mapM waitedFor
  runDelayed engine 0 maxDelayed
  if targets.isEmpty then
    modify fun state => { state with killed := [] }
    return 0
  let statuses ← targets.mapM waitForOne
  return statuses.getLastD 0

/-- Move a job to where it is waited for or not. There are none where there is no terminal. -/
def moveJob : Utility := fun _ arguments => do
  match ← operands arguments with
  | [] => fail (octets "No current job")
  | job :: _ => fail (octets "No such job: " ++ job)

end Utility

end Shell

end ComponentScaffold
