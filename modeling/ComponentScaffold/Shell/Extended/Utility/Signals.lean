import ComponentScaffold.Shell.Extended.Quoted
import ComponentScaffold.Shell.Utility.Process
import ComponentScaffold.Shell.Utility.Signals

/-! # Signals and processes

* **`Extended.trap`** — tells what is done at a signal, or when something else happens.
* **`Extended.kill`** — sends a signal.
* **`Extended.wait`** — waits for processes in the background.
* **`Extended.umask`** — the permissions that new files do not get. -/

namespace ComponentScaffold

namespace Shell

namespace Extended

open Utility

/-! ## Signals -/

/-- What is waited for besides signals, by the numbers behind those: before a command, after one that failed, and at the
end of a function. -/
def eventNames : List (Nat × String) := [(65, "DEBUG"), (66, "ERR"), (67, "RETURN")]

/-- The number of a signal or of something else that is waited for. -/
def event? (text : Octets) : Option Nat :=
  let upper := text.map Char.toUpper
  let bare := if (octets "SIG").isPrefixOf upper then upper.drop 3 else upper
  match eventNames.find? fun entry => octets entry.2 = upper with
  | some (number, _) => some number
  | none => (signal? bare).filter fun n => n ≠ 32 && n ≠ 33

/-- The name of what is waited for. -/
def eventName (number : Nat) : Octets :=
  match eventNames.lookup number with
  | some name => octets name
  | none => if number = 0 then octets "EXIT" else octets "SIG" ++ signalName number

/-- The signals in columns. -/
def signalTable : Octets :=
  let numbers := (List.range signalNames.length).filter fun n => n ≠ 0 && n ≠ 32 && n ≠ 33
  numbers.zipIdx.flatMap fun (n, i) =>
    let digits := natText n
    List.replicate (2 - digits.length) ' ' ++ digits ++ octets ") " ++ eventName n ++
      (if (i + 1) % 5 = 0 then ['\n'] else if i + 1 = numbers.length then ['\t', '\n'] else ['\t'])

/-- An action that was set, in a line. -/
def trapLine (held : Nat × Octets) : Octets :=
  octets "trap -- " ++ Quoted.single held.2 ++ ' ' :: eventName held.1 ++ ['\n']

/-- The actions that were set, with the signals that are ignored, in order. -/
def allTraps (context : Context) : List (Nat × Octets) :=
  let ignored := (context.ignored.filter fun n => (context.traps.lookup n).isNone).map fun n => (n, [])
  (context.traps ++ ignored).mergeSort fun a b => a.1 ≤ b.1

/-- What is said about an unknown signal. -/
def invalidSignal (text : Octets) : Octets := text ++ octets ": invalid signal specification"

/-- The number of what a text names, which has to be known. -/
def requireEvent (text : Octets) : Exec Nat := do
  match event? text with
  | some number => return number
  | none => fail (invalidSignal text)

/-- Do something with each of some signals, whose status is zero if all are known. -/
def forSignals (texts : List Octets) (action : Nat → Exec Unit) : Exec Nat := do
  let statuses ← texts.mapM fun text => do
    match event? text with
    | some number =>
      action number
      return 0
    | none =>
      warn (invalidSignal text)
      return 1
  return if statuses.all (· = 0) then 0 else 1

/-- **Tell what is done at signals**, or list it. -/
def trap : Utility := fun _ arguments => do
  let (options, operands) ← options "lp" "" arguments
  let has (letter : Char) : Bool := options.any fun option => option.1 = letter
  if has 'l' then return ← say signalTable
  if operands.isEmpty then return ← say ((allTraps (← context)).flatMap trapLine)
  if has 'p' then
    return ← forSignals operands fun number => do
      let held := (allTraps (← context)).filter fun held => held.1 = number
      let _ ← say (held.flatMap trapLine)
  match operands with
  | [condition] =>
    match event? condition with
    | some number =>
      setTrap none number
      return 0
    | none => failUsage
  | first :: rest =>
    if (natOf? first).isSome && (event? first).isSome then forSignals (first :: rest) (setTrap none)
    else forSignals rest (setTrap (if first = ['-'] then none else some first))
  | [] => return 0

/-! ## Sending signals -/

/-- Send a signal to what an operand means. -/
def sendTo (signal : Nat) (target : Octets) : Exec Unit := do
  match target with
  | '%' :: _ => fail (target ++ octets ": no such job")
  | _ =>
    match intOf? target with
    | none =>
      if target.isEmpty then fail (octets "\x60': not a pid or valid job spec")
      fail (target ++ octets ": arguments must be process or job IDs")
    | some number =>
      if !(← send signal number.natAbs) then
        fail ('(' :: intText number ++ octets ") - No such process")

/-- Name the signals of numbers or of statuses, or tell the numbers of named ones. -/
def nameSignal (text : Octets) : Exec Unit := do
  match natOf? text with
  | some n =>
    let n := if n > 128 then n - 128 else n
    if n < signalNames.length && n ≠ 32 && n ≠ 33 then
      let _ ← say ((if n = 0 then octets "EXIT" else signalName n) ++ ['\n'])
    else fail (invalidSignal text)
  | none =>
    match event? text with
    | some number =>
      let _ ← say (natText number ++ ['\n'])
    | none => fail (invalidSignal text)

/-- What is done with each of some operands, whose status is that of the last one that failed. -/
def forOperands (operands : List Octets) (action : Octets → Exec Unit) : Exec Nat := do
  let statuses ← operands.mapM fun operand => do
    match ← attempt (action operand) with
    | .ok () => return 0
    | .error .failure => return (← context).status
    | .error stop => throw stop
  return if statuses.any (· = 0) || statuses.isEmpty then 0 else 1

/-- Send a signal to what the operands mean. -/
def sendAll (signal : Nat) (operands : List Octets) : Exec Nat := do
  let operands := if operands.head? = some ['-', '-'] then operands.tail else operands
  if operands.isEmpty then failUsage
  forOperands operands (sendTo signal)

/-- **Send a signal** to processes. -/
def kill : Utility := fun _ arguments => do
  match arguments with
  | [] => failUsage
  | option :: rest =>
    match option with
    | ['-', 'l'] | ['-', 'L'] => if rest.isEmpty then say signalTable else forOperands rest nameSignal
    | ['-', 's'] | ['-', 'n'] =>
      match rest with
      | [] =>
        warn (option ++ octets ": option requires an argument")
        failUsage
      | name :: targets => sendAll (← requireEvent name) targets
    | ['-', '-'] => sendAll endSignal rest
    | '-' :: c :: name => sendAll (← requireEvent (c :: name)) rest
    | _ => sendAll endSignal (option :: rest)

/-! ## Waiting -/

/-- The processes in the background that have not ended. -/
def runningJobs (state : State) : List Nat := state.delayed.map Delayed.process

/-- The status of a process that an operand means, which is waited for. The jobs that were running are known. -/
def waitFor (known : List Nat) (target : Octets) : Exec Nat := do
  match target with
  | '%' :: job =>
    match if let some index := natOf? job then known[index - 1]? else known.getLast? with
    | some process => return ((← get).ended.lookup process).getD unknownStatus
    | none =>
      warn (target ++ octets ": no such job")
      return unknownStatus
  | _ =>
    match natOf? target with
    | none =>
      warn ('\x60' :: target ++ octets "': not a pid or valid job spec")
      return 1
    | some process =>
      match (← get).ended.lookup process with
      | some status => return status
      | none =>
        warn (octets "pid " ++ target ++ octets " is not a child of this shell")
        return unknownStatus

/-- **Wait for processes in the background**, for all of them, for the next one, or for those of some numbers. -/
def wait : Utility := fun engine arguments => do
  let (options, targets) ← options "fn" "p" arguments
  let before := (← get).ended.map Prod.fst
  let known := runningJobs (← get)
  runDelayed engine 0 maxDelayed
  modify fun state => { state with killed := [] }
  if targets.isEmpty then
    if !(options.any fun option => option.1 = 'n') then return 0
    let ended := (← get).ended.filter fun held => !before.contains held.1
    return (ended.getLast?.map Prod.snd).getD unknownStatus
  let statuses ← targets.mapM (waitFor known)
  return statuses.getLastD 0

/-- Refuse what there is only where a terminal controls processes. -/
def refuseControl : Utility := fun _ _ => fail (octets "no job control")

/-- Refuse to stop a process that no terminal controls. -/
def suspend : Utility := fun _ arguments => do
  let _ ← options "f" "" arguments
  fail (octets "cannot suspend: no job control")

/-- List processes in the background, of which nothing is told. -/
def listJobs : Utility := fun _ arguments => do
  let (_, operands) ← options "lpnrsx" "" arguments
  match operands with
  | [] => return 0
  | job :: _ => fail (job ++ octets ": no such job")

/-- Give up processes in the background. -/
def disown : Utility := fun _ arguments => do
  let (options, operands) ← options "har" "" arguments
  match operands with
  | [] =>
    if options.any fun option => option.1 = 'a' || option.1 = 'r' then return 0
    if (runningJobs (← get)).isEmpty then fail (octets "current: no such job") else return 0
  | job :: _ =>
    if (natOf? job).any (runningJobs (← get)).contains then return 0 else fail (job ++ octets ": no such job")

/-! ## Limits -/

/-- The mask that a text asks for. -/
def maskFor (mask : Nat) (text : Octets) : Exec Nat := do
  if text.head?.any Char.isDigit then
    let value := text.foldl (fun value c => 8 * value + (c.toNat - '0'.toNat)) 0
    if text.all (fun c => '0' ≤ c && c ≤ '7') && value ≤ 0o777 then return value
    fail (text ++ octets ": octal number out of range")
  match (text.splitOn ',').foldlM maskAfter? mask with
  | some mask => return mask
  | none =>
    let part := ((text.splitOn ',').find? fun part => (maskAfter? mask part).isNone).getD []
    let behind := part.dropWhile "ugoa".toList.contains
    match behind with
    | c :: letters =>
      if !"+-=".toList.contains c then fail ('\x60' :: c :: octets "': invalid symbolic mode operator")
      let bad := (letters.find? fun letter => !"rwx".toList.contains letter).getD ' '
      fail ('\x60' :: bad :: octets "': invalid symbolic mode character")
    | [] => fail (octets "\x60 ': invalid symbolic mode operator")

/-- **Change the permissions that new files do not get**, or tell them. -/
def umask : Utility := fun _ arguments => do
  let (options, operands) ← options "Sp" "" arguments
  let has (letter : Char) : Bool := options.any fun option => option.1 = letter
  match operands with
  | [] =>
    let mask := (← files).standing.mask
    let text := if has 'S' then maskText mask else maskDigits mask
    let before := if !has 'p' then "" else if has 'S' then "umask -S " else "umask "
    say (octets before ++ text ++ ['\n'])
  | text :: _ =>
    let asked ← maskFor (← files).standing.mask text
    putFiles ((← files).setMask asked)
    if has 'S' then say (maskText asked ++ ['\n']) else return 0

/-- **Tell a limit.** There is none, and setting one has no effect. -/
def ulimit : Utility := fun _ arguments => do
  let (_, operands) ← options "SHabcdefiklmnpqrstuvxPRT" "" arguments
  match operands with
  | [] => say (octets "unlimited\n")
  | value :: _ =>
    if (natOf? value).isSome || [octets "unlimited", octets "hard", octets "soft"].contains value then return 0
    fail (value ++ octets ": invalid number")

/-- **Tell how long the shell and its children have worked.** -/
def times : Utility := fun _ arguments => do
  let _ ← options "" "" arguments
  let line := "0m0.000s 0m0.000s\n"
  say (octets (line ++ line))

end Extended

end Shell

end ComponentScaffold
