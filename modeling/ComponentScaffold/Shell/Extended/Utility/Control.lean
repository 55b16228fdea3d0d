import ComponentScaffold.Shell.Extended.Utility.Switches
import ComponentScaffold.Shell.Utility.Control

/-! # What runs

* **`Extended.eval`**, **`Extended.source`** — run the commands of a text or of a file.
* **`Extended.exec`** — makes the process another program.
* **`Extended.exit`**, **`Extended.leave`** — end the process, or a function.
* **`Extended.skip`** — leaves a loop, or goes on with its next round.
* **`Extended.caller`** — tells what called. -/

namespace ComponentScaffold

namespace Shell

namespace Extended

open Utility

/-- Run the commands of a text that comes from a place, and return the status of the last one. -/
def runFrom (engine : Engine) (origin : Octets) (line : Nat) (text : Octets) : Exec Nat := do
  let before ← context
  setStatus 0
  changeContext fun c => { c with origin := origin, line := line, utility := none, level := c.level + 1 }
  ensuring (engine.text false text) (changeContext fun c =>
    { c with origin := before.origin, utility := before.utility, line := before.line, level := before.level })
  return (← context).status

/-- **Run the commands of a text.** -/
def eval : Utility := fun engine arguments => do
  let (_, operands) ← options "" "" arguments
  runFrom engine (octets "eval: ") (← context).line (joinWith [' '] operands)

/-- The path of a file with commands. A name without a slash is looked for like that of a command, and then here. -/
def filePath (context : Context) (files : FileSystem) (name : Octets) : Octets :=
  if name.contains '/' || !context.switches.contains "sourcepath" then name
  else match firstFile files name (commandFolders context) with
    | .ok path => path
    | .error _ => name

/-- Say that a file cannot be read, and give up. -/
def refuseFile {α : Type} (name : Octets) (fault : OsFault) : Exec α := do
  let context ← context
  if fault = .isDirectory then fail (name ++ octets ": is a directory")
  complain (complaintHead { context with utility := none } ++ name ++ octets s!": {fault.description}\n")
  setStatus 1
  throw .failure

/-- **Run the commands of a file**, with other arguments if some are given. -/
def source : Utility := fun engine arguments => do
  match (← options "" "" arguments).2 with
  | [] =>
    warn (octets "filename argument required")
    failUsage
  | name :: given =>
    let before ← context
    let path := filePath before (← files) name
    if (← files).isDirectory (pathOf path) then refuseFile name .isDirectory
    match ← readPath path with
    | .error fault => refuseFile name fault
    | .ok bytes =>
      let call : Call := ⟨octets "source", path, before.line⟩
      changeContext fun c =>
        { c with calls := call :: c.calls, arguments := if given.isEmpty then c.arguments else given }
      let leave : Exec Unit := changeContext fun c =>
        { c with
          calls := before.calls
          arguments := if given.isEmpty || c.arguments ≠ given then c.arguments else before.arguments }
      match ← attempt (ensuring (runFrom engine [] 1 (octetsOf bytes)) leave) with
      | .error (.return _) => return (← context).status
      | .error stop => throw stop
      | .ok status => return status

/-- Say why the process was not made another program, and end it. -/
def refuseReplacing {α : Type} (name : Octets) (fault : OsFault) : Exec α := do
  let context ← context
  let found := startFault (← files) context name fault
  let isPath := name.contains '/'
  let plain (message : String) : Exec Unit :=
    complain (complaintHead { context with utility := none } ++ name ++ octets s!": {message}\n")
  if !isPath then warn (name ++ octets ": not found")
  else if found = .noEntry then plain found.description
  else
    plain found.description
    warn (name ++ octets s!": cannot execute: {found.description}")
  throw (.exit (some (notStartedStatus context found)))

/-- **Make the process another program.** Without arguments nothing happens but that the redirections stay. -/
def exec : Utility := fun engine arguments => do
  let (options, operands) ← options "cl" "a" arguments
  match operands with
  | [] => return 0
  | name :: arguments =>
    if options.any fun option => option.1 = 'c' then
      changeContext fun c => { c with bindings := c.bindings.map fun (name, held) =>
        (name, { held with exported := false }) }
    changeContext Context.forProgram
    match ← engine.program (name :: arguments) with
    | .error fault => refuseReplacing name fault
    | .ok status =>
      changeContext fun c => { c with traps := c.keptTraps }
      throw (.exit (some status))

/-- The number that an argument writes, for a status. -/
def statusOf (n : Int) : Nat := (n % 256).toNat

/-- The status of a process that was ended in a wrong way. -/
def wrongStatus : Nat := 2

/-- **End the process**, with the last status or a given one. -/
def exit : Utility := fun _ arguments => do
  match if arguments.head? = some ['-', '-'] then arguments.tail else arguments with
  | [] => throw (.exit none)
  | argument :: rest =>
    match intOf? argument with
    | none =>
      warn (argument ++ octets ": numeric argument required")
      throw (.exit (some wrongStatus))
    | some n => if rest.isEmpty then throw (.exit (some (statusOf n))) else endForArguments

/-- Whether a function runs, or a file is read. -/
def canLeave (context : Context) : Bool :=
  !context.locals.isEmpty || context.calls.any fun call => call.name = octets "source"

/-- **Leave a function or a read file**, with the last status or a given one. -/
def leave : Utility := fun _ arguments => do
  let arguments := if arguments.head? = some ['-', '-'] then arguments.tail else arguments
  let status? ← match arguments with
    | [] => pure none
    | argument :: rest =>
      match intOf? argument with
      | none =>
        warn (argument ++ octets ": numeric argument required")
        pure (some wrongStatus)
      | some n => if rest.isEmpty then pure (some (statusOf n)) else endForArguments
  if !canLeave (← context) then
    failWith wrongStatus (octets "can only \x60return' from a function or sourced script")
  if let some status := status? then setStatus status
  throw (.return !arguments.isEmpty)

/-- The mark of the status of a process that ends where it should not. -/
def brokenMark : Nat := 128

/-- **Leave some loops**, or go on with the next round of the outermost of them. -/
def skip (again : Bool) : Utility := fun _ arguments => do
  let context ← context
  let arguments := if arguments.head? = some ['-', '-'] then arguments.tail else arguments
  if context.loops = 0 then
    warn (octets "only meaningful in a \x60for', \x60while', or \x60until' loop")
    return 0
  let levels : Int ← match arguments with
    | [] => pure 1
    | argument :: rest =>
      match intOf? argument with
      | none =>
        warn (argument ++ octets ": numeric argument required")
        throw (.exit (some (context.status ||| brokenMark)))
      | some n => if rest.isEmpty then pure n else endForArguments
  if levels ≤ 0 then
    warn ((arguments.headD []) ++ octets ": loop count out of range")
    setStatus 1
    throw (.leave context.loops false)
  setStatus 0
  throw (.leave (min levels.toNat context.loops) again)

/-- **Tell what called** the function that runs: the line, and with a number also the function. -/
def caller : Utility := fun _ arguments => do
  let calls := (← context).calls
  if calls.isEmpty then return 1
  match arguments with
  | [] =>
    match calls with
    | call :: others =>
      say (natText call.line ++ ' ' :: ((others.head?.map Call.source).getD (octets "NULL")) ++ ['\n'])
    | [] => return 1
  | argument :: _ =>
    match natOf? argument with
    | none =>
      warn (argument ++ octets ": invalid number")
      failUsage
    | some index =>
      match calls[index]?, calls[index + 1]? with
      | some call, some around =>
        say (natText call.line ++ ' ' :: around.name ++ ' ' :: around.source ++ ['\n'])
      | _, _ => return 1

/-- Refuse to end a process in which nobody has logged in. -/
def logout : Utility := fun _ _ => fail (octets "not login shell: use \x60exit'")

end Extended

end Shell

end ComponentScaffold
