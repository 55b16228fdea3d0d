import ComponentScaffold.Shell.Installation
import ComponentScaffold.Shell.Utility.Basic

/-! # Utilities that direct what runs

* **`Utility.eval`**, **`Utility.source`** — run the commands of a text or of a file.
* **`Utility.exec`** — makes the process another program.
* **`Utility.exit`**, **`Utility.leave`** — end the process, or a function.
* **`Utility.skip`** — leaves a loop, or goes on with its next round. -/

namespace ComponentScaffold

namespace Shell

namespace Utility

/-- **Run the commands of a text.** -/
def eval : Utility := fun engine arguments => do
  setStatus 0
  engine.text false (joinWith [' '] arguments)
  return (← context).status

/-- The path of a file with commands. A name without a slash is looked for like that of a command. -/
def sourcePath (name : Octets) : Exec Octets := do
  match programPath (← files) (← context) name with
  | .ok path => return path
  | .error _ => fail (name ++ octets ": not found")

/-- Why a file cannot be opened to be read, as the shell words it. -/
def cannotOpen (path : Octets) (fault : OsFault) : Octets :=
  let reason := match fault with
    | .noEntry | .notDirectory => "No such file"
    | fault => fault.description
  octets "cannot open " ++ path ++ octets s!": {reason}"

/-- **Run the commands of a file.** -/
def source : Utility := fun engine arguments => do
  match ← operands arguments with
  | [] => return 0
  | name :: _ =>
    let path ← sourcePath name
    match ← readPath path with
    | .error fault => fail (cannotOpen path fault)
    | .ok bytes =>
      setStatus 0
      changeContext fun c => { c with utility := some path }
      match ← attempt (engine.text false (octetsOf bytes)) with
      | .error (.return _) => return (← context).status
      | .error stop => throw stop
      | .ok () => return (← context).status

/-- **Make the process another program.** Without arguments nothing happens but that the redirections
stay. -/
def exec : Utility := fun engine arguments => do
  match ← operands arguments with
  | [] => return 0
  | name :: arguments =>
    changeContext Context.forProgram
    match ← engine.program (name :: arguments) with
    | .error fault =>
      let context ← context
      let files ← files
      let shown := if context.isExtended && !name.contains '/' then name ++ octets ": not found"
        else notStarted context name (startFault files context name fault)
      warn shown
      throw (.exit (some (notStartedStatus context fault)))
    | .ok status =>
      changeContext fun c => { c with traps := c.keptTraps }
      throw (.exit (some status))

/-- **End the process**, with the last status or a given one. -/
def exit : Utility := fun _ arguments => do
  match arguments with
  | [] => throw (.exit none)
  | argument :: _ => throw (.exit (some (← number argument)))

/-- **Leave a function or a read file**, with the last status or a given one. -/
def leave : Utility := fun _ arguments => do
  if let argument :: _ := arguments then setStatus (← number argument)
  throw (.return !arguments.isEmpty)

/-- **Leave some loops**, or go on with the next round of the outermost of them. -/
def skip (again : Bool) : Utility := fun _ arguments => do
  let levels ← match arguments with
    | [] => pure 1
    | argument :: _ => do
      let levels ← number argument
      if levels = 0 then fail (octets "Illegal number: " ++ argument)
      pure levels
  let levels := min levels (← context).loops
  if levels = 0 then return 0
  setStatus 0
  throw (.leave levels again)

end Utility

end Shell

end ComponentScaffold
