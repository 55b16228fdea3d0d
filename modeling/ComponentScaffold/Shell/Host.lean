import ComponentScaffold.Process.Command
import ComponentScaffold.Shell.Start

/-! # A host for commands

What runs commands where nothing is installed but the shell and the usual programs. The program runs its generator
on it. What is proved of generators is proved of all that leave file systems well-formed; those on this host do,
because scripts can change a file system in no way but by the operations on disks.

* **`Shell.runOn`** — what a command comes to on a disk.
* **`Shell.host`** — the host. -/

namespace ComponentScaffold

namespace Shell

/-- The variables that programs are started with. -/
def hostVariables : List (Octets × Variable) :=
  [("PATH", "/usr/local/cargo/bin:/usr/local/sbin:/usr/local/bin:/usr/sbin:/usr/bin:/sbin:/bin"),
    ("HOME", "/root")].map fun (name, value) => (octets name, .ofValue (octets value) true)

/-- The number of the process that starts programs. -/
def hostProcess : Nat := 1000

/-- The context that programs are started from. -/
def hostContext : Context where
  dialect := .common
  switches := []
  functionSources := []
  calls := []
  origin := []
  level := 0
  found := []
  folders := []
  name := []
  arguments := []
  bindings := hostVariables
  locals := []
  functions := []
  aliases := []
  options := []
  traps := []
  ignored := []
  signals := []
  descriptors := [(0, 0), (1, 1), (2, 2)]
  status := 0
  wordStatus := 0
  stageStatuses := []
  line := 0
  utility := none
  loops := 0
  folder := []
  process := hostProcess
  isCopy := false
  waiting := []
  lastBackground := none
  optionIndex := 1
  optionOffset := none
  isLast := false

/-- The state that programs are started from: there is no input, and nothing has been written. -/
def hostState (files : Disk) : State where
  files := files
  channels := #[.device .null, .output, .error]
  output := ByteArray.empty
  error := ByteArray.empty
  documents := #[]
  delayed := []
  ended := []
  killed := []
  pending := []
  nextProcess := hostProcess + 1
  context := hostContext

/-- Whether a text cannot be given to a program. -/
def hasNul (text : String) : Bool := text.contains '\x00'

/-- Run a program that is called by some words, and all that it leaves in the background. -/
def runCommand (words : List Octets) : Exec (Except OsFault Nat) := do
  let engine := engine maxNesting
  let name := words.headD []
  if name.isEmpty then return .error .noEntry
  match programPath (← files) (← context) name with
  | .error fault => return .error fault
  | .ok path =>
    match ← attempt (execute engine maxInterpreters path words) with
    | .ok (.error fault) => return .error fault
    | .ok (.ok status) =>
      runDelayed engine 0 maxDelayed
      return .ok status
    | .error stop =>
      runDelayed engine 0 maxDelayed
      return .ok (match stop with
        | .killed signal => killedStatus signal
        | _ => hostContext.failureStatus)

/-- What a command comes to on a disk, and what it leaves. It first moves to its directory, which must be
there. -/
def runOn (command : Command) (disk : Disk) : Except StartFault ProcessExit × Disk :=
  let words := command.program :: command.arguments
  if words.any hasNul then (.error .nulByte, disk) else
    let inside : Except OsFault Disk :=
      match command.directory with
      | none => .ok disk
      | some directory => disk.changeDirectory directory
    match inside with
    | .error fault => (.error (.system fault), disk)
    | .ok inside =>
      let (outcome, after) := (runCommand (words.map octets)).run.run (hostState inside)
      let exit (succeeded : Bool) : Except StartFault ProcessExit × Disk :=
        (.ok ⟨succeeded, after.output.toList, after.error.toList⟩, after.files.standAs disk.standing)
      match outcome with
      | .ok (.ok status) => exit (status = 0)
      | .ok (.error fault) => (.error (.system fault), disk)
      | .error _ => exit false

/-- **The host.** It runs commands on well-formed file systems; nothing can be started on others. -/
def host : ProcessHost := fun _ command files =>
  if h : files.WellFormed then
    let (outcome, after) := runOn command ⟨files, h⟩
    (outcome, after)
  else (.error (.system .noEntry), files)

end Shell

end ComponentScaffold
