import ComponentScaffold.Shell.Disk
import ComponentScaffold.Shell.Extended.Entries
import ComponentScaffold.Shell.Syntax

/-! # The state of a shell

What scripts find and change while they run. The file system and the channels are shared by all processes;
the context is a process's own, and a process that is started from another one gets a copy of it.

* **`Shell.Context`** — what is a process's own.
* **`Shell.State`** — the whole state.
* **`Shell.Exec`** — what works on the state and may stop the script. -/

namespace ComponentScaffold

namespace Shell

/-- **A channel**, through which bytes come or go. -/
inductive Channel
  /-- The standard output of the first process. -/
  | output
  /-- The standard error of the first process. -/
  | error
  /-- A device. -/
  | device (device : Device)
  /-- The file of a number from an offset on, or always from its end. -/
  | file (number : Nat) (offset : Nat) (appends reads writes : Bool)
  /-- The queue of a number. -/
  | queue (number : Nat)
  /-- A directory, of which nothing can be read as bytes. -/
  | directory
  /-- Bytes that were written and are read from an offset on, and then others over and over, if there are
  any. -/
  | pipe (bytes : ByteArray) (offset : Nat) (refrain : ByteArray)

/-- A variable. -/
structure Variable where
  /-- Its value, if it has one. -/
  value : Option Octets
  /-- Whether the programs that are started get it. -/
  exported : Bool
  /-- Whether it keeps its value for good. -/
  fixed : Bool
  /-- Its entries, if it has such; its value is then that of the first one. -/
  entries : Option Entries
  /-- The letters of what else it was declared to be. -/
  traits : List Char
deriving DecidableEq, Repr

/-- A variable with a value. -/
def Variable.ofValue (value : Octets) (exported : Bool) : Variable := ⟨some value, exported, false, none, []⟩

/-- A variable about which nothing is known. -/
def Variable.empty : Variable := ⟨none, false, false, none, []⟩

/-- **A call that runs**: of a function, of a file that is read, or of the script itself. -/
structure Call where
  /-- The name of the function, or of what reads the file. -/
  name : Octets
  /-- Where the commands that run stand. -/
  source : Octets
  /-- The line of the command that called. -/
  line : Nat
deriving DecidableEq, Repr

/-- **What is a process's own.** -/
structure Context where
  /-- The dialect of its scripts. -/
  dialect : Dialect
  /-- What is on of the extended dialect, by name. -/
  switches : List String
  /-- The name of the script. -/
  name : Octets
  /-- The arguments of the script, or of the function that runs. -/
  arguments : List Octets
  /-- The variables. -/
  bindings : List (Octets × Variable)
  /-- What the variables were that are local to the functions that run, innermost first. -/
  locals : List (List (Octets × Option Variable))
  /-- The functions. -/
  functions : List (Octets × Script)
  /-- Where the functions stand, by their names. -/
  functionSources : List (Octets × Octets)
  /-- The calls that run, innermost first. -/
  calls : List Call
  /-- Where the text that is read comes from, as faults in it are told. -/
  origin : Octets
  /-- How deep what runs stands in other texts and words. -/
  level : Nat
  /-- Where programs were found, and how often they were run. -/
  found : List (Octets × Octets × Nat)
  /-- The directories that were left to come back to. -/
  folders : List Octets
  /-- Other words for commands. -/
  aliases : List (Octets × Octets)
  /-- The letters of the options that are on. -/
  options : List Char
  /-- What is done at the signals of some numbers, and for zero at the end. -/
  traps : List (Nat × Octets)
  /-- The numbers of the signals that the process was started to ignore. -/
  ignored : List Nat
  /-- Signals that came and were not looked at. -/
  signals : List Nat
  /-- The descriptors and their channels. -/
  descriptors : List (Nat × Nat)
  /-- The status of the last command, zero for success. -/
  status : Nat
  /-- The status of the last command that stood in a word of the present one. -/
  wordStatus : Nat
  /-- The statuses of the stages of the last pipeline. -/
  stageStatuses : List Nat
  /-- The line of the present command. -/
  line : Nat
  /-- The utility that runs and is part of the shell. -/
  utility : Option Octets
  /-- How many loops are running in the function that runs. -/
  loops : Nat
  /-- The path by which the process calls its directory, if that is known. -/
  folder : Octets
  /-- The number of the process. -/
  process : Nat
  /-- Whether it is a copy of the process of that number, which waits for it. -/
  isCopy : Bool
  /-- The numbers of other processes that wait for it. -/
  waiting : List Nat
  /-- The number of the last process in the background. -/
  lastBackground : Option Nat
  /-- The number of the next argument with options, for `getopts`. -/
  optionIndex : Nat
  /-- The place of the next option within the argument before that, if it is not its end. -/
  optionOffset : Option Nat
  /-- Whether the process does nothing any more behind what it does, so that a program that comes last takes
  its place. -/
  isLast : Bool

/-- A process in the background that has not started to run. -/
structure Delayed where
  /-- Its number. -/
  process : Nat
  /-- What is its own. -/
  context : Context
  /-- The directory it starts from. -/
  standing : Standing
  /-- What it runs. -/
  script : Script

/-- **The state of a shell.** -/
structure State where
  /-- The file system. Relative paths start from the directory of the process that runs. -/
  files : Disk
  /-- The channels. -/
  channels : Array Channel
  /-- What was written to the standard output of the first process. -/
  output : ByteArray
  /-- What was written to its standard error. -/
  error : ByteArray
  /-- The here-documents of the scripts read so far. -/
  documents : Array Word
  /-- The processes in the background that have not started to run. -/
  delayed : List Delayed
  /-- The statuses of those that have ended. -/
  ended : List (Nat × Nat)
  /-- The signals that have killed some of them, as long as that may still be told. -/
  killed : List (Nat × Nat)
  /-- Signals that were sent to processes that wait, with the numbers of those. -/
  pending : List (Nat × Nat)
  /-- The number of the next process. -/
  nextProcess : Nat
  /-- What is the running process's own. -/
  context : Context

/-- Why a script stops before its last command. -/
inductive Stop
  /-- Some loops around are left, or the outermost of them goes on with its next round if `again`. -/
  | leave (levels : Nat) (again : Bool)
  /-- A function or a read file is left, with a status that was `given` or with the last one. -/
  | return (given : Bool)
  /-- The process ends, with a status if one is given. -/
  | exit (status : Option Nat)
  /-- Something went wrong for which the process ends, unless a utility is to blame. -/
  | failure
  /-- The process was killed by a signal. -/
  | killed (signal : Nat)
deriving DecidableEq, Repr

/-- **What works on the state** and may stop the script. -/
abbrev Exec := ExceptT Stop (StateM State)

/-- The context of the running process. -/
def context : Exec Context := return (← get).context

/-- Change the context of the running process. -/
def changeContext (change : Context → Context) : Exec Unit :=
  modify fun state => { state with context := change state.context }

/-- The file system. -/
def files : Exec Disk := return (← get).files

/-- Take a state for the file system. -/
def putFiles (files : Disk) : Exec Unit := modify fun state => { state with files := files }

/-- Do something, and let what stops it be known instead of stopping. -/
def attempt {α : Type} (action : Exec α) : Exec (Except Stop α) :=
  ExceptT.mk fun state =>
    let (outcome, after) := action.run.run state
    (.ok outcome, after)

/-- Do something, and something else after it even if it stops the script. -/
def ensuring {α : Type} (action : Exec α) (after : Exec Unit) : Exec α := do
  match ← attempt action with
  | .ok value =>
    after
    return value
  | .error stop =>
    after
    throw stop

/-- Take a status for that of the last command. -/
def setStatus (status : Nat) : Exec Unit := changeContext fun c => { c with status := status }

/-! ## Channels -/

/-- Bytes with others written over them from an offset on. -/
def overwrite (old : ByteArray) (offset : Nat) (new : ByteArray) : ByteArray :=
  let gap : ByteArray := ⟨Array.replicate (offset - old.size) 0⟩
  old.extract 0 offset ++ gap ++ new ++ old.extract (offset + new.size) old.size

/-- The channel of a descriptor, and its number. -/
def channelOf? (descriptor : Nat) : Exec (Option (Nat × Channel)) := do
  let state ← get
  match state.context.descriptors.lookup descriptor with
  | none => return none
  | some index => return (state.channels[index]?).map fun channel => (index, channel)

/-- Change the channel of a number. -/
def changeChannel (index : Nat) (change : Channel → Channel) : Exec Unit :=
  modify fun state => { state with channels := state.channels.modify index change }

/-- Put a channel in the place of the one of a number. -/
def putChannel (index : Nat) (channel : Channel) : Exec Unit := changeChannel index fun _ => channel

/-- A new channel, by its number. -/
def newChannel (channel : Channel) : Exec Nat := do
  let state ← get
  set { state with channels := state.channels.push channel }
  return state.channels.size

/-- A new pipe, by the number of its channel. -/
def newPipe (bytes : ByteArray) : Exec Nat := newChannel (.pipe bytes 0 ByteArray.empty)

/-- The bytes of the file or queue of a number. -/
def heldBytes (files : FileSystem) (number : Nat) : ByteArray :=
  match (files.node? number).map Node.entry with
  | some (.file bytes) => bytes
  | some (.queue bytes) => bytes
  | _ => ByteArray.empty

/-- Let the file or queue of a number hold other bytes. -/
def putBytes (number : Nat) (bytes : ByteArray) : Exec Unit := do
  putFiles ((← files).holdBytes number bytes)

/-- Write bytes to the file of a channel. -/
def writeFile (index number offset : Nat) (appends reads : Bool) (bytes : ByteArray) : Exec Unit := do
  let old := heldBytes (← files) number
  let offset := if appends then old.size else offset
  putBytes number (overwrite old offset bytes)
  putChannel index (.file number (offset + bytes.size) appends reads true)

/-- Write bytes to a channel. -/
def writeChannel (index : Nat) (channel : Channel) (bytes : ByteArray) : Exec (Option OsFault) := do
  match channel with
  | .output => modify fun state => { state with output := state.output ++ bytes }
  | .error => modify fun state => { state with error := state.error ++ bytes }
  | .device .full => return if bytes.isEmpty then none else some .noSpace
  | .device _ => return none
  | .directory => return some .badDescriptor
  | .queue number => putBytes number (heldBytes (← files) number ++ bytes)
  | .file number offset appends reads writes =>
    if !writes then return some .badDescriptor
    writeFile index number offset appends reads bytes
  | .pipe _ _ _ =>
    changeChannel index fun channel =>
      match channel with
      | .pipe held offset refrain =>
        if refrain.isEmpty then .pipe (held ++ bytes) offset refrain else .pipe held offset refrain
      | other => other
  return none

/-- **Write bytes to a descriptor**, or say that it is not open for that. -/
def writeBytes (descriptor : Nat) (bytes : ByteArray) : Exec (Option OsFault) := do
  match ← channelOf? descriptor with
  | none => return some .badDescriptor
  | some (index, channel) => writeChannel index channel bytes

/-- Write a text to a descriptor. -/
def write (descriptor : Nat) (text : Octets) : Exec (Option OsFault) :=
  writeBytes descriptor (bytesOf text)

/-- Write a text to the standard error. -/
def complain (text : Octets) : Exec Unit := do
  let _ ← write 2 text

/-- How many bytes are looked at of something without an end. -/
def maxEndless : Nat := Nat.pow 2 21

/-- At least so many bytes, which are others over and over. -/
def repeated (bytes : ByteArray) (length : Nat) : ByteArray :=
  if bytes.isEmpty then bytes
  else (List.replicate (length / bytes.size + 1) bytes).foldl (· ++ ·) ByteArray.empty

/-- What a channel has left to read, of something without an end so many bytes, and how it goes on after
some of it was read. -/
def readable (files : FileSystem) (length : Nat) : Channel →
    Except OsFault (ByteArray × (Nat → Channel))
  | .output | .error => .error .badDescriptor
  | .device .null => .ok (ByteArray.empty, fun _ => .device .null)
  | .device device => .ok (⟨Array.replicate length 0⟩, fun _ => .device device)
  | .directory => .error .isDirectory
  | .queue number => .ok (heldBytes files number, fun _ => .queue number)
  | .file number offset appends reads writes =>
    if !reads then .error .badDescriptor else
      let bytes := heldBytes files number
      .ok (bytes.extract offset bytes.size,
        fun count => .file number (offset + count) appends reads writes)
  | .pipe bytes offset refrain =>
    let left := bytes.extract offset bytes.size
    if refrain.isEmpty then .ok (left, fun count => .pipe bytes (offset + count) refrain)
    else
      let left := left ++ repeated refrain length
      .ok (left, fun count => .pipe left count refrain)

/-- Take bytes from a channel: as many as a count of those that are left says, where of something without
an end so many are left. -/
def takeBytes (length index : Nat) (channel : Channel) (count : ByteArray → Nat) :
    Exec (Except OsFault ByteArray) := do
  match readable (← files) length channel with
  | .error fault => return .error fault
  | .ok (bytes, onward) =>
    let taken := min (count bytes) bytes.size
    putChannel index (onward taken)
    if let .queue number := channel then putBytes number (bytes.extract taken bytes.size)
    return .ok (bytes.extract 0 taken)

/-- **Read from a descriptor** as many bytes as a count of those that are left says. -/
def readSome (descriptor : Nat) (count : ByteArray → Nat) (length : Nat := maxEndless) :
    Exec (Except OsFault ByteArray) := do
  match ← channelOf? descriptor with
  | none => return .error .badDescriptor
  | some (index, channel) => takeBytes length index channel count

/-- Read all that is left from a descriptor. -/
def readAll (descriptor : Nat) : Exec (Except OsFault ByteArray) := readSome descriptor ByteArray.size

/-! ## Opening files -/

/-- The descriptor that a path names, if it is one of those that do. -/
def namedDescriptor? (path : String) : Option Nat :=
  match path with
  | "/dev/stdin" => some 0
  | "/dev/stdout" => some 1
  | "/dev/stderr" => some 2
  | _ =>
    (["/dev/fd/", "/proc/self/fd/"].findSome? fun folder => path.dropPrefix? folder).bind
      fun rest => rest.toString.toNat?

/-- What is opened with an entry at a place, in a mode. -/
def channelFor (fs : FileSystem) (place : Location) (mode : OpenMode) : Entry →
    Except OsFault Channel
  | .directory => if mode = .read then .ok .directory else .error .isDirectory
  | .device .terminal => .error .noDevice
  | .device device => .ok (.device device)
  | .link _ => .error .tooManyLinks
  | entry =>
    match fs.numberAt place, entry with
    | none, _ => .error .noEntry
    | some number, .queue _ => .ok (.queue number)
    | some number, _ =>
      .ok (.file number 0 (mode = .append) (mode = .read || mode = .readWrite) (mode ≠ .read))

/-- **Open a file** in a mode; the number of its channel is returned. -/
def openPath (path : Octets) (mode : OpenMode) : Exec (Except OsFault Nat) := do
  let name := stringOf path
  if let some descriptor := namedDescriptor? name then
    match (← context).descriptors.lookup descriptor with
    | some index => return .ok index
    | none => return .error .noEntry
  let fs ← files
  let found := fs.resolve ⟨name⟩ (if mode = .read then .target else .file)
  match found with
  | .error fault => return .error fault
  | .ok (.removed _) =>
    if mode = .read then return .ok (← newChannel .directory) else return .error .isDirectory
  | .ok (.entry place entry) =>
    match channelFor fs place mode entry with
    | .error fault => return .error fault
    | .ok channel =>
      if (mode matches .write _) && (entry matches .file _) then
        putFiles (fs.holdBytesAt place ByteArray.empty)
      return .ok (← newChannel channel)
  | .ok (.vacant directory file _) =>
    if mode = .read then return .error .noEntry
    let made := fs.create directory file (.file ByteArray.empty)
    putFiles made
    match channelFor made (directory ++ [file]) mode (.file ByteArray.empty) with
    | .error fault => return .error fault
    | .ok channel => return .ok (← newChannel channel)

/-- The bytes of the file that a path leads to. Of something without an end so many are read. -/
def readPath (path : Octets) (length : Nat := maxEndless) : Exec (Except OsFault ByteArray) := do
  match namedDescriptor? (stringOf path) with
  | some descriptor => readAll descriptor
  | none =>
    match ← openPath path .read with
    | .error fault => return .error fault
    | .ok index =>
      match (← get).channels[index]? with
      | none => return .error .badDescriptor
      | some channel => takeBytes length index channel ByteArray.size

/-- Write the file that a path leads to. -/
def writePath (path : Octets) (bytes : ByteArray) : Exec (Except OsFault Unit) := do
  match ← openPath path (.write true) with
  | .error fault => return .error fault
  | .ok index =>
    match (← get).channels[index]? with
    | none => return .ok ()
    | some channel =>
      match ← writeChannel index channel bytes with
      | some fault => return .error fault
      | none => return .ok ()

/-! ## Complaints of the shell -/

/-- Whether the dialect is the extended one. -/
def Context.isExtended (context : Context) : Bool := context.dialect = .extended

/-- Where the commands that run stand. -/
def Context.source (context : Context) : Octets :=
  match context.calls with
  | call :: _ => if call.source.isEmpty then context.name else call.source
  | [] => context.name

/-- What the shell writes before a complaint. -/
def complaintHead (context : Context) : Octets :=
  context.source ++ octets (if context.isExtended then s!": line {context.line}: " else s!": {context.line}: ") ++
    match context.utility with
    | some utility => utility ++ octets ": "
    | none => []

/-- Write a complaint of the shell. -/
def warn (message : Octets) : Exec Unit := do
  complain (complaintHead (← context) ++ message ++ ['\n'])

/-- The status of what went wrong in the shell itself. -/
def Context.failureStatus (context : Context) : Nat := if context.isExtended then 1 else 2

/-- **Write a complaint and give up.** -/
def fail {α : Type} (message : Octets) : Exec α := do
  warn message
  setStatus (← context).failureStatus
  throw .failure

/-! ## Variables -/

/-- The variable of a name. -/
def variableOf? (context : Context) (name : Octets) : Option Variable := context.bindings.lookup name

/-- The name of the variable that one of a name stands for, along at most so many others. -/
def Context.nameBehind (context : Context) : (bound : Nat) → Octets → Octets
  | 0, name => name
  | bound + 1, name =>
    match variableOf? context name with
    | some ⟨some target, _, _, _, traits⟩ =>
      if traits.contains 'n' && !target.isEmpty then context.nameBehind bound target else name
    | _ => name

/-- The greatest number of names that stand for others one after the other. -/
def maxNames : Nat := 8

/-- **The name of the variable that one of a name stands for**: its own, unless it was declared to stand for
another one. -/
def Context.realName (context : Context) (name : Octets) : Octets :=
  if context.isExtended then context.nameBehind maxNames name else name

/-- The value of a variable, if it has one. -/
def value? (context : Context) (name : Octets) : Option Octets :=
  (variableOf? context name).bind Variable.value

/-- The context with another variable of a name, or none. -/
def Context.withVariable (context : Context) (name : Octets) (found : Option Variable) : Context :=
  match found with
  | some held =>
    if (context.bindings.lookup name).isSome then
      { context with bindings := context.bindings.map fun entry => if entry.1 = name then (name, held) else entry }
    else { context with bindings := context.bindings ++ [(name, held)] }
  | none => { context with bindings := context.bindings.filter fun entry => entry.1 ≠ name }

/-- Whether an option is on. -/
def Context.has (context : Context) (option : Char) : Bool := context.options.contains option

/-- The variable that holds the number of the next argument with options. -/
def optionIndexName : Octets := octets "OPTIND"

/-- The context where the next options are those of the argument of a number. -/
def Context.withOptionIndex (context : Context) (index : Nat) : Context :=
  { context with optionIndex := index, optionOffset := none }

/-- Give up because a variable keeps its value. The utility that runs is not told in the extended dialect. -/
def failFixed {α : Type} (name : Octets) : Exec α := do
  let context ← context
  if context.isExtended then
    complain (complaintHead { context with utility := none } ++ name ++ octets ": readonly variable\n")
    setStatus context.failureStatus
    throw .failure
  fail (name ++ octets ": is read only")

/-- **Give a variable a value**, and export it if so told. A fixed one keeps its value, and the script
gives up. -/
def assign (name value : Octets) (exported : Bool) : Exec Unit := do
  let name := (← context).realName name
  let held := (variableOf? (← context) name).getD .empty
  if held.fixed then failFixed name
  changeContext fun c =>
    let exported := exported || held.exported || c.has 'a'
    let c := if name = optionIndexName then c.withOptionIndex (max 1 ((natOf? value).getD 1)) else c
    c.withVariable name (some { held with
      value := some value
      exported := exported
      entries := match held.entries with
        | some (.row entries) => some (.row (putSorted 0 value entries))
        | some (.table entries) =>
          some (.table ((entries.filter fun entry => entry.1 ≠ ['0']) ++ [(['0'], value)]))
        | none =>
          if held.traits.contains 'a' then some (.row [(0, value)])
          else if held.traits.contains 'A' then some (.table [(['0'], value)])
          else none })

/-- The number of lists in which a shell of the common dialect keeps its variables. -/
def commonLists : Nat := 39

/-- The list in which a shell of the common dialect keeps the variable of a name. -/
def commonList (name : Octets) : Nat :=
  ((name.head?.getD '\x00').toNat * 16 + name.foldl (fun sum c => sum + c.toNat) 0) % commonLists

/-- **The context in which a shell starts a program**: first come the variables that the program gets, list by list as
the shell keeps them. -/
def Context.forProgram (context : Context) : Context :=
  let isGiven (entry : Octets × Variable) : Bool := entry.2.exported && entry.2.value.isSome
  let given := context.bindings.filter isGiven
  let isLocal (name : Octets) : Bool := context.locals.any fun held => (held.lookup name).isSome
  let rank (entry : Octets × Variable) : Nat :=
    if context.isExtended then if isLocal entry.1 then 0 else Entries.listOf entry.1 + 1
    else 2 * commonList entry.1 + if entry.1 = octets "PATH" then 0 else 1
  let ranked := (if context.isExtended then given.reverse else given).map fun entry => (rank entry, entry)
  let sorted := (ranked.mergeSort fun a b => decide (a.1 ≤ b.1)).map Prod.snd
  { context with bindings := sorted ++ context.bindings.filter fun entry => !isGiven entry }

/-- The variables that the programs get which are started. -/
def environment (context : Context) : List (Octets × Octets) :=
  context.bindings.filterMap fun (name, held) =>
    if held.exported && held.entries.isNone then held.value.map fun value => (name, value) else none

end Shell

end ComponentScaffold
