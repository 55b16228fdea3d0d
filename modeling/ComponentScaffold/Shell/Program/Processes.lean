import ComponentScaffold.Shell.Program.Environment
import ComponentScaffold.Shell.Program.Show

/-! # Programs for processes

* **`Program.xargs`** — runs a program with the words of the standard input.
* **`Program.timeout`**, **`Program.nohup`** — run a program.
* **`Program.sleep`** — lets the processes in the background run. -/

namespace ComponentScaffold

namespace Shell

namespace Program

/-! ## Running programs -/

/-- Run a program in a process of its own, and return its status. It is shown by a text if it cannot be
started. -/
def runApart (engine : Engine) (name : Octets) (words : List Octets) (shown : Octets) : Exec Nat := do
  let action : Exec Unit := do
    match ← runInstead engine words with
    | .ok status => setStatus status
    | .error fault => setStatus (← refuse name (faultText shown fault) (startFailure fault))
  match ← attempt (asProcess engine action) with
  | .ok status => return status
  | .error (.killed signal) => return killedStatus signal
  | .error stop => throw stop

/-- The options of `xargs`. -/
def xargsForms : List OptionForm :=
  [⟨'n', true, ["max-args"], .required⟩, ⟨'I', true, ["replace"], .required⟩,
    ⟨'0', true, ["null"], .none⟩, ⟨'r', true, ["no-run-if-empty"], .none⟩,
    ⟨'t', true, ["verbose"], .none⟩, ⟨'L', true, ["max-lines"], .required⟩,
    ⟨'d', true, ["delimiter"], .required⟩, ⟨'P', true, ["max-procs"], .required⟩,
    ⟨'a', true, ["arg-file"], .required⟩]

/-- The words of a text, in which quotes and backslashes take the meaning of blanks away. -/
def quotedWords : (quote : Option Char) → (word : Option Octets) → Octets → List Octets
  | _, word, [] => word.toList.map List.reverse
  | some quote, word, c :: rest =>
    if c = quote then quotedWords none word rest
    else quotedWords (some quote) (some (c :: word.getD [])) rest
  | none, word, '\\' :: c :: rest => quotedWords none (some (c :: word.getD [])) rest
  | none, word, c :: rest =>
    if c = '"' || c = '\x27' then quotedWords (some c) (some (word.getD [])) rest
    else if isFieldSpace c then
      match word with
      | none => quotedWords none none rest
      | some found => found.reverse :: quotedWords none none rest
    else quotedWords none (some (c :: word.getD [])) rest
where
  /-- Whether a byte parts words. -/
  isFieldSpace (c : Char) : Bool := c == ' ' || c == '\t' || c == '\n'

/-- A list in parts of at most so many elements. -/
def chunks {α : Type} (size : Nat) : (bound : Nat) → List α → List (List α)
  | 0, _ => []
  | bound + 1, items =>
    if items.isEmpty then [] else items.take size :: chunks size bound (items.drop size)

/-- A text with another one in the place of each occurrence of a third. -/
def replaceAll (old new : Octets) : (skipped : Nat) → Octets → Octets
  | _, [] => []
  | skipped + 1, _ :: rest => replaceAll old new skipped rest
  | 0, c :: rest =>
    if !old.isEmpty && old.isPrefixOf (c :: rest) then
      new ++ replaceAll old new (old.length - 1) rest
    else c :: replaceAll old new 0 rest

/-- The lists of arguments that `xargs` runs its program with, and whether there is one at least. -/
def argumentLists (chosen : Chosen) (words text : Octets → List Octets) (input : Octets)
    (command : List Octets) : List (List Octets) :=
  match chosen.value? 'I' with
  | some mark => (text input).map fun line => command.map (replaceAll mark line 0)
  | none =>
    let items := words input
    let size := ((chosen.value? 'n').orElse fun _ => chosen.value? 'L').bind natOf?
    let lists := match size with
      | some (size + 1) => chunks (size + 1) (items.length + 1) items
      | _ => if items.isEmpty then [] else [items]
    (if lists.isEmpty && !chosen.has 'r' then [[]] else lists).map (command ++ ·)

/-- The status of `xargs`, of which the statuses of its programs are given in order. -/
def gatherStatus (statuses : List Nat) : Nat :=
  if statuses.contains 127 then 127
  else if statuses.contains 126 then 126
  else if statuses.any (· ≠ 0) then 123 else 0

/-- **Run a program with the words of the standard input.** -/
def xargs : Program := withOptions xargsForms true 1 fun engine name chosen => do
  let input ← match ← (match chosen.value? 'a' with
      | some path => readPath path
      | none => readAll 0) with
    | .ok bytes => pure (octetsOf bytes)
    | .error _ => pure []
  let command := if chosen.operands.isEmpty then [octets "echo"] else chosen.operands
  let partedBy (c : Char) (text : Octets) : List Octets :=
    (if text.getLast? = some c then text.dropLast else text).splitOn c
  let mark? : Option Char := if chosen.has '0' then some '\x00'
    else (chosen.value? 'd').bind fun text => if text = ['\\', 'n'] then some '\n' else text.head?
  let words (text : Octets) : List Octets := match mark? with
    | some mark => if text.isEmpty then [] else partedBy mark text
    | none => quotedWords none none text
  let lines (text : Octets) : List Octets := match mark? with
    | some mark => if text.isEmpty then [] else partedBy mark text
    | none => ((partedBy '\n' text).map dropSpace).filter fun line => !line.isEmpty
  let lists := argumentLists chosen words lines input command
  let statuses ← lists.mapM fun words => do
    if chosen.has 't' then complain (joinWith [' '] (words.map quotedIfNeeded) ++ ['\n'])
    -- the standard input of the program is empty
    withDescriptor 0 (← newChannel (.device .null))
      (runApart engine name words (quotedIfNeeded (words.headD [])))
  return gatherStatus statuses

/-- The options of `timeout`. -/
def timeoutForms : List OptionForm :=
  [⟨'s', true, ["signal"], .required⟩, ⟨'k', true, ["kill-after"], .required⟩,
    ⟨'v', true, ["verbose"], .none⟩, ⟨'p', false, ["preserve-status"], .none⟩,
    ⟨'f', false, ["foreground"], .none⟩]

/-- The seconds in a unit of time. -/
def secondsIn? : Octets → Option Nat
  | [] | ['s'] => some 1
  | ['m'] => some 60
  | ['h'] => some 3600
  | ['d'] => some 86400
  | _ => none

/-- The time that a text tells, in microseconds, if it tells one. -/
def duration? (text : Octets) : Option Nat :=
  let whole := text.takeWhile Char.isDigit
  let (places, rest) := match text.drop whole.length with
    | '.' :: rest =>
      let places := rest.takeWhile Char.isDigit
      (places, rest.drop places.length)
    | rest => ([], rest)
  if (whole ++ places).isEmpty then none
  else
    let micros := (places ++ List.replicate 6 '0').take 6
    (secondsIn? rest).map fun seconds => seconds * digitsValue (whole ++ micros)

/-- How long a program takes that only waits. -/
def waitingTime (words : List Octets) : Nat :=
  match words with
  | name :: durations =>
    if name = octets "sleep" then (durations.filterMap duration?).foldl (· + ·) 0 else 0
  | [] => 0

/-- The status where a program was not done in time. -/
def timeoutStatus : Nat := 124

/-- **Run a program**, which is done in time unless it waits longer. -/
def timeout : Program := withOptions timeoutForms true 125 fun engine name chosen => do
  match chosen.operands with
  | duration :: program :: arguments =>
    let some limit := duration? duration
      | refuseUse name (octets "invalid time interval " ++ quotedPlainly duration) 125
    if 0 < limit && limit < waitingTime (program :: arguments) then return timeoutStatus
    match ← engine.program (program :: arguments) with
    | .ok status => return status
    | .error fault =>
      let shown := octets "failed to run command " ++ quotedPlainly program
      refuse name (faultText shown fault) (startFailure fault)
  | _ =>
    complain (hint name)
    return 125

/-- **Run a program** that goes on when the terminal is gone. -/
def nohup : Program := fun engine name arguments => do
  match if arguments.head? = some ['-', '-'] then arguments.tail else arguments with
  | [] => refuseUse name (octets "missing operand") 125
  | program :: arguments =>
    match ← engine.program (program :: arguments) with
    | .ok status => return status
    | .error fault =>
      let shown := octets "failed to run command " ++ quotedAlways program
      refuse name (faultText shown fault) (startFailure fault)

/-- **Let the processes in the background run.** -/
def sleep : Program := withOptions [] false 1 fun engine name chosen => do
  if chosen.operands.isEmpty then return ← refuseUse name (octets "missing operand") 1
  let wrong := chosen.operands.filter fun operand => (duration? operand).isNone
  if !wrong.isEmpty then
    wrong.forM fun operand => tell name (octets "invalid time interval " ++ quotedPlainly operand)
    complain (hint name)
    return 1
  runDelayed engine 0 maxDelayed
  return 0

/-! ## Signals -/

/-- **Send a signal** to processes. -/
def kill : Program := fun _ name arguments => do
  let (signal, targets) : Option Nat × List Octets := match arguments with
    | ['-', 's'] :: signal :: rest => (Utility.signal? signal, rest)
    | ('-' :: signal) :: rest => (Utility.signal? signal, rest)
    | targets => (some Utility.endSignal, targets)
  match signal, targets with
  | none, _ => refuse name (octets "unknown signal") 1
  | some _, [] => refuseUse name (octets "no process ID specified") 1
  | some signal, targets =>
    forAll targets fun target => do
      match natOf? target with
      | none => refuse name (octets "failed to parse argument: " ++ quotedPlainly target) 1
      | some process =>
        if ← Utility.send signal process then return 0
        refuse name (octets "sending signal to " ++ target ++ octets " failed: No such process") 1

/-! ## The system -/

/-- Write a line that is always the same. -/
def always (line : String) : Program := fun _ name _ => emit name (octets (line ++ "\n"))

/-- The numbers and names of the user. -/
def id : Program := fun _ name arguments =>
  let line := match arguments.map String.ofList with
    | ["-u"] | ["-g"] | ["-G"] => "0\n"
    | ["-un"] | ["-gn"] | ["-Gn"] => "root\n"
    | _ => "uid=0(root) gid=0(root) groups=0(root)\n"
  emit name (octets line)

/-- The options of `uname`. -/
def unameForms : List OptionForm :=
  [⟨'s', true, ["kernel-name", "sysname"], .none⟩, ⟨'m', true, ["machine"], .none⟩,
    ⟨'o', true, ["operating-system"], .none⟩]

/-- The name of the system. -/
def uname : Program := withOptions unameForms false 1 fun _ name chosen => do
  match chosen.operands with
  | extra :: _ => refuseUse name (octets "extra operand " ++ quotedPlainly extra) 1
  | [] =>
    let has := chosen.has
    let parts := [(has 's' || chosen.options.isEmpty, "Linux"), (has 'm', "x86_64"),
      (has 'o', "GNU/Linux")]
    emit name (joinWith [' '] ((parts.filter Prod.fst).map fun part => octets part.2) ++ ['\n'])

/-- The name of the terminal, of which there is none. -/
def tty : Program := withOptions [⟨'s', true, ["silent", "quiet"], .none⟩] false 2 fun _ name chosen => do
  let status ← if chosen.has 's' then pure 0 else emit name (octets "not a tty\n")
  return worse 1 status

/-- The signal for a process that writes to a pipe that nobody reads any more. -/
def pipeSignal : Nat := 13

/-- Write a text over and over to a channel. A pipe gives it without end; of anything else there is too much
in the end. -/
def repeatForever (index : Nat) (text : ByteArray) : Exec Unit := do
  changeChannel index fun channel =>
    match channel with
    | .pipe held offset refrain =>
      if refrain.isEmpty then .pipe held offset text else .pipe held offset refrain
    | other => other

/-- **Write a line over and over.** -/
def yes : Program := fun _ name arguments => do
  let arguments := if arguments.head? = some ['-', '-'] then arguments.tail else arguments
  let line := joinWith [' '] (if arguments.isEmpty then [['y']] else arguments) ++ ['\n']
  let emitSome : Exec Nat := emit name ((List.replicate (maxEndless / line.length) line).flatten)
  match ← channelOf? 1 with
  | some (index, .pipe _ _ _) =>
    repeatForever index (bytesOf line)
    return killedStatus pipeSignal
  | _ => emitSome

end Program

end Shell

end ComponentScaffold
