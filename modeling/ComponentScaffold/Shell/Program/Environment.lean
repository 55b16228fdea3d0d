import ComponentScaffold.Shell.Program.Basic
import ComponentScaffold.Shell.Utility.Signals

/-! # Programs for the variables of programs

A program can be run with other variables. The words that run it can also come from a text, in which quotes,
escapes and variables between braces have a meaning.

* **`Program.splitWords`** — the words of a text.
* **`Program.env`**, **`Program.printenv`** — run a program with other variables, or show them.
* **`Program.runInstead`** — runs a program in the place of the running one. -/

namespace ComponentScaffold

namespace Shell

namespace Program

/-- The status where a program could not be started. -/
def startFailure (fault : OsFault) : Nat := if fault = .noEntry then 127 else 126

/-- Where programs are looked for if nothing is said about it. -/
def usualFolders : Octets := octets "/bin:/usr/bin"

/-- **Run a program in the place of the running one.** -/
def runInstead (engine : Engine) (words : List Octets) : Exec (Except OsFault Nat) := do
  let path := octets "PATH"
  if (value? (← context) path).isNone then
    changeContext fun c => c.withVariable path (some (.ofValue usualFolders false))
  engine.program words

/-! ## Words of a text -/

/-- Why a text has no words. -/
inductive SplitFault
  /-- Quotes are not closed. -/
  | openQuotes
  /-- A backslash stands at the end. -/
  | openEscape
  /-- A character has no meaning behind a backslash. -/
  | unknownEscape (c : Char)
  /-- The end is marked between double quotes. -/
  | quotedEnd
  /-- A dollar sign begins no variable, at the start of a text. -/
  | noVariable (text : Octets)

/-- The wording of a split fault. -/
def SplitFault.message : SplitFault → Octets
  | .openQuotes => octets "no terminating quote in -S string"
  | .openEscape => octets "invalid backslash at end of string in -S"
  | .unknownEscape c => octets "invalid sequence '\\" ++ c :: octets "' in -S"
  | .quotedEnd => octets "'\\c' must not appear in double-quoted -S string"
  | .noVariable text =>
    octets "only $\x7bVARNAME\x7d expansion is supported, error at: " ++ text

/-- The variable that is named between braces at the start of a text, and the rest. -/
def bracedName? (text : Octets) : Option (Octets × Octets) :=
  match text with
  | '\x7b' :: rest =>
    let name := rest.takeWhile isNamePart
    match rest.drop name.length with
    | '\x7d' :: rest => if isName name then some (name, rest) else none
    | _ => none
  | _ => none

/-- What a letter behind a backslash stands for. -/
def splitEscape? (c : Char) : Option Char :=
  [('"', '"'), ('#', '#'), ('$', '$'), ('\x27', '\x27'), ('\\', '\\'), ('f', '\x0c'), ('n', '\n'),
    ('r', '\x0d'), ('t', '\t'), ('v', '\x0b')].lookup c

/-- The words of a text behind those so far, of which the last one is open if it is there. The text stands
between quotes of a kind, or in none. -/
def splitWithin (look : Octets → Option Octets) : (bound : Nat) → (quote : Option Char) →
    (word : Option Octets) → Octets → Except SplitFault (List Octets)
  | 0, _, word, _ => .ok word.toList
  | _ + 1, quote, word, [] => if quote.isSome then .error .openQuotes else .ok word.toList
  | bound + 1, quote, word, c :: rest =>
    let further := splitWithin look bound
    let take (new : Octets) (rest : Octets) : Except SplitFault (List Octets) :=
      further quote (some (word.getD [] ++ new)) rest
    let part (rest : Octets) : Except SplitFault (List Octets) :=
      (further quote none rest).map (word.toList ++ ·)
    if c = '\x27' || c = '"' then
      if quote = some c then further none word rest
      else if quote.isSome then take [c] rest
      else further (some c) (some (word.getD [])) rest
    else if isSpace c && quote.isNone then part rest
    else if c = '#' && word.isNone then .ok []
    else if c = '\\' then
      match quote, rest with
      | some '\x27', next :: behind =>
        if next = '\\' || next = '\x27' then take [next] behind else take [c] rest
      | _, [] => if quote = some '\x27' then take [c] rest else .error .openEscape
      | _, '_' :: behind => if quote.isNone then part behind else take [' '] behind
      | _, 'c' :: _ => if quote.isNone then .ok word.toList else .error .quotedEnd
      | _, next :: behind =>
        match splitEscape? next with
        | some meant => take [meant] behind
        | none => .error (.unknownEscape next)
    else if c = '$' && quote ≠ some '\x27' then
      match bracedName? rest with
      | none => .error (.noVariable (c :: rest))
      | some (name, behind) =>
        match look name with
        | some value => take value behind
        | none => further quote word behind
    else take [c] rest

/-- **The words of a text**, in which variables have the values that they are looked up with. -/
def splitWords (look : Octets → Option Octets) (text : Octets) : Except SplitFault (List Octets) :=
  splitWithin look (text.length + 1) none none text

/-! ## Arguments -/

/-- The options of `env`. -/
def envForms : List OptionForm :=
  [⟨'i', true, ["ignore-environment"], .none⟩, ⟨'u', true, ["unset"], .required⟩,
    ⟨'0', true, ["null"], .none⟩, ⟨'C', true, ["chdir"], .required⟩,
    ⟨'S', true, ["split-string"], .required⟩, ⟨'v', true, ["debug"], .none⟩,
    ⟨'d', false, ["default-signal"], .optional⟩, ⟨'g', false, ["ignore-signal"], .optional⟩,
    ⟨'b', false, ["block-signal"], .optional⟩, ⟨'l', false, ["list-signal-handling"], .none⟩]

/-- The first text that is to be split into words among arguments, with what stands before it and behind it. -/
def findSplit : (bound : Nat) → List Octets → Option (List Octets × Octets × List Octets)
  | 0, _ => none
  | _ + 1, [] => none
  | bound + 1, argument :: rest =>
    let behind (count : Nat) : Option (List Octets × Octets × List Octets) :=
      (findSplit bound (rest.drop count)).map fun (before, found) =>
        (argument :: rest.take count ++ before, found)
    match argument with
    | ['-', '-'] => none
    | '-' :: '-' :: text =>
      let name := text.takeWhile (· ≠ '=')
      match longOption envForms name with
      | .error _ => none
      | .ok (form, _) =>
        if form.key = 'S' then
          if text.contains '=' then some ([], text.drop (name.length + 1), rest)
          else rest.head?.map fun text => ([], text, rest.tail)
        else behind (if form.need = .required && !text.contains '=' then 1 else 0)
    | '-' :: letters =>
      let isFlag (c : Char) : Bool := "i0v".toList.contains c
      let flags := letters.takeWhile isFlag
      let before := if flags.isEmpty then [] else ['-' :: flags]
      match letters.drop flags.length with
      | [] => if letters.isEmpty then none else behind 0
      | 'S' :: text =>
        if !text.isEmpty then some (before, text, rest)
        else rest.head?.map fun text => (before, text, rest.tail)
      | letter :: value => if letter = 'u' || letter = 'C' then behind (if value.isEmpty then 1 else 0) else none
    | _ => none

/-- Show what is done, where that is asked for. -/
def explain (isAsked : Bool) (lines : List Octets) : Exec Unit := do
  if isAsked then complain (lines.flatMap (· ++ ['\n']))

/-- Whether it is asked for among arguments that what is done is shown. -/
def asksForLog (arguments : List Octets) : Bool :=
  arguments.any fun argument =>
    argument = octets "--debug" || (argument.head? = some '-' && argument[1]? ≠ some '-' && argument.contains 'v')

/-- Arguments with the words of texts in the place of those texts, at most so many of them. -/
def splitArguments (name : Octets) : (bound : Nat) → List Octets → Exec (Except Nat (List Octets))
  | 0, arguments => return .ok arguments
  | bound + 1, arguments => do
    match findSplit (arguments.length + 1) arguments with
    | none => return .ok arguments
    | some (before, text, behind) =>
      let exported := environment (← context)
      match splitWords (fun name => exported.lookup name) text with
      | .error fault => return .error (← refuse name fault.message 125)
      | .ok words =>
        let into := words.zipIdx.map fun (word, index) =>
          octets (if index = 0 then " into:    " else "     &    ") ++ quotedPlainly word
        explain (asksForLog before) ((octets "split -S:  " ++ quotedPlainly text) :: into)
        splitArguments name bound (before ++ words ++ behind)

/-- The greatest number of texts that are split into words. -/
def maxSplits : Nat := 100

/-! ## Variables -/

/-- Give a variable to the programs that are started. -/
def putExported (name value : Octets) : Exec Unit :=
  changeContext fun c => c.withVariable name (some (.ofValue value true))

/-- The variables as they are shown. -/
def environmentText (context : Context) (ending : Char) : Octets :=
  (environment context).flatMap fun (name, value) => name ++ '=' :: value ++ [ending]

/-- What is wrong with the signals that options name, if something is. -/
def unknownSignal? (chosen : Chosen) : Option Octets :=
  let named := chosen.options.filter fun option => ['d', 'g', 'b'].contains option.1
  (named.flatMap fun option => option.2.splitOn ',').find? fun signal =>
    !signal.isEmpty && (Utility.signal? signal).isNone

/-- Ignore the signals that options name. -/
def ignoreSignals (chosen : Chosen) : Exec Unit := do
  let named := (chosen.options.filter fun option => option.1 = 'g').flatMap fun option =>
    (option.2.splitOn ',').filterMap Utility.signal?
  changeContext fun c => { c with traps := named.map (·, []) ++ c.traps }

/-- Take variables away and add some, and tell the operands behind those. -/
def changeEnvironment (name : Octets) (chosen : Chosen) : Exec (Except Nat (List Octets)) := do
  let isShown := chosen.has 'v'
  let isBare := chosen.operands.head? = some ['-']
  let operands := if isBare then chosen.operands.tail else chosen.operands
  if chosen.has 'i' || isBare then
    explain isShown [octets "cleaning environ"]
    changeContext fun c => { c with bindings := [] }
  else
    for (key, value) in chosen.options do
      if key = 'u' then
        explain isShown [octets "unset:    " ++ value]
        if value.isEmpty || value.contains '=' then
          let shown := octets "cannot unset " ++ quotedPlainly value
          return .error (← refuse name (faultText shown .invalid) 125)
        changeContext fun c => c.withVariable value none
  let assignments := operands.takeWhile fun operand => operand.contains '='
  assignments.forM fun assignment => do
    explain isShown [octets "setenv:   " ++ assignment]
    let key := assignment.takeWhile (· ≠ '=')
    putExported key (assignment.drop (key.length + 1))
  return .ok (operands.drop assignments.length)

/-- Move to the directory that is chosen. -/
def enterFolder (name : Octets) (chosen : Chosen) : Exec (Except Nat Unit) := do
  match chosen.value? 'C' with
  | none => return .ok ()
  | some folder =>
    explain (chosen.has 'v') [octets "chdir:    " ++ quotedAlways folder]
    match (← files).changeDirectory (pathOf folder) with
    | .ok moved =>
      putFiles moved
      return .ok ()
    | .error fault =>
      let shown := octets "cannot change directory to " ++ quotedAlways folder
      return .error (← refuse name (faultText shown fault) 125)

/-- Run the program of words, which may be shown before. -/
def runShown (engine : Engine) (name : Octets) (isShown : Bool) (words : List Octets) : Exec Nat := do
  let program := words.headD []
  explain isShown ((octets "executing: " ++ program) :: words.zipIdx.map fun (word, index) =>
    octets s!"   arg[{index}]= " ++ quotedPlainly word)
  match ← runInstead engine words with
  | .ok status => return status
  | .error fault =>
    tell name (faultText (quotedPlainly program) fault)
    if fault = .noEntry && program.contains ' ' then
      tell name (octets "use -[v]S to pass options in shebang lines")
    return startFailure fault

/-- **Run a program with other variables**, or show them. -/
def env : Program := fun engine name arguments => do
  let arguments ← match ← splitArguments name maxSplits arguments with
    | .error status => return status
    | .ok arguments => pure arguments
  let chosen ← match choose envForms true arguments with
    | .ok chosen => pure chosen
    | .error (.unknownLetter letter) =>
      tell name (OptionFault.message (.unknownLetter letter))
      if isSpace letter then tell name (octets "use -[v]S to pass options in shebang lines")
      complain (hint name)
      return 125
    | .error fault => return ← refuseUse name fault.message 125
  if let some signal := unknownSignal? chosen then
    return ← refuseUse name (quotedPlainly signal ++ octets ": invalid signal") 125
  ignoreSignals chosen
  match ← changeEnvironment name chosen with
  | .error status => return status
  | .ok [] =>
    if chosen.has 'C' then return ← refuseUse name (octets "must specify command with --chdir (-C)") 125
    emit name (environmentText (← context) (if chosen.has '0' then '\x00' else '\n'))
  | .ok words =>
    if chosen.has '0' then
      return ← refuseUse name (octets "cannot specify --null (-0) with command") 125
    match ← enterFolder name chosen with
    | .error status => return status
    | .ok () => runShown engine name (chosen.has 'v') words

/-- **Show variables.** -/
def printenv : Program := withOptions [⟨'0', true, ["null"], .none⟩] true 2 fun _ name chosen => do
  let ending := if chosen.has '0' then '\x00' else '\n'
  let context ← context
  if chosen.operands.isEmpty then return ← emit name (environmentText context ending)
  let found := chosen.operands.map fun operand => (environment context).lookup operand
  let status ← emit name ((found.filterMap id).flatMap (· ++ [ending]))
  return if found.all Option.isSome then status else 1

end Program

end Shell

end ComponentScaffold
