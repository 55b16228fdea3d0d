import ComponentScaffold.Shell.Edit.Script
import ComponentScaffold.Shell.Program.Paths

/-! # Editing lines

The commands of a script are carried out for one line after the other. The line is taken into a text, which
the commands change, and which is shown behind the last one; another text is kept from line to line.

* **`Edit.Desk`** — what is at hand while lines are edited.
* **`Edit.perform`** — what a command does.
* **`Edit.run`** — the edits of all lines. -/

namespace ComponentScaffold

namespace Shell

namespace Edit

/-- How lines are edited. -/
structure Manner where
  /-- The name by which the editor was called. -/
  name : Octets
  /-- Whether the text is not shown at the end of the script. -/
  silent : Bool
  /-- Whether each file is edited for itself. -/
  separate : Bool
  /-- Whether files are changed, and what their copies are called. -/
  inPlace : Option Octets
  /-- What ends a line. -/
  mark : Char
  /-- The width in which texts are listed. -/
  width : Nat
  /-- The commands. -/
  commands : Array Command
  /-- The files that are written, by the numbers of their channels. -/
  outputs : List (Octets × Nat)

/-- What is shown when a line is done with. -/
inductive Behind
  /-- A text. -/
  | text (text : Octets)
  /-- A file. -/
  | file (name : Octets)

/-- A text, and whether a mark ended it. -/
structure Line where
  /-- The text. -/
  text : Octets
  /-- Whether it was ended. -/
  isEnded : Bool

/-- A text with another one behind it, which is ended like that one. -/
def Line.add (line : Line) (mark : Char) (other : Line) : Line :=
  ⟨line.text ++ mark :: other.text, other.isEnded⟩

/-- **What is at hand while lines are edited.** -/
structure Desk where
  /-- The text that is edited. -/
  line : Line
  /-- The text that is kept. -/
  kept : Line
  /-- The number of the line. -/
  number : Nat
  /-- Whether something was replaced in the line. -/
  replaced : Bool
  /-- What is shown when the line is done with. -/
  behind : List Behind
  /-- The commands whose ranges have started, each with the line in which it ends if that is known. -/
  ranges : List (Nat × Option Nat)
  /-- The expression used last. -/
  regex : Option (Regex × Bool)
  /-- The lines that are left of the file. -/
  lines : List Line
  /-- The file. -/
  file : Octets
  /-- The files that are left. -/
  files : List Octets
  /-- What was shown, the last first. -/
  shown : List Octets
  /-- The channels in which the last line has not been ended, none standing for what is shown. -/
  openLines : List (Option Nat)
  /-- The status. -/
  status : Nat

/-- What edits. A number stops it, and is the status. -/
abbrev Work := ExceptT Nat (StateT Desk Exec)

/-- Do something besides editing. -/
def aside {α : Type} (action : Exec α) : Work α := ExceptT.lift (StateT.lift action)

/-- The lines of a text. -/
def linesIn (mark : Char) (text : Octets) : List Line :=
  let parts := text.splitOn mark
  match parts.getLast? with
  | none | some [] => parts.dropLast.map fun part => ⟨part, true⟩
  | some last => parts.dropLast.map (fun part => ⟨part, true⟩) ++ [⟨last, false⟩]

/-! ## Showing -/

/-- Show a text as it is, behind the end of an open line. -/
def put (manner : Manner) (text : Octets) : Work Unit := modify fun desk =>
  { desk with
    shown := (if desk.openLines.contains none then manner.mark :: text else text) :: desk.shown
    openLines := desk.openLines.filter Option.isSome }

/-- Show a line. -/
def putLine (manner : Manner) (line : Line) : Work Unit := do
  put manner (if line.isEnded then line.text ++ [manner.mark] else line.text)
  if !line.isEnded then modify fun desk => { desk with openLines := none :: desk.openLines }

/-- Write a line to a file. -/
def putInto (manner : Manner) (file : Octets) (line : Line) : Work Unit := do
  match manner.outputs.lookup file with
  | none => putLine manner line
  | some index =>
    let desk ← get
    let start := if desk.openLines.contains (some index) then [manner.mark] else []
    let ending := if line.isEnded then [manner.mark] else []
    let _ ← aside (withDescriptor 1 index (write 1 (start ++ line.text ++ ending)))
    let others := desk.openLines.filter (· ≠ some index)
    set { desk with openLines := if line.isEnded then others else some index :: others }

/-- Show what is shown when a line is done with. -/
def putBehind (manner : Manner) : Work Unit := do
  let behind := (← get).behind
  modify fun desk => { desk with behind := [] }
  for item in behind do
    match item with
    | .text text => put manner text
    | .file name =>
      match ← aside (readPath name) with
      | .ok bytes => put manner (octetsOf bytes)
      | .error _ => put manner []

/-- All that was shown. -/
def Desk.output (desk : Desk) : Octets := desk.shown.reverse.flatten

/-! ## Lines -/

/-- What the copy of a file is called. A star stands for its name. -/
def copyName (suffix file : Octets) : Octets :=
  if suffix.contains '*' then
    let folder := (file.reverse.dropWhile (· ≠ '/')).reverse
    let name := file.drop folder.length
    let copied := suffix.flatMap fun c => if c = '*' then name else [c]
    if suffix.contains '/' then copied else folder ++ copied
  else file ++ suffix

/-- Put a new file of given bytes in the place of an old one, which gets the name of a copy if there is one. -/
def replaceEdited (file : Octets) (copy? : Option Octets) (bytes : ByteArray) : Exec Unit := do
  let held? := (Program.factsFound (← files) file).toOption
  if let some copy := copy? then Program.moveFile file copy
  Program.putNewFile file ((held?.map fun held => held.node.mode).getD fileMode) bytes

/-- The name of the copy of a file, if there is one. -/
def copyName? (suffix file : Octets) : Option Octets :=
  if suffix.isEmpty then none else some (copyName suffix file)

/-- Where files are changed, put what was shown in the place of the one that was edited. -/
def closeFile (manner : Manner) : Work Unit := do
  let desk ← get
  match manner.inPlace with
  | none => return ()
  | some suffix =>
    if desk.file.isEmpty then return ()
    aside (replaceEdited desk.file (copyName? suffix desk.file) (bytesOf desk.output))
    set { desk with shown := [], file := [] }

/-- Open files up to one that is not empty. -/
def openFiles (manner : Manner) : List Octets → Work Unit
  | [] => modify fun desk => { desk with files := [] }
  | file :: rest => do
    let fail (message : Octets) (status : Nat) : Work Unit := do
      aside (Program.tell manner.name message)
      modify fun desk => { desk with status := max status desk.status }
      openFiles manner rest
    let fs ← aside files
    let isOther := fs.exists? (pathOf file) && !fs.isFile (pathOf file)
    if manner.inPlace.isSome && isOther then
      fail (octets "couldn't edit " ++ file ++ octets ": not a regular file") 4
    else match ← aside (Program.readOperand file) with
      | .ok [] =>
        modify fun desk => { desk with file := file }
        closeFile manner
        openFiles manner rest
      | .ok text =>
        modify fun desk => { desk with lines := linesIn manner.mark text, file := file, files := rest }
      | .error .isDirectory =>
        aside (Program.tell manner.name
          (octets "read error on " ++ Program.faultText file .isDirectory))
        throw 4
      | .error fault =>
        fail (octets "can't read " ++ Program.faultText file fault) 2

/-- Whether no line is left. -/
def isLast (manner : Manner) : Work Bool := do
  if !(← get).lines.isEmpty then return false
  if manner.separate then return true
  openFiles manner (← get).files
  return (← get).lines.isEmpty

/-- The ranges that have started before the first line. -/
def startedRanges (commands : Array Command) : List (Nat × Option Nat) :=
  (commands.toList.zipIdx.filter fun (command, _) => command.lines matches .range (.line 0) _).map
    fun (_, index) => (index, none)

/-- Take the next line, or add it to the text. Whether there is one is returned. -/
def takeLine (manner : Manner) (adds : Bool) : Work Bool := do
  putBehind manner
  if (← get).lines.isEmpty then
    if manner.separate then
      closeFile manner
      modify fun desk => { desk with number := 0, ranges := startedRanges manner.commands }
    openFiles manner (← get).files
  let desk ← get
  match desk.lines with
  | [] => return false
  | line :: rest =>
    set { desk with
      line := if adds then desk.line.add manner.mark line else line
      lines := rest
      number := desk.number + 1
      replaced := false }
    return true

/-! ## Addresses -/

/-- The expression that is meant, which is the one used last if none is given. -/
def meantRegex (given : Option (Regex × Bool)) : Work (Option (Regex × Bool)) := do
  match given with
  | some regex =>
    modify fun desk => { desk with regex := some regex }
    return some regex
  | none => return (← get).regex

/-- Say that no expression was used before, and stop. -/
def lacksRegex {α : Type} (manner : Manner) : Work α := do
  aside (Program.tell manner.name
    (octets "-e expression #1, char 0: no previous regular expression"))
  throw 1

/-- Whether an address is that of the line. -/
def isAt (manner : Manner) : Address → Work Bool
  | .line number => return (← get).number = number
  | .last => isLast manner
  | .step first step => do
    let number := (← get).number
    return if step = 0 then number = first else first ≤ number && (number - first) % step = 0
  | .fitting given => do
    match ← meantRegex given with
    | none => lacksRegex manner
    | some (regex, folds) => return regex.occursIn folds (← get).line.text

/-- Note how long the range of a command lasts. -/
def noteRange (index : Nat) (last : Option (Option Nat)) : Work Unit := modify fun desk =>
  let others := desk.ranges.filter fun range => range.1 ≠ index
  { desk with ranges := match last with
    | none => others
    | some last => (index, last) :: others }

/-- Whether the line is in the range of a command. -/
def isInRange (manner : Manner) (index : Nat) (first : Address) (last : RangeEnd) : Work Bool := do
  let number := (← get).number
  let startUntil (last : Nat) : Work Unit := do
    if number < last then noteRange index (some (some last))
  match (← get).ranges.lookup index with
  | some (some last) =>
    if last ≤ number then noteRange index none
    return number ≤ last
  | some none =>
    if let .at address := last then
      if ← isAt manner address then noteRange index none
    return true
  | none =>
    if !(← isAt manner first) then return false
    match last with
    | .at (.line last) => startUntil last
    | .behind count => startUntil (number + count)
    | .multiple count => startUntil (if count = 0 then number else (number / count + 1) * count)
    | .at _ => noteRange index (some none)
    return true

/-- Whether a command is carried out for the line. -/
def isMeant (manner : Manner) (index : Nat) (command : Command) : Work Bool := do
  let isIn ← match command.lines with
    | .all => pure true
    | .one address => isAt manner address
    | .range first last => isInRange manner index first last
  return isIn != command.negated

/-! ## Substitution -/

/-- In which letters a text is written. -/
structure Letters where
  /-- Whether all are capitals, or small ones. -/
  whole : Option Bool
  /-- The same for the first one. -/
  first : Option Bool

/-- A character as a capital or a small letter. -/
def inLetters (toUpper : Option Bool) (c : Char) : Char :=
  match toUpper with
  | some true => c.toUpper
  | some false => c.toLower
  | none => c

/-- A text in letters. -/
def Letters.write (letters : Letters) : Octets → Octets
  | [] => []
  | c :: rest => inLetters (letters.first.or letters.whole) c :: rest.map (inLetters letters.whole)

/-- What is put in the place of something, given the parts that the expression remembers. -/
def newText (groups : List (Nat × Octets)) : Letters → List NewPart → Octets
  | _, [] => []
  | letters, part :: rest =>
    let written (text : Octets) : Octets :=
      letters.write text ++
        newText groups (if text.isEmpty then letters else { letters with first := none }) rest
    match part with
    | .text text => written text
    | .group number => written ((groups.lookup number).getD [])
    | .letters toUpper => newText groups ⟨toUpper, none⟩ rest
    | .letter toUpper => newText groups { letters with first := some toUpper } rest

/-- A text with what fits replaced in it, from a point on, and whether something was. `count` parts fitted
before it, the last one of which ends at `behind` unless it is empty. -/
def replaceFrom (regex : Regex) (folds : Bool) (substitution : Substitution) : (bound : Nat) →
    (count : Nat) → (behind : Option Nat) → Regex.Point → Octets × Bool
  | 0, _, _, point => (point.rest, false)
  | bound + 1, count, behind, point =>
    match regex.find? folds { point with groups := [] } with
    | none => (point.rest, false)
    | some (first, last) =>
      let before := point.rest.take (first.offset - point.offset)
      let found := first.rest.take (last.offset - first.offset)
      -- nothing that fits right behind a part does not count
      let isCounted := !(found.isEmpty && behind = some first.offset)
      let count := if isCounted then count + 1 else count
      let isReplaced := isCounted &&
        (count = substitution.first || (substitution.all && substitution.first < count))
      let new := if isReplaced then newText ((0, found) :: last.groups) ⟨none, none⟩ substitution.new
        else found
      if isReplaced && !substitution.all then (before ++ new ++ last.rest, true)
      else if found.isEmpty then
        match first.rest with
        | [] => (before ++ new, isReplaced)
        | c :: _ =>
          let (rest, isMore) := replaceFrom regex folds substitution bound count none first.next
          (before ++ new ++ c :: rest, isReplaced || isMore)
      else
        let (rest, isMore) := replaceFrom regex folds substitution bound count (some last.offset) last
        (before ++ new ++ rest, isReplaced || isMore)

/-- Replace what fits in the text. -/
def substitute (manner : Manner) (substitution : Substitution) : Work Unit := do
  match ← meantRegex substitution.regex with
  | none => lacksRegex manner
  | some (regex, folds) =>
    let text := (← get).line.text
    let (new, isReplaced) := replaceFrom regex folds substitution (text.length + 2) 0 none
      (Regex.Point.ofText text)
    if isReplaced then
      modify fun desk => { desk with line := { desk.line with text := new }, replaced := true }
      if substitution.shows then putLine manner (← get).line
      if let some file := substitution.file then putInto manner file (← get).line

/-! ## Commands -/

/-- A character as it is listed. -/
def listed (c : Char) : Octets :=
  match [('\\', "\\\\"), ('\x07', "\\a"), ('\x08', "\\b"), ('\x0c', "\\f"), ('\n', "\\n"),
      ('\r', "\\r"), ('\t', "\\t"), ('\x0b', "\\v")].lookup c with
  | some text => text.toList
  | none =>
    if isPrintable c then [c]
    else '\\' :: [c.toNat / 64, c.toNat / 8 % 8, c.toNat % 8].flatMap natText

/-- A text as it is listed in lines of a width, where so much stands in the line already. -/
def listedText (width : Nat) : (column : Nat) → Octets → Octets
  | _, [] => ['$', '\n']
  | column, c :: rest =>
    let shown := listed c
    if 0 < width && width - 1 < column + shown.length then
      octets "\\\n" ++ shown ++ listedText width shown.length rest
    else shown ++ listedText width (column + shown.length) rest

/-- How a script goes on behind a command. -/
inductive Onward
  /-- With the next command. -/
  | next
  /-- With the command of a number. -/
  | to (index : Nat)
  /-- It does not. -/
  | ends
  /-- From its start, with the text as it is. -/
  | again

/-- Go on behind a label. -/
def goto (manner : Manner) (label : Octets) : Onward :=
  if label.isEmpty then .to manner.commands.size
  else .to ((manner.commands.findIdx? fun command => command.label = some label).getD
    manner.commands.size)

/-- Change the text. -/
def changeText (change : Octets → Octets) : Work Unit := modify fun desk =>
  { desk with line := { desk.line with text := change desk.line.text } }

/-- **What a command does.** -/
def perform (manner : Manner) (index : Nat) : Action → Work Onward
  | .group _ | .nothing => return .next
  | .number => do
    put manner (natText (← get).number ++ ['\n'])
    return .next
  | .fileName => do
    put manner ((← get).file ++ ['\n'])
    return .next
  | .append text => behind (.text text)
  | .read file => behind (.file file)
  | .insert text => do
    put manner text
    return .next
  | .change text => do
    -- of the lines of a range only the last one is replaced
    if ((← get).ranges.lookup index).isNone then put manner text
    return .ends
  | .branch label => return goto manner label
  | .branchIf negated label => do
    let desk ← get
    set { desk with replaced := false }
    return if desk.replaced != negated then goto manner label else .next
  | .drop => return .ends
  | .dropFirst => do
    let text := (← get).line.text
    if !text.contains manner.mark then return .ends
    changeText fun text => (text.dropWhile (· ≠ manner.mark)).tail
    return .again
  | .take false => do
    modify fun desk => { desk with line := desk.kept }
    return .next
  | .take true => do
    modify fun desk => { desk with line := desk.line.add manner.mark desk.kept }
    return .next
  | .keep false => do
    modify fun desk => { desk with kept := desk.line }
    return .next
  | .keep true => do
    modify fun desk => { desk with kept := desk.kept.add manner.mark desk.line }
    return .next
  | .exchange => do
    modify fun desk => { desk with line := desk.kept, kept := desk.line }
    return .next
  | .list width => do
    put manner (listedText (width.getD manner.width) 0 (← get).line.text)
    return .next
  | .next adds => do
    let atEnd ← isLast manner
    if atEnd || !adds then
      if !manner.silent then putLine manner (← get).line
    if atEnd then return .ends
    let _ ← takeLine manner adds
    return .next
  | .show isFirst => do
    let line := (← get).line
    putLine manner
      (if isFirst then ⟨line.text.takeWhile (· ≠ manner.mark), true⟩ else line)
    return .next
  | .quit silent status => do
    if !silent then
      if !manner.silent then putLine manner (← get).line
      putBehind manner
    throw status
  | .substitute substitution => do
    substitute manner substitution
    return .next
  | .write file => do
    putInto manner file (← get).line
    return .next
  | .translate table => do
    changeText fun text => text.map fun c => (table.lookup c).getD c
    return .next
  | .clear => do
    changeText fun _ => []
    return .next
where
  /-- Show something when the line is done with. -/
  behind (item : Behind) : Work Onward := do
    modify fun desk => { desk with behind := desk.behind ++ [item] }
    return .next

/-- Carry out the commands from one on. Whether they start again with the text as it is is returned. -/
def runCommands (manner : Manner) : (bound : Nat) → (index : Nat) → Work Bool
  | 0, _ => return false
  | bound + 1, index => do
    match manner.commands[index]? with
    | none =>
      if !manner.silent then putLine manner (← get).line
      return false
    | some command =>
      if ← isMeant manner index command then
        match ← perform manner index command.action with
        | .next => runCommands manner bound (index + 1)
        | .to index => runCommands manner bound index
        | .ends => return false
        | .again => return true
      else
        let skipped := if let .group length := command.action then length else 0
        runCommands manner bound (index + 1 + skipped)

/-- Edit line after line. -/
def runLines (manner : Manner) (rounds : Nat) : (bound : Nat) → (again : Bool) → Work Unit
  | 0, _ => return ()
  | bound + 1, again => do
    let isThere ← if again then pure true else takeLine manner false
    if isThere then runLines manner rounds bound (← runCommands manner rounds 0)

/-- **The edits of all lines** of some files. What they show is written, and the status is returned. -/
def run (manner : Manner) (rounds : Nat) (files : List Octets) : Exec Nat := do
  let desk : Desk :=
    { line := ⟨[], true⟩, kept := ⟨[], true⟩, number := 0, replaced := false, behind := []
      ranges := startedRanges manner.commands, regex := none, lines := [], file := [], files := files
      shown := [], openLines := [], status := 0 }
  let (outcome, desk) ← (runLines manner rounds rounds false).run.run desk
  let (_, desk) ← (closeFile manner).run.run desk
  let status ← Program.emit manner.name desk.output
  return match outcome with
    | .error given => if given = 0 then max status desk.status else given
    | .ok () => max status desk.status

end Edit

end Shell

end ComponentScaffold
