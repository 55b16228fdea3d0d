import ComponentScaffold.Shell.Program.Folder
import ComponentScaffold.Shell.Program.Processes
import ComponentScaffold.Shell.Program.Question
import ComponentScaffold.Shell.Program.Status

/-! # Finding files

What is in a folder is visited level by level, and a question is asked of each file. Some questions do
something when they are asked: they show the file, or remove it, or run a program.

* **`Program.Question.answer`** — the answer to a question.
* **`Program.find`** — asks a question of all files below some folders. -/

namespace ComponentScaffold

namespace Shell

namespace Program

/-! ## Files -/

/-- A file that is visited. -/
structure Visited where
  /-- Where the search started. -/
  start : Octets
  /-- The path. -/
  path : Octets
  /-- What is known of it. -/
  facts : Facts
  /-- How many levels it is below the start. -/
  level : Nat

/-- What a search has come to. -/
structure Findings where
  /-- Whether what is in the file is left out. -/
  pruned : Bool
  /-- Whether the search has ended. -/
  ended : Bool
  /-- The paths for the programs that run at the end, by the numbers of those. -/
  gathered : List (Nat × Octets)
  /-- The channels of the files that something is shown in. -/
  channels : List (Octets × Nat)
  /-- The status. -/
  status : Nat

/-- What searches. -/
abbrev Search := StateT Findings Exec

/-- The letter of the kind of an entry. -/
def kindLetter (entry : Entry) : Char := if entry matches .file _ then 'f' else entryLetter entry

/-- The characters of a pattern, in which a backslash quotes the next one. -/
def patternLetters : Octets → List Lettered
  | '\\' :: c :: rest => (c, true) :: patternLetters rest
  | c :: rest => (c, false) :: patternLetters rest
  | [] => []

/-- Whether a text fits a pattern. -/
def fitsPattern (folds : Bool) (pattern text : Octets) : Bool :=
  if folds then fits (patternOf (patternLetters (pattern.map Char.toLower))) (text.map Char.toLower)
  else fits (patternOf (patternLetters pattern)) text

/-- What is known of a file that is visited; links are followed if `follows`, unless they lead nowhere. -/
def visitedFacts (fs : FileSystem) (follows : Bool) (path : Octets) : Except OsFault Facts :=
  match follows, factsFound fs path with
  | true, .ok facts => .ok facts
  | true, .error .tooManyLinks => .error .tooManyLinks
  | _, _ => factsNamed fs path

/-! ## Formats -/

/-- The nanoseconds of a time as they stand behind seconds. -/
def fractionText (time : Time) : Octets :=
  let digits := natText (time % Calendar.second).toNat
  '.' :: List.replicate (9 - digits.length) '0' ++ digits ++ ['0']

/-- A part of a time that a letter asks for. -/
def timePart (time : Time) (letter : Char) : Octets :=
  let moment := Calendar.Moment.ofTime time
  let told (text : String) : Octets := Calendar.format (octets text) moment
  match letter with
  | '@' => intText (time / Calendar.second) ++ fractionText time
  | '+' => told "%Y-%m-%d+%H:%M:%S" ++ fractionText time
  | 'S' => told "%S" ++ fractionText time
  | 'T' | 'X' => told "%H:%M:%S" ++ fractionText time
  | 'r' => told "%I:%M:%S" ++ fractionText time ++ told " %p"
  | 'c' => told "%a %b %e %H:%M:%S" ++ fractionText time ++ told " %Y"
  | c =>
    if "aAbBdDFhHIjklmMpUwWxyYZs".toList.contains c then Calendar.format ['%', c] moment else ['%', c]

/-- What a letter of a format asks to know of a file, unless it asks nothing. -/
def visitedPart? (fs : FileSystem) (visited : Visited) (form : PartForm) (letter : Char) :
    Option Octets :=
  let number (n : Nat) : Option Octets := some (form.fill true (natText n))
  let text (text : Octets) : Option Octets := some (form.fill false text)
  let facts := visited.facts
  match letter with
  | 'p' => text visited.path
  | 'f' => text (lastName visited.path)
  | 'h' =>
    text (if visited.path.contains '/' then
      ((visited.path.reverse.dropWhile (· ≠ '/')).tail).reverse
    else ['.'])
  | 'P' => text ((visited.path.drop visited.start.length).dropWhile (· = '/'))
  | 'H' => text visited.start
  | 'd' => number visited.level
  | 's' => number facts.size
  | 'k' => number facts.space
  | 'b' => number (facts.space * 2)
  | 'i' => number facts.number
  | 'n' => number (facts.links fs)
  | 'm' =>
    let digits := modeDigits facts.node.mode
    some (form.fill true (if form.flags.contains '#' then '0' :: digits else digits))
  | 'M' => text (entryLetter facts.entry :: modeText facts.node.mode)
  | 'u' | 'g' => text (octets "root")
  | 'U' | 'G' => number 0
  | 'D' => number 65024
  | 'F' => text (octets "ext4")
  | 'y' => text [kindLetter facts.entry]
  | 'Y' =>
    text (if facts.isLink then
      match factsFound fs visited.path with
      | .ok found => [kindLetter found.entry]
      | .error .tooManyLinks => ['L']
      | .error _ => ['N']
    else [kindLetter facts.entry])
  | 'l' =>
    text (match facts.entry with
      | .link target => octets target.text
      | _ => [])
  | 't' | 'a' | 'c' => text (timePart facts.node.modified 'c')
  | _ => none

/-- A file in a format, of which at most so many characters are read. -/
def formatted (fs : FileSystem) (visited : Visited) : (bound : Nat) → Octets → Octets
  | 0, _ => []
  | _ + 1, [] => []
  | bound + 1, '%' :: rest =>
    let flags := rest.takeWhile fun c => "-+ 0#".toList.contains c
    let behind := rest.drop flags.length
    let width := behind.takeWhile Char.isDigit
    let behind := behind.drop width.length
    let (most, behind) : Option Nat × Octets := match behind with
      | '.' :: more =>
        let digits := more.takeWhile Char.isDigit
        (some (digitsValue digits), more.drop digits.length)
      | more => (none, more)
    let form : PartForm := ⟨flags, digitsValue width, most⟩
    match behind with
    | [] => '%' :: rest
    | '%' :: more => '%' :: formatted fs visited bound more
    | letter :: more =>
      let isTime := letter = 'T' || letter = 'A' || letter = 'C' || letter = 'B'
      match isTime, more with
      | true, part :: more =>
        form.fill false (timePart visited.facts.node.modified part) ++ formatted fs visited bound more
      | _, _ =>
        match visitedPart? fs visited form letter with
        | some text => text ++ formatted fs visited bound more
        | none => '%' :: rest.take (rest.length - more.length) ++ formatted fs visited bound more
  | _ + 1, '\\' :: 'c' :: _ => []
  | bound + 1, '\\' :: c :: rest =>
    let digits := ((c :: rest).take 3).takeWhile ModeChange.isOctal
    if !digits.isEmpty then
      Char.ofNat (ModeChange.octalValue digits % 256) ::
        formatted fs visited bound ((c :: rest).drop digits.length)
    else match [('a', '\x07'), ('b', '\x08'), ('f', '\x0c'), ('n', '\n'), ('r', '\x0d'), ('t', '\t'),
        ('v', '\x0b'), ('\\', '\\')].lookup c with
      | some byte => byte :: formatted fs visited bound rest
      | none => '\\' :: c :: formatted fs visited bound rest
  | bound + 1, c :: rest => c :: formatted fs visited bound rest

/-- What is said about a format: which escapes and parts in it mean nothing. -/
def formatWarnings : Octets → List Octets
  | '%' :: '%' :: rest => formatWarnings rest
  | '%' :: c :: rest =>
    (if "pfhPHdskbinmMugUGDFyYltacTACBS-+ 0#.123456789Z".toList.contains c then []
      else [octets "warning: unrecognized format directive " ++ inOldQuotes ['%', c]]) ++
      formatWarnings rest
  | '\\' :: c :: rest =>
    (if "abcfnrtv\\01234567".toList.contains c then []
      else [octets "warning: unrecognized escape " ++ inOldQuotes ['\\', c]]) ++ formatWarnings rest
  | _ :: rest => formatWarnings rest
  | [] => []

/-- A file with what is known of it. -/
def listedText (fs : FileSystem) (visited : Visited) : Octets :=
  let facts := visited.facts
  let moment := Calendar.Moment.ofTime facts.node.modified
  let halfYear : Int := 31556952 / 2 * Calendar.second
  let isRecent := fs.now - halfYear ≤ facts.node.modified && facts.node.modified ≤ fs.now + 3600 * Calendar.second
  let time := Calendar.format (octets (if isRecent then "%b %e %H:%M" else "%b %e  %Y")) moment
  let target := match facts.entry with
    | .link path => octets (" -> " ++ path.text)
    | _ => []
  toRight 9 (natText facts.number) ++ ' ' :: toRight 6 (natText facts.space) ++ ' ' ::
    entryLetter facts.entry :: modeText facts.node.mode ++ ' ' ::
    toRight 3 (natText (facts.links fs)) ++ octets " root     root     " ++
    toRight 8 (natText facts.size) ++ ' ' :: time ++ ' ' :: visited.path ++ target ++ ['\n']

/-! ## Answers -/

/-- Run a program in a process of its own, and return its status. -/
def runFound (engine : Engine) (name : Octets) (words : List Octets) : Exec Nat :=
  runApart engine name words (quotedPlainly (words.headD []))

/-- Run a program in the directory of a path. -/
def runInside (engine : Engine) (name : Octets) (path : Octets) (words : List Octets) : Exec Nat := do
  let before ← files
  match before.changeDirectory (pathOf (folderOf path)) with
  | .error fault => refuse name (faultText (quotedPlainly (folderOf path)) fault) 1
  | .ok moved =>
    putFiles moved
    let status ← runFound engine name words
    modify fun state => { state with files := state.files.standAs before.standing }
    return status

/-- Show a text on the standard output or in a file. -/
def showFound (name : Octets) (file? : Option Octets) (text : Octets) : Search Bool := do
  let action : Exec Nat := emit name text
  let channels := (← get).channels
  let status ← match file?.bind fun file => channels.lookup file with
    | some channel => StateT.lift (withDescriptor 1 channel action)
    | none => StateT.lift action
  modify fun findings => { findings with status := max status findings.status }
  return true

/-- Whether a file is of one of some kinds. -/
def isOfKind (fs : FileSystem) (turned : Bool) (visited : Visited) (letters : Octets) : Bool :=
  let facts : Facts := if !turned then visited.facts
    else
      let other := if visited.facts.isLink then factsFound fs visited.path
        else factsNamed fs visited.path
      (other.toOption).getD visited.facts
  letters.contains (kindLetter facts.entry)

/-- Whether a mode follows a rule. -/
def ModeRule.fits (rule : ModeRule) (bits mode : Nat) : Bool :=
  match rule with
  | .exact => mode = bits
  | .all => mode &&& bits = bits
  | .any => bits = 0 || mode &&& bits ≠ 0

/-- Whether the age of a file in units compares to a number as it should. -/
def isOfAge (order : Ordering) (unit start : Int) (count : Nat) (modified : Time) : Bool :=
  -- what is younger than a day is no day old
  let shift : Int := if unit = dayLength then 1 else 0
  let origin := start - (count + (if order = .lt then 0 else shift)) * unit
  match order with
  | .lt => decide (origin < modified)
  | .gt => decide (modified < origin)
  | .eq => decide (origin < modified && modified ≤ origin + unit)

/-- Remove a file, and tell whether that went well. -/
def deleteFound (name : Octets) (visited : Visited) : Search Bool := do
  if visited.path = ['.'] then return true
  let fs ← StateT.lift files
  let removed := if visited.facts.isFolder then withoutFolder fs visited.path
    else fs.remove (pathOf visited.path)
  match removed with
  | .ok changed =>
    StateT.lift (putFiles changed)
    return true
  | .error fault =>
    let text := octets "cannot delete " ++ quotedPlainly visited.path
    let status ← StateT.lift (refuse name (faultText text fault) 1)
    modify fun findings => { findings with status := status }
    return false

/-- **The answer to a question** about a file. -/
def Question.answer (engine : Engine) (name : Octets) (visited : Visited) : Question → Search Bool
  | .always given => return given
  | .name folds pattern => return fitsPattern folds pattern (lastName visited.path)
  | .path folds pattern => return fitsPattern folds pattern visited.path
  | .target folds pattern =>
    return match visited.facts.entry with
      | .link held => fitsPattern folds pattern (octets held.text)
      | _ => false
  | .regex folds whole => return whole.occursIn folds visited.path
  | .kind turned letters => return isOfKind (← StateT.lift files) turned visited letters
  | .isEmpty => do
    let fs ← StateT.lift files
    return match visited.facts.entry with
      | .directory => (namesAt fs visited.path).isEmpty
      | .file bytes => bytes.size = 0
      | _ => false
  | .size order unit count =>
    return compare ((visited.facts.size + unit - 1) / unit) count = order
  | .links order count => return compare (visited.facts.links (← StateT.lift files)) count = order
  | .number order count => return compare visited.facts.number count = order
  | .newer time => return decide (time < visited.facts.node.modified)
  | .age order unit start count => return isOfAge order unit start count visited.facts.node.modified
  | .mode rule folder file =>
    return rule.fits (if visited.facts.isFolder then folder else file) visited.facts.node.mode
  | .isRunnable => do
    let fs ← StateT.lift files
    let facts := (factsFound fs visited.path).toOption.getD visited.facts
    return facts.isFolder || isRunMode facts.node.mode
  | .show file? ending => showFound name file? (visited.path ++ [ending])
  | .format file? text => do
    showFound name file? (formatted (← StateT.lift files) visited (text.length + 1) text)
  | .list file? => do showFound name file? (listedText (← StateT.lift files) visited)
  | .run inside asks words => do
    let path := if inside then below ['.'] (lastName visited.path) else visited.path
    if asks then
      let question := octets "< " ++ words.headD [] ++ octets " ... " ++ visited.path ++ octets " > ? "
      if !(← StateT.lift (agrees question)) then return false
    let words := words.map (replaceAll ['\x7b', '\x7d'] path 0)
    let status ← StateT.lift (if inside then runInside engine name visited.path words
      else runFound engine name words)
    return status = 0
  | .gather index _ => do
    modify fun findings =>
      { findings with gathered := findings.gathered ++ [(index, visited.path)] }
    return true
  | .delete => deleteFound name visited
  | .prune => do
    modify fun findings => { findings with pruned := true }
    return true
  | .quit => do
    modify fun findings => { findings with ended := true }
    return true
  | .not question => return !(← question.answer engine name visited)
  | .both first second => do
    if ← first.answer engine name visited then
      if (← get).ended then return true
      second.answer engine name visited
    else return false
  | .either first second => do
    if ← first.answer engine name visited then return true
    if (← get).ended then return true
    second.answer engine name visited
  | .latter first second => do
    let _ ← first.answer engine name visited
    if (← get).ended then return true
    second.answer engine name visited

/-! ## Visits -/

/-- Complain about a file that cannot be visited. -/
def refuseVisit (name : Octets) (message : Octets) : Search Unit := do
  let status ← StateT.lift (refuse name message 1)
  modify fun findings => { findings with status := status }

/-- Visit a file and what is in it, at most so many levels deep; `above` are the folders on the way to it
with their paths. -/
def visit (engine : Engine) (name : Octets) (question : Question) (reach : Reach) : (levels : Nat) →
    (above : List (Nat × Octets)) → Visited → Search Unit
  | 0, _, _ => return ()
  | levels + 1, above, visited => do
    if (← get).ended then return ()
    if visited.facts.isFolder then
      if let some earlier := above.lookup visited.facts.number then
        return ← refuseVisit name (octets "File system loop detected; " ++ quotedPlainly visited.path ++
          octets " is part of the same file system loop as " ++ quotedPlainly earlier ++ ['.'])
    let ask : Search Unit := do
      if reach.least ≤ visited.level then
        let _ ← question.answer engine name visited
    modify fun findings => { findings with pruned := false }
    if !reach.late then ask
    let findings ← get
    let isOpen := !(findings.pruned && !reach.late) && !findings.ended &&
      visited.facts.isFolder && reach.most.all fun most => visited.level < most
    if isOpen then
      let fs ← StateT.lift files
      for inside in namesAt fs visited.path do
        let path := below visited.path inside
        match visitedFacts (← StateT.lift files) reach.follows path with
        | .ok facts =>
          visit engine name question reach levels ((visited.facts.number, visited.path) :: above)
            { visited with path := path, facts := facts, level := visited.level + 1 }
        | .error .tooManyLinks => refuseVisit name (faultText (quotedPlainly path) .tooManyLinks)
        | .error _ => pure ()
    if reach.late then
      if !(← get).ended then ask

/-- Visit the files below some folders. -/
def visitAll (engine : Engine) (name : Octets) (question : Question) (reach : Reach)
    (starts : List Octets) : Search Unit :=
  starts.forM fun start => do
    let fs ← StateT.lift files
    match visitedFacts fs (reach.follows || reach.followsStarts) start with
    | .ok facts =>
      visit engine name question reach (fs.depth + fs.depth + 3) []
        { start := start, path := start, facts := facts, level := 0 }
    | .error fault => refuseVisit name (faultText (quotedPlainly start) fault)

/-- The programs that run at the end, with their words. -/
def Question.programs (question : Question) : List (Nat × List Octets) :=
  question.parts.filterMap fun part =>
    match part with
    | .gather index words => some (index, words)
    | _ => none

/-- The files that something is shown in. -/
def Question.outputs (question : Question) : List Octets :=
  question.parts.filterMap fun part =>
    match part with
    | .show file? _ => file?
    | .format file? _ => file?
    | .list file? => file?
    | _ => none

/-- Whether a word starts a question. -/
def startsQuestion (word : Octets) : Bool :=
  word = ['('] || word = ['!'] || (word.head? = some '-' && word.length > 1)

/-- Whether a word tells which links are followed, or how the search is done, ahead of the folders. -/
def isSearchOption (word : Octets) : Bool :=
  ["-H", "-L", "-P"].any (fun option => octets option = word) ||
    ((octets "-O").isPrefixOf word && 2 < word.length && (word.drop 2).all Char.isDigit)

/-- **Find files.** -/
def find : Program := fun engine name arguments => do
  let fs ← files
  let options := arguments.takeWhile isSearchOption
  let arguments := arguments.drop options.length
  let link? := (options.filter fun option => (octets "-O").isPrefixOf option = false).getLast?
  let starts := arguments.takeWhile fun word => !startsQuestion word
  let reach : Reach := ⟨0, none, false, 0, link? = some (octets "-L"), link? = some (octets "-H"),
    octets "findutils-default", false⟩
  match askAll fs reach (arguments.drop starts.length) with
  | .error message => refuse name message 1
  | .ok (question, reach) =>
    question.parts.forM fun part =>
      match part with
      | .format _ text => (formatWarnings text).forM (tell name)
      | _ => return ()
    let opened ← question.outputs.eraseDups.mapM fun file => do
      match ← openPath file (.write true) with
      | .ok channel => return (file, some channel)
      | .error fault =>
        tell name (faultText (quotedPlainly file) fault)
        return (file, none)
    if opened.any fun file => file.2.isNone then return 1
    let channels := opened.filterMap fun file => file.2.map fun channel => (file.1, channel)
    let asked := if question.acts then question else .both question (.show none '\n')
    let starts := if starts.isEmpty then [['.']] else starts
    let (_, findings) ← (visitAll engine name asked reach starts).run ⟨false, false, [], channels, 0⟩
    let statuses ← question.programs.mapM fun (number, words) => do
      let paths := (findings.gathered.filter fun found => found.1 = number).map Prod.snd
      if paths.isEmpty then return 0
      runFound engine name (words ++ paths)
    return if statuses.all (· = 0) then findings.status else 1

end Program

end Shell

end ComponentScaffold
