import ComponentScaffold.Shell.Calendar.Reading
import ComponentScaffold.Shell.Mode
import ComponentScaffold.Shell.Program.Paths
import ComponentScaffold.Shell.Regex.Reading

/-! # Questions about files

A question is asked of each file that is found, in words: tests, and what is to be done with a file, joined by
operators. Some of the words tell how far the search goes.

* **`Program.Question`** — a question about a file.
* **`Program.askAll`** — the question that words ask. -/

namespace ComponentScaffold

namespace Shell

namespace Program

/-! ## Questions -/

/-- How a mode is compared with one that is given. -/
inductive ModeRule
  /-- They are the same. -/
  | exact
  /-- All bits that are given are in it. -/
  | all
  /-- One bit that is given is in it. -/
  | any
deriving DecidableEq, Repr

/-- **A question about a file.** -/
inductive Question
  /-- One with the same answer for all. -/
  | always (answer : Bool)
  /-- Whether the name fits a pattern. -/
  | name (folds : Bool) (pattern : Octets)
  /-- Whether the path fits a pattern. -/
  | path (folds : Bool) (pattern : Octets)
  /-- Whether the path of a link fits a pattern. -/
  | target (folds : Bool) (pattern : Octets)
  /-- Whether the whole path fits an expression. -/
  | regex (folds : Bool) (regex : Regex)
  /-- Whether it is of one of some kinds, given by letters; where `turned`, links are followed if they are
  not otherwise, and not followed if they are. -/
  | kind (turned : Bool) (letters : Octets)
  /-- Whether there is nothing in it. -/
  | isEmpty
  /-- How its size in units compares to a number. -/
  | size (order : Ordering) (unit count : Nat)
  /-- How the number of its places compares to a number. -/
  | links (order : Ordering) (count : Nat)
  /-- How its number compares to another one. -/
  | number (order : Ordering) (count : Nat)
  /-- Whether it was changed after a time. -/
  | newer (time : Time)
  /-- How many units of time before another time it was changed. -/
  | age (order : Ordering) (unit start : Int) (count : Nat)
  /-- How its mode compares to those that are given for directories and for other files. -/
  | mode (rule : ModeRule) (folder file : Nat)
  /-- Whether it may be run. -/
  | isRunnable
  /-- Shows the path on the standard output or in a file. -/
  | show (file? : Option Octets) (ending : Char)
  /-- Shows the file in a format. -/
  | format (file? : Option Octets) (text : Octets)
  /-- Shows what is known of the file. -/
  | list (file? : Option Octets)
  /-- Whether a program runs well with the path among its arguments, in the directory of the file if
  `inside`, and after an answer if `asks`. -/
  | run (inside asks : Bool) (words : List Octets)
  /-- Runs a program with all paths at the end. -/
  | gather (number : Nat) (words : List Octets)
  /-- Removes it. -/
  | delete
  /-- Leaves out what is in it. -/
  | prune
  /-- Ends the search. -/
  | quit
  /-- The opposite of another question. -/
  | not (question : Question)
  /-- Whether two questions are answered well, the second of which is asked only if the first one is. -/
  | both (first second : Question)
  /-- Whether one of two questions is, the second of which is asked only if the first one is not. -/
  | either (first second : Question)
  /-- The answer to the second of two questions. -/
  | latter (first second : Question)

/-- Whether a question does something, so that paths need not be shown. -/
def Question.acts : Question → Bool
  | .show _ _ | .format _ _ | .list _ | .run _ _ _ | .gather _ _ | .delete => true
  | .not question => question.acts
  | .both first second | .either first second | .latter first second => first.acts || second.acts
  | _ => false

/-- Whether a question is asked of a folder behind what is in it. -/
def Question.isLate : Question → Bool
  | .delete => true
  | .not question => question.isLate
  | .both first second | .either first second | .latter first second =>
    first.isLate || second.isLate
  | _ => false

/-- The single questions of a question, in order. -/
def Question.parts : Question → List Question
  | .not question => question.parts
  | .both first second | .either first second | .latter first second =>
    first.parts ++ second.parts
  | question => [question]

/-! ## Reading -/

/-- How far a search goes. -/
structure Reach where
  /-- The least level that is shown. -/
  least : Nat
  /-- The greatest level that is visited. -/
  most : Option Nat
  /-- Whether folders are visited behind what is in them. -/
  late : Bool
  /-- How many programs get their paths at the end. -/
  gathered : Nat
  /-- Whether all links are followed. -/
  follows : Bool
  /-- Whether links are followed from which the search starts. -/
  followsStarts : Bool
  /-- How expressions are written. -/
  style : Octets
  /-- Whether days are counted from the end of the present one. -/
  wholeDays : Bool

/-- What reads a question from words. -/
abbrev Asking := StateT (List Octets × Reach) (Except Octets)

/-- A text in the quotes of complaints. -/
def inOldQuotes (text : Octets) : Octets := '\x60' :: text ++ ['\x27']

/-- The next word, which belongs to another one. -/
def wordOf (word : Octets) : Asking Octets := do
  match ← get with
  | ([], _) => throw (octets "missing argument to " ++ inOldQuotes word)
  | (next :: rest, reach) =>
    set (rest, reach)
    return next

/-- Change how far the search goes. -/
def changeReach (change : Reach → Reach) : Asking Question := do
  modify fun (words, reach) => (words, change reach)
  return .always true

/-- The level that belongs to a word. -/
def levelOf (word : Octets) : Asking Nat := do
  let text ← wordOf word
  match natOf? text with
  | some level => return level
  | none =>
    throw (octets "Expected a positive decimal integer argument to " ++ word ++ octets ", but got " ++
      quotedPlainly text)

/-- The words of a command, up to its end, and whether it gathers paths. -/
def commandWords (word : Octets) : List Octets → Except Octets (List Octets × Bool × List Octets)
  | [] => .error (octets "missing argument to " ++ inOldQuotes word)
  | [';'] :: rest => .ok ([], false, rest)
  | ['\x7b', '\x7d'] :: ['+'] :: rest => .ok ([], true, rest)
  | next :: rest => (commandWords word rest).map fun (words, gathers, rest) =>
    (next :: words, gathers, rest)

/-- The units of sizes, by their letters. -/
def sizeUnit? : Octets → Option Nat
  | [] => some 512
  | ['b'] => some 512
  | ['c'] => some 1
  | ['w'] => some 2
  | ['k'] => some 1024
  | ['M'] => some (1024 * 1024)
  | ['G'] => some (1024 * 1024 * 1024)
  | _ => none

/-- The order that a sign asks for, and the text behind it. -/
def orderOf : Octets → Ordering × Octets
  | '+' :: rest => (.gt, rest)
  | '-' :: rest => (.lt, rest)
  | rest => (.eq, rest)

/-- The size that belongs to a word. -/
def sizeOf (word : Octets) : Asking Question := do
  let text ← wordOf word
  let (order, digits) := orderOf text
  let number := digits.takeWhile Char.isDigit
  match natOf? number, sizeUnit? (digits.drop number.length) with
  | some count, some unit => return .size order unit count
  | none, some _ => throw (octets "Invalid argument " ++ inOldQuotes text ++ octets " to -size")
  | _, none =>
    let shown := match digits.getLast? with
      | some c => [c]
      | none => []
    throw (octets "invalid -size type " ++ inOldQuotes shown)

/-- The order and the number that belong to a word. -/
def countOf (word : Octets) : Asking (Ordering × Nat) := do
  let text ← wordOf word
  let (order, digits) := orderOf text
  match natOf? digits with
  | some count => return (order, count)
  | none => throw (octets "invalid argument " ++ inOldQuotes text ++ octets " to " ++ inOldQuotes word)

/-- The kinds that belong to a word. -/
def kindsOf (word : Octets) : Asking Octets := do
  let text ← wordOf word
  let letters := "bcdpflsD".toList
  match text.find? fun c => c ≠ ',' && !letters.contains c with
  | some c => throw (octets "Unknown argument to " ++ word ++ octets ": " ++ [c])
  | none =>
    let parts := text.splitOn ','
    if text.isEmpty then throw (octets "Arguments to " ++ word ++ octets " should contain at least one letter")
    if parts.getLast? = some [] then
      throw (octets "Last file type in list argument to " ++ word ++
        octets " is missing, i.e., list is ending on: ','")
    if parts.any fun part => part.length ≠ 1 then
      throw (octets "Must separate multiple arguments to " ++ word ++ octets " using: ','")
    return parts.flatten

/-- The mode that belongs to a word. -/
def modeRuleOf (word : Octets) : Asking Question := do
  let text ← wordOf word
  let (rule, digits) : ModeRule × Octets := match text with
    | '-' :: rest => (.all, rest)
    | '/' :: rest => (.any, rest)
    | rest => (.exact, rest)
  match ModeChange.parse? digits with
  | some change => return .mode rule (change.apply 0 true 0) (change.apply 0 false 0)
  | none => throw (octets "invalid mode " ++ quotedPlainly text)

/-- What is known of the file that a word names. -/
def referenceOf (fs : FileSystem) (word : Octets) : Asking Facts := do
  let path ← wordOf word
  let reach := (← get).2
  let purpose : Purpose := if reach.follows || reach.followsStarts then .target else .name
  match factsOf fs purpose path with
  | .ok facts => return facts
  | .error fault => throw (faultText (quotedPlainly path) fault)

/-- An extended expression for one in which parentheses, bars and braces mean themselves unless a backslash
stands before them. -/
def extendedFrom : (inClass : Bool) → Octets → Octets
  | _, [] => []
  | true, ']' :: rest => ']' :: extendedFrom false rest
  | true, c :: rest => c :: extendedFrom true rest
  | false, '\\' :: c :: rest =>
    if "(|)".toList.contains c then c :: extendedFrom false rest
    else '\\' :: c :: extendedFrom false rest
  | false, '[' :: '^' :: ']' :: rest => ['[', '^', ']'] ++ extendedFrom true rest
  | false, '[' :: ']' :: rest => ['[', ']'] ++ extendedFrom true rest
  | false, '[' :: rest => '[' :: extendedFrom true rest
  | false, c :: rest =>
    if "(|)\x7b\x7d".toList.contains c then '\\' :: c :: extendedFrom false rest
    else c :: extendedFrom false rest

/-- The ways in which expressions are written. -/
def styleNames : List String :=
  ["findutils-default", "ed", "emacs", "gnu-awk", "grep", "posix-awk", "awk", "posix-basic",
    "posix-egrep", "egrep", "posix-extended", "posix-minimal-basic", "sed"]

/-- The expression that belongs to a word. -/
def regexOf (word : Octets) : Asking Regex := do
  let text ← wordOf word
  let kind := String.ofList (← get).2.style
  let read := if kind = "findutils-default" || kind = "emacs" then
      Regex.ofText true (extendedFrom false text)
    else Regex.ofText (kind.endsWith "awk" || kind.endsWith "egrep" || kind = "posix-extended") text
  match read with
  | .ok regex => return .sequence .start (.sequence regex .finish)
  | .error message => throw (octets message)

/-- The seconds in a day, in nanoseconds. -/
def dayLength : Int := Calendar.secondsPerDay * Calendar.second

/-- The question for the age of a file in units. Days are full ones. -/
def ageOf (now : Time) (word : Octets) (isDays : Bool) : Asking Question := do
  let (order, count) ← countOf word
  let wholeDays := (← get).2.wholeDays
  let midnight := now - now % dayLength + dayLength
  let start := if wholeDays then midnight else now
  if isDays then return .age order dayLength start count
  return .age order (60 * Calendar.second) start count

/-- The question whether a file is newer than something. -/
def newerOf (fs : FileSystem) (word : Octets) (isTime : Bool) : Asking Question := do
  if isTime then
    let text ← wordOf word
    match Calendar.read? fs.now text with
    | some time => return .newer time
    | none =>
      throw (octets "I cannot figure out how to interpret " ++ quotedPlainly text ++
        octets " as a date or time")
  else return .newer (← referenceOf fs word).node.modified

/-- Whether a file has an owner, which belongs to a word. -/
def ownerOf (word : Octets) (what : String) : Asking Question := do
  let text ← wordOf word
  if text = octets "root" then return .always true
  match natOf? text with
  | some number => return .always (number = 0)
  | none => throw (quotedPlainly text ++ octets s!" is not the name of {what}")

/-- The command that belongs to a word. -/
def commandOf (word : Octets) : Asking Question := do
  let (words, reach) ← get
  let inside := word = octets "-execdir" || word = octets "-okdir"
  let asks := word = octets "-ok" || word = octets "-okdir"
  let mark : Octets := ['\x7b', '\x7d']
  match commandWords word words with
  | .error message => throw message
  | .ok ([], false, _) => throw (octets "invalid argument " ++ inOldQuotes [';'] ++ octets " to " ++
      inOldQuotes word)
  | .ok ([], true, _) => throw (octets "invalid argument " ++ inOldQuotes mark ++ octets " to " ++
      inOldQuotes word)
  | .ok (command, gathers, rest) =>
    if gathers then
      if command.contains mark then
        throw (octets "Only one instance of \x7b\x7d is supported with " ++ word ++ octets " ... +")
      if inside then
        set (rest, reach)
        return .run true false (command ++ [mark])
      set (rest, { reach with gathered := reach.gathered + 1 })
      return .gather reach.gathered command
    set (rest, reach)
    return .run inside asks command

/-- A question that one word starts. -/
def askWord (fs : FileSystem) (word : Octets) : Asking Question := do
  let now := fs.now + 1
  match String.ofList word with
  | "-name" => return .name false (← wordOf word)
  | "-iname" => return .name true (← wordOf word)
  | "-path" | "-wholename" => return .path false (← wordOf word)
  | "-ipath" | "-iwholename" => return .path true (← wordOf word)
  | "-lname" => return .target false (← wordOf word)
  | "-ilname" => return .target true (← wordOf word)
  | "-regex" => return .regex false (← regexOf word)
  | "-iregex" => return .regex true (← regexOf word)
  | "-regextype" =>
    let kind ← wordOf word
    if !styleNames.contains (String.ofList kind) then
      throw (octets "Unknown regular expression type " ++ quotedPlainly kind ++
        octets "; valid types are " ++
        joinWith [',', ' '] (styleNames.map fun name => quotedPlainly (octets name)) ++ ['.'])
    changeReach fun reach => { reach with style := kind }
  | "-type" => return .kind false (← kindsOf word)
  | "-xtype" => return .kind true (← kindsOf word)
  | "-empty" => return .isEmpty
  | "-true" | "-noleaf" | "-mount" | "-xdev" | "-warn" | "-nowarn" | "-ignore_readdir_race"
  | "-noignore_readdir_race" => return .always true
  | "-false" | "-nouser" | "-nogroup" => return .always false
  | "-size" => sizeOf word
  | "-links" =>
    let (order, count) ← countOf word
    return .links order count
  | "-inum" =>
    let (order, count) ← countOf word
    return .number order count
  | "-samefile" => return .number .eq (← referenceOf fs word).number
  | "-newer" | "-anewer" | "-cnewer" | "-newermm" | "-newerma" | "-neweram" | "-newercm" | "-newermc"
  | "-neweraa" | "-newercc" => newerOf fs word false
  | "-newermt" | "-newerat" | "-newerct" | "-newerBt" => newerOf fs word true
  | "-mtime" | "-atime" | "-ctime" => ageOf now word true
  | "-mmin" | "-amin" | "-cmin" => ageOf now word false
  | "-daystart" => changeReach fun reach => { reach with wholeDays := true }
  | "-perm" => modeRuleOf word
  | "-user" => ownerOf word "a known user"
  | "-group" => ownerOf word "an existing group"
  | "-uid" | "-gid" =>
    let (order, count) ← countOf word
    return .always (compare 0 count = order)
  | "-executable" => return .isRunnable
  | "-readable" | "-writable" => return .always true
  | "-print" => return .show none '\n'
  | "-print0" => return .show none '\x00'
  | "-printf" => return .format none (← wordOf word)
  | "-ls" => return .list none
  | "-fprint" => return .show (some (← wordOf word)) '\n'
  | "-fprint0" => return .show (some (← wordOf word)) '\x00'
  | "-fls" => return .list (some (← wordOf word))
  | "-fprintf" =>
    let file ← wordOf word
    return .format (some file) (← wordOf word)
  | "-delete" => return .delete
  | "-prune" => return .prune
  | "-quit" => return .quit
  | "-maxdepth" =>
    let level ← levelOf word
    changeReach fun reach => { reach with most := some level }
  | "-mindepth" =>
    let level ← levelOf word
    changeReach fun reach => { reach with least := level }
  | "-depth" | "-d" => changeReach fun reach => { reach with late := true }
  | "-follow" => changeReach fun reach => { reach with follows := true }
  | "-exec" | "-execdir" | "-ok" | "-okdir" => commandOf word
  | "-fstype" =>
    let kind ← wordOf word
    return .always (["overlay", "ext4", "tmpfs"].contains (String.ofList kind))
  | _ =>
    if word.head? = some '-' then throw (octets "unknown predicate " ++ inOldQuotes word)
    else throw (octets "paths must precede expression: " ++ inOldQuotes word)

/-! ## Operators -/

/-- Take the next word if it is one of some. -/
def takeWordIn (words : List String) : Asking (Option Octets) := do
  match ← get with
  | (next :: rest, reach) =>
    if words.any fun word => octets word = next then
      set (rest, reach)
      return some next
    return none
  | _ => return none

/-- The questions that words ask behind `before`, where `whole` reads those between parentheses. -/
def askOne (fs : FileSystem) (whole : Asking Question) : (bound : Nat) → (before : Octets) →
    Asking Question
  | 0, _ => throw (octets "invalid expression")
  | bound + 1, before => do
    match ← get with
    | ([], _) => throw (octets "expected an expression after " ++ quotedPlainly before)
    | (word :: rest, reach) =>
      set (rest, reach)
      if word = ['!'] || word = octets "-not" then
        return .not (← askOne fs whole bound word)
      if word = ['('] then
        if rest.isEmpty then
          throw (octets "invalid expression; expected to find a ')' but didn't see one." ++
            octets " Perhaps you need an extra predicate after '('")
        if rest.head? = some [')'] then
          throw (octets "invalid expression; empty parentheses are not allowed.")
        let question ← whole
        match ← takeWordIn [")"] with
        | some _ => return question
        | none =>
          throw (octets "invalid expression; I was expecting to find a ')' somewhere but did not see one.")
      if ["-o", "-or", "-a", "-and", ","].any fun operator => octets operator = word then
        throw (octets "invalid expression; you have used a binary operator " ++ quotedPlainly word ++
          octets " with nothing before it.")
      if word = [')'] then throw (octets "you have too many ')'")
      askWord fs word

/-- The questions that are joined by a conjunction, which may be left out. -/
def askBoth (one : Octets → Asking Question) : (bound : Nat) → (first : Question) → Asking Question
  | 0, first => return first
  | bound + 1, first => do
    let joined ← takeWordIn ["-a", "-and"]
    match (← get).1.head?, joined with
    | none, none => return first
    | some word, none =>
      if [")", "-o", "-or", ","].any fun stop => octets stop = word then return first
      askBoth one bound (.both first (← one word))
    | _, some word => askBoth one bound (.both first (← one word))

/-- The questions that are joined by a disjunction. -/
def askEither (one : Octets → Asking Question) : (bound : Nat) → (first : Question) → Asking Question
  | 0, first => return first
  | bound + 1, first => do
    match ← takeWordIn ["-o", "-or"] with
    | none => return first
    | some word => askEither one bound (.either first (← askBoth one bound (← one word)))

/-- The questions that are asked one after the other. -/
def askList (one : Octets → Asking Question) : (bound : Nat) → (first : Question) → Asking Question
  | 0, first => return first
  | bound + 1, first => do
    match ← takeWordIn [","] with
    | none => return first
    | some word =>
      askList one bound (.latter first (← askEither one bound (← askBoth one bound (← one word))))

/-- A whole question, with at most so many levels of parentheses. -/
def askWhole (fs : FileSystem) : (levels : Nat) → Asking Question
  | 0 => throw (octets "invalid expression")
  | levels + 1 => do
    let bound := (← get).1.length + 1
    let one := askOne fs (askWhole fs levels) bound
    askList one bound (← askEither one bound (← askBoth one bound (← one ['('])))

/-- **The question that words ask**, with how far the search goes. -/
def askAll (fs : FileSystem) (reach : Reach) (words : List Octets) :
    Except Octets (Question × Reach) := do
  if words.isEmpty then return (.always true, reach)
  let (question, rest, reach) ← (askWhole fs (words.length + 1)).run (words, reach)
  match rest with
  | [] => return (question, { reach with late := reach.late || question.isLate })
  | [')'] :: _ => .error (octets "you have too many ')'")
  | word :: _ => .error (octets "paths must precede expression: " ++ inOldQuotes word)

end Program

end Shell

end ComponentScaffold
