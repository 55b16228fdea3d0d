import ComponentScaffold.Shell.Format
import ComponentScaffold.Shell.Regex.Reading

/-! # Editing scripts

A script that edits lines is a list of commands. A command can be preceded by the addresses of the lines
for which it is carried out.

* **`Edit.Command`** — a command.
* **`Edit.ofText`** — the commands that a text writes, or what is wrong with it. -/

namespace ComponentScaffold

namespace Shell

namespace Edit

/-- The address of a line. -/
inductive Address
  /-- The line of a number. -/
  | line (number : Nat)
  /-- The last line. -/
  | last
  /-- The lines that fit an expression, or the one used last. -/
  | fitting (regex : Option (Regex × Bool))
  /-- Every line of a step from a number on. -/
  | step (first step : Nat)

/-- Where a range of lines ends. -/
inductive RangeEnd
  /-- At the line of an address. -/
  | at (address : Address)
  /-- So many lines behind its start. -/
  | behind (count : Nat)
  /-- At the next line whose number is a multiple. -/
  | multiple (count : Nat)

/-- The lines for which a command is carried out. -/
inductive Lines
  /-- All. -/
  | all
  /-- Those of an address. -/
  | one (address : Address)
  /-- Those of ranges. -/
  | range (first : Address) (last : RangeEnd)

/-- A part of what is put in the place of something. -/
inductive NewPart
  /-- A text. -/
  | text (text : Octets)
  /-- A part that the expression remembers, or for zero all that fitted. -/
  | group (number : Nat)
  /-- What follows is written in capitals or small letters, up to the next such mark. -/
  | letters (toUpper : Option Bool)
  /-- The next letter is a capital or a small one. -/
  | letter (toUpper : Bool)

/-- What a substitution does. -/
structure Substitution where
  /-- The expression, or the one used last. -/
  regex : Option (Regex × Bool)
  /-- What is put in the place of what fits. -/
  new : List NewPart
  /-- The number of the first part that is replaced. -/
  first : Nat
  /-- Whether all parts behind it are replaced too. -/
  all : Bool
  /-- Whether the line is shown then. -/
  shows : Bool
  /-- The file that the line is written to then. -/
  file : Option Octets

/-- What a command does. -/
inductive Action
  /-- Opens a group of commands, which ends behind a number of commands. -/
  | group (length : Nat)
  /-- Nothing. -/
  | nothing
  /-- Shows the number of the line. -/
  | number
  /-- Shows a text behind the line. -/
  | append (text : Octets)
  /-- Shows a text before the line. -/
  | insert (text : Octets)
  /-- Shows a text instead of the line. -/
  | change (text : Octets)
  /-- Goes on behind a label, or at the end. -/
  | branch (label : Octets)
  /-- The same if something was replaced, or if not when `negated`. -/
  | branchIf (negated : Bool) (label : Octets)
  /-- Drops the line. -/
  | drop
  /-- Drops the first line of the text, and starts again with the rest. -/
  | dropFirst
  /-- Takes the text that is kept, or adds it. -/
  | take (adds : Bool)
  /-- Keeps the text, or adds it to what is kept. -/
  | keep (adds : Bool)
  /-- Exchanges the text with the one that is kept. -/
  | exchange
  /-- Shows the name of the file. -/
  | fileName
  /-- Shows the text with marks for what cannot be printed, in lines of a width. -/
  | list (width : Option Nat)
  /-- Takes the next line, or adds it. -/
  | next (adds : Bool)
  /-- Shows the text, or its first line. -/
  | show (first : Bool)
  /-- Ends, after showing the text unless `silent`, with a status. -/
  | quit (silent : Bool) (status : Nat)
  /-- Shows a file behind the line. -/
  | read (file : Octets)
  /-- Replaces what fits an expression. -/
  | substitute (substitution : Substitution)
  /-- Writes the text to a file. -/
  | write (file : Octets)
  /-- Replaces characters by others. -/
  | translate (table : List (Char × Char))
  /-- Clears the text. -/
  | clear

/-- **A command.** -/
structure Command where
  /-- The lines for which it is carried out. -/
  lines : Lines
  /-- Whether it is the other lines. -/
  negated : Bool
  /-- The label that it is, if it is one. -/
  label : Option Octets
  /-- What it does. -/
  action : Action

/-! ## Reading -/

/-- How far a script has been read. -/
structure Progress where
  /-- What is left. -/
  rest : Octets
  /-- How many characters have been read. -/
  count : Nat

/-- What is wrong with a script. -/
structure ScriptFault where
  /-- The number of characters up to where it shows, zero for a fault of the whole script; none where
  the place does not matter. -/
  place : Option Nat
  /-- What it is. -/
  message : String

/-- What reads a part of a script. -/
abbrev Parse := StateT Progress (Except ScriptFault)

/-- Stop reading. -/
def refuse {α : Type} (message : String) : Parse α := do throw ⟨some (← get).count, message⟩

/-- Stop reading for a reason that concerns the whole script. -/
def refuseAll {α : Type} (message : String) : Parse α := throw ⟨some 0, message⟩

/-- The next character, which stays there. -/
def peek : Parse (Option Char) := return (← get).rest.head?

/-- The next character. -/
def next : Parse (Option Char) := do
  let progress ← get
  match progress.rest with
  | [] => return none
  | c :: rest =>
    set ({ rest := rest, count := progress.count + 1 } : Progress)
    return some c

/-- Take the next characters as long as they fit. -/
def takeWhile (fits : Char → Bool) : Parse Octets := do
  let progress ← get
  let taken := progress.rest.takeWhile fits
  set ({ rest := progress.rest.drop taken.length, count := progress.count + taken.length } : Progress)
  return taken

/-- Take the next character if it is the given one, and say whether it was. -/
def takeIf (c : Char) : Parse Bool := do
  if (← peek) = some c then
    let _ ← next
    return true
  return false

/-- A number. -/
def readNumber : Parse Nat := return digitsValue (← takeWhile Char.isDigit)

/-- Whether a character is a blank within a line. -/
def isBlank (c : Char) : Bool := isSpace c && c != '\n'

/-- The text up to a mark, at most so many characters of it. A mark behind a backslash belongs to it; in
an expression one between brackets does, too. -/
def readUntil (mark : Char) (isRegex : Bool) : (bound : Nat) → (inside : Bool) →
    Parse (Option Octets)
  | 0, _ => return none
  | bound + 1, inside => do
    match ← next with
    | none => return none
    | some c =>
      if c = mark && !inside then return some []
      else if c = '\n' && isRegex && mark ≠ '\n' then return none
      else if c = '\\' && !inside then
        match ← next with
        | none => return none
        | some d =>
          let rest ← readUntil mark isRegex bound false
          let pair : Octets :=
            if d = mark then (if !isRegex && d = '&' then ['\\', d] else [d])
            else if d = 'n' && isRegex then ['\n']
            else ['\\', d]
          return rest.map (pair ++ ·)
      else
        let opens := isRegex && c = '[' && !inside
        let closes := inside && c = ']'
        if opens then
          -- a bracket that stands first belongs to the choices
          let negation ← takeIf '^'
          let first ← takeIf ']'
          let head := '[' :: (if negation then ['^'] else []) ++ (if first then [']'] else [])
          return (← readUntil mark isRegex bound true).map (head ++ ·)
        else return (← readUntil mark isRegex bound (inside && !closes)).map (c :: ·)

/-- The value of a digit up to a base. -/
def digitValue? (base : Nat) (c : Char) : Option Nat :=
  let value :=
    if c.isDigit then c.toNat - '0'.toNat
    else if 'a' ≤ c.toLower && c.toLower ≤ 'f' then c.toLower.toNat - 'a'.toNat + 10
    else base
  if value < base then some value else none

/-- The character whose number stands in digits of a base at the start of a text, with what is left. -/
def numbered? (base most : Nat) (text : Octets) : Option (Char × Octets) :=
  let digits := (text.take most).takeWhile fun c => (digitValue? base c).isSome
  if digits.isEmpty then none
  else
    let value := (digits.filterMap (digitValue? base)).foldl (fun value digit => base * value + digit) 0
    some (Char.ofNat (value % 256), text.drop digits.length)

/-- Letters that stand for control characters behind a backslash. -/
def controls : List (Char × Char) :=
  [('t', '\t'), ('f', '\x0c'), ('v', '\x0b'), ('a', '\x07'), ('r', '\x0d')]

/-- A text with characters in the place of what stands for them behind a backslash; `written` says how
one that was given by its number is written. -/
def withControls (controls : List (Char × Char)) (written : Char → Octets) : (bound : Nat) →
    Octets → Octets
  | bound + 1, '\\' :: c :: rest =>
    let found := match c with
      | 'x' => numbered? 16 2 rest
      | 'd' => numbered? 10 3 rest
      | 'o' => numbered? 8 3 rest
      | 'c' => rest.head?.map fun letter => (Char.ofNat (letter.toUpper.toNat ^^^ 64), rest.tail)
      | _ => none
    match controls.lookup c, found with
    | some control, _ => control :: withControls controls written bound rest
    | none, some (c, rest) => written c ++ withControls controls written bound rest
    | none, none => '\\' :: c :: withControls controls written bound rest
  | bound + 1, c :: rest => c :: withControls controls written bound rest
  | _, text => text

/-- The expression that a text writes; the empty text stands for the one used last. -/
def regexOf (extended : Bool) (text : Octets) (folds : Bool) : Parse (Option (Regex × Bool)) := do
  if text.isEmpty then return none
  let written (c : Char) : Octets := [c]
  match Regex.ofText extended (withControls (('n', '\n') :: controls) written text.length text) with
  | .ok regex => return some (regex, folds)
  | .error message => refuse message

/-- Everything that is left of a text and its length. -/
def leftover : Parse Nat := return (← get).rest.length + 1

/-- An address, if there is one. -/
def readAddress (extended : Bool) : Parse (Option Address) := do
  match ← peek with
  | some '$' =>
    let _ ← next
    return some .last
  | some c =>
    if c.isDigit then
      let number ← readNumber
      if ← takeIf '~' then
        let step ← readNumber
        return some (if step = 0 then .line number else .step number step)
      return some (.line number)
    else if c = '+' || c = '~' then
      let _ ← takeWhile fun c => c = '+' || c = '~' || c.isDigit
      refuse "invalid usage of +N or ~N as first address"
    else if c = '/' || c = '\\' then
      let _ ← next
      let mark ← if c = '/' then pure '/' else pure ((← next).getD '/')
      match ← readUntil mark true (← leftover) false with
      | none => refuse "unterminated address regex"
      | some text =>
        let flags ← takeWhile fun c => c = 'I' || c = 'M'
        return some (.fitting (← regexOf extended text (flags.contains 'I')))
    else return none
  | none => return none

/-- The lines for which a command is carried out. -/
def readLines (extended : Bool) : Parse Lines := do
  match ← readAddress extended with
  | none => return .all
  | some first =>
    let _ ← takeWhile isBlank
    if ← takeIf ',' then
      let _ ← takeWhile isBlank
      if ← takeIf '+' then return .range first (.behind (← readNumber))
      if ← takeIf '~' then return .range first (.multiple (← readNumber))
      match ← readAddress extended with
      | some final =>
        match first, final with
        | .line 0, .fitting _ => return .range first (.at final)
        | .line 0, _ => refuseZero
        | _, _ => return .range first (.at final)
      | none =>
        let _ ← next
        refuse "unexpected \x60,'"
    else match first with
      | .line 0 => refuseZero
      | first => return .one first
where
  /-- Refuse a line zero, behind the command for which it is given. -/
  refuseZero : Parse Lines := do
    let _ ← next
    refuse "invalid usage of line address 0"

/-- Look for the end of a command. -/
def readEnd : Parse Unit := do
  let _ ← takeWhile isBlank
  match ← peek with
  | none => return ()
  | some '\x7d' => return ()
  | some '#' => return ()
  | some c =>
    let _ ← next
    if c = '\n' || c = ';' then return ()
    refuse "extra characters after command"

/-- A label. -/
def readLabel : Parse Octets := do
  let _ ← takeWhile isBlank
  takeWhile fun c => !isSpace c && c ≠ ';' && c ≠ '\x7d'

/-- The name of a file: what is left of the line. -/
def readFileName : Parse Octets := do
  let _ ← takeWhile isBlank
  let text ← takeWhile (· ≠ '\n')
  if text.isEmpty then refuse "missing filename in r/R/w/W commands"
  return text

/-- A text with the characters in the place of their escapes. -/
def plain : Octets → Octets
  | '\\' :: 'n' :: rest => '\n' :: plain rest
  | '\\' :: c :: rest => c :: plain rest
  | c :: rest => c :: plain rest
  | [] => []

/-- The text that is written with escapes. -/
def unescaped (text : Octets) : Octets :=
  plain (withControls controls (fun c => ['\\', c]) text.length text)

/-- The text of a command with its escapes: the lines up to one that does not end in a backslash. -/
def readTextLines : (bound : Nat) → Parse Octets
  | 0 => return []
  | bound + 1 => do
    match ← next with
    | none => return []
    | some '\n' => return []
    | some '\\' =>
      match ← next with
      | none => return []
      | some c => return '\\' :: c :: (← readTextLines bound)
    | some c => return c :: (← readTextLines bound)

/-- The text of a command that shows one. -/
def readText : Parse Octets := do
  let _ ← takeWhile isBlank
  if (← peek).isNone then refuse "expected \\ after \x60a', \x60c' or \x60i'"
  if ← takeIf '\\' then
    if (← peek).isNone then return []
    -- the text stands in the same line or in the next one, with its blanks
    let _ ← takeIf '\n'
  return unescaped (← readTextLines (← leftover)) ++ ['\n']

/-- What is put in the place of something, as a text writes it. -/
def newParts : Octets → List NewPart
  | [] => []
  | '\\' :: c :: rest =>
    (if c.isDigit then NewPart.group (c.toNat - '0'.toNat)
      else match c with
        | 'n' => .text ['\n']
        | 'U' => .letters (some true)
        | 'L' => .letters (some false)
        | 'E' => .letters none
        | 'u' => .letter true
        | 'l' => .letter false
        | c => .text [c]) :: newParts rest
  | '&' :: rest => .group 0 :: newParts rest
  | c :: rest => .text [c] :: newParts rest

/-- The flags of a substitution. -/
structure Flags where
  /-- The number of the first part that is replaced. -/
  number : Option Nat
  /-- Whether all parts behind it are replaced too. -/
  all : Bool
  /-- Whether the line is shown. -/
  shows : Bool
  /-- Whether small letters and capitals are the same. -/
  folds : Bool
  /-- The file that the line is written to. -/
  file : Option Octets

/-- The flags of a substitution, at most so many characters of them. -/
def readFlags : (bound : Nat) → Flags → Parse Flags
  | 0, flags => return flags
  | bound + 1, flags => do
    match ← peek with
    | some c =>
      if c.isDigit then
        if flags.number.isSome then
          let _ ← next
          refuse "multiple number options to \x60s' command"
        let number ← readNumber
        if number = 0 then refuse "number option to \x60s' command may not be zero"
        readFlags bound { flags with number := some number }
      else if c = 'g' then
        let _ ← next
        if flags.all then refuse "multiple \x60g' options to \x60s' command"
        readFlags bound { flags with all := true }
      else if c = 'p' then
        let _ ← next
        if flags.shows then refuse "multiple \x60p' options to \x60s' command"
        readFlags bound { flags with shows := true }
      else if c = 'i' || c = 'I' then
        let _ ← next
        readFlags bound { flags with folds := true }
      else if c = 'm' || c = 'M' || c = 'e' then
        let _ ← next
        readFlags bound flags
      else if c = 'w' then
        let _ ← next
        return { flags with file := some (← readFileName) }
      else if isBlank c then
        let _ ← next
        readFlags bound flags
      else if c = '\n' || c = ';' || c = '\x7d' || c = '#' then return flags
      else
        let _ ← next
        refuse "unknown option to \x60s'"
    | none => return flags

/-- A substitution, behind its letter. -/
def readSubstitution (extended : Bool) : Parse Substitution := do
  let unterminated := "unterminated \x60s' command"
  match ← next with
  | none => refuse unterminated
  | some mark =>
    match ← readUntil mark true (← leftover) false with
    | none => refuse unterminated
    | some old =>
      match ← readUntil mark false (← leftover) false with
      | none => refuse unterminated
      | some new =>
        let flags ← readFlags (← leftover) ⟨none, false, false, false, none⟩
        let regex ← regexOf extended old flags.folds
        let parts := newParts (withControls controls (fun c => ['\\', c]) new.length new)
        let count := match regex with
          | some (regex, _) => regex.groupCount
          | none => 9
        match parts.findSome? fun part => match part with
            | .group number => if count < number then some number else none
            | _ => none with
        | some number => refuse s!"invalid reference \\{number} on \x60s' command's RHS"
        | none =>
          return ⟨regex, parts, flags.number.getD 1, flags.all, flags.shows, flags.file⟩

/-- A translation of characters, behind its letter. -/
def readTranslation : Parse (List (Char × Char)) := do
  let unterminated := "unterminated \x60y' command"
  match ← next with
  | none => refuse unterminated
  | some mark =>
    match ← readUntil mark false (← leftover) false with
    | none => refuse unterminated
    | some old =>
      match ← readUntil mark false (← leftover) false with
      | none => refuse unterminated
      | some new =>
        let (old, new) := (unescaped old, unescaped new)
        if old.length ≠ new.length then
          refuse "strings for \x60y' command are different lengths"
        return old.zip new

/-- What a command does, by its letter. -/
def readAction (extended : Bool) (letter : Char) : Parse Action := do
  let ended (action : Action) : Parse Action := do
    readEnd
    return action
  match letter with
  | '=' => ended .number
  | 'a' => return .append (← readText)
  | 'i' => return .insert (← readText)
  | 'c' => return .change (← readText)
  | 'b' => return .branch (← readLabel)
  | 't' => return .branchIf false (← readLabel)
  | 'T' => return .branchIf true (← readLabel)
  | 'd' => ended .drop
  | 'D' => ended .dropFirst
  | 'g' => ended (.take false)
  | 'G' => ended (.take true)
  | 'h' => ended (.keep false)
  | 'H' => ended (.keep true)
  | 'x' => ended .exchange
  | 'F' => ended .fileName
  | 'l' =>
    let _ ← takeWhile isBlank
    let digits ← takeWhile Char.isDigit
    ended (.list (natOf? digits))
  | 'n' => ended (.next false)
  | 'N' => ended (.next true)
  | 'p' => ended (.show false)
  | 'P' => ended (.show true)
  | 'q' | 'Q' =>
    let _ ← takeWhile isBlank
    let status ← readNumber
    ended (.quit (letter = 'Q') status)
  | 'r' => return .read (← readFileName)
  | 'w' => return .write (← readFileName)
  | 's' => do
    let substitution ← readSubstitution extended
    ended (.substitute substitution)
  | 'y' => do
    let table ← readTranslation
    ended (.translate table)
  | 'z' => ended .clear
  | letter => refuse s!"unknown command: \x60{letter}'"

/-- The commands up to the end of the script or of a group. -/
def readCommands (extended : Bool) : (bound : Nat) → (isGroup : Bool) → Parse (List Command)
  | 0, _ => return []
  | bound + 1, isGroup => do
    let _ ← takeWhile fun c => isSpace c || c = ';'
    if (← peek).isNone then
      if isGroup then refuseAll "unmatched \x60\x7b'"
      return []
    let lines ← readLines extended
    let _ ← takeWhile isBlank
    let negated ← takeIf '!'
    let _ ← takeWhile isBlank
    if negated && (← takeIf '!') then refuse "multiple \x60!'s"
    let command (action : Action) : Command := ⟨lines, negated, none, action⟩
    match ← next with
    | none => refuse "missing command"
    | some '#' =>
      if !(lines matches .all) then refuse "comments don't accept any addresses"
      let _ ← takeWhile (· ≠ '\n')
      readCommands extended bound isGroup
    | some ':' =>
      if !(lines matches .all) then refuse ": doesn't want any addresses"
      let label ← readLabel
      if label.isEmpty then refuse "\":\" lacks a label"
      return ⟨.all, false, some label, .nothing⟩ :: (← readCommands extended bound isGroup)
    | some '\x7d' =>
      if !isGroup then refuse "unexpected \x60\x7d'"
      if !(lines matches .all) then refuse "\x7d doesn't want any addresses"
      readEnd
      return []
    | some '\x7b' =>
      let inner ← readCommands extended bound true
      return command (.group inner.length) :: inner ++ (← readCommands extended bound isGroup)
    | some letter =>
      if letter = '\n' || letter = ';' then refuse "missing command"
      let action ← readAction extended letter
      return command action :: (← readCommands extended bound isGroup)

/-- The label that a command goes on behind. -/
def Action.target? : Action → Option Octets
  | .branch label => some label
  | .branchIf _ label => some label
  | _ => none

/-- **The commands that a text writes**, or what is wrong with it. -/
def ofText (extended : Bool) (text : Octets) : Except ScriptFault (List Command) := do
  let (commands, _) ← (readCommands extended (text.length + 2) false).run ⟨text, 0⟩
  let labels := commands.filterMap Command.label
  let missing := commands.findSome? fun command =>
    command.action.target?.bind fun label =>
      if label.isEmpty || labels.contains label then none else some label
  match missing with
  | some label => .error ⟨none, s!"can't find label for jump to \x60{String.ofList label}'"⟩
  | none => return commands

end Edit

end Shell

end ComponentScaffold
