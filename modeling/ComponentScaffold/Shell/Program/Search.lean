import ComponentScaffold.Shell.Program.Paths
import ComponentScaffold.Shell.Program.Sort
import ComponentScaffold.Shell.Regex.Reading

/-! # Searching

* **`Program.grep`** — finds the lines of files that fit an expression. -/

namespace ComponentScaffold

namespace Shell

namespace Program

/-! ## Expressions -/

/-- How patterns are written. -/
inductive PatternKind
  /-- As basic regular expressions. -/
  | basic
  /-- As extended regular expressions. -/
  | extended
  /-- As plain texts. -/
  | fixed
deriving DecidableEq, Repr

/-- The expression for a plain text. -/
def plainRegex (text : Octets) : Regex :=
  text.foldr (fun c regex => .sequence (.char c) regex) .empty

/-- Whether an operator asks for repetitions, and so says nothing at the start of an expression. -/
def startsNothing (c : Char) : Bool := c = '*' || c = '+' || c = '?'

/-- The expression for one of some patterns. -/
def patternRegex (kind : PatternKind) (patterns : List Octets) : Except String Regex := do
  let regexes ← patterns.mapM fun pattern =>
    match kind with
    | .fixed => pure (plainRegex pattern)
    | .basic => Regex.ofText false pattern
    | .extended => Regex.ofText true (pattern.dropWhile startsNothing)
  match regexes with
  | [] => return .choice false []
  | first :: rest => return rest.foldl .either first

/-- How lines are searched. -/
structure SearchManner where
  /-- The expression. -/
  regex : Regex
  /-- Whether small letters and capitals are the same. -/
  folds : Bool
  /-- Whether only whole words count. -/
  words : Bool
  /-- Whether only whole lines count. -/
  lines : Bool
  /-- Whether it is the other lines that are found. -/
  inverted : Bool

/-- The expression with what is asked for around it. -/
def SearchManner.whole (manner : SearchManner) : Regex :=
  if manner.lines then .sequence .start (.sequence manner.regex .finish)
  else if manner.words then
    .sequence (.edge fun before _ => !before) (.sequence manner.regex (.edge fun _ behind => !behind))
  else manner.regex

/-- Whether a line is one of those that are looked for. -/
def SearchManner.finds (manner : SearchManner) (line : Octets) : Bool :=
  manner.whole.occursIn manner.folds line != manner.inverted

/-- The parts of a line that fit, with their offsets, at most the given number of them. -/
def SearchManner.parts (manner : SearchManner) : (bound : Nat) → Regex.Point → List (Nat × Octets)
  | 0, _ => []
  | bound + 1, point =>
    match manner.whole.find? manner.folds { point with groups := [] } with
    | none => []
    | some (first, last) =>
      let length := last.offset - first.offset
      if length = 0 then
        if first.rest.isEmpty then [] else manner.parts bound first.next
      else (first.offset, first.rest.take length) :: manner.parts bound last

/-! ## Lines -/

/-- How what is found is shown. -/
structure SearchStyle where
  /-- Whether the name of the file stands before it. -/
  names : Bool
  /-- Whether the number of the line stands before it. -/
  numbers : Bool
  /-- Whether the offset stands before it. -/
  offsets : Bool
  /-- Whether only the parts that fit are shown. -/
  onlyParts : Bool
  /-- How many lines before it are shown, and how many behind it, if that is asked for. -/
  context : Option (Nat × Nat)
  /-- What ends a line. -/
  mark : Char

/-- What stands before something that is found. -/
def SearchStyle.head (style : SearchStyle) (file : Octets) (mark : Char) (number offset : Nat) :
    Octets :=
  (if style.names then file ++ [mark] else []) ++
    (if style.numbers then natText number ++ [mark] else []) ++
    (if style.offsets then natText offset ++ [mark] else [])

/-- A line of a file, with its number and offset and whether it is found. -/
structure SearchedLine where
  /-- Its number. -/
  number : Nat
  /-- The number of bytes before it. -/
  offset : Nat
  /-- Its text. -/
  text : Octets
  /-- Whether it is found. -/
  isFound : Bool

/-- The lines of a file from a number and an offset on, of which at most so many are found. -/
def searchLines (manner : SearchManner) : (number offset most : Nat) → List Octets →
    List SearchedLine
  | _, _, _, [] => []
  | number, offset, most, line :: rest =>
    let isFound := most > 0 && manner.finds line
    ⟨number, offset, line, isFound⟩ ::
      searchLines manner (number + 1) (offset + line.length + 1) (if isFound then most - 1 else most)
        rest

/-- A line as it is shown. -/
def SearchStyle.line (style : SearchStyle) (manner : SearchManner) (file : Octets)
    (line : SearchedLine) : Octets :=
  if style.onlyParts then
    if !line.isFound || manner.inverted then []
    else (manner.parts (line.text.length + 2) (Regex.Point.ofText line.text)).flatMap
      fun (offset, part) =>
        style.head file ':' line.number (line.offset + offset) ++ part ++ [style.mark]
  else
    style.head file (if line.isFound then ':' else '-') line.number line.offset ++ line.text ++
      [style.mark]

/-- The lines that are shown, with a mark between those that do not follow each other. -/
def SearchStyle.show (style : SearchStyle) (manner : SearchManner) (file : Octets)
    (lines : List SearchedLine) : Octets :=
  match style.context with
  | none => (lines.filter SearchedLine.isFound).flatMap (style.line manner file)
  | some (before, behind) =>
    let found := (lines.filter SearchedLine.isFound).map SearchedLine.number
    let isNear (line : SearchedLine) : Bool :=
      found.any fun number => number ≤ line.number + before && line.number ≤ number + behind
    let shown := lines.filter isNear
    let (text, _) := shown.foldl (fun (text, last) line =>
      let gap := if last ≠ 0 && last + 1 < line.number then octets "--\n" else []
      (text ++ gap ++ style.line manner file line, line.number)) (([] : Octets), 0)
    text

/-! ## Files -/

/-- The options of `grep`. -/
def grepForms : List OptionForm :=
  [⟨'e', true, ["regexp"], .required⟩, ⟨'f', true, ["file"], .required⟩,
    ⟨'E', true, ["extended-regexp"], .none⟩, ⟨'F', true, ["fixed-strings"], .none⟩,
    ⟨'G', true, ["basic-regexp"], .none⟩, ⟨'P', true, ["perl-regexp"], .none⟩,
    ⟨'i', true, ["ignore-case"], .none⟩, .short 'y' .none, ⟨'v', true, ["invert-match"], .none⟩,
    ⟨'w', true, ["word-regexp"], .none⟩, ⟨'x', true, ["line-regexp"], .none⟩,
    ⟨'c', true, ["count"], .none⟩, ⟨'l', true, ["files-with-matches"], .none⟩,
    ⟨'L', true, ["files-without-match"], .none⟩, ⟨'n', true, ["line-number"], .none⟩,
    ⟨'o', true, ["only-matching"], .none⟩, ⟨'q', true, ["quiet", "silent"], .none⟩,
    ⟨'s', true, ["no-messages"], .none⟩, ⟨'h', true, ["no-filename"], .none⟩,
    ⟨'H', true, ["with-filename"], .none⟩, ⟨'r', true, ["recursive"], .none⟩,
    ⟨'R', true, ["dereference-recursive"], .none⟩, ⟨'m', true, ["max-count"], .required⟩,
    ⟨'A', true, ["after-context"], .required⟩, ⟨'B', true, ["before-context"], .required⟩,
    ⟨'C', true, ["context"], .required⟩, ⟨'a', true, ["text"], .none⟩,
    ⟨'b', true, ["byte-offset"], .none⟩, ⟨'I', true, [], .none⟩, ⟨'U', true, ["binary"], .none⟩,
    ⟨'T', true, ["initial-tab"], .none⟩, ⟨'Z', true, ["null"], .none⟩,
    ⟨'z', true, ["null-data"], .none⟩, ⟨'d', true, ["directories"], .required⟩,
    ⟨'D', true, ["devices"], .required⟩, ⟨'u', true, ["unix-byte-offsets"], .none⟩,
    ⟨'p', false, ["color", "colour"], .optional⟩, ⟨'j', false, ["include"], .required⟩,
    ⟨'k', false, ["exclude"], .required⟩, ⟨'t', false, ["exclude-dir"], .required⟩]

/-- The status of `grep` where something goes wrong. -/
def searchFailure : Nat := 2

/-- How `grep` is used. -/
def grepUsage (name : Octets) : Octets :=
  octets "Usage: " ++ name ++ octets " [OPTION]... PATTERNS [FILE]...\n" ++ hint name

/-- The files to search below the operands, or below the current directory if there are none: each by the
name by which it is shown. -/
def searchedFiles (files : FileSystem) (chosen : Chosen) (operands : List Octets) : List Octets :=
  let fitsOne (key : Char) (path : Octets) : Bool :=
    chosen.options.any fun option => option.1 = key &&
      fits (patternOf (option.2.map fun c => (c, false))) (lastName path)
  let isWanted (path : Octets) : Bool :=
    (!chosen.has 'j' || fitsOne 'j' path) && !fitsOne 'k' path
  (if operands.isEmpty then [['.']] else operands).flatMap fun operand =>
    if files.isDirectory (pathOf operand) then
      (contents files (files.depth + 1) operand).filterMap fun (path, entry) =>
        let shown := if operands.isEmpty then path else below operand path
        let isHidden := ((path.splitOn '/').dropLast.any fun name => fitsOne 't' name)
        match entry with
        | .file _ => if isWanted path && !isHidden then some shown else none
        | _ => none
    else [operand]

/-- Search a text; the status says whether something was found. -/
def searchText (name : Octets) (chosen : Chosen) (manner : SearchManner) (style : SearchStyle)
    (file text : Octets) : Exec Nat := do
  let most := ((chosen.value? 'm').bind natOf?).getD (text.length + 1)
  let lines := searchLines manner 1 0 most (markedLines style.mark text)
  let found := lines.filter SearchedLine.isFound
  let status := if found.isEmpty then 1 else 0
  let isBinary := text.contains '\x00' && !chosen.has 'a' && !chosen.has 'z'
  if chosen.has 'q' then return status
  let nameEnd (c : Char) : Char := if chosen.has 'Z' then '\x00' else c
  if chosen.has 'c' && !(chosen.has 'l' || chosen.has 'L') then
    let head := if style.names then file ++ [nameEnd ':'] else []
    let _ ← emit name (head ++ natText found.length ++ ['\n'])
    return status
  if chosen.has 'l' || chosen.has 'L' then
    let isNamed := found.isEmpty == (chosen.last? ['l', 'L'] = some 'L')
    let _ ← emit name (if isNamed then file ++ [nameEnd '\n'] else [])
    return status
  if isBinary then
    if chosen.has 'I' then return 1
    if !found.isEmpty then tell name (file ++ octets ": binary file matches")
    return status
  let _ ← emit name (style.show manner file lines)
  return status

/-- Search the files that operands name; the status says whether something was found. -/
def searchFiles (name : Octets) (chosen : Chosen) (manner : SearchManner) (style : SearchStyle)
    (operands : List Octets) : Exec Nat := do
  let statuses ← operands.mapM fun operand => do
    match ← readOperand operand with
    | .ok text =>
      let file := if operand = ['-'] then octets "(standard input)" else operand
      searchText name chosen manner style file text
    | .error fault =>
      if fault = .isDirectory && chosen.value? 'd' = some (octets "skip") then return 1
      if !chosen.has 's' then tell name (faultText operand fault)
      return searchFailure
  if statuses.contains 0 && (chosen.has 'q' || !statuses.contains searchFailure) then return 0
  else if statuses.contains searchFailure then return searchFailure
  else return 1

/-- The patterns that are looked for, and the operands. -/
def searchPatterns (chosen : Chosen) : Exec (Option (List Octets × List Octets)) := do
  let given := chosen.options.filter fun option => option.1 = 'e' || option.1 = 'f'
  let texts ← given.mapM fun (key, value) => do
    if key = 'e' then return value.splitOn '\n'
    match ← readOperand value with
    | .ok text => return (linesOf text).1
    | .error _ => return []
  if !given.isEmpty then return some (texts.flatten, chosen.operands)
  match chosen.operands with
  | [] => return none
  | pattern :: operands => return some (pattern.splitOn '\n', operands)

/-- Find lines, with patterns of a kind unless the options tell another one. -/
def search (kind : PatternKind) : Program := fun _ name arguments => do
  match choose grepForms false (newContext arguments) with
  | .error fault =>
    tell name fault.message
    complain (grepUsage name)
    return searchFailure
  | .ok chosen =>
    let isCount (value : Octets) : Bool := (natOf? value).isSome
    if let some option := chosen.options.find? fun option =>
        ['A', 'B', 'C'].contains option.1 && !isCount option.2 then
      return ← refuse name (option.2 ++ octets ": invalid context length argument") searchFailure
    if (chosen.value? 'm').any fun value => !isCount value then
      return ← refuse name (octets "invalid max count") searchFailure
    match ← searchPatterns chosen with
    | none =>
      complain (grepUsage name)
      return searchFailure
    | some (patterns, operands) =>
      let kind := match chosen.last? ['E', 'F', 'G', 'P'] with
        | some 'F' => .fixed
        | some 'G' => .basic
        | some _ => .extended
        | none => kind
      if kind = .extended then
        patterns.forM fun pattern =>
          match pattern.head? with
          | some c =>
            if startsNothing c then
              tell name (octets "warning: " ++ c :: octets " at start of expression")
            else return ()
          | none => return ()
      -- no line can be found, so none is looked at
      let isVain := chosen.value? 'm' = some ['0'] ||
        (chosen.has 'v' && patterns = [[]] && !chosen.has 'x' && !chosen.has 'w')
      if isVain && !chosen.has 'L' then return 1
      match patternRegex kind patterns with
      | .error message => refuse name (octets message) searchFailure
      | .ok regex =>
        let manner : SearchManner :=
          { regex := regex, folds := chosen.has 'i' || chosen.has 'y', words := chosen.has 'w'
            lines := chosen.has 'x', inverted := chosen.has 'v' }
        let number (key : Char) : Option Nat := (chosen.value? key).bind natOf?
        let recursive := chosen.has 'r' || chosen.has 'R' ||
          chosen.value? 'd' = some (octets "recurse")
        let fs ← files
        let isSingle := operands.length ≤ 1 && !(recursive &&
          (operands.isEmpty || operands.any fun operand => fs.isDirectory (pathOf operand)))
        let found := if recursive then searchedFiles fs chosen operands
          else if operands.isEmpty then [['-']] else operands
        let style : SearchStyle :=
          { names := match chosen.last? ['h', 'H'] with
              | some key => key = 'H'
              | none => !isSingle
            numbers := chosen.has 'n', offsets := chosen.has 'b', onlyParts := chosen.has 'o'
            mark := if chosen.has 'z' then '\x00' else '\n'
            context := if chosen.has 'A' || chosen.has 'B' || chosen.has 'C' then
                some ((number 'B').getD ((number 'C').getD 0), (number 'A').getD ((number 'C').getD 0))
              else none }
        searchFiles name chosen manner style found
where
  /-- Arguments with an old form of the number of lines around, in the new form. -/
  newContext (arguments : List Octets) : List Octets :=
    arguments.map fun argument =>
      match argument with
      | '-' :: c :: more =>
        if c.isDigit && more.all Char.isDigit then '-' :: 'C' :: c :: more else argument
      | _ => argument

/-- **Find the lines that fit an expression.** -/
def grep : Program := search .basic

/-- Find the lines that fit an extended expression. -/
def egrep : Program := search .extended

/-- Find the lines with a text. -/
def fgrep : Program := search .fixed

end Program

end Shell

end ComponentScaffold
