import ComponentScaffold.Shell.Program.Basic

/-! # Programs for parts of lines

* **`Program.cut`** — takes parts out of lines.
* **`Program.paste`** — puts lines side by side.
* **`Program.fold`** — breaks lines that are too long. -/

namespace ComponentScaffold

namespace Shell

namespace Program

/-! ## Parts -/

/-- The numbers from one to another, or without end. -/
structure Span where
  /-- The first number. -/
  first : Nat
  /-- The last number, if there is one. -/
  last : Option Nat
deriving DecidableEq, Repr

/-- Whether a number is one of those of some spans. -/
def isWithin (spans : List Span) (n : Nat) : Bool :=
  spans.any fun span => span.first ≤ n && span.last.all fun last => n ≤ last

/-- How the parts of lines are called in complaints: their numbers, and one of them. -/
structure PartNames where
  /-- What is numbered. -/
  numbered : String
  /-- What a number tells. -/
  value : String

/-- How fields are called. -/
def PartNames.fields : PartNames := ⟨"fields are", "field value"⟩

/-- How bytes are called. -/
def PartNames.bytes : PartNames := ⟨"byte/character positions are", "byte/character position"⟩

/-- The span that a text tells, or what is wrong with it. -/
def spanOf (names : PartNames) (text : Octets) : Except Octets Span :=
  let first := text.takeWhile Char.isDigit
  let invalid := octets s!"invalid {names.value} " ++ quotedPlainly text
  let fromOne := octets s!"{names.numbered} numbered from 1"
  match text.drop first.length with
  | [] =>
    if first.isEmpty then .error fromOne
    else if digitsValue first = 0 then .error fromOne
    else .ok ⟨digitsValue first, some (digitsValue first)⟩
  | '-' :: last =>
    if !last.all Char.isDigit then .error invalid
    else if first.isEmpty && last.isEmpty then .error (octets "invalid range with no endpoint: -")
    else if !first.isEmpty && digitsValue first = 0 then .error fromOne
    else
      let start := if first.isEmpty then 1 else digitsValue first
      if last.isEmpty then .ok ⟨start, none⟩
      else if digitsValue last < start then .error (octets "invalid decreasing range")
      else .ok ⟨start, some (digitsValue last)⟩
  | _ => .error invalid

/-- The spans that a list tells. -/
def spansOf (names : PartNames) (text : Octets) : Except Octets (List Span) :=
  (text.splitOnP fun c => c == ',' || c == ' ' || c == '\t').mapM (spanOf names)

/-- The options of `cut`. -/
def cutForms : List OptionForm :=
  [⟨'f', true, ["fields"], .required⟩, ⟨'c', true, ["characters"], .required⟩,
    ⟨'b', true, ["bytes"], .required⟩, ⟨'d', true, ["delimiter"], .required⟩,
    ⟨'s', true, ["only-delimited"], .none⟩, ⟨'o', false, ["output-delimiter"], .required⟩,
    ⟨'x', false, ["complement"], .none⟩, .short 'n' .none]

/-- The bytes of a line that are selected, with a text between those that do not follow each other. -/
def cutBytes (selects : Nat → Bool) (between : Octets) : (index : Nat) → (started gap : Bool) →
    Octets → Octets
  | _, _, _, [] => []
  | index, started, gap, c :: rest =>
    if selects index then
      (if started && gap then between else []) ++ c :: cutBytes selects between (index + 1) true false rest
    else cutBytes selects between (index + 1) started true rest

/-- The fields of a line that are selected. A line without separators is shown as a whole, unless it is to
be left out. -/
def cutFieldsOf (selects : Nat → Bool) (separator : Char) (between : Octets) (onlyParted : Bool)
    (line : Octets) : Option Octets :=
  if !line.contains separator then if onlyParted then none else some line
  else
    let fields := line.splitOn separator
    some (joinWith between ((fields.zipIdx 1).filterMap fun (field, index) =>
      if selects index then some field else none))

/-- **Take parts out of lines.** -/
def cut : Program := withOptions cutForms false 1 fun _ name chosen => do
  let asked := chosen.options.filter fun option => "fcb".toList.contains option.1
  match asked with
  | [] => refuseUse name (octets "you must specify a list of bytes, characters, or fields") 1
  | _ :: _ :: _ => refuseUse name (octets "only one list may be specified") 1
  | [(key, list)] =>
    let byFields := key = 'f'
    let separator := (chosen.value? 'd').getD ['\t']
    if separator.length > 1 then
      refuseUse name (octets "the delimiter must be a single character") 1
    else if !byFields && chosen.has 'd' then
      refuseUse name
        (octets "an input delimiter may be specified only when operating on fields") 1
    else if !byFields && chosen.has 's' then
      refuseUse name
        (octets ("suppressing non-delimited lines makes sense\n" ++
          "\tonly when operating on fields")) 1
    else match spansOf (if byFields then .fields else .bytes) list with
      | .error message => refuseUse name message 1
      | .ok spans =>
        let selects (index : Nat) : Bool := isWithin spans index != chosen.has 'x'
        let mark := separator.headD '\x00'
        let line (line : Octets) : Option Octets :=
          if byFields then
            cutFieldsOf selects mark ((chosen.value? 'o').getD [mark]) (chosen.has 's') line
          else some (cutBytes selects ((chosen.value? 'o').getD []) 1 false false line)
        forContents name chosen.operands fun _ text =>
          emit name (((linesOf text).1.filterMap line).flatMap (· ++ ['\n']))

/-! ## Lines side by side -/

/-- The options of `paste`. -/
def pasteForms : List OptionForm :=
  [⟨'d', true, ["delimiters"], .required⟩, ⟨'s', true, ["serial"], .none⟩]

/-- The separators that a list tells. -/
def separatorsOf : Octets → List Octets
  | [] => []
  | '\\' :: c :: rest =>
    (if c = 'n' then ['\n'] else if c = 't' then ['\t'] else if c = '0' then [] else [c]) ::
      separatorsOf rest
  | c :: rest => [c] :: separatorsOf rest

/-- Parts with the separators between them, over and over. -/
def joinCycling (separators : List Octets) : (index : Nat) → List Octets → Octets
  | _, [] => []
  | _, [part] => part
  | index, part :: rest =>
    part ++ (separators[index % separators.length]?).getD [] ++ joinCycling separators (index + 1) rest

/-- Each of some lists taken apart into its first element and the others. -/
def firstRow (columns : List (List Octets)) : List Octets × List (List Octets) :=
  (columns.map fun column => column.headD [], columns.map List.tail)

/-- The rows of columns. -/
def rowsOf : (bound : Nat) → List (List Octets) → List (List Octets)
  | 0, _ => []
  | bound + 1, columns =>
    if columns.all List.isEmpty then []
    else
      let (row, others) := firstRow columns
      row :: rowsOf bound others

/-- The lines of the standard input, dealt out to the operands that stand for it. -/
def dealt (lines : List Octets) (count index : Nat) : List Octets :=
  (lines.zipIdx).filterMap fun (line, place) => if place % count = index then some line else none

/-- **Put the lines of files side by side.** -/
def paste : Program := withOptions pasteForms false 1 fun _ name chosen => do
  let operands := if chosen.operands.isEmpty then [['-']] else chosen.operands
  let separators := separatorsOf ((chosen.value? 'd').getD ['\t'])
  let separators := if separators.isEmpty then [[]] else separators
  let shared := operands.count ['-']
  let input ← if shared = 0 then pure [] else match ← readAll 0 with
    | .ok bytes => pure (linesOf (octetsOf bytes)).1
    | .error _ => pure []
  let (columns, status, _) ← operands.foldlM (fun (columns, status, used) operand => do
    if operand = ['-'] then return (columns ++ [dealt input shared used], status, used + 1)
    match ← readOperand operand with
    | .ok text => return (columns ++ [(linesOf text).1], status, used)
    | .error fault => return (columns, worse status (← refuseFile name operand fault), used))
    (([] : List (List Octets)), 0, 0)
  if status ≠ 0 && !chosen.has 's' then return status
  let rows := if chosen.has 's' then columns
    else rowsOf ((columns.map List.length).foldl max 0 + 1) columns
  return worse status
    (← emit name (rows.flatMap fun row => joinCycling separators 0 row ++ ['\n']))

/-! ## Long lines -/

/-- The options of `fold`. -/
def foldForms : List OptionForm :=
  [⟨'w', true, ["width"], .required⟩, ⟨'s', true, ["spaces"], .none⟩,
    ⟨'b', true, ["bytes"], .none⟩]

/-- A line broken into parts of at most a width, behind blanks if possible. -/
def foldLine (width : Nat) (atBlanks : Bool) : (bound : Nat) → Octets → List Octets
  | 0, line => [line]
  | bound + 1, line =>
    if line.length ≤ width then [line]
    else
      let part := line.take width
      let kept := (part.reverse.dropWhile fun c => c ≠ ' ' && c ≠ '\t').reverse
      let part := if atBlanks && !kept.isEmpty then kept else part
      part :: foldLine width atBlanks bound (line.drop part.length)

/-- Arguments with an old form of the width, in the new form. -/
def newWidth (arguments : List Octets) : List Octets :=
  arguments.map fun argument =>
    match argument with
    | '-' :: c :: more =>
      if c.isDigit && more.all Char.isDigit then '-' :: 'w' :: c :: more else argument
    | _ => argument

/-- **Break lines that are too long.** -/
def fold : Program := fun engine name arguments =>
  withOptions foldForms false 1 (fun _ name chosen => do
    let value := (chosen.value? 'w').getD (octets "80")
    match natOf? value with
    | none => refuse name (octets "invalid number of columns: " ++ quotedPlainly value) 1
    | some 0 =>
      refuse name (octets "invalid number of columns: " ++ quotedPlainly value ++
        octets ": Numerical result out of range") 1
    | some width =>
      forContents name chosen.operands fun _ text =>
        emit name ((fullLines text).flatMap fun line =>
          let isEnded := line.getLast? = some '\n'
          let body := if isEnded then line.dropLast else line
          joinWith ['\n'] (foldLine width (chosen.has 's') (body.length + 1) body) ++
            (if isEnded then ['\n'] else []))) engine name (newWidth arguments)

end Program

end Shell

end ComponentScaffold
