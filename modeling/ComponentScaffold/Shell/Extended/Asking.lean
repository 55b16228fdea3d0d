import ComponentScaffold.Shell.Word

/-! # Reading questions

A question between double brackets is read with rules of its own: an angle bracket is an operator, and a line may end
anywhere.

* **`Shell.readQuestion`** — the question up to the closing brackets. -/

namespace ComponentScaffold

namespace Shell

namespace Asking

/-- The operators before one operand. -/
def unaryOperators : List String :=
  ["-a", "-b", "-c", "-d", "-e", "-f", "-g", "-h", "-k", "-n", "-o", "-p", "-r", "-s", "-t", "-u", "-v", "-w", "-x",
    "-z", "-G", "-L", "-N", "-O", "-R", "-S"]

/-- The operators between two operands. -/
def binaryOperators : List String :=
  ["=", "==", "!=", "=~", "-eq", "-ne", "-gt", "-ge", "-lt", "-le", "-nt", "-ot", "-ef"]

/-- A part of a question. -/
inductive Part
  /-- A mark. -/
  | mark (text : String)
  /-- A word, and its text. -/
  | word (word : Word) (text : Octets)
  /-- The end of the text. -/
  | finish

/-- The text of a part. -/
def Part.text : Part → Octets
  | .mark text => octets text
  | .word _ text => text
  | .finish => []

/-- The next part. -/
def readPart (pieces : PieceReader) : Read Part := do
  dropLines ((← left) + 1)
  if (← peekChar).isNone then return .finish
  match ← dropOperator? ["&&", "||", "(", ")", "<", ">", "&", "|", ";"] with
  | some mark => return .mark mark
  | none =>
    let before := (← get).rest
    let word ← pieces .word
    return .word word (before.take (before.length - (← left)))

/-- Stop reading at a part. -/
def refusePart {α : Type} (message : String) (part : Part) : Read α :=
  match part with
  | .finish => stop .finish
  | part => stop (.line ((if message.isEmpty then [] else [octets message]) ++
      [octets "syntax error near \x60" ++ part.text ++ ['\x27']]))

/-- The closing brackets. -/
def closing : Octets := octets "]]"

/-- The operand behind an operator that is of a kind. -/
def readOperand (pieces : PieceReader) (kind : String) : Read Word := do
  match ← readPart pieces with
  | .word word text =>
    if text ≠ closing then return word
    refusePart s!"unexpected argument \x60]]' to conditional {kind} operator" (.word word text)
  | part =>
    refusePart s!"unexpected argument \x60{stringOf part.text}' to conditional {kind} operator" part

/-- The question about a word, by what follows it. -/
def readBehind (pieces : PieceReader) (first : Word) : Read Question := do
  let before ← get
  match ← readPart pieces with
  | .mark "<" => return .two "<" first (← readOperand pieces "binary")
  | .mark ">" => return .two ">" first (← readOperand pieces "binary")
  | .word word text =>
    let operator := String.ofList text
    if operator = "=~" then
      dropLines ((← left) + 1)
      return .two operator first (← pieces (.regex 0))
    if binaryOperators.contains operator then
      return .two operator first (← readOperand pieces "binary")
    if text ≠ closing then refusePart "conditional binary operator expected" (.word word text)
    set before
    return .word first
  | _ =>
    set before
    return .word first

mutual

/-- A question that nothing is joined to, at most so many levels deep. -/
def readSingle (pieces : PieceReader) : (bound : Nat) → Read Question
  | 0 => stop .finish
  | bound + 1 => do
    match ← readPart pieces with
    | .mark "(" =>
      let question ← readAny pieces bound
      match ← readPart pieces with
      | .mark ")" => return question
      | part => refusePart "expected \x60)'" part
    | .word word text =>
      if text = ['!'] then return .negation (← readSingle pieces bound)
      if text = closing then refusePart "" (.word word text)
      let operator := String.ofList text
      if unaryOperators.contains operator then return .one operator (← readOperand pieces "unary")
      readBehind pieces word
    | part => refusePart "" part

/-- Questions of which all have to be answered by yes. -/
def readAll (pieces : PieceReader) : (bound : Nat) → Read Question
  | 0 => stop .finish
  | bound + 1 => do
    let first ← readSingle pieces bound
    let before ← get
    match ← readPart pieces with
    | .mark "&&" => return .both first (← readAll pieces bound)
    | _ =>
      set before
      return first

/-- Questions of which one has to be answered by yes. -/
def readAny (pieces : PieceReader) : (bound : Nat) → Read Question
  | 0 => stop .finish
  | bound + 1 => do
    let first ← readAll pieces bound
    let before ← get
    match ← readPart pieces with
    | .mark "||" => return .either first (← readAny pieces bound)
    | _ =>
      set before
      return first

end

end Asking

/-- **The question up to the closing brackets**, which are passed over. -/
def readQuestion (pieces : PieceReader) : Read Question := do
  let before ← get
  set { before with hasGroups := true }
  let question ← Asking.readAny pieces (3 * before.rest.length + 3)
  match ← Asking.readPart pieces with
  | .word _ text =>
    if text ≠ Asking.closing then Asking.refusePart "" (.word [] text)
    modify fun reading => { reading with hasGroups := before.hasGroups }
    return question
  | part => Asking.refusePart "" part

end Shell

end ComponentScaffold
