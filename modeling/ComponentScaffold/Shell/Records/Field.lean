import ComponentScaffold.Shell.Records.Pattern

/-! # Records and fields

A text is cut into records, and a record into fields, by what stands between them.

* **`Records.Separator`** — what stands between fields.
* **`Separator.cut`** — the fields of a record.
* **`Records.cutRecord?`** — the first record of a text. -/

namespace ComponentScaffold

namespace Shell

namespace Records

/-- **What stands between fields.** -/
inductive Separator
  /-- Blanks, which may also stand before and behind. -/
  | blanks
  /-- Nothing: each character is a field. -/
  | nothing
  /-- A character. -/
  | char (c : Char)
  /-- What fits a pattern. -/
  | regex (regex : Regex)

namespace Separator

/-- The separator that a text tells. -/
def ofText (text : Octets) : Except PatternFault Separator :=
  match text with
  | [] => .ok .nothing
  | [' '] => .ok .blanks
  | [c] => .ok (.char c)
  | text => (patternOf text).map .regex

/-- A separator, or the end of a line. -/
def orLine : Separator → Separator
  | .char c => .regex (.choice false [.range c c, .range '\n' '\n'])
  | .regex pattern => .regex (.either pattern (.char '\n'))
  | other => other

/-- Whether a byte is a blank between fields. -/
def isBlank (c : Char) : Bool := c = ' ' || c = '\t' || c = '\n'

/-- The words of a text, of which at most so many are taken. -/
def words : (bound : Nat) → Octets → List Octets
  | 0, _ => []
  | bound + 1, text =>
    let text := text.dropWhile isBlank
    if text.isEmpty then []
    else
      let word := text.takeWhile fun c => !isBlank c
      word :: words bound (text.drop word.length)

/-- The first part of a text that fits a pattern and is not empty: the text before it, and behind it. -/
def cutAt? (regex : Regex) : (bound : Nat) → Regex.Point → Octets → Option (Octets × Regex.Point)
  | 0, _, _ => none
  | bound + 1, point, before =>
    match regex.find? false point with
    | none => none
    | some (start, reached) =>
      let before := before ++ point.rest.take (start.offset - point.offset)
      if start.offset < reached.offset then some (before, reached)
      else match start.rest with
        | [] => none
        | c :: _ => cutAt? regex bound start.next (before ++ [c])

/-- The parts of a text between those that fit a pattern, at most so many. -/
def partsAt (regex : Regex) : (bound : Nat) → Regex.Point → List Octets
  | 0, point => [point.rest]
  | bound + 1, point =>
    match cutAt? regex (point.rest.length + 1) point [] with
    | none => [point.rest]
    | some (before, reached) => before :: partsAt regex bound reached

/-- **The fields of a record.** -/
def cut (separator : Separator) (text : Octets) : List Octets :=
  if text.isEmpty then []
  else match separator with
    | .blanks => words text.length text
    | .nothing => text.map fun c => [c]
    | .char c => text.splitOn c
    | .regex pattern => partsAt pattern (text.length + 1) (.ofText text)

end Separator

/-- What stands between records. -/
inductive RecordEnd
  /-- A character. -/
  | char (c : Char)
  /-- An empty line or more of them. -/
  | emptyLines
  /-- What fits a pattern. -/
  | regex (regex : Regex)

/-- What stands between records, as a text tells it. -/
def RecordEnd.ofText (text : Octets) : Except PatternFault RecordEnd :=
  match text with
  | [] => .ok .emptyLines
  | [c] => .ok (.char c)
  | text => (patternOf text).map .regex

/-- The text up to an empty line, and the text behind all of those that follow. -/
def cutParagraph : Octets → Octets × Octets
  | [] => ([], [])
  | ['\n'] => ([], [])
  | '\n' :: '\n' :: rest => ([], rest.dropWhile (· = '\n'))
  | c :: rest =>
    let (text, behind) := cutParagraph rest
    (c :: text, behind)

/-- **The first record of a text**, and the text behind it, if there is one. -/
def cutRecord? (ending : RecordEnd) (text : Octets) : Option (Octets × Octets) :=
  match ending with
  | .char c =>
    if text.isEmpty then none else some (text.takeWhile (· ≠ c), (text.dropWhile (· ≠ c)).tail)
  | .emptyLines =>
    let text := text.dropWhile (· = '\n')
    if text.isEmpty then none else some (cutParagraph text)
  | .regex regex =>
    if text.isEmpty then none
    else match Separator.cutAt? regex (text.length + 1) (.ofText text) [] with
      | some (before, reached) => some (before, reached.rest)
      | none => some (text, [])

end Records

end Shell

end ComponentScaffold
