import ComponentScaffold.Shell.Pattern

/-! # Regular expressions

A regular expression stands for texts. Where several parts of a text fit it, the first one counts, and of
those that start there the longest.

* **`Shell.Regex`** — a regular expression.
* **`Regex.ends`** — where the texts end that fit an expression from a point on.
* **`Regex.find?`** — the first part of a text that fits. -/

namespace ComponentScaffold

namespace Shell

/-- **A regular expression.** -/
inductive Regex
  /-- The empty text. -/
  | empty
  /-- A character. -/
  | char (c : Char)
  /-- Any character. -/
  | any
  /-- One of some characters, or none of them if `negated`. -/
  | choice (negated : Bool) (choices : List Choice)
  /-- The start of the text. -/
  | start
  /-- The end of the text. -/
  | finish
  /-- A place between characters, given by whether letters of words stand before and behind it. -/
  | edge (allowed : Bool → Bool → Bool)
  /-- A part that is remembered by its number. -/
  | group (number : Nat) (inner : Regex)
  /-- The text of a part that is remembered. -/
  | again (number : Nat)
  /-- One expression behind another one. -/
  | sequence (first second : Regex)
  /-- One of two expressions. -/
  | either (first second : Regex)
  /-- An expression over and over, at least and at most as often as told. -/
  | repeated (inner : Regex) (least : Nat) (most : Option Nat)

namespace Regex

/-- A place in a text that has been reached. -/
structure Point where
  /-- The character before it. -/
  before : Option Char
  /-- The text behind it. -/
  rest : Octets
  /-- How many characters stand before it. -/
  offset : Nat
  /-- The parts that are remembered, by their numbers. -/
  groups : List (Nat × Octets)

/-- The place behind the next character. -/
def Point.next (point : Point) : Point :=
  { point with before := point.rest.head?, rest := point.rest.tail, offset := point.offset + 1 }

/-- The place behind a number of characters. -/
def Point.skip (point : Point) : (count : Nat) → Point
  | 0 => point
  | count + 1 => point.next.skip count

/-- Whether a character belongs to a word. -/
def isWordLetter (c : Char) : Bool := c.isAlphanum || c == '_'

/-- The ways on by a step over and over, the longest first. A step that leads nowhere is taken no more
than needed. -/
def repeatSteps (step : Point → List Point) : (bound : Nat) → (least : Nat) → (most : Option Nat) →
    Point → List Point
  | 0, least, _, point => if least = 0 then [point] else []
  | bound + 1, least, most, point =>
    let further :=
      if most = some 0 then []
      else (step point).flatMap fun next =>
        if next.offset = point.offset then (if least ≤ 1 then [next] else
          repeatSteps step bound (least - 1) (most.map (· - 1)) next)
        else repeatSteps step bound (least - 1) (most.map (· - 1)) next
    if least = 0 then further ++ [point] else further

/-- **Where texts end that fit an expression** from a point on. Small letters and capitals are the same if
`folds`. -/
def ends (folds : Bool) : Regex → Point → List Point
  | .empty, point => [point]
  | .char c, point =>
    match point.rest with
    | [] => []
    | d :: _ =>
      if c = d || (folds && c.toLower = d.toLower) then [point.next] else []
  | .any, point => if point.rest.isEmpty then [] else [point.next]
  | .choice negated choices, point =>
    match point.rest with
    | [] => []
    | d :: _ =>
      let isIn (c : Char) : Bool := choices.any (·.contains c)
      if (isIn d || (folds && (isIn d.toLower || isIn d.toUpper))) != negated then [point.next] else []
  | .start, point => if point.before.isNone then [point] else []
  | .finish, point => if point.rest.isEmpty then [point] else []
  | .edge allowed, point =>
    if allowed (point.before.any isWordLetter) (point.rest.head?.any isWordLetter) then [point] else []
  | .group number inner, point =>
    (ends folds inner point).map fun reached =>
      { reached with groups :=
          (number, point.rest.take (reached.offset - point.offset)) :: reached.groups }
  | .again number, point =>
    match point.groups.lookup number with
    | none => []
    | some text =>
      let found := point.rest.take text.length
      let same := if folds then found.map Char.toLower = text.map Char.toLower else found = text
      if same then [point.skip text.length] else []
  | .sequence first second, point => (ends folds first point).flatMap (ends folds second)
  | .either first second, point => ends folds first point ++ ends folds second point
  | .repeated inner least most, point =>
    repeatSteps (ends folds inner) (point.rest.length + least + 1) least most point

/-- The farthest of some points, the first of those that are. -/
def farthest : List Point → Option Point
  | [] => none
  | point :: rest =>
    match farthest rest with
    | some other => if point.offset < other.offset then some other else some point
    | none => some point

/-- **The first part of a text that fits an expression**, from a point on: where it starts and where it
ends. -/
def find? (regex : Regex) (folds : Bool) (point : Point) : Option (Point × Point) :=
  go (point.rest.length + 1) point
where
  /-- The first part, among at most the given number of starts. -/
  go : (bound : Nat) → Point → Option (Point × Point)
    | 0, _ => none
    | bound + 1, point =>
      match farthest (ends folds regex point) with
      | some reached => some (point, reached)
      | none => if point.rest.isEmpty then none else go bound point.next

/-- How many parts of an expression are remembered. -/
def groupCount : Regex → Nat
  | .group _ inner => groupCount inner + 1
  | .sequence first second => groupCount first + groupCount second
  | .either first second => groupCount first + groupCount second
  | .repeated inner _ _ => groupCount inner
  | _ => 0

/-- The start of a text. -/
def Point.ofText (text : Octets) : Point := ⟨none, text, 0, []⟩

/-- Whether a part of a text fits an expression. -/
def occursIn (regex : Regex) (folds : Bool) (text : Octets) : Bool :=
  (regex.find? folds (Point.ofText text)).isSome

end Regex

end Shell

end ComponentScaffold
