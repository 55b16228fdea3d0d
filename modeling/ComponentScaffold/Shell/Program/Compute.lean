import ComponentScaffold.Shell.Program.Basic
import ComponentScaffold.Shell.Regex.Reading

/-! # Computing

* **`Program.expr`** — computes an expression that is given word by word. -/

namespace ComponentScaffold

namespace Shell

namespace Program

/-- What is left of an expression. -/
abbrev Compute := StateT (List Octets) (Except Octets)

/-- What is wrong with the words of an expression. -/
def syntaxFault (message : Octets) : Octets := octets "syntax error: " ++ message

/-- The word that was taken last, behind which one is missing. -/
def missingBehind (word : Octets) : Octets :=
  syntaxFault (octets "missing argument after " ++ quotedPlainly word)

/-- Take the next word, behind another one. -/
def takeWord (before : Octets) : Compute Octets := do
  match ← get with
  | [] => throw (missingBehind before)
  | word :: rest =>
    set rest
    return word

/-- Take the next word if it is one of some. -/
def takeOneOf (words : List String) : Compute (Option String) := do
  match ← get with
  | [] => return none
  | word :: rest =>
    match words.find? fun candidate => octets candidate = word with
    | some found =>
      set rest
      return some found
    | none => return none

/-- The whole number that a value writes. -/
def wholeNumber? (value : Octets) : Option Int :=
  if value.head? = some '+' then none else intOf? value

/-- Whether a value counts as nothing: an empty one, or a zero. -/
def countsAsNothing (value : Octets) : Bool :=
  let digits := if value.head? = some '-' then value.tail else value
  value.isEmpty || (!digits.isEmpty && digits.all (· = '0'))

/-- The part of a text that fits an expression from its start: what it remembers, or its length. -/
def fitted (text pattern : Octets) : Except Octets Octets := do
  match Regex.ofText false pattern with
  | .error message => .error (octets message)
  | .ok regex =>
    let remembers := Regex.groupCount regex > 0
    match Regex.farthest (regex.ends false (Regex.Point.ofText text)) with
    | none => return if remembers then [] else ['0']
    | some reached =>
      return if remembers then (reached.groups.lookup 1).getD [] else natText reached.offset

/-- The numbers of two values, for an operation on numbers. -/
def bothNumbers (a b : Octets) : Except Octets (Int × Int) :=
  match wholeNumber? a, wholeNumber? b with
  | some a, some b => .ok (a, b)
  | _, _ => .error (octets "non-integer argument")

/-- The value of an operation on numbers. -/
def applyNumbers (operator : String) (a b : Octets) : Except Octets Octets := do
  let (a, b) ← bothNumbers a b
  let isDivision := operator = "/" || operator = "%"
  if isDivision && b = 0 then .error (octets "division by zero")
  return intText (match operator with
    | "+" => a + b
    | "-" => a - b
    | "*" => a * b
    | "/" => Int.tdiv a b
    | _ => Int.tmod a b)

/-- The value of a comparison: of numbers if both values are such, else of texts. -/
def applyComparison (operator : String) (a b : Octets) : Octets :=
  let order : Ordering := match wholeNumber? a, wholeNumber? b with
    | some a, some b => compare a b
    | _, _ => if a < b then .lt else if a = b then .eq else .gt
  let holds : Bool := match operator with
    | "<" => order == .lt
    | "<=" => order != .gt
    | "=" | "==" => order == .eq
    | "!=" => order != .eq
    | ">=" => order != .lt
    | _ => order == .gt
  if holds then ['1'] else ['0']

/-- The number of the first character of a text that is one of some, or zero. -/
def firstIndex (text letters : Octets) : Nat :=
  match text.findIdx? letters.contains with
  | some index => index + 1
  | none => 0

/-- The part of a text from a number on, so many characters long. -/
def partOf (text start length : Octets) : Octets :=
  match wholeNumber? start, wholeNumber? length with
  | some start, some length =>
    if start ≤ 0 || length ≤ 0 then [] else (text.drop (start.toNat - 1)).take length.toNat
  | _, _ => []

/-- A value: a word, an expression in parentheses, which `whole` computes, or a function of values. -/
def computeValue (whole : Compute Octets) : (bound : Nat) → (before : Octets) → Compute Octets
  | 0, before => throw (missingBehind before)
  | bound + 1, before => do
    let value := computeValue whole bound
    let word ← takeWord before
    match String.ofList word with
    | "(" =>
      let result ← whole
      match ← get with
      | [')'] :: rest =>
        set rest
        return result
      | [] => throw (syntaxFault (octets "expecting ')' after " ++ quotedPlainly result))
      | other :: _ => throw (syntaxFault (octets "expecting ')' instead of " ++ quotedPlainly other))
    | ")" => throw (syntaxFault (octets "unexpected ')'"))
    | "+" => takeWord word
    | "length" => return natText (← value word).length
    | "match" =>
      let text ← value word
      fitted text (← value text)
    | "index" =>
      let text ← value word
      return natText (firstIndex text (← value text))
    | "substr" =>
      let text ← value word
      let start ← value text
      return partOf text start (← value start)
    | _ => return word

/-- Operations of one strength, one after the other; `operand` computes the operands. -/
def computeOperations (operators : List String) (operand : Octets → Compute Octets)
    (apply : String → Octets → Octets → Except Octets Octets) : (bound : Nat) → Octets →
    Compute Octets
  | 0, value => return value
  | bound + 1, value => do
    match ← takeOneOf operators with
    | none => return value
    | some operator =>
      let other ← operand (octets operator)
      computeOperations operators operand apply bound (← apply operator value other)

/-- An expression, in parentheses at most the given number of levels deep. -/
def computeWhole : (levels : Nat) → (before : Octets) → Compute Octets
  | 0, before => throw (missingBehind before)
  | levels + 1, before => do
    let bound := (← get).length + 1
    let value := computeValue (computeWhole levels ['(']) bound
    let level (operators : List String) (operand : Octets → Compute Octets)
        (apply : String → Octets → Octets → Except Octets Octets) (before : Octets) :
        Compute Octets := do
      computeOperations operators operand apply bound (← operand before)
    let fittings := level [":"] value fun _ text pattern => fitted text pattern
    let products := level ["*", "/", "%"] fittings applyNumbers
    let sums := level ["+", "-"] products applyNumbers
    let comparisons := level ["<", "<=", "=", "==", "!=", ">=", ">"] sums
      fun operator a b => .ok (applyComparison operator a b)
    let both := level ["&"] comparisons fun _ a b =>
      .ok (if countsAsNothing a || countsAsNothing b then ['0'] else a)
    level ["|"] both (fun _ a b =>
      .ok (if !countsAsNothing a then a else if countsAsNothing b then ['0'] else b)) before

/-- The status of `expr` where its expression makes no sense, and where computing it fails. -/
def computeFailure : Nat := 2

/-- **Compute an expression.** The status says whether it counts as something. -/
def expr : Program := fun _ name arguments => do
  let words := if arguments.head? = some ['-', '-'] then arguments.tail else arguments
  if words.isEmpty then return ← refuseUse name (octets "missing operand") computeFailure
  match (computeWhole (words.length + 1) name).run words with
  | .error message => refuse name message computeFailure
  | .ok (_, extra :: _) =>
    refuse name (syntaxFault (octets "unexpected argument " ++ quotedPlainly extra)) computeFailure
  | .ok (value, []) =>
    let status ← emit name (value ++ ['\n'])
    return if status ≠ 0 then computeFailure else if countsAsNothing value then 1 else 0

end Program

end Shell

end ComponentScaffold
