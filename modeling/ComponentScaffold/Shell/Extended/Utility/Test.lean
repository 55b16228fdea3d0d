import ComponentScaffold.Shell.Extended.Question
import ComponentScaffold.Shell.Extended.Utility.Reference

/-! # Questions of the extended dialect

What `test` answers. Short questions are taken apart by the number of their words, and long ones from left to right.

* **`Extended.test`**, **`Extended.bracket`** — answer a question. -/

namespace ComponentScaffold

namespace Shell

namespace Extended

open Utility

/-- The status of a question that makes no sense. -/
def questionStatus : Nat := 2

/-- Refuse a question. -/
def refuseQuestion {α : Type} (message : Octets) : Exec α := failWith questionStatus message

/-- Whether a word is an operator before one operand. -/
def isUnary (word : Octets) : Bool :=
  match word with
  | ['-', letter] => "abcdefghknoprstuvwxzGLOSNR".toList.contains letter
  | _ => false

/-- The operators between two operands. -/
def binaryOperators : List String :=
  ["=", "==", "!=", "<", ">", "-eq", "-ne", "-gt", "-ge", "-lt", "-le", "-nt", "-ot", "-ef"]

/-- Whether a word is an operator between two operands. -/
def isBinary (word : Octets) : Bool := binaryOperators.contains (String.ofList word)

/-- Refuse a word in the place of an operator. -/
def refuseOperator {α : Type} (word : Octets) (kind : String) : Exec α :=
  refuseQuestion (word ++ octets s!": {kind} operator expected")

/-- Whether a text is a number that can be compared. -/
def isNumber (text : Octets) : Bool :=
  (Condition.integer? text).any fun n => -(Int.pow 2 63) ≤ n && n < Int.pow 2 63

/-- The answer to a question about an operand. -/
def answerOne (operator operand : Octets) : Exec Bool :=
  match operator with
  | ['-', 'n'] => return !operand.isEmpty
  | ['-', 'z'] => return operand.isEmpty
  | _ => askAbout (String.ofList operator) operand

/-- The answer to a question about two operands. -/
def answerTwo (a operator b : Octets) : Exec Bool := do
  let asking : Condition.Asking := ⟨true, fun n => -(Int.pow 2 63) ≤ n && n < Int.pow 2 63⟩
  let operator := if operator = ['=', '='] then ['='] else operator
  match Condition.askTwo (← files) asking (String.ofList operator) a b with
  | .ok answer => return answer
  | .error operand => refuseQuestion (operand ++ octets ": integer expression expected")

/-- What is left of a question. -/
abbrev Asked := StateT (List Octets) Exec

/-- Pass over the first of the words that are left, behind which others have to follow if `more`. -/
def passOver (more : Bool) : Asked Unit := do
  let rest := (← get).tail
  set rest
  if more && rest.isEmpty then refuseQuestion (octets "argument expected")

/-- The answer of an operator before an operand, to which the words start. -/
def answerUnary : Asked Bool := do
  match ← get with
  | ['-', 't'] :: rest =>
    match rest with
    | [] =>
      set ([] : List Octets)
      return false
    | word :: others =>
      set (if isNumber word then others else rest)
      return false
  | operator :: _ =>
    passOver true
    let operand := (← get).headD []
    passOver false
    answerOne operator operand
  | [] => return false

/-- The answer of an operator between two operands, to which the words start. -/
def answerBinary : Asked Bool := do
  match ← get with
  | a :: operator :: b :: rest =>
    set rest
    answerTwo a operator b
  | _ => refuseQuestion (octets "argument expected")

/-- A single question, which may be turned around, or one in parentheses, which `whole` answers. The words may stand
before another one. -/
def answerTerm (whole : Asked Bool) (behind : Option Octets) : (bound : Nat) → Asked Bool
  | 0 => return false
  | bound + 1 => do
    match ← get with
    | [] => refuseQuestion (octets "argument expected")
    | ['!'] :: _ =>
      passOver true
      return !(← answerTerm whole behind bound)
    | ['('] :: _ =>
      passOver true
      let answer ← whole
      match (← get).head?.orElse fun _ => behind with
      | none => refuseQuestion (octets "\x60)' expected")
      | some word =>
        if word ≠ [')'] then refuseQuestion (octets "\x60)' expected, found " ++ word)
        passOver false
        return answer
    | word :: rest =>
      if rest.length ≥ 2 && rest.head?.any isBinary then answerBinary
      else if !rest.isEmpty && isUnary word then answerUnary
      else
        passOver false
        return !word.isEmpty

/-- Questions of which all have to be answered by yes. -/
def answerAll (whole : Asked Bool) (behind : Option Octets) : (bound : Nat) → Asked Bool
  | 0 => return false
  | bound + 1 => do
    let first ← answerTerm whole behind (bound + 1)
    if (← get).head? ≠ some ['-', 'a'] then return first
    passOver false
    let others ← answerAll whole behind bound
    return first && others

/-- Questions of which one has to be answered by yes. -/
def answerAny (whole : Asked Bool) (behind : Option Octets) : (bound : Nat) → Asked Bool
  | 0 => return false
  | bound + 1 => do
    let first ← answerAll whole behind (bound + 1)
    if (← get).head? ≠ some ['-', 'o'] then return first
    passOver false
    let others ← answerAny whole behind bound
    return first || others

/-- A whole question, in parentheses at most the given number of levels deep. -/
def answerWhole (behind : Option Octets) : (levels : Nat) → Asked Bool
  | 0 => return false
  | levels + 1 => do
    let words ← get
    if words.isEmpty then refuseQuestion (octets "argument expected")
    answerAny (answerWhole behind levels) behind (words.length + 1)

/-- The answer of two words. -/
def answerPair (first second : Octets) : Exec Bool :=
  if first = ['!'] then return second.isEmpty
  else if first = ['-', 't'] then return false
  else if isUnary first then answerOne first second
  else refuseOperator first "unary"

/-- The answer of three words. -/
def answerTriple (first second third : Octets) : Exec Bool :=
  if isBinary second then answerTwo first second third
  else if second = ['-', 'a'] then return !first.isEmpty && !third.isEmpty
  else if second = ['-', 'o'] then return !first.isEmpty || !third.isEmpty
  else if first = ['!'] then return !(← answerPair second third)
  else if first = ['('] && third.head? = some ')' then return !second.isEmpty
  else refuseOperator second "binary"

/-- The answer of any number of words, all of which have to be part of the question, and which may stand before another
one. -/
def answerWords (words : List Octets) (behind : Option Octets) : Exec Bool := do
  match words with
  | [] => return false
  | [word] => return !word.isEmpty
  | [first, second] => answerPair first second
  | [first, second, third] => answerTriple first second third
  | ['!'] :: first :: second :: [third] => return !(← answerTriple first second third)
  | words =>
    match words with
    | [['('], first, second, [')']] => answerPair first second
    | words =>
      let (answer, rest) ← (answerWhole behind (words.length + 1)).run words
      match rest with
      | [] => return answer
      | word :: _ =>
        if word.head? = some '-' then
          refuseQuestion (octets "syntax error: \x60" ++ word ++ octets "' unexpected")
        refuseQuestion (octets "too many arguments")

/-- **Answer a question.** -/
def test : Utility := fun _ words => return if ← answerWords words none then 0 else 1

/-- Answer a question between brackets. -/
def bracket : Utility := fun _ words => do
  if words.getLast? ≠ some [']'] then refuseQuestion (octets "missing \x60]'")
  return if ← answerWords words.dropLast (some [']']) then 0 else 1

end Extended

end Shell

end ComponentScaffold
