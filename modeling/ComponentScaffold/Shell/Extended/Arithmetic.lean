import ComponentScaffold.Shell.Arithmetic

/-! # Arithmetic of extended scripts

Expressions over whole numbers of 64 bits, with more operators than the common dialect has: powers, steps up and down,
expressions one after the other, and entries of variables. Where an expression is wrong, the text from the place where
that was seen is told.

* **`Shell.Arithmetic.Extended.evaluate`** — the value of an expression, and what it assigns. -/

namespace ComponentScaffold

namespace Shell

namespace Arithmetic

namespace Extended

/-- Why an expression has no value. -/
structure Fault where
  /-- The expression. -/
  expression : Octets
  /-- What is wrong with it. -/
  message : String
  /-- The text from the place on where that was seen. -/
  token : Octets
deriving DecidableEq, Repr

/-- A token of an expression. -/
inductive Token
  /-- A number. -/
  | number (value : Int)
  /-- A variable, or an entry of one with its key in brackets. -/
  | variable (reference : Octets)
  /-- An operator. -/
  | operator (text : String)
  /-- Something that is no token. -/
  | wrong (message : String)
deriving DecidableEq, Repr

/-- The operators, longer ones before their beginnings. -/
def operators : List String :=
  ["<<=", ">>=", "**", "<<", ">>", "<=", ">=", "==", "!=", "&&", "||", "++", "--", "+=", "-=", "*=", "/=", "%=", "&=",
    "^=", "|=", "<", ">", "=", "!", "&", "|", "+", "-", "*", "/", "%", "^", "~", "(", ")", "?", ":", ","]

/-- The value of a digit to a base, in which capital letters follow the small ones where both are needed. -/
def digitIn? (base : Nat) (c : Char) : Option Nat :=
  if c.isDigit then some (c.toNat - '0'.toNat)
  else if 'a' ≤ c && c ≤ 'z' then some (c.toNat - 'a'.toNat + 10)
  else if 'A' ≤ c && c ≤ 'Z' then some (c.toNat - 'A'.toNat + (if base ≤ 36 then 10 else 36))
  else if c = '@' then some 62
  else if c = '_' then some 63
  else none

/-- The number that digits to a base write. -/
def digitsTo (base : Nat) (digits : Octets) : Token :=
  if digits.all fun c => (digitIn? base c).any (· < base) then
    .number (wrap (digits.foldl (fun value c => base * value + (digitIn? base c).getD 0) 0 : Nat))
  else .wrong "value too great for base"

/-- The number of a text that starts with a digit. -/
def numberToken (text : Octets) : Token :=
  match text.splitOn '#' with
  | [base, digits] =>
    match natOf? base with
    | some base =>
      if base < 2 || 64 < base then .wrong "invalid arithmetic base"
      else if digits.isEmpty then .wrong "invalid integer constant"
      else digitsTo base digits
    | none => .wrong "invalid number"
  | [digits] =>
    match digits with
    | '0' :: 'x' :: rest => digitsTo 16 rest
    | '0' :: 'X' :: rest => digitsTo 16 rest
    | '0' :: rest => digitsTo 8 rest
    | digits => digitsTo 10 digits
  | _ => .wrong "invalid number"

/-- The text of a key in brackets at the start of a text, with the brackets, or nothing if they are not closed. -/
def cutKey : (depth : Nat) → Octets → Option Octets
  | _, [] => none
  | depth, c :: rest =>
    if c = '[' then (cutKey (depth + 1) rest).map (c :: ·)
    else if c = ']' then
      if depth ≤ 1 then some [c] else (cutKey (depth - 1) rest).map (c :: ·)
    else (cutKey depth rest).map (c :: ·)

/-- Whether a character can stand in a number. -/
def isNumberPart (c : Char) : Bool := isNamePart c || c == '#' || c == '@'

/-- The tokens of an expression, each with the text from it on. At most the given number are read. -/
def tokens : (bound : Nat) → Octets → List (Token × Octets)
  | 0, _ => []
  | _ + 1, [] => []
  | bound + 1, c :: rest =>
    let text := c :: rest
    if c = ' ' || c = '\t' || c = '\n' then tokens bound rest
    else if c.isDigit then
      let digits := text.takeWhile isNumberPart
      (numberToken digits, text) :: tokens bound (text.drop digits.length)
    else if isNameStart c then
      let name := text.takeWhile isNamePart
      let behind := text.drop name.length
      let key := if behind.head? = some '[' then (cutKey 0 behind).getD [] else []
      (.variable (name ++ key), text) :: tokens bound (behind.drop key.length)
    else match operators.find? fun operator => operator.toList.isPrefixOf text with
      | some operator => (.operator operator, text) :: tokens bound (text.drop operator.length)
      | none => [(.wrong "syntax error: invalid arithmetic operator", text)]

/-- What an expression finds and leaves. -/
structure Work where
  /-- The expression. -/
  expression : Octets
  /-- The tokens that are left, each with the text from it on. -/
  rest : List (Token × Octets)
  /-- The text from the last token on that was read. -/
  last : Octets
  /-- What was assigned, the latest first. -/
  assigned : List (Octets × Int)

/-- What evaluates a part of an expression. -/
abbrev Eval := StateT Work (Except Fault)

/-- How variables are found. -/
structure Hooks where
  /-- The value of a reference, where something was assigned before. -/
  look : List (Octets × Int) → Octets → Except Fault Int
  /-- A reference with the value of its key. -/
  settle : List (Octets × Int) → Octets → Except Fault Octets

/-- Stop at the next token. -/
def refuse {α : Type} (message : String) : Eval α := do
  let work ← get
  throw ⟨dropSpace work.expression, message, (work.rest.head?.map Prod.snd).getD work.last⟩

/-- The next token. -/
def peek : Eval (Option Token) := do
  match (← get).rest with
  | (.wrong message, _) :: _ => refuse message
  | (token, _) :: _ => return some token
  | [] => return none

/-- Pass over the next token. -/
def advance : Eval Unit :=
  modify fun work =>
    { work with rest := work.rest.tail, last := (work.rest.head?.map Prod.snd).getD work.last }

/-- The next operator, if it is one of some, which is passed over. -/
def takeOneOf (operators : List String) : Eval (Option String) := do
  match ← peek with
  | some (.operator operator) =>
    if operators.contains operator then
      advance
      return some operator
    return none
  | _ => return none

/-- Give a variable a value, unless nothing is to happen. -/
def assign (hooks : Hooks) (idle : Bool) (reference : Octets) (value : Int) : Eval Unit := do
  if idle then return ()
  let reference ← liftM (hooks.settle (← get).assigned reference)
  modify fun work => { work with assigned := (reference, value) :: work.assigned }

/-- The value of a reference, or zero where nothing is looked up. -/
def valueOf (hooks : Hooks) (idle : Bool) (reference : Octets) : Eval Int := do
  if idle then return 0
  liftM (hooks.look (← get).assigned reference)

/-- The operators between two operands, those that bind most loosely first. -/
def binaryLevels : List (List String) :=
  [["||"], ["&&"], ["|"], ["^"], ["&"], ["==", "!="], ["<=", ">=", "<", ">"], ["<<", ">>"], ["+", "-"], ["*", "/", "%"]]

/-- What an operator makes of two numbers, of which the second one was read from a place on. -/
def combine (idle : Bool) (operator : String) (place : Octets) (a b : Int) : Eval Int := do
  if idle then return 0
  match operator with
  | "||" => return ofBool (a ≠ 0 || b ≠ 0)
  | "&&" => return ofBool (a ≠ 0 && b ≠ 0)
  | operator =>
    match apply operator a b with
    | .ok value => return value
    | .error _ => throw ⟨dropSpace (← get).expression, "division by 0", place⟩

/-- A power. -/
def power (base : Int) (exponent : Nat) : Int := wrap (Int.pow base (exponent % Nat.pow 2 16))

/-- The operators that assign. -/
def assigning : List String := ["=", "+=", "-=", "*=", "/=", "%=", "<<=", ">>=", "&=", "^=", "|="]

mutual

/-- Expressions one after the other, of which the last one counts. -/
def evaluateAll (hooks : Hooks) (idle : Bool) : (bound : Nat) → Eval Int
  | 0 => refuse "expression recursion level exceeded"
  | bound + 1 => do
    let value ← evaluateOne hooks idle bound
    if (← takeOneOf [","]).isSome then evaluateAll hooks idle bound else return value

/-- An assignment, or a choice. -/
def evaluateOne (hooks : Hooks) (idle : Bool) : (bound : Nat) → Eval Int
  | 0 => refuse "expression recursion level exceeded"
  | bound + 1 => do
    match (← get).rest with
    | (.variable reference, _) :: (.operator operator, _) :: _ =>
      if assigning.contains operator then
        advance
        advance
        let place := ((← get).rest.head?.map Prod.snd).getD []
        let value ← evaluateOne hooks idle bound
        let value ← if operator = "=" then pure value
          else combine idle (String.ofList operator.toList.dropLast) place (← valueOf hooks idle reference) value
        assign hooks idle reference value
        return value
      else evaluateChoice hooks idle bound
    | _ => evaluateChoice hooks idle bound

/-- A choice between two values. -/
def evaluateChoice (hooks : Hooks) (idle : Bool) : (bound : Nat) → Eval Int
  | 0 => refuse "expression recursion level exceeded"
  | bound + 1 => do
    let condition ← evaluateLevel hooks idle binaryLevels bound
    if (← takeOneOf ["?"]).isNone then
      if let some (.operator operator) ← peek then
        if assigning.contains operator then refuse "attempted assignment to non-variable"
      return condition
    if (← peek) = some (.operator ":") || (← peek) = none then refuse "expression expected"
    let yes ← evaluateAll hooks (idle || condition = 0) bound
    if (← takeOneOf [":"]).isNone then refuse "\x60:' expected for conditional expression"
    if (← peek) = none then refuse "expression expected"
    let no ← evaluateOne hooks (idle || condition ≠ 0) bound
    return if condition ≠ 0 then yes else no

/-- Operands with operators between them that are of some levels. -/
def evaluateLevel (hooks : Hooks) (idle : Bool) (levels : List (List String)) : (bound : Nat) → Eval Int
  | 0 => refuse "expression recursion level exceeded"
  | bound + 1 =>
    match levels with
    | [] => evaluatePower hooks idle bound
    | operators :: tighter => do
      let first ← evaluateLevel hooks idle tighter bound
      evaluateFurther hooks idle operators tighter first bound

/-- What follows a value by operators of a level. -/
def evaluateFurther (hooks : Hooks) (idle : Bool) (operators : List String) (tighter : List (List String))
    (first : Int) : (bound : Nat) → Eval Int
  | 0 => refuse "expression recursion level exceeded"
  | bound + 1 => do
    match ← takeOneOf operators with
    | none => return first
    | some operator =>
      let place := ((← get).rest.head?.map Prod.snd).getD []
      let isSettled := (operator = "||" && first ≠ 0) || (operator = "&&" && first = 0)
      let second ← evaluateLevel hooks (idle || isSettled) tighter bound
      evaluateFurther hooks idle operators tighter (← combine idle operator place first second) bound

/-- A power, or what stands alone. -/
def evaluatePower (hooks : Hooks) (idle : Bool) : (bound : Nat) → Eval Int
  | 0 => refuse "expression recursion level exceeded"
  | bound + 1 => do
    let base ← evaluateUnary hooks idle bound
    if (← takeOneOf ["**"]).isNone then return base
    let exponent ← evaluatePower hooks idle bound
    if exponent < 0 then refuse "exponent less than 0"
    return power base exponent.toNat

/-- An operand with its signs. -/
def evaluateUnary (hooks : Hooks) (idle : Bool) : (bound : Nat) → Eval Int
  | 0 => refuse "expression recursion level exceeded"
  | bound + 1 => do
    match ← peek with
    | some (.operator operator) =>
      if !(["!", "~", "-", "+", "++", "--", "("].contains operator) then refuse "syntax error: operand expected"
      advance
      match operator with
      | "!" => return ofBool ((← evaluateUnary hooks idle bound) = 0)
      | "~" => return -(← evaluateUnary hooks idle bound) - 1
      | "-" => return wrap (-(← evaluateUnary hooks idle bound))
      | "+" => evaluateUnary hooks idle bound
      | "(" =>
        let value ← evaluateAll hooks idle bound
        if (← takeOneOf [")"]).isNone then refuse "missing \x60)'"
        return value
      | step =>
        match ← peek with
        | some (.variable reference) =>
          advance
          let value := wrap ((← valueOf hooks idle reference) + (if step = "++" then 1 else -1))
          assign hooks idle reference value
          return value
        | _ =>
          let value ← evaluateUnary hooks idle bound
          return value
    | some (.number value) =>
      advance
      return value
    | some (.variable reference) =>
      advance
      let value ← valueOf hooks idle reference
      match ← takeOneOf ["++", "--"] with
      | none => return value
      | some step =>
        assign hooks idle reference (wrap (value + (if step = "++" then 1 else -1)))
        return value
    | _ => refuse "syntax error: operand expected"

end

/-- **The value of an expression**, and what it assigns, the latest first. An empty one is zero. -/
def evaluate (hooks : Hooks) (assigned : List (Octets × Int)) (text : Octets) :
    Except Fault (Int × List (Octets × Int)) := do
  let tokens := tokens (text.length + 1) text
  if tokens.isEmpty then return (0, assigned)
  let action : Eval Int := do
    let value ← evaluateAll hooks false (20 * tokens.length + 40)
    if (← peek).isSome then refuse "syntax error in expression"
    return value
  let (value, work) ← action.run ⟨text, tokens, [], assigned⟩
  return (value, work.assigned)

end Extended

end Arithmetic

end Shell

end ComponentScaffold
