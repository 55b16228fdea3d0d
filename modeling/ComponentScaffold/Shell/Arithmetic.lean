import ComponentScaffold.Shell.Octets

/-! # Arithmetic of scripts

Expressions over whole numbers of 64 bits. A variable stands for the number that its value writes; an
assignment counts from then on.

* **`Shell.Arithmetic.evaluate`** — the value of an expression, and what it assigns. -/

namespace ComponentScaffold

namespace Shell

namespace Arithmetic

/-- Why an expression has no value. -/
inductive Fault
  /-- It is not written as one, or it divides by zero. -/
  | expression (message : String)
  /-- The value of a variable writes no number. -/
  | number (text : Octets)
  /-- A variable has no value where it should. -/
  | unset (name : Octets)
deriving DecidableEq, Repr

/-- A token of an expression. -/
inductive Token
  /-- A number. -/
  | number (value : Int)
  /-- A variable. -/
  | variable (name : Octets)
  /-- An operator. -/
  | operator (text : String)
  /-- A character that has no meaning. -/
  | bad
deriving DecidableEq, Repr

/-- A number as it is kept in 64 bits. -/
def wrap (n : Int) : Int := Int.bmod n (Nat.pow 2 64)

/-- The greatest number. -/
def greatest : Int := Int.pow 2 63 - 1

/-- A number as it is read: one that is too great is the greatest. -/
def clamp (n : Int) : Int := max (-greatest - 1) (min greatest n)

/-- The value of a digit. -/
def digitValue? (c : Char) : Option Nat :=
  if c.isDigit then some (c.toNat - '0'.toNat)
  else if 'a' ≤ c && c ≤ 'z' then some (c.toNat - 'a'.toNat + 10)
  else if 'A' ≤ c && c ≤ 'Z' then some (c.toNat - 'A'.toNat + 10)
  else none

/-- The number that the digits to a base at the start of a text write, and the rest. -/
def digitsOf (base : Nat) (text : Octets) : Nat × Octets :=
  let digits := text.takeWhile fun c => (digitValue? c).any (· < base)
  (digits.foldl (fun value c => base * value + (digitValue? c).getD 0) 0, text.drop digits.length)

/-- The number at the start of a text, to base eight behind a zero and to base sixteen behind `0x`, and
the rest. -/
def numberOf (text : Octets) : Nat × Octets :=
  match text with
  | '0' :: x :: c :: rest =>
    if (x = 'x' || x = 'X') && (digitValue? c).any (· < 16) then digitsOf 16 (c :: rest)
    else digitsOf 8 text
  | '0' :: _ => digitsOf 8 text
  | _ => digitsOf 10 text

/-- The operators, longer ones before their beginnings. -/
def operators : List String :=
  ["<<=", ">>=", "<<", ">>", "<=", ">=", "==", "!=", "&&", "||", "+=", "-=", "*=", "/=", "%=", "&=",
    "^=", "|=", "<", ">", "=", "!", "&", "|", "+", "-", "*", "/", "%", "^", "~", "(", ")", "?", ":"]

/-- The operator at the start of a text. -/
def operatorOf? (text : Octets) : Option String :=
  operators.find? fun operator => operator.toList.isPrefixOf text

/-- The tokens of an expression, of which at most the given number are read. -/
def tokens : (bound : Nat) → Octets → List Token
  | 0, _ => []
  | _ + 1, [] => []
  | bound + 1, c :: rest =>
    if c = ' ' || c = '\t' || c = '\n' then tokens bound rest
    else if c.isDigit then
      let (value, rest) := numberOf (c :: rest)
      .number (clamp value) :: tokens bound rest
    else if isNameStart c then
      .variable ((c :: rest).takeWhile isNamePart) ::
        tokens bound ((c :: rest).dropWhile isNamePart)
    else match operatorOf? (c :: rest) with
      | some operator => .operator operator :: tokens bound ((c :: rest).drop operator.length)
      | none => [.bad]

/-- **The number that a text writes**, blanks around it aside. -/
def valueOf? (text : Octets) : Option Int :=
  let negated (sign : Bool) (digits : Octets) : Option Int :=
    if digits.head?.any Char.isDigit then
      let (value, rest) := numberOf digits
      if (dropSpace rest).isEmpty then
        some (clamp (if sign then -(value : Int) else (value : Int)))
      else none
    else none
  match dropSpace text with
  | [] => some 0
  | '-' :: digits => negated true digits
  | '+' :: digits => negated false digits
  | digits => negated false digits

/-- What an expression finds and leaves. -/
structure Work where
  /-- The tokens that are left. -/
  rest : List Token
  /-- What was assigned, the latest first. -/
  assigned : List (Octets × Int)

/-- What evaluates a part of an expression. -/
abbrev Eval := StateT Work (Except Fault)

/-- The value of a variable. -/
abbrev Look := Octets → Except Fault Int

/-- The operator at the tokens that are left. -/
def peekOperator : Eval (Option String) := do
  match (← get).rest with
  | .operator operator :: _ => return some operator
  | _ => return none

/-- Pass over a token. -/
def dropToken : Eval Unit := modify fun work => { work with rest := work.rest.tail }

/-- How tightly an operator between two operands binds, the more the smaller. -/
def precedence? (operator : String) : Option Nat :=
  match operator with
  | "*" | "/" | "%" => some 0
  | "+" | "-" => some 1
  | "<<" | ">>" => some 2
  | "<" | "<=" | ">" | ">=" => some 3
  | "==" | "!=" => some 4
  | "&" => some 5
  | "^" => some 6
  | "|" => some 7
  | _ => none

/-- The number of a truth. -/
def ofBool (b : Bool) : Int := if b then 1 else 0

/-- The bits of a number. -/
def bits (n : Int) : BitVec 64 := BitVec.ofInt 64 n

/-- What an operator makes of two numbers. -/
def apply (operator : String) (a b : Int) : Except Fault Int :=
  match operator with
  | "*" => .ok (wrap (a * b))
  | "/" => if b = 0 then .error (.expression "division by zero") else .ok (wrap (Int.tdiv a b))
  | "%" => if b = 0 then .error (.expression "division by zero") else .ok (Int.tmod a b)
  | "+" => .ok (wrap (a + b))
  | "-" => .ok (wrap (a - b))
  | "<<" => .ok (bits a <<< (b % 64).toNat).toInt
  | ">>" => .ok ((bits a).sshiftRight (b % 64).toNat).toInt
  | "<" => .ok (ofBool (a < b))
  | "<=" => .ok (ofBool (a ≤ b))
  | ">" => .ok (ofBool (b < a))
  | ">=" => .ok (ofBool (b ≤ a))
  | "==" => .ok (ofBool (a = b))
  | "!=" => .ok (ofBool (a ≠ b))
  | "&" => .ok (bits a &&& bits b).toInt
  | "^" => .ok (bits a ^^^ bits b).toInt
  | "|" => .ok (bits a ||| bits b).toInt
  | _ => .ok b

/-- The operator of an assignment that works on the old value, or the empty text if it does not. -/
def assignment? (operator : String) : Option String :=
  if operator = "=" then some ""
  else if ["+=", "-=", "*=", "/=", "%=", "<<=", ">>=", "&=", "^=", "|="].contains operator then
    some (String.ofList operator.toList.dropLast)
  else none

/-- The value of a variable, where an assignment before counts. -/
def valueOf (look : Look) (name : Octets) : Eval Int := do
  match (← get).assigned.lookup name with
  | some value => return value
  | none => liftM (look name)

/-- What evaluates the parts of an expression. Where `idle`, nothing is looked up or assigned. -/
structure Parts where
  /-- An assignment, or a choice. -/
  whole : (idle : Bool) → Eval Int
  /-- A choice. -/
  choice : (idle : Bool) → Eval Int
  /-- An operand. -/
  operand : (idle : Bool) → Eval Int

/-- An operand, which may have signs before it. -/
def readOperand (parts : Parts) (look : Look) (idle : Bool) : Eval Int := do
  match (← get).rest with
  | .number value :: _ =>
    dropToken
    return value
  | .variable name :: _ =>
    dropToken
    if idle then return 0
    valueOf look name
  | .operator "(" :: _ =>
    dropToken
    let value ← parts.whole idle
    if (← peekOperator) ≠ some ")" then throw (.expression "expecting ')'")
    dropToken
    return value
  | .operator "+" :: _ =>
    dropToken
    parts.operand idle
  | .operator "-" :: _ =>
    dropToken
    return wrap (-(← parts.operand idle))
  | .operator "!" :: _ =>
    dropToken
    return ofBool ((← parts.operand idle) = 0)
  | .operator "~" :: _ =>
    dropToken
    return -(← parts.operand idle) - 1
  | _ => throw (.expression "expecting primary")

/-- What follows a number by operators that bind at most so loosely. -/
def readBinary (parts : Parts) (idle : Bool) : (bound : Nat) → (loosest : Nat) → Int → Eval Int
  | 0, _, value => return value
  | bound + 1, loosest, value => do
    match (← peekOperator).bind fun operator => (precedence? operator).map (operator, ·) with
    | none => return value
    | some (operator, precedence) =>
      if loosest < precedence then return value
      dropToken
      let right ← parts.operand idle
      let right ← match precedence with
        | 0 => pure right
        | tighter + 1 => readBinary parts idle bound tighter right
      let value ← if idle then pure right else liftM (apply operator value right)
      readBinary parts idle bound loosest value

/-- Operands with operators between them. -/
def readOperation (parts : Parts) (idle : Bool) : Eval Int := do
  let first ← parts.operand idle
  readBinary parts idle ((← get).rest.length + 1) 7 first

/-- Operations that all have to be true. -/
def readAnd (parts : Parts) : (bound : Nat) → (idle : Bool) → Eval Int
  | 0, _ => throw (.expression "expecting primary")
  | bound + 1, idle => do
    let first ← readOperation parts idle
    if (← peekOperator) ≠ some "&&" then return first
    dropToken
    let second ← readAnd parts bound (idle || first = 0)
    return ofBool (first ≠ 0 && second ≠ 0)

/-- Operations of which one has to be true. -/
def readOr (parts : Parts) : (bound : Nat) → (idle : Bool) → Eval Int
  | 0, _ => throw (.expression "expecting primary")
  | bound + 1, idle => do
    let first ← readAnd parts ((← get).rest.length + 1) idle
    if (← peekOperator) ≠ some "||" then return first
    dropToken
    let second ← readOr parts bound (idle || first ≠ 0)
    return ofBool (first ≠ 0 || second ≠ 0)

/-- A choice between two values. -/
def readChoice (parts : Parts) (idle : Bool) : Eval Int := do
  let condition ← readOr parts ((← get).rest.length + 1) idle
  if (← peekOperator) ≠ some "?" then return condition
  dropToken
  let yes ← parts.whole (idle || condition = 0)
  if (← peekOperator) ≠ some ":" then throw (.expression "expecting ':'")
  dropToken
  let no ← parts.choice (idle || condition ≠ 0)
  return if condition ≠ 0 then yes else no

/-- An assignment, or a choice. -/
def readWhole (parts : Parts) (look : Look) (idle : Bool) : Eval Int := do
  match (← get).rest with
  | .variable name :: .operator operator :: _ =>
    match assignment? operator with
    | none => parts.choice idle
    | some old =>
      dropToken
      dropToken
      let value ← parts.whole idle
      if idle then return value
      let value ← if old = "" then pure value else do liftM (apply old (← valueOf look name) value)
      modify fun work => { work with assigned := (name, value) :: work.assigned }
      return value
  | _ => parts.choice idle

/-- The parts of expressions that are nested at most the given number of levels deep. -/
def parts (look : Look) : (levels : Nat) → Parts
  | 0 =>
    let refused (_ : Bool) : Eval Int := throw (.expression "expecting primary")
    ⟨refused, refused, refused⟩
  | levels + 1 =>
    let inner := parts look levels
    { whole := readWhole inner look
      choice := readChoice inner
      operand := readOperand inner look }

/-- **The value of an expression**, and what it assigns, the latest first. -/
def evaluate (look : Look) (text : Octets) : Except Fault (Int × List (Octets × Int)) := do
  let tokens := tokens (text.length + 1) text
  let (value, work) ← ((parts look (3 * tokens.length + 3)).whole false).run ⟨tokens, []⟩
  if !work.rest.isEmpty then throw (.expression "expecting EOF")
  return (value, work.assigned)

end Arithmetic

end Shell

end ComponentScaffold
