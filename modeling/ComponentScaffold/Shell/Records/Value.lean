import ComponentScaffold.Shell.Format

/-! # Values of scripts over records

A value is a number or a text; what is read is both if it looks like a number. Numbers are fractions of 64 bits.

* **`Records.Value`** — a value.
* **`Value.number`**, **`Value.text`** — a value as a number and as a text.
* **`Value.compare`** — how two values are ordered. -/

namespace ComponentScaffold

namespace Shell

namespace Records

/-- **A value.** -/
inductive Value
  /-- What nothing was assigned to. -/
  | none
  /-- A number. -/
  | number (n : Float)
  /-- A text. -/
  | text (text : Octets)
  /-- A text that was read and looks like a number. -/
  | both (n : Float) (text : Octets)

/-! ## Numbers in texts -/

/-- Whether a number is no number. -/
def isUnknown (n : Float) : Bool := n != n

/-- The number without end, or its negative. -/
def endless (negative : Bool) : Float := if negative then -1.0 / 0.0 else 1.0 / 0.0

/-- The number of a decimal fraction. -/
def floatOf (value : Format.Decimal) : Float :=
  let n := Float.ofScientific value.digits (value.scale > 0) value.scale.natAbs
  if value.negative then -n else n

/-- The words that write numbers, and these. -/
def numberWords : List (Octets × Float) :=
  [(octets "infinity", endless false), (octets "inf", endless false), (octets "nan", 0.0 / 0.0)]

/-- The number at the start of a text without blanks before it, and the rest, if there is one. -/
def leadingNumber? (text : Octets) : Option (Float × Octets) :=
  let (negative, digits) : Bool × Octets := match text with
    | '-' :: rest => (true, rest)
    | '+' :: rest => (false, rest)
    | rest => (false, rest)
  let signed (n : Float) : Float := if negative then -n else n
  let hex : Option (Float × Octets) := match digits with
    | '0' :: x :: rest =>
      let inside := rest.takeWhile fun c => (Arithmetic.digitValue? c).any (· < 16)
      if (x = 'x' || x = 'X') && !inside.isEmpty then
        let n := inside.foldl (fun n c => 16 * n + (Arithmetic.digitValue? c).getD 0) 0
        some (signed (Float.ofNat n), rest.drop inside.length)
      else Option.none
    | _ => Option.none
  let lower := digits.map Char.toLower
  hex.orElse fun _ =>
    match numberWords.find? fun word => word.1.isPrefixOf lower with
    | some (word, n) => some (signed n, digits.drop word.length)
    | Option.none =>
      let (value, rest) := Format.fractionOf text
      if rest.length = text.length then Option.none else some (floatOf value, rest)

/-- The number that a text begins with, zero if it begins with none. -/
def numberIn (text : Octets) : Float :=
  match leadingNumber? (dropSpace text) with
  | some (n, _) => n
  | Option.none => 0.0

/-- What is read, which is also a number if it looks like one. -/
def valueRead (text : Octets) : Value :=
  match leadingNumber? (dropSpace text) with
  | some (n, rest) => if (dropSpace rest).isEmpty then .both n text else .text text
  | Option.none => .text text

/-! ## Texts of numbers -/

/-- The fraction of ten that a finite number is. -/
def decimalOf (n : Float) : Format.Decimal :=
  let bits := n.toBits.toNat
  let exponent := bits / Nat.pow 2 52 % Nat.pow 2 11
  let mantissa := bits % Nat.pow 2 52 + (if exponent = 0 then 0 else Nat.pow 2 52)
  let power : Int := (max exponent 1 : Nat) - 1075
  let negative := bits / Nat.pow 2 63 = 1
  if power < 0 then ⟨negative, mantissa * Nat.pow 5 power.natAbs, power.natAbs⟩
  else ⟨negative, mantissa * Nat.pow 2 power.natAbs, 0⟩

/-- The whole number next to zero from a finite one. -/
def wholePart (n : Float) : Int :=
  let value := decimalOf n
  let whole : Nat := if value.scale ≤ 0 then value.digits * Nat.pow 10 value.scale.natAbs
    else value.digits / Nat.pow 10 value.scale.natAbs
  if value.negative then -(whole : Int) else (whole : Int)

/-- Whether a number is neither unknown nor without end. -/
def isFinite (n : Float) : Bool := n - n == 0.0

/-- How a number that is not finite is written. -/
def specialText (n : Float) : Octets :=
  octets (if isUnknown n then "-nan" else if n < 0.0 then "-inf" else "inf")

/-- Whether a finite number is whole. -/
def isWhole (n : Float) : Bool := isFinite n && n.floor == n

/-- The greatest whole number that is written with all its digits. -/
def maxWhole : Nat := Nat.pow 2 64 - 1

/-- The whole number of 64 bits that is next to a number. -/
def clampedWhole (n : Float) : Int :=
  if isUnknown n then -(Int.pow 2 63)
  else if n ≥ 9223372036854775808.0 then Int.pow 2 63 - 1
  else if n ≤ -9223372036854775808.0 then -(Int.pow 2 63)
  else wholePart n

namespace Value

/-- The text of a number, whose digits are written by a way to write fractions if it is not whole. -/
def numberText (write : Float → Octets) (n : Float) : Octets :=
  if !isFinite n then specialText n
  else if isWhole n && -9223372036854775808.0 ≤ n && n ≤ 18446744073709551616.0 then
    intText (min (wholePart n) maxWhole)
  else write n

/-- **A value as a number.** -/
def toNumber : Value → Float
  | .none => 0.0
  | .number n => n
  | .text held => numberIn held
  | .both n _ => n

/-- **A value as a text**, where a way to write fractions is given. -/
def toText (write : Float → Octets) : Value → Octets
  | .none => []
  | .number n => numberText write n
  | .text held => held
  | .both _ held => held

/-- Whether a value counts as true. -/
def holds : Value → Bool
  | .none => false
  | .number n => n != 0.0
  | .text held => !held.isEmpty
  | .both n _ => n != 0.0

/-- The value of an answer. -/
def ofBool (answer : Bool) : Value := .number (if answer then 1.0 else 0.0)

/-- Whether a value is a text and no number. -/
def isText : Value → Bool
  | .text _ => true
  | _ => false

/-- **How two values are ordered**: as numbers unless one of them is only a text. An unknown number is ordered
with nothing. -/
def compare (write : Float → Octets) (a b : Value) : Option Ordering :=
  if a.isText || b.isText then
    let (a, b) := (a.toText write, b.toText write)
    some (if a = b then .eq else if a < b then .lt else .gt)
  else
    let (a, b) := (a.toNumber, b.toNumber)
    if a < b then some .lt else if a > b then some .gt else if a == b then some .eq else Option.none

end Value

end Records

end Shell

end ComponentScaffold
