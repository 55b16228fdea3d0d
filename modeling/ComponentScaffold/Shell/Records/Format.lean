import ComponentScaffold.Shell.Records.Value

/-! # Values in formats

* **`Records.format`** — the text that a format makes of values, and what is wrong with it.
* **`Records.fractionText`** — a fraction in a format. -/

namespace ComponentScaffold

namespace Shell

namespace Records

/-- Why a format cannot be filled. -/
inductive FormatFault
  /-- There are fewer values than places. -/
  | noValue
  /-- The place of a number, from one on, is none. -/
  | badPlace (number : Nat)
deriving DecidableEq, Repr

/-- The wording of a format fault, which the function of a name found in a format. -/
def FormatFault.message (function : String) (format : Octets) : FormatFault → Octets
  | .noValue => octets s!"not enough arguments passed to {function}(\"" ++ format ++ octets "\")"
  | .badPlace number =>
    octets s!"improper conversion(number {number}) in {function}(\"" ++ format ++ octets "\")"

/-- What is left of the values, and how many places were filled. -/
structure Filling where
  /-- The values that are left. -/
  values : List Value
  /-- How many places were found. -/
  count : Nat
  /-- What has been made, the last first. -/
  made : List Octets

/-- What fills a format. -/
abbrev Fill := ExceptT FormatFault (StateM Filling)

/-- Add a text to what has been made. -/
def make (text : Octets) : Fill Unit := modify fun filling => { filling with made := text :: filling.made }

/-- The next value. -/
def nextValue : Fill Value := do
  match (← get).values with
  | [] => throw .noValue
  | value :: rest =>
    modify fun filling => { filling with values := rest }
    return value

/-- The extent that is told, or the next value. -/
def extentOf : Shell.Format.Extent → Fill Int
  | .fixed n => return (n : Int)
  | .given => return clampedWhole (← nextValue).toNumber

/-- The shape of a place. -/
def shapeOf (place : Shell.Format.Place) : Fill Shell.Format.Shape := do
  let width ← extentOf place.width
  let precision ← match place.precision with
    | none => pure none
    | some extent =>
      let n ← extentOf extent
      pure (if n < 0 then none else some n.toNat)
  let has (flag : Char) : Bool := place.flags.contains flag
  return { width := width.natAbs, left := has '-' || width < 0, zeros := has '0', plus := has '+',
           blank := has ' ', base := has '#', precision := precision }

/-- The number without a sign that a value stands for. -/
def unsignedOf (n : Float) : Nat :=
  if n ≥ 18446744073709551616.0 then maxWhole
  else if n ≥ 9223372036854775808.0 then (wholePart n).toNat
  else ((clampedWhole n) % Int.pow 2 64).toNat

/-- A fraction at a place. -/
def fractionAt (shape : Shell.Format.Shape) (letter : Char) (n : Float) : Octets :=
  if isFinite n then Shell.Format.fraction shape letter (decimalOf n)
  else
    let text := if !isUnknown n && n > 0.0 then
      Shell.Format.signOf shape false ++ specialText n else specialText n
    Shell.Format.pad shape (if letter.isUpper then Shell.Format.capital text else text)

/-- The first byte of a value, or the byte of its number. -/
def byteAt (write : Float → Octets) (value : Value) : Char :=
  match value with
  | .number n => byteOf ((clampedWhole n) % 256).toNat
  | value => (value.toText write).headD '\x00'

/-- A place with its value. -/
def fillPlace (write : Float → Octets) (place : Shell.Format.Place) : Fill Octets := do
  modify fun filling => { filling with count := filling.count + 1 }
  if !"diouxXcseEfFgG".toList.contains place.letter then
    if (← get).values.isEmpty then throw .noValue
    throw (.badPlace (← get).count)
  let shape ← shapeOf place
  let value ← nextValue
  match place.letter with
  | 'd' | 'i' => return Shell.Format.signed shape (clampedWhole value.toNumber)
  | 'o' | 'u' | 'x' | 'X' => return Shell.Format.unsigned shape place.letter (unsignedOf value.toNumber)
  | 'c' => return Shell.Format.pad shape [byteAt write value]
  | 's' =>
    let text := value.toText write
    return Shell.Format.pad shape (match shape.precision with
      | some most => text.take most
      | none => text)
  | letter => return fractionAt shape letter value.toNumber

/-- Fill a format, of which at most so many characters are read. -/
def fillWithin (write : Float → Octets) : (bound : Nat) → Octets → Fill Unit
  | 0, _ => return ()
  | _ + 1, [] => return ()
  | bound + 1, '%' :: '%' :: rest => do
    make ['%']
    fillWithin write bound rest
  | bound + 1, '%' :: rest => do
    match Shell.Format.placeOf (octets "hlLqjzt") rest with
    | (.place place, behind) =>
      make (← fillPlace write place)
      fillWithin write bound behind
    | _ => throw (.badPlace ((← get).count + 1))
  | bound + 1, c :: rest => do
    make [c]
    fillWithin write bound rest

/-- **The text that a format makes of values**, where a way to write fractions is given, as far as it can be made, and
what is wrong if it cannot. -/
def format (write : Float → Octets) (text : Octets) (values : List Value) : Octets × Option FormatFault :=
  let (result, filling) := (fillWithin write (text.length + 1) text).run.run ⟨values, 0, []⟩
  (filling.made.reverse.flatten,
    match result with
    | .ok () => none
    | .error fault => some fault)

/-- **A fraction in a format.** -/
def fractionText (text : Octets) (n : Float) : Octets :=
  (format (fun _ => []) text [.number n]).1

end Records

end Shell

end ComponentScaffold
