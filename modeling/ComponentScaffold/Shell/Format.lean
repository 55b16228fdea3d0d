import ComponentScaffold.Shell.Arithmetic
import ComponentScaffold.Shell.Extended.Quoted

/-! # Formatted output

How scripts write text: with escapes for control characters and bytes, and with a format into which
arguments are put.

* **`Shell.unescape`** — what a text with escapes writes.
* **`Shell.Format.fill`** — what a format writes with its arguments. -/

namespace ComponentScaffold

namespace Shell

/-! ## Escapes -/

/-- The value of an octal digit. -/
def octalDigit? (c : Char) : Option Nat :=
  if '0' ≤ c && c ≤ '7' then some (c.toNat - '0'.toNat) else none

/-- The byte of a number. -/
def byteOf (n : Nat) : Char := Char.ofNat (n % 256)

/-- The byte that at most `most` digits to a base at the start of a text write, and how many they are. -/
def byteDigits (base most : Nat) (text : Octets) : Char × Nat :=
  let digits := (text.take most).takeWhile fun c => (Arithmetic.digitValue? c).any (· < base)
  (byteOf (digits.foldl (fun value c => base * value + (Arithmetic.digitValue? c).getD 0) 0),
    digits.length)

/-- The byte of a character after a backslash that writes one. -/
def escapedByte? (c : Char) : Option Char :=
  if c = 'n' then some '\n'
  else if c = 't' then some '\t'
  else if c = 'r' then some '\x0d'
  else if c = 'a' then some '\x07'
  else if c = 'b' then some '\x08'
  else if c = 'f' then some '\x0c'
  else if c = 'v' then some '\x0b'
  else if c = 'e' then some '\x1b'
  else if c = '\\' then some '\\'
  else none

/-- Which escapes there are. -/
structure Escapes where
  /-- Whether a zero before octal digits is not counted as one of them. -/
  zero : Bool
  /-- Whether octal digits need no zero before them. -/
  bare : Bool
  /-- Whether the digits to base sixteen behind `x` write a byte. -/
  hex : Bool
  /-- Whether `c` ends the output. -/
  stop : Bool
  /-- Whether a double quote can be escaped. -/
  quote : Bool
  /-- Whether characters are written by their numbers behind `u` and `U`, and numbers need digits. -/
  named : Bool
  /-- Whether characters are written by numbers of any number of digits, and `E` writes one as `e` does. -/
  loose : Bool

/-- The escapes in the arguments of the shell's utilities. -/
def Escapes.shellText : Escapes := ⟨true, true, false, true, false, false, false⟩

/-- The escapes in the formats of the shell. -/
def Escapes.shellFormat : Escapes := ⟨false, true, false, false, true, false, false⟩

/-- The escapes in the arguments of the program that writes lines. -/
def Escapes.lineText : Escapes := ⟨true, true, true, true, false, false, false⟩

/-- The escapes in the arguments of the program that writes by formats. -/
def Escapes.programText : Escapes := ⟨true, true, true, true, true, true, false⟩

/-- The escapes in the formats of that program. -/
def Escapes.programFormat : Escapes := ⟨false, true, true, true, true, true, false⟩

/-- The escapes in the lines of the extended dialect. -/
def Escapes.extendedLine : Escapes := ⟨true, false, true, true, false, false, true⟩

/-- The escapes in the arguments of formats of the extended dialect. -/
def Escapes.extendedText : Escapes := ⟨true, true, true, true, false, false, true⟩

/-- The escapes in the formats of the extended dialect. -/
def Escapes.extendedFormat : Escapes := ⟨false, true, true, false, true, false, true⟩

/-- Why nothing is written behind an escape. -/
inductive EscapeStop
  /-- It ends the output. -/
  | ended
  /-- It makes no sense. -/
  | wrong (message : Octets)
deriving DecidableEq, Repr

/-- What the digits of the number of a character write, where only ASCII can be written as it is. -/
def namedCharacter (c : Char) (digits : Octets) : Except EscapeStop Octets :=
  let n := digits.foldl (fun value digit => 16 * value + (Arithmetic.digitValue? digit).getD 0) 0
  let isPlain := n = 0x24 || n = 0x40 || n = 0x60
  if (n < 0xa0 && !isPlain) || (0xd800 ≤ n && n ≤ 0xdfff) then
    .error (.wrong (octets "invalid universal character name \\" ++ c :: digits))
  else if isPlain then .ok [Char.ofNat n]
  else .ok ('\\' :: c :: digits.map Char.toUpper)

/-- What an escape writes after its backslash, and how many characters of it there are. The text is not
empty. -/
def Escapes.read (escapes : Escapes) (c : Char) (rest : Octets) :
    Except EscapeStop (Octets × Nat) :=
  let lacksDigits : EscapeStop := .wrong (octets "missing hexadecimal number in escape")
  let hexDigits := rest.takeWhile fun c => (Arithmetic.digitValue? c).any (· < 16)
  if c = 'c' && escapes.stop then .error .ended
  else if c = '0' && escapes.zero then
    let (byte, count) := byteDigits 8 3 rest
    .ok ([byte], count + 1)
  else if (octalDigit? c).isSome && escapes.bare then
    let (byte, count) := byteDigits 8 3 (c :: rest)
    .ok ([byte], count)
  else if c = 'x' && escapes.hex && !hexDigits.isEmpty then
    let (byte, count) := byteDigits 16 2 rest
    .ok ([byte], count + 1)
  else if c = 'x' && escapes.named then .error lacksDigits
  else if (c = 'u' || c = 'U') && escapes.named then
    let count := if c = 'u' then 4 else 8
    if hexDigits.length < count then .error lacksDigits
    else (namedCharacter c (hexDigits.take count)).map fun text => (text, count + 1)
  else if escapes.loose && c = 'E' then .ok (['\x1b'], 1)
  else if escapes.loose && (c = 'u' || c = 'U') then
    match cutDigits? 16 (if c = 'u' then 4 else 8) rest with
    | some (n, behind) => .ok (writtenCharacter n, rest.length - behind.length + 1)
    | none => .ok (['\\', c], 1)
  else if escapes.loose && escapes.quote && (c = '\x27' || c = '?') then .ok ([c], 1)
  else if c = '"' && escapes.quote then .ok (['"'], 1)
  else match escapedByte? c with
    | some byte => .ok ([byte], 1)
    | none => .ok (['\\', c], 1)

/-- **What a text with escapes writes**, from a point on where the next `skipped` characters have been
taken already, and why the output stops after it if it does. -/
def unescape (escapes : Escapes) : (skipped : Nat) → Octets → Octets × Option EscapeStop
  | _, [] => ([], none)
  | skipped + 1, _ :: rest => unescape escapes skipped rest
  | 0, ['\\'] => (['\\'], none)
  | 0, '\\' :: c :: rest =>
    match escapes.read c rest with
    | .error stop => ([], some stop)
    | .ok (text, count) =>
      let (more, stop) := unescape escapes count (c :: rest)
      (text ++ more, stop)
  | 0, c :: rest =>
    let (more, stop) := unescape escapes 0 rest
    (c :: more, stop)

namespace Format

/-! ## Places -/

/-- How wide something is written. -/
inductive Extent
  /-- As wide as a number says. -/
  | fixed (n : Nat)
  /-- As wide as an argument says. -/
  | given
deriving DecidableEq, Repr

/-- A place in a format where an argument is put. -/
structure Place where
  /-- The marks before the width. -/
  flags : Octets
  /-- The least width. -/
  width : Extent
  /-- The number of digits or characters, if it is said. -/
  precision : Option Extent
  /-- The letter for what is put there. -/
  letter : Char
  /-- How a time is written there, between parentheses. -/
  detail : Option Octets
  /-- The text of the place. -/
  text : Octets
deriving DecidableEq, Repr

/-- A part of a format. -/
inductive Part
  /-- A text that stands for itself. -/
  | text (text : Octets)
  /-- A place for an argument. -/
  | place (place : Place)
  /-- A place without a letter. -/
  | unended (text : Octets)
  /-- The end of the output. -/
  | stop (reason : EscapeStop)
deriving DecidableEq, Repr

/-- The extent at the start of a text, and the rest. -/
def extentOf (text : Octets) : Extent × Octets :=
  match text with
  | '*' :: rest => (.given, rest)
  | _ =>
    let digits := text.takeWhile Char.isDigit
    (.fixed (digitsValue digits), text.drop digits.length)

/-- The place at the start of a text, behind its percent sign, and the rest. Letters for the size of a
number stand before the letter of the place, and say nothing. -/
def placeOf (sizes : Octets) (text : Octets) : Part × Octets :=
  let flags := text.takeWhile fun c => "#-+ 0".toList.contains c
  let (width, rest) := extentOf (text.drop flags.length)
  let (precision, rest) : Option Extent × Octets :=
    match rest with
    | '.' :: rest =>
      let (extent, rest) := extentOf rest
      (some extent, rest)
    | _ => (none, rest)
  let rest := rest.dropWhile fun c => c ≠ '(' && sizes.contains c
  let written (rest : Octets) : Octets := '%' :: text.take (text.length - rest.length)
  let (detail, rest) : Option Octets × Octets :=
    match rest with
    | '(' :: behind =>
      let detail := behind.takeWhile (· ≠ ')')
      let rest' := behind.drop (detail.length + 1)
      if sizes.contains '(' && rest'.head? = some 'T' then (some detail, rest') else (none, rest)
    | _ => (none, rest)
  match rest with
  | [] => (.unended (written []), [])
  | letter :: rest => (.place ⟨flags, width, precision, letter, detail, written rest⟩, rest)

/-- The parts of a format, of which at most the given number are read. -/
def parts (escapes : Escapes) (sizes : Octets) : (bound : Nat) → Octets → List Part
  | 0, _ => []
  | _ + 1, [] => []
  | _ + 1, ['\\'] => [.text ['\\']]
  | bound + 1, '\\' :: c :: rest =>
    match escapes.read c rest with
    | .error stop => [.stop stop]
    | .ok (text, count) => .text text :: parts escapes sizes bound ((c :: rest).drop count)
  | bound + 1, '%' :: '%' :: rest => .text ['%'] :: parts escapes sizes bound rest
  | bound + 1, '%' :: rest =>
    let (part, rest) := placeOf sizes rest
    part :: parts escapes sizes bound rest
  | bound + 1, c :: rest => .text [c] :: parts escapes sizes bound rest

/-! ## Padding -/

/-- A place with its extents known. -/
structure Shape where
  /-- The least width. -/
  width : Nat
  /-- Whether the text is to the left. -/
  left : Bool
  /-- Whether zeros fill the width of a number. -/
  zeros : Bool
  /-- Whether a number that is not negative has a sign. -/
  plus : Bool
  /-- Whether a number that is not negative has a blank for a sign. -/
  blank : Bool
  /-- Whether the base of a number is shown. -/
  base : Bool
  /-- The number of digits or characters, if it is said. -/
  precision : Option Nat

/-- A text in its width. -/
def pad (shape : Shape) (text : Octets) : Octets :=
  let gap := List.replicate (shape.width - text.length) ' '
  if shape.left then text ++ gap else gap ++ text

/-- A number in its width, after what stands before its digits. -/
def padNumber (shape : Shape) (zeros : Bool) (head digits : Octets) : Octets :=
  if zeros && !shape.left then
    head ++ List.replicate (shape.width - head.length - digits.length) '0' ++ digits
  else pad shape (head ++ digits)

/-- The digits of a number, at least as many as asked for. -/
def withPrecision (precision : Option Nat) (digits : Octets) : Octets :=
  match precision with
  | none => digits
  | some 0 => if digits = ['0'] then [] else digits
  | some least => List.replicate (least - digits.length) '0' ++ digits

/-- The sign of a number. -/
def signOf (shape : Shape) (negative : Bool) : Octets :=
  if negative then ['-'] else if shape.plus then ['+'] else if shape.blank then [' '] else []

/-- A number with a sign. -/
def signed (shape : Shape) (n : Int) : Octets :=
  padNumber shape (shape.zeros && shape.precision.isNone) (signOf shape (n < 0))
    (withPrecision shape.precision (natText n.natAbs))

/-- A text in capital letters. -/
def capital (text : Octets) : Octets := text.map Char.toUpper

/-- A number without a sign, to a base that its letter tells. -/
def unsigned (shape : Shape) (letter : Char) (n : Nat) : Octets :=
  let zeros := shape.zeros && shape.precision.isNone
  match letter with
  | 'o' =>
    let digits := withPrecision shape.precision (Nat.toDigits 8 n)
    let digits := if shape.base && digits.head? != some '0' then '0' :: digits else digits
    padNumber shape zeros [] digits
  | 'x' =>
    padNumber shape zeros (if shape.base && n ≠ 0 then ['0', 'x'] else [])
      (withPrecision shape.precision (Nat.toDigits 16 n))
  | 'X' =>
    padNumber shape zeros (if shape.base && n ≠ 0 then ['0', 'X'] else [])
      (capital (withPrecision shape.precision (Nat.toDigits 16 n)))
  | _ => padNumber shape zeros [] (withPrecision shape.precision (natText n))

/-! ## Decimal fractions -/

/-- A decimal fraction: a sign, and a whole number over a power of ten. -/
structure Decimal where
  /-- Whether it is negative. -/
  negative : Bool
  /-- The whole number. -/
  digits : Nat
  /-- The power of ten. -/
  scale : Int

/-- The fraction of 64 bits that is nearest to a fraction, written out in full. -/
def Decimal.nearest (value : Decimal) : Decimal :=
  let double := Float.ofScientific value.digits (value.scale > 0) value.scale.natAbs
  let bits := double.toBits.toNat
  let exponent := bits / Nat.pow 2 52 % Nat.pow 2 11
  let mantissa := bits % Nat.pow 2 52 + (if exponent = 0 then 0 else Nat.pow 2 52)
  let power : Int := (max exponent 1 : Nat) - 1075
  if power < 0 then ⟨value.negative, mantissa * Nat.pow 5 power.natAbs, power.natAbs⟩
  else ⟨value.negative, mantissa * Nat.pow 2 power.natAbs, 0⟩

/-- A quotient rounded to a whole number, a half to the even neighbour. -/
def roundDiv (a b : Nat) : Nat :=
  let q := a / b
  let r := a % b
  if 2 * r > b || (2 * r == b && q % 2 == 1) then q + 1 else q

/-- A quotient rounded to so many bits: a whole number, and the power of two it is multiplied with. -/
def roundBits (bits a b : Nat) : Nat × Int :=
  let round (power : Int) : Nat :=
    if power < 0 then roundDiv (a * Nat.pow 2 power.natAbs) b else roundDiv a (b * Nat.pow 2 power.natAbs)
  let guess : Int := (Nat.log2 a : Int) - Nat.log2 b - bits
  let power := if round guess < Nat.pow 2 bits then guess
    else if round (guess + 1) < Nat.pow 2 bits then guess + 1 else guess + 2
  (round power, power)

/-- The fraction of 80 bits that is nearest to a fraction, written out in full. -/
def Decimal.nearestWide (value : Decimal) : Decimal :=
  if value.digits = 0 then value else
    let (mantissa, power) :=
      if value.scale > 0 then roundBits 64 value.digits (Nat.pow 10 value.scale.natAbs)
      else roundBits 64 (value.digits * Nat.pow 10 value.scale.natAbs) 1
    if power < 0 then ⟨value.negative, mantissa * Nat.pow 5 power.natAbs, power.natAbs⟩
    else ⟨value.negative, mantissa * Nat.pow 2 power.natAbs, 0⟩

/-- The digits of a fraction with a number of places behind its point. -/
def fixedDigits (value : Decimal) (places : Nat) : Octets :=
  let scaled : Nat :=
    if value.scale ≤ 0 then value.digits * Nat.pow 10 (places + value.scale.natAbs)
    else roundDiv (value.digits * Nat.pow 10 places) (Nat.pow 10 value.scale.natAbs)
  let digits := natText scaled
  let digits := List.replicate (places + 1 - digits.length) '0' ++ digits
  let whole := digits.take (digits.length - places)
  if places = 0 then whole else whole ++ '.' :: digits.drop (digits.length - places)

/-- The first digits of a fraction, rounded, and the power of ten of the first one. -/
def leadingDigits (value : Decimal) (count : Nat) : Octets × Int :=
  if value.digits = 0 then (List.replicate count '0', 0) else
    let all := natText value.digits
    let exponent : Int := (all.length : Int) - 1 - value.scale
    let rounded := if all.length ≤ count then value.digits * Nat.pow 10 (count - all.length)
      else roundDiv value.digits (Nat.pow 10 (all.length - count))
    let digits := natText rounded
    if digits.length > count then (digits.take count, exponent + 1) else (digits, exponent)

/-- An exponent as it is written. -/
def exponentText (exponent : Int) : Octets :=
  let digits := natText exponent.natAbs
  'e' :: (if exponent < 0 then '-' else '+') :: List.replicate (2 - digits.length) '0' ++ digits

/-- The digits of a fraction with a power of ten. -/
def scientificDigits (value : Decimal) (places : Nat) : Octets :=
  let (digits, exponent) := leadingDigits value (places + 1)
  digits.take 1 ++ (if places = 0 then [] else '.' :: digits.drop 1) ++ exponentText exponent

/-- Digits without the zeros at the end of their places. -/
def dropZeros (digits : Octets) : Octets :=
  if digits.contains '.' then
    let kept := (digits.reverse.dropWhile (· = '0')).reverse
    if kept.getLast? = some '.' then kept.dropLast else kept
  else digits

/-- The digits of a fraction in the shorter form. -/
def generalDigits (value : Decimal) (precision : Nat) : Octets :=
  let count := max precision 1
  let (digits, exponent) := leadingDigits value count
  if exponent < -4 || (count : Int) ≤ exponent then
    dropZeros (digits.take 1 ++ '.' :: digits.drop 1) ++ exponentText exponent
  else dropZeros (fixedDigits value ((count : Int) - 1 - exponent).toNat)

/-- A fraction as its letter tells. -/
def fraction (shape : Shape) (letter : Char) (value : Decimal) : Octets :=
  let precision := shape.precision.getD 6
  let digits := match letter.toLower with
    | 'f' => fixedDigits value precision
    | 'e' => scientificDigits value precision
    | _ => generalDigits value precision
  let digits := if letter.isUpper then capital digits else digits
  padNumber shape shape.zeros (signOf shape value.negative) digits

/-- The fraction at the start of a text, and the rest. -/
def fractionOf (text : Octets) : Decimal × Octets :=
  let start := dropSpace text
  let (negative, unsigned) : Bool × Octets :=
    match start with
    | '-' :: rest => (true, rest)
    | '+' :: rest => (false, rest)
    | _ => (false, start)
  let whole := unsigned.takeWhile Char.isDigit
  let behind := unsigned.drop whole.length
  let (places, rest) : Octets × Octets :=
    match behind with
    | '.' :: rest => (rest.takeWhile Char.isDigit, rest.dropWhile Char.isDigit)
    | _ => ([], behind)
  if whole.isEmpty && places.isEmpty then (⟨false, 0, 0⟩, text) else
    let plain : Decimal := ⟨negative, digitsValue (whole ++ places), places.length⟩
    match rest with
    | e :: exponent =>
      let (sign, digits) : Int × Octets :=
        match exponent with
        | '-' :: digits => (-1, digits)
        | '+' :: digits => (1, digits)
        | digits => (1, digits)
      let power := digits.takeWhile Char.isDigit
      if (e = 'e' || e = 'E') && !power.isEmpty then
        (⟨negative, plain.digits, plain.scale - sign * (digitsValue power : Nat)⟩,
          digits.drop power.length)
      else (plain, rest)
    | [] => (plain, [])

/-! ## Arguments -/

/-- How a utility words what is wrong with its arguments. -/
structure Wording where
  /-- The escapes of formats. -/
  format : Escapes
  /-- The escapes of arguments. -/
  argument : Escapes
  /-- An argument that is no number. -/
  notNumber : Octets → Octets
  /-- An argument that goes on behind a number. -/
  notWhole : Octets → Octets
  /-- A number that is too great. -/
  outOfRange : Octets → Octets
  /-- A place with an unknown letter. -/
  unknownPlace : Octets → Octets
  /-- A place without a letter. -/
  unendedPlace : Octets → Octets
  /-- What is quoted for the letter `q`, if that is known. -/
  quote? : Option (Octets → Octets)
  /-- The letters for the size of a number. -/
  sizes : Octets
  /-- What stands behind the character whose number is asked for, if that is told. -/
  following? : Option (Octets → Octets)
  /-- Whether a number that is too great is told, but does not count as wrong. -/
  forgives : Bool
  /-- Whether fractions have 80 bits. -/
  wide : Bool
  /-- A time in seconds as a text says, if that is known. -/
  time : Octets → Option Int → Octets

/-- What has been written so far. -/
structure Work where
  /-- The arguments that are left. -/
  arguments : List Octets
  /-- What was written. -/
  text : Octets
  /-- The complaints, in order. -/
  complaints : List Octets
  /-- Whether the output is at its end. -/
  isOver : Bool
  /-- Whether an argument was wrong. -/
  isWrong : Bool
  /-- Whether the format was wrong. -/
  isRefused : Bool

/-- Take an argument. -/
def takeArgument : StateM Work Octets := do
  let work ← get
  set { work with arguments := work.arguments.tail }
  return work.arguments.headD []

/-- Note a complaint about an argument. -/
def note (complaint : Octets) : StateM Work Unit :=
  modify fun work => { work with complaints := work.complaints ++ [complaint], isWrong := true }

/-- The whole number that an argument writes. Behind a quote it is that of a character. -/
def takeInteger (wording : Wording) (least greatest : Int) : StateM Work Int := do
  let argument ← takeArgument
  match argument with
  | [] => return 0
  | quote :: rest =>
    if (quote = '"' || quote = '\x27') && !(rest.isEmpty && wording.following?.isSome) then
      if rest.length > 1 then
        if let some following := wording.following? then
          modify fun work => { work with complaints := work.complaints ++ [following rest.tail] }
      return ((rest.headD '\x00').toNat : Int)
    let start := dropSpace argument
    let (negative, digits) : Bool × Octets :=
      match start with
      | '-' :: digits => (true, digits)
      | '+' :: digits => (false, digits)
      | _ => (false, start)
    if !digits.head?.any Char.isDigit then
      note (wording.notNumber argument)
      return 0
    let (value, rest) := Arithmetic.numberOf digits
    let value : Int := if negative then -(value : Int) else (value : Int)
    if !rest.isEmpty then note (wording.notWhole argument)
    else if value < least || greatest < value then
      if wording.forgives then
        modify fun work => { work with complaints := work.complaints ++ [wording.outOfRange argument] }
      else note (wording.outOfRange argument)
    return max least (min greatest value)

/-- The fraction that an argument writes. -/
def takeFraction (wording : Wording) : StateM Work Decimal := do
  let argument ← takeArgument
  let (value, rest) := fractionOf argument
  if !rest.isEmpty then
    note (if rest.length = argument.length then wording.notNumber argument
      else wording.notWhole argument)
  return if wording.wide then value.nearestWide else value.nearest

/-- The extent that is said or given. -/
def takeExtent (wording : Wording) : Extent → StateM Work Int
  | .fixed n => return n
  | .given => takeInteger wording (-(Int.pow 2 31)) (Int.pow 2 31 - 1)

/-- Write a text. -/
def put (text : Octets) : StateM Work Unit := modify fun work => { work with text := work.text ++ text }

/-- Give up on the format. -/
def refuse (complaint : Octets) : StateM Work Unit :=
  modify fun work =>
    { work with complaints := work.complaints ++ [complaint], isRefused := true, isOver := true }

/-- Stop writing. -/
def stop (reason : EscapeStop) : StateM Work Unit :=
  match reason with
  | .ended => modify fun work => { work with isOver := true }
  | .wrong message => refuse message

/-- The shape of a place. -/
def shapeOf (wording : Wording) (place : Place) : StateM Work Shape := do
  let width ← takeExtent wording place.width
  let precision ← match place.precision with
    | none => pure none
    | some extent =>
      let n ← takeExtent wording extent
      pure (if n < 0 then none else some n.toNat)
  let has (flag : Char) : Bool := place.flags.contains flag
  return { width := width.natAbs, left := has '-' || width < 0, zeros := has '0', plus := has '+',
           blank := has ' ', base := has '#', precision := precision }

/-- Write an argument at a place. -/
def putPlace (wording : Wording) (place : Place) : StateM Work Unit := do
  let cut (shape : Shape) (text : Octets) : Octets := pad shape (match shape.precision with
    | some most => text.take most
    | none => text)
  if let some detail := place.detail then
    let shape ← shapeOf wording place
    let isThere := !(← get).arguments.isEmpty
    let seconds ← takeInteger wording (-(Int.pow 2 63)) (Int.pow 2 63 - 1)
    put (cut shape (wording.time detail (if isThere then some seconds else none)))
  else if "diouxXfFeEgGscb".toList.contains place.letter ||
      ((place.letter = 'q' || (place.letter = 'Q' && wording.forgives)) && wording.quote?.isSome) then
    let shape ← shapeOf wording place
    match place.letter with
    | 's' => put (cut shape (← takeArgument))
    | 'c' =>
      let argument ← takeArgument
      put (pad shape (if argument.isEmpty then ['\x00'] else argument.take 1))
    | 'b' =>
      let (text, reason) := unescape wording.argument 0 (← takeArgument)
      put (cut shape text)
      if let some reason := reason then stop reason
    | 'd' | 'i' =>
      put (signed shape (← takeInteger wording (-(Int.pow 2 63)) (Int.pow 2 63 - 1)))
    | 'o' | 'u' | 'x' | 'X' =>
      let n ← takeInteger wording (-(Int.pow 2 64) + 1) (Int.pow 2 64 - 1)
      put (unsigned shape place.letter (n % Int.pow 2 64).toNat)
    | 'q' => put (pad shape ((wording.quote?.getD id) (← takeArgument)))
    | 'Q' =>
      let argument ← takeArgument
      let argument := match shape.precision with
        | some most => argument.take most
        | none => argument
      put (pad shape ((wording.quote?.getD id) argument))
    | letter => put (fraction shape letter (← takeFraction wording))
  else refuse (wording.unknownPlace place.text)

/-- Write a part of a format. -/
def putPart (wording : Wording) (part : Part) : StateM Work Unit := do
  if (← get).isOver then return ()
  match part with
  | .text text => put text
  | .place place => putPlace wording place
  | .unended text => refuse (wording.unendedPlace text)
  | .stop reason => stop reason

/-- Write a format as long as there are arguments, at most `rounds` times. -/
def fillRounds (wording : Wording) (parts : List Part) : (rounds : Nat) → StateM Work Unit
  | 0 => return ()
  | rounds + 1 => do
    let before := (← get).arguments.length
    parts.forM (putPart wording)
    let work ← get
    if !work.isOver && !work.arguments.isEmpty && work.arguments.length < before then
      fillRounds wording parts rounds

/-- **What a format writes with its arguments.** It is gone through once, and again while arguments are
left. -/
def fill (wording : Wording) (format : Octets) (arguments : List Octets) : Work :=
  let parts := parts wording.format wording.sizes (format.length + 1) format
  ((fillRounds wording parts (arguments.length + 1)).run ⟨arguments, [], [], false, false, false⟩).2

/-- The wording of the shell. -/
def shellWording : Wording where
  format := .shellFormat
  argument := .shellText
  notNumber text := text ++ octets ": expected numeric value"
  notWhole text := text ++ octets ": not completely converted"
  outOfRange text := text ++ octets ": Numerical result out of range"
  unknownPlace text := text ++ octets ": invalid directive"
  unendedPlace _ := octets "missing format character"
  quote? := none
  sizes := []
  following? := none
  forgives := false
  wide := false
  time _ _ := []

end Format

end Shell

end ComponentScaffold
