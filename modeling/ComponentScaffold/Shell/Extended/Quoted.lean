import ComponentScaffold.Shell.Octets

/-! # Texts in quotes

How a text is written so that a shell of the extended dialect reads it again.

* **`Shell.escapedText`** — what is read behind a dollar sign.
* **`Shell.Quoted.single`** — between single quotes, or behind a dollar sign where that is not enough.
* **`Shell.Quoted.escaped`** — with backslashes where they are needed.
* **`Shell.Quoted.double`** — between double quotes. -/

namespace ComponentScaffold

namespace Shell

/-! ## Escapes

A backslash and what stands behind it write a character that is hard to write otherwise.

* **`Shell.escapedText`** — the text that escapes write between quotes behind a dollar sign. -/

/-- The value of a digit to base sixteen. -/
def hexValue? (c : Char) : Option Nat :=
  if c.isDigit then some (c.toNat - '0'.toNat)
  else if 'a' ≤ c && c ≤ 'f' then some (c.toNat - 'a'.toNat + 10)
  else if 'A' ≤ c && c ≤ 'F' then some (c.toNat - 'A'.toNat + 10)
  else none

/-- The number that at most so many digits to a base at the start of a text write, if there are such, and the rest. -/
def cutDigits? (base most : Nat) (text : Octets) : Option (Nat × Octets) :=
  let digits := (text.take most).takeWhile fun c => (hexValue? c).any (· < base)
  if digits.isEmpty then none
  else some (digits.foldl (fun value c => base * value + (hexValue? c).getD 0) 0, text.drop digits.length)

/-- The characters that letters behind a backslash stand for. -/
def letterEscapes : List (Char × Char) :=
  [('a', '\x07'), ('b', '\x08'), ('e', '\x1b'), ('E', '\x1b'), ('f', '\x0c'), ('n', '\n'), ('r', '\r'), ('t', '\t'),
    ('v', '\x0b'), ('\\', '\\'), ('\x27', '\x27'), ('"', '"'), ('?', '?')]

/-- The character of a number if it is one of ASCII, or else its number. -/
def writtenCharacter (n : Nat) : Octets :=
  let digits := (Nat.toDigits 16 n).map Char.toUpper
  let toWidth (width : Nat) : Octets := List.replicate (width - digits.length) '0' ++ digits
  if n < 128 then [Char.ofNat n]
  else if n < Nat.pow 2 16 then '\\' :: 'u' :: toWidth 4
  else '\\' :: 'U' :: toWidth 8

/-- What stands for a text behind a backslash, and the rest. -/
def escapeAt (text : Octets) : Octets × Octets :=
  match text with
  | [] => (['\\'], [])
  | c :: rest =>
    match letterEscapes.lookup c with
    | some found => ([found], rest)
    | none =>
      let digits? : Option (Octets × Octets) := match c with
        | 'x' => (cutDigits? 16 2 rest).map fun (n, rest) => ([octet (UInt8.ofNat n)], rest)
        | 'u' => (cutDigits? 16 4 rest).map fun (n, rest) => (writtenCharacter n, rest)
        | 'U' => (cutDigits? 16 8 rest).map fun (n, rest) => (writtenCharacter n, rest)
        | 'c' => match rest with
          | letter :: rest => some ([octet (UInt8.ofNat (letter.toNat % 32))], rest)
          | [] => none
        | _ => (cutDigits? 8 3 text).map fun (n, rest) => ([octet (UInt8.ofNat n)], rest)
      digits?.getD (['\\', c], rest)

/-- The text that escapes write, of which at most so many characters are read. -/
def escapedWithin : (bound : Nat) → Octets → Octets
  | 0, _ => []
  | _ + 1, [] => []
  | bound + 1, '\\' :: rest =>
    let (found, rest) := escapeAt rest
    found ++ escapedWithin bound rest
  | bound + 1, c :: rest => c :: escapedWithin bound rest

/-- **The text that escapes write** between quotes behind a dollar sign. It ends before a byte that is zero. -/
def escapedText (text : Octets) : Octets :=
  (escapedWithin (text.length + 1) text).takeWhile (· ≠ '\x00')

/-! ## Quoting -/

namespace Quoted

/-- Whether a byte cannot be shown. -/
def isHidden (c : Char) : Bool := c < ' ' || '\x7e' < c

/-- The digits of a byte to base eight. -/
def octalText (c : Char) : Octets :=
  let digits := Nat.toDigits 8 c.toNat
  List.replicate (3 - digits.length) '0' ++ digits

/-- A byte between single quotes behind a dollar sign. -/
def dollarByte (c : Char) : Octets :=
  match c with
  | '\x07' => ['\\', 'a']
  | '\x08' => ['\\', 'b']
  | '\x1b' => ['\\', 'E']
  | '\x0c' => ['\\', 'f']
  | '\n' => ['\\', 'n']
  | '\r' => ['\\', 'r']
  | '\t' => ['\\', 't']
  | '\x0b' => ['\\', 'v']
  | '\\' => ['\\', '\\']
  | '\x27' => ['\\', '\x27']
  | c => if isHidden c then '\\' :: octalText c else [c]

/-- A text between single quotes behind a dollar sign. -/
def dollar (text : Octets) : Octets := '$' :: '\x27' :: text.flatMap dollarByte ++ ['\x27']

/-- **A text between single quotes**, or behind a dollar sign if something in it cannot be shown. -/
def single (text : Octets) : Octets :=
  if text.any isHidden then dollar text
  else '\x27' :: (text.flatMap fun c => if c = '\x27' then octets "'\\''" else [c]) ++ ['\x27']

/-- The characters that mean something to a shell. -/
def special : Octets := octets " \t\n'\"\\|&;()<>!\x7b\x7d*[]?^$\x60,"

/-- A text with backslashes before what means something, from a place on that is the start if `isFirst`. -/
def backslashed : (isFirst : Bool) → Octets → Octets
  | _, [] => []
  | isFirst, c :: rest =>
    (if special.contains c || (isFirst && (c = '#' || c = '~')) then ['\\', c] else [c]) ++ backslashed false rest

/-- **A text with backslashes** where they are needed, or behind a dollar sign if something in it cannot be shown. -/
def escaped (text : Octets) : Octets :=
  if text.isEmpty then ['\x27', '\x27']
  else if text.any isHidden then dollar text
  else backslashed true text

/-- **A text between double quotes.** -/
def double (text : Octets) : Octets :=
  if text.any isHidden then dollar text
  else '"' :: (text.flatMap fun c => if "\"\\$\x60".toList.contains c then ['\\', c] else [c]) ++ ['"']

end Quoted

end Shell

end ComponentScaffold
