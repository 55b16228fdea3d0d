import ComponentScaffold.Json.Value
import ComponentScaffold.Text.Search

/-! # Reading JSON

A value is read from the tokens of a text. Values may be nested to any depth, an object may repeat a
member, and nothing may follow the value.

* **`Json.tokens?`** — the tokens of a text.
* **`Json.parse?`** — the value that a text writes. -/

namespace ComponentScaffold

/-! ## Taking a text apart

Between the tokens of a text the four JSON blanks are passed over. -/

open Text

namespace Json

/-- **A word of a JSON text.** -/
inductive Token
  /-- One of the six marks that give arrays and objects their shape. -/
  | mark (mark : Char)
  /-- The word `null`. -/
  | null
  /-- A truth value. -/
  | bool (value : Bool)
  /-- A number. -/
  | number (digits : List Char)
  /-- A string and its text, if it stands for one. -/
  | string (text : Option (List Char))
deriving DecidableEq, Repr

/-- Whether a character stands between tokens. -/
def isSpace (c : Char) : Bool := c == ' ' || c == '\n' || c == '\t' || c == '\r'

/-- Whether a character is a token of its own. -/
def isMark (c : Char) : Bool :=
  c == '[' || c == ']' || c == '{' || c == '}' || c == ',' || c == ':'

/-! ### Strings -/

/-- A piece of a string: a character, or a UTF-16 unit given by its code. -/
inductive Piece
  /-- A character. -/
  | char (c : Char)
  /-- A UTF-16 unit. -/
  | unit (code : Nat)
deriving DecidableEq, Repr

/-- The value of a hexadecimal digit. -/
def hexDigit? (c : Char) : Option Nat :=
  if '0' ≤ c ∧ c ≤ '9' then some (c.toNat - '0'.toNat)
  else if 'a' ≤ c ∧ c ≤ 'f' then some (c.toNat - 'a'.toNat + 10)
  else if 'A' ≤ c ∧ c ≤ 'F' then some (c.toNat - 'A'.toNat + 10)
  else none

/-- The number that four hexadecimal digits write. -/
def hexNumber? (a b c d : Char) : Option Nat := do
  return (((← hexDigit? a) * 16 + (← hexDigit? b)) * 16 + (← hexDigit? c)) * 16 + (← hexDigit? d)

/-- The character that a short escape stands for. -/
def escaped? : Char → Option Char
  | '"' => some '"'
  | '\\' => some '\\'
  | '/' => some '/'
  | 'b' => some '\x08'
  | 'f' => some '\x0c'
  | 'n' => some '\n'
  | 'r' => some '\r'
  | 't' => some '\t'
  | _ => none

/-- The pieces of a string up to its closing quote, and the text after it. -/
def readPieces : List Char → Option (List Piece × List Char)
  | [] => none
  | '"' :: rest => some ([], rest)
  | '\\' :: 'u' :: a :: b :: c :: d :: rest => do
    let code ← hexNumber? a b c d
    let (pieces, rest) ← readPieces rest
    return (.unit code :: pieces, rest)
  | '\\' :: c :: rest => do
    let c ← escaped? c
    let (pieces, rest) ← readPieces rest
    return (.char c :: pieces, rest)
  | c :: rest => if c.toNat < 0x20 || c == '\\' then none else do
    let (pieces, rest) ← readPieces rest
    return (.char c :: pieces, rest)

/-- The text of the pieces of a string. Two units that make a surrogate pair are one character, and a
half of a pair that stands alone leaves the string without a text. -/
def textOfPieces? : List Piece → Option (List Char)
  | [] => some []
  | .char c :: rest => (textOfPieces? rest).map (c :: ·)
  | .unit high :: .unit low :: rest =>
    -- a first half needs the second half right behind it
    if 0xD800 ≤ high ∧ high < 0xDC00 then
      if 0xDC00 ≤ low ∧ low < 0xE000 then
        (textOfPieces? rest).map
          (Char.ofNat (0x10000 + (high - 0xD800) * 0x400 + (low - 0xDC00)) :: ·)
      else none
    else if 0xDC00 ≤ high ∧ high < 0xE000 then none
    else (textOfPieces? (.unit low :: rest)).map (Char.ofNat high :: ·)
  | .unit code :: rest =>
    if 0xD800 ≤ code ∧ code < 0xE000 then none
    else (textOfPieces? rest).map (Char.ofNat code :: ·)

/-! ### Numbers -/

/-- A run of at least one decimal digit at the start of a text, and the rest. -/
def readDigits? (text : List Char) : Option (List Char × List Char) :=
  match text.takeWhile Char.isDigit with
  | [] => none
  | digits => some (digits, text.dropWhile Char.isDigit)

/-- The whole part of a number: a zero alone, or digits that start with another one. -/
def readWhole? : List Char → Option (List Char × List Char)
  | '0' :: rest => some (['0'], rest)
  | text => readDigits? text

/-- The part of a number after a point, where there is a point. -/
def readFraction? : List Char → Option (List Char × List Char)
  | '.' :: rest => (readDigits? rest).map fun (digits, rest) => ('.' :: digits, rest)
  | text => some ([], text)

/-- The sign of an exponent, where there is one. -/
def readSign : List Char → List Char × List Char
  | '+' :: rest => (['+'], rest)
  | '-' :: rest => (['-'], rest)
  | text => ([], text)

/-- The exponent of a number, where there is one. -/
def readExponent? : List Char → Option (List Char × List Char)
  | [] => some ([], [])
  | c :: rest =>
    if c == 'e' || c == 'E' then do
      let (sign, rest) := readSign rest
      let (digits, rest) ← readDigits? rest
      return (c :: sign ++ digits, rest)
    else some ([], c :: rest)

/-- A number without its minus sign. -/
def readUnsigned? (text : List Char) : Option (List Char × List Char) := do
  let (whole, rest) ← readWhole? text
  let (fraction, rest) ← readFraction? rest
  let (exponent, rest) ← readExponent? rest
  return (whole ++ fraction ++ exponent, rest)

/-! ### Tokens -/

/-- The number, word or string at the start of a text, and the rest. -/
def readToken? : List Char → Option (Token × List Char)
  | [] => none
  | '"' :: rest => do
    let (pieces, rest) ← readPieces rest
    return (.string (textOfPieces? pieces), rest)
  | '-' :: rest => (readUnsigned? rest).map fun (digits, rest) => (.number ('-' :: digits), rest)
  | c :: rest =>
    if isMark c then some (.mark c, rest)
    else if c.isDigit then
      (readUnsigned? (c :: rest)).map fun (digits, rest) => (.number digits, rest)
    else
      ((after? "null".toList (c :: rest)).map fun rest => (.null, rest)).or
        (((after? "true".toList (c :: rest)).map fun rest => (.bool true, rest)).or
          ((after? "false".toList (c :: rest)).map fun rest => (.bool false, rest)))

/-- The tokens of a text of at most the given length. -/
def tokensWithin? : Nat → List Char → Option (List Token)
  | _, [] => some []
  | 0, _ :: _ => none
  | length + 1, c :: rest =>
    if isSpace c then tokensWithin? length rest
    else do
      let (token, rest) ← readToken? (c :: rest)
      return token :: (← tokensWithin? length rest)

/-- **The tokens of a text**, unless some part of it is none. -/
def tokens? (text : List Char) : Option (List Token) := tokensWithin? text.length text

/-! ## Documents -/

/-- The text of a string token as a value keeps it. -/
def keptText (text : Option (List Char)) : Option String := text.map String.ofList

mutual

/-- The value at the start of a list of tokens, and the rest. The number bounds the tokens read. -/
def readValue : Nat → List Token → Option (Json × List Token)
  | 0, _ => none
  | _ + 1, [] => none
  | _ + 1, .null :: rest => some (.null, rest)
  | _ + 1, .bool value :: rest => some (.bool value, rest)
  | _ + 1, .number digits :: rest => some (.number (String.ofList digits), rest)
  | _ + 1, .string text :: rest => some (.string (keptText text), rest)
  | _ + 1, .mark '[' :: .mark ']' :: rest => some (.array [], rest)
  | _ + 1, .mark '{' :: .mark '}' :: rest => some (.object [], rest)
  | bound + 1, .mark '[' :: rest => do
    let (first, rest) ← readValue bound rest
    let (others, rest) ← readItems bound rest
    return (.array (first :: others), rest)
  | bound + 1, .mark '{' :: .string name :: .mark ':' :: rest => do
    let (first, rest) ← readValue bound rest
    let (others, rest) ← readMembers bound rest
    return (.object ((keptText name, first) :: others), rest)
  | _ + 1, .mark _ :: _ => none

/-- The further items of an array up to its end, and the rest. -/
def readItems : Nat → List Token → Option (List Json × List Token)
  | 0, _ => none
  | _ + 1, .mark ']' :: rest => some ([], rest)
  | bound + 1, .mark ',' :: rest => do
    let (item, rest) ← readValue bound rest
    let (others, rest) ← readItems bound rest
    return (item :: others, rest)
  | _ + 1, _ => none

/-- The further members of an object up to its end, and the rest. -/
def readMembers : Nat → List Token → Option (List (Option String × Json) × List Token)
  | 0, _ => none
  | _ + 1, .mark '}' :: rest => some ([], rest)
  | bound + 1, .mark ',' :: .string name :: .mark ':' :: rest => do
    let (value, rest) ← readValue bound rest
    let (others, rest) ← readMembers bound rest
    return ((keptText name, value) :: others, rest)
  | _ + 1, _ => none

end

/-- **The value that a text writes**, unless the text is no JSON. -/
def parse? (text : String) : Option Json := do
  let tokens ← tokens? text.toList
  match ← readValue tokens.length tokens with
  | (value, []) => some value
  | _ => none

end Json

end ComponentScaffold
