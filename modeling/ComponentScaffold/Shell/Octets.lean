import ComponentScaffold.Path.Basic
import ComponentScaffold.Text.Utf8

/-! # Texts of the shell

The shell and the programs it starts know bytes only. A text of theirs is a list of bytes, each of them
written as the character of its number, so that the bytes of ASCII can be named by their characters.

* **`Shell.octets`** — the bytes of a text in UTF-8.
* **`Shell.stringOf`** — the text that bytes are read as, where a name of a file is asked for. -/

namespace ComponentScaffold

namespace Shell

/-- **A text of the shell**: bytes, each written as the character of its number. -/
abbrev Octets := List Char

/-- The character that a byte is written as. -/
def octet (byte : UInt8) : Char := Char.ofNat byte.toNat

/-- **The bytes of a text**, in UTF-8. -/
def octets (text : String) : Octets := text.toUTF8.toList.map octet

/-- The octets of an array of bytes. -/
def octetsOf (bytes : ByteArray) : Octets := bytes.toList.map octet

/-- The bytes that octets stand for. -/
def bytesOf (text : Octets) : ByteArray := (text.map fun c => UInt8.ofNat c.toNat).toByteArray

/-- **The text that octets are read as.** -/
def stringOf (text : Octets) : String :=
  String.ofList (Text.decodeLossy (text.map fun c => UInt8.ofNat c.toNat))

/-- The path that octets write. -/
def pathOf (text : Octets) : Path := ⟨stringOf text⟩

/-- Whether a text comes before another one or is the same, byte by byte. -/
def isBefore (a b : Octets) : Bool := !decide (b < a)

/-- The digits of a natural number. -/
def natText (n : Nat) : Octets := Nat.toDigits 10 n

/-- The digits of a number, after its sign. -/
def intText (n : Int) : Octets := if n < 0 then '-' :: natText n.natAbs else natText n.natAbs

/-- The number that decimal digits write. -/
def digitsValue (digits : Octets) : Nat :=
  digits.foldl (fun value digit => 10 * value + (digit.toNat - '0'.toNat)) 0

/-- The number that a text of decimal digits writes. -/
def natOf? (text : Octets) : Option Nat :=
  if !text.isEmpty && text.all Char.isDigit then some (digitsValue text) else none

/-- Whether a byte is a blank of the usual kind. -/
def isSpace (c : Char) : Bool := c == ' ' || ('\t' ≤ c && c ≤ '\r')

/-- A text without the blanks before it. -/
def dropSpace (text : Octets) : Octets := text.dropWhile isSpace

/-- The number that a text writes in decimal digits after an optional sign. -/
def intOf? (text : Octets) : Option Int :=
  match text with
  | '-' :: digits => (natOf? digits).map fun n => -(n : Int)
  | '+' :: digits => (natOf? digits).map fun n => (n : Int)
  | digits => (natOf? digits).map fun n => (n : Int)

/-- Whether a byte can start the name of a variable. -/
def isNameStart (c : Char) : Bool := c.isAlpha || c == '_'

/-- Whether a byte can stand in the name of a variable. -/
def isNamePart (c : Char) : Bool := c.isAlphanum || c == '_'

/-- Whether a text is the name of a variable. -/
def isName (text : Octets) : Bool := text.head?.any isNameStart && text.all isNamePart

/-- Texts with another one between them. -/
def joinWith (between : Octets) (parts : List Octets) : Octets := between.intercalate parts

/-- The lines of a text, without their ends, and whether the last one is ended. -/
def linesOf (text : Octets) : List Octets × Bool :=
  let parts := text.splitOn '\n'
  match parts.getLast? with
  | some [] => (parts.dropLast, true)
  | _ => (parts, false)

end Shell

end ComponentScaffold
