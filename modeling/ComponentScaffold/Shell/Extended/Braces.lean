import ComponentScaffold.Shell.Octets
import ComponentScaffold.Shell.Syntax

/-! # Alternatives in words

A word with alternatives between braces stands for several words: one for each of them. Numbers and letters can be told
by the first and the last one.

* **`Shell.Braces.words`** — the words that a word stands for. -/

namespace ComponentScaffold

namespace Shell

namespace Braces

/-- Whether a piece is an unquoted character. -/
def isMark (c : Char) : Piece → Bool
  | .char found false => found == c
  | _ => false

/-- The pieces up to the closing brace that belongs to an opened one, between so many others, and those behind it. -/
def cutClosed : (depth : Nat) → Word → Option (Word × Word)
  | _, [] => none
  | depth, piece :: rest =>
    let onward (depth : Nat) : Option (Word × Word) :=
      (cutClosed depth rest).map fun (inner, behind) => (piece :: inner, behind)
    if isMark '\x7b' piece then onward (depth + 1)
    else if isMark '\x7d' piece then
      match depth with
      | 0 => some ([], rest)
      | depth + 1 => onward depth
    else onward depth

/-- The parts of a word between the commas that stand in no other braces. -/
def cutCommas : (depth : Nat) → Word → List Word
  | _, [] => [[]]
  | depth, piece :: rest =>
    if isMark ',' piece && depth = 0 then [] :: cutCommas depth rest
    else
      let depth := if isMark '\x7b' piece then depth + 1 else if isMark '\x7d' piece then depth - 1 else depth
      match cutCommas depth rest with
      | first :: others => (piece :: first) :: others
      | [] => [[piece]]

/-! ## Sequences -/

/-- The parts of a text between two dots. -/
def cutDots : Octets → List Octets
  | [] => [[]]
  | '.' :: '.' :: rest => [] :: cutDots rest
  | c :: rest =>
    match cutDots rest with
    | first :: others => (c :: first) :: others
    | [] => [[c]]

/-- The numbers from one to another by steps of a size. -/
def steps (first last : Int) (size : Nat) : List Int :=
  let size := max size 1
  let count := (last - first).natAbs / size + 1
  (List.range count).map fun i =>
    if first ≤ last then first + (i * size : Nat) else first - (i * size : Nat)

/-- A number in a width that zeros fill. -/
def paddedText (width : Nat) (n : Int) : Octets :=
  let digits := natText n.natAbs
  let sign : Octets := if n < 0 then ['-'] else []
  sign ++ List.replicate (width - sign.length - digits.length) '0' ++ digits

/-- Whether a number is written with zeros before it. -/
def isPadded (text : Octets) : Bool :=
  let digits := if text.head? = some '-' || text.head? = some '+' then text.tail else text
  digits.length > 1 && digits.head? = some '0'

/-- More words than a sequence stands for. -/
def maxSteps : Nat := 100000

/-- The texts of a sequence, of which the first one, the last one and perhaps the size of the steps are told. -/
def sequence? (text : Octets) : Option (List Octets) :=
  let size? : List Octets → Option Nat
    | [_, _] => some 1
    | [_, _, size] => (intOf? size).map Int.natAbs
    | _ => none
  let parts := cutDots text
  match parts, size? parts with
  | first :: last :: _, some size =>
    match intOf? first, intOf? last, first, last with
    | some a, some b, _, _ =>
      if maxSteps < (b - a).natAbs / max size 1 then none
      else
        let width := if isPadded first || isPadded last then max first.length last.length else 0
        some ((steps a b size).map (paddedText width))
    | none, none, [a], [b] =>
      if a.isAlpha && b.isAlpha then
        some ((steps a.toNat b.toNat size).map fun n => [Char.ofNat n.toNat])
      else none
    | _, _, _, _ => none
  | _, _ => none

/-- The text of a word that nothing is quoted in. -/
def textOf? (word : Word) : Option Octets :=
  word.mapM fun piece =>
    match piece with
    | .char c false => some c
    | _ => none

/-! ## Words -/

/-- The words that a word stands for, of which at most so many pieces are read. -/
def wordsWithin : (bound : Nat) → Word → List Word
  | 0, word => [word]
  | _ + 1, [] => [[]]
  | bound + 1, piece :: rest =>
    let literal : List Word := (wordsWithin bound rest).map (piece :: ·)
    match if isMark '\x7b' piece then cutClosed 0 rest else none with
    | none => literal
    | some (inner, behind) =>
      let parts := cutCommas 0 inner
      let alternatives? : Option (List Word) :=
        if parts.length > 1 then some (parts.flatMap (wordsWithin bound))
        else ((textOf? inner).bind sequence?).map fun texts =>
          texts.map fun text => text.map fun c => Piece.char c (!c.isAlphanum && c ≠ '-')
      match alternatives? with
      | none => literal
      | some alternatives =>
        let others := wordsWithin bound behind
        alternatives.flatMap fun alternative => others.map (alternative ++ ·)

/-- **The words that a word stands for.** -/
def words (word : Word) : List Word :=
  if word.any (isMark '\x7b') then wordsWithin (word.length + 1) word else [word]

end Braces

end Shell

end ComponentScaffold
