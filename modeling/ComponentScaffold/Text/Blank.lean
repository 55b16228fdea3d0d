/-! # Blank characters

The characters with the `White_Space` property, and trimming by them. Properties of characters are given
by `CodeRanges`.
-/

namespace ComponentScaffold.Text

/-! ## Code point ranges

A character property is given as a list of closed ranges of code points. `CodeRanges.contains` decides
membership, and `CodeRanges.contains_iff` states it without the search.
-/

/-- A set of code points, written as the closed ranges it consists of. -/
abbrev CodeRanges := List (Nat × Nat)

/-- Whether a character lies in one of the ranges. -/
def CodeRanges.contains (ranges : CodeRanges) (c : Char) : Bool :=
  ranges.any fun range => decide (range.1 ≤ c.toNat) && decide (c.toNat ≤ range.2)

/-- A character is contained exactly when some range has it between its ends. -/
theorem CodeRanges.contains_iff {ranges : CodeRanges} {c : Char} :
    ranges.contains c = true ↔ ∃ range ∈ ranges, range.1 ≤ c.toNat ∧ c.toNat ≤ range.2 := by
  simp [CodeRanges.contains]

/-! ## Blanks -/

/-- The code points with the `White_Space` property. -/
def blankRanges : CodeRanges := [
    (0x9, 0xD), (0x20, 0x20), (0x85, 0x85), (0xA0, 0xA0), (0x1680, 0x1680), (0x2000, 0x200A),
    (0x2028, 0x2029), (0x202F, 0x202F), (0x205F, 0x205F), (0x3000, 0x3000)]

/-- Whether a character has the `White_Space` property. -/
def isBlank (c : Char) : Bool := blankRanges.contains c

/-- A text without its leading blanks. -/
def trimStart (text : List Char) : List Char := text.dropWhile isBlank

/-- A text without its trailing blanks. -/
def trimEnd (text : List Char) : List Char := (text.reverse.dropWhile isBlank).reverse

/-- The run of blanks at the end of a text. -/
def trailingBlanks (text : List Char) : List Char := (text.reverse.takeWhile isBlank).reverse

/-- A text without the blanks at both its ends. -/
def trim (text : List Char) : List Char := trimEnd (trimStart text)

/-- What trimming the end cuts off is the run of trailing blanks. -/
theorem trimEnd_append_trailingBlanks (text : List Char) :
    trimEnd text ++ trailingBlanks text = text := by
  rw [trimEnd, trailingBlanks, ← List.reverse_append, List.takeWhile_append_dropWhile,
    List.reverse_reverse]

end ComponentScaffold.Text
