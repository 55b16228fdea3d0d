import ComponentScaffold.Text.Letter
import ComponentScaffold.Text.Word

/-! # Tables of characters

What is read of a text depends on tables of code points: letters, numbers, blanks and what stands in words. A
character that one table holds is in no other whose ranges are apart from it.

* **`Text.ranges_apart`** — the tables that are apart.
* **`Text.bounds_of_isAlphabetic`**, **`Text.bounds_of_isNumber`** — the letters and the numbers of ASCII. -/

namespace ComponentScaffold.Text

variable {c : Char}

/-- **Ranges of code points are apart** if each of them ends before each of the others, or behind it. -/
def CodeRanges.apart (ranges others : CodeRanges) : Bool :=
  ranges.all fun range => others.all fun other => Nat.blt range.2 other.1 || Nat.blt other.2 range.1

/-- Two sets of code points are disjoint if their ranges are apart. -/
theorem CodeRanges.not_contains_of_apart {ranges others : CodeRanges} (hapart : ranges.apart others = true)
    (h : ranges.contains c = true) : others.contains c = false := by
  rw [Bool.eq_false_iff]
  intro hwithin
  obtain ⟨range, hmem, hlow, hhigh⟩ := contains_iff.mp h
  obtain ⟨other, hmem', hlow', hhigh'⟩ := contains_iff.mp hwithin
  have hdisjoint := List.all_eq_true.mp (List.all_eq_true.mp hapart range hmem) other hmem'
  rw [Bool.or_eq_true, Nat.blt_eq, Nat.blt_eq] at hdisjoint
  omega

/-- The characters of ASCII that are no letters. -/
def asciiNonLetters : CodeRanges := [(0x0, 0x40), (0x5B, 0x60), (0x7B, 0x7F)]

/-- The characters of ASCII that are no digits. -/
def asciiNonDigits : CodeRanges := [(0x0, 0x2F), (0x3A, 0x7F)]

/-- **The tables of characters are apart**: letters, numbers and what stands in words from blanks, letters from the
other characters of ASCII, and numbers from those that are no digits. -/
theorem ranges_apart :
    (alphabeticRanges.apart blankRanges = true ∧ numberRanges.apart blankRanges = true ∧
        wordRanges.apart blankRanges = true) ∧
      alphabeticRanges.apart asciiNonLetters = true ∧ numberRanges.apart asciiNonDigits = true := by
  decide +kernel

/-- The letters of ASCII are those of identifiers. -/
theorem bounds_of_isAlphabetic (h : isAlphabetic c = true) (hascii : c.toNat < 0x80) :
    0x41 ≤ c.toNat ∧ c.toNat ≤ 0x5A ∨ 0x61 ≤ c.toNat ∧ c.toNat ≤ 0x7A := by
  have houtside := CodeRanges.not_contains_of_apart ranges_apart.2.1 h
  simp only [CodeRanges.contains, asciiNonLetters, List.any_cons, List.any_nil, Bool.or_false, Bool.or_eq_false_iff,
    Bool.and_eq_false_iff, decide_eq_false_iff_not] at houtside
  omega

/-- The numbers of ASCII are the digits. -/
theorem bounds_of_isNumber (h : isNumber c = true) (hascii : c.toNat < 0x80) : 0x30 ≤ c.toNat ∧ c.toNat ≤ 0x39 := by
  have houtside := CodeRanges.not_contains_of_apart ranges_apart.2.2 h
  simp only [CodeRanges.contains, asciiNonDigits, List.any_cons, List.any_nil, Bool.or_false, Bool.or_eq_false_iff,
    Bool.and_eq_false_iff, decide_eq_false_iff_not] at houtside
  omega

end ComponentScaffold.Text
