/-! # Searching text

Texts are lists of characters. `splitFirst?` cuts a text at the first occurrence of another text;
`append_of_splitFirst?` says that nothing is lost by the cut. Positions are reported as the number of
UTF-8 bytes before them.
-/

namespace ComponentScaffold.Text

/-- The number of bytes that a text takes in UTF-8. -/
def utf8Size : List Char → Nat
  | [] => 0
  | c :: rest => c.utf8Size + utf8Size rest

@[simp] theorem utf8Size_nil : utf8Size [] = 0 := rfl

@[simp] theorem utf8Size_cons (c : Char) (rest : List Char) :
    utf8Size (c :: rest) = c.utf8Size + utf8Size rest := rfl

@[simp] theorem utf8Size_append (a b : List Char) : utf8Size (a ++ b) = utf8Size a + utf8Size b := by
  induction a with
  | nil => simp
  | cons c rest ih => simp [ih, Nat.add_assoc]

/-- What follows `head` in a text that starts with it. -/
def after? (head text : List Char) : Option (List Char) :=
  if head.isPrefixOf text then some (text.drop head.length) else none

/-- A text starts with `head` exactly when it is `head` and what follows. -/
theorem after?_eq_some_iff {head text rest : List Char} :
    after? head text = some rest ↔ text = head ++ rest := by
  unfold after?
  split
  case isTrue h =>
    obtain ⟨tail, rfl⟩ := List.isPrefixOf_iff_prefix.1 h
    simp
  case isFalse h =>
    simp only [reduceCtorEq, false_iff]
    rintro rfl
    exact h (List.isPrefixOf_iff_prefix.2 (List.prefix_append head rest))

/-- The text before the first occurrence of `needle`, and the text after that occurrence. -/
def splitFirst? (needle : List Char) : List Char → Option (List Char × List Char)
  | [] => if needle.isEmpty then some ([], []) else none
  | c :: rest =>
    match after? needle (c :: rest) with
    | some tail => some ([], tail)
    | none => (splitFirst? needle rest).map fun (before, tail) => (c :: before, tail)

/-- The two parts and the needle between them make up the whole text. -/
theorem append_of_splitFirst? {needle text before tail : List Char}
    (h : splitFirst? needle text = some (before, tail)) : text = before ++ needle ++ tail := by
  induction text generalizing before with
  | nil =>
    simp only [splitFirst?, List.isEmpty_iff] at h
    split at h
    case isTrue hn => simp_all
    case isFalse => simp at h
  | cons c rest ih =>
    simp only [splitFirst?] at h
    split at h
    case h_1 hafter =>
      obtain ⟨rfl, rfl⟩ : [] = before ∧ _ = tail := by simpa using h
      simpa using after?_eq_some_iff.1 hafter
    case h_2 =>
      obtain ⟨⟨b, t⟩, hsplit, heq⟩ := Option.map_eq_some_iff.1 h
      obtain ⟨rfl, rfl⟩ : c :: b = before ∧ t = tail := by simpa using heq
      simp [ih hsplit]

/-- What follows an occurrence of a text that is not empty is shorter than the whole. -/
theorem length_lt_of_splitFirst? {needle text before tail : List Char} (hn : needle ≠ [])
    (h : splitFirst? needle text = some (before, tail)) : tail.length < text.length := by
  have := List.length_pos_iff.2 hn
  rw [append_of_splitFirst? h]
  simp only [List.length_append]
  omega

/-- Whether `needle` occurs in a text. -/
def occursIn (needle text : List Char) : Bool := (splitFirst? needle text).isSome

end ComponentScaffold.Text
