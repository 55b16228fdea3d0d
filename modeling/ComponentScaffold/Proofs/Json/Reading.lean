import ComponentScaffold.Json.Reader
import Mathlib.Data.List.Basic

/-! # What a JSON text writes

A value has one list of tokens, and every text that spells them writes the value.

* **`Json.tokens`** — the tokens of a value.
* **`Json.Spells`** — the texts that write a value.
* **`Json.parse?_of_spells`** — from each of them the value is read. -/

namespace ComponentScaffold.Json

/-! ## How JSON is spelled

One text can be written in many ways between the quotes of a string, and blanks may stand between any two
tokens. Whichever way is taken, the same tokens are read.

* **`Json.SpellsText`** — what may stand between the quotes for a text.
* **`Json.SpellsTokens`** — what may be written for marks and strings.
* **`Json.tokens?_of_spells`** — the tokens that are spelled are the ones that are read. -/

/-! ### Strings -/

/-- **A hexadecimal digit** of a value, in small or capital letters. -/
def IsHexDigit (value : Nat) (digit : Char) : Prop :=
  "0123456789abcdef".toList[value]? = some digit ∨ "0123456789ABCDEF".toList[value]? = some digit

/-- **The four digits** of a UTF-16 unit. -/
inductive SpellsUnit : (code : Nat) → (digits : List Char) → Prop
  /-- The first digit counts most. -/
  | digits {w x y z : Nat} {a b c d : Char} : IsHexDigit w a → IsHexDigit x b → IsHexDigit y c → IsHexDigit z d →
    SpellsUnit (16 * (16 * (16 * w + x) + y) + z) [a, b, c, d]

/-- The letters that stand for a character behind a backslash. -/
def shortEscapes : List (Char × Char) :=
  [('"', '"'), ('\\', '\\'), ('/', '/'), ('b', '\x08'), ('f', '\x0c'), ('n', '\n'), ('r', '\r'), ('t', '\t')]

/-- **What stands between the quotes** of a string for its text. -/
inductive SpellsText : (text spelling : List Char) → Prop
  /-- Nothing stands for the empty text. -/
  | nil : SpellsText [] []
  /-- A character stands for itself, if it is no control character, quote or backslash. -/
  | plain {c : Char} {text spelling : List Char} : 0x20 ≤ c.toNat → c ≠ '"' → c ≠ '\\' →
    SpellsText text spelling → SpellsText (c :: text) (c :: spelling)
  /-- A letter behind a backslash stands for a character. -/
  | short {letter c : Char} {text spelling : List Char} : (letter, c) ∈ shortEscapes →
    SpellsText text spelling → SpellsText (c :: text) ('\\' :: letter :: spelling)
  /-- A character may be written by its code. -/
  | code {c : Char} {digits text spelling : List Char} : SpellsUnit c.toNat digits →
    SpellsText text spelling → SpellsText (c :: text) ('\\' :: 'u' :: digits ++ spelling)
  /-- A character whose code has more than four digits is written as a surrogate pair. -/
  | pair {c : Char} {high low text spelling : List Char} : 0x10000 ≤ c.toNat →
    SpellsUnit (0xD800 + (c.toNat - 0x10000) / 0x400) high → SpellsUnit (0xDC00 + (c.toNat - 0x10000) % 0x400) low →
    SpellsText text spelling → SpellsText (c :: text) ('\\' :: 'u' :: high ++ '\\' :: 'u' :: low ++ spelling)

/-- A digit is read as its value. -/
theorem hexDigit?_of_isHexDigit {value : Nat} {digit : Char} (h : IsHexDigit value digit) :
    hexDigit? digit = some value := by
  have hread : ∀ row ∈ ["0123456789abcdef".toList, "0123456789ABCDEF".toList], ∀ held ∈ row.zipIdx,
      hexDigit? held.1 = some held.2 := by decide
  rcases h with hsmall | hcapital
  · exact hread _ (by simp) _ (List.mk_mem_zipIdx_iff_getElem?.mpr hsmall)
  · exact hread _ (by simp) _ (List.mk_mem_zipIdx_iff_getElem?.mpr hcapital)

/-- A unit is read as one piece. -/
theorem readPieces_of_spellsUnit {code : Nat} {digits rest : List Char} (h : SpellsUnit code digits) :
    readPieces ('\\' :: 'u' :: digits ++ rest) =
      (readPieces rest).map fun (pieces, rest) => (.unit code :: pieces, rest) := by
  obtain ⟨hfirst, hsecond, hthird, hfourth⟩ := h
  rename_i w x y z a b c d
  have hnumber : hexNumber? a b c d = some (16 * (16 * (16 * w + x) + y) + z) := by
    simp only [hexNumber?, hexDigit?_of_isHexDigit hfirst, hexDigit?_of_isHexDigit hsecond,
      hexDigit?_of_isHexDigit hthird, hexDigit?_of_isHexDigit hfourth, Option.bind_eq_bind, Option.bind_some, pure,
      Option.some.injEq]
    omega
  simp only [List.cons_append, List.nil_append, readPieces, hnumber, Option.bind_eq_bind, Option.bind_some]
  cases readPieces rest <;> rfl

/-- A letter behind a backslash is read as the character that it stands for. -/
theorem readPieces_of_short {letter c : Char} {rest : List Char} (h : (letter, c) ∈ shortEscapes) :
    readPieces ('\\' :: letter :: rest) =
      (readPieces rest).map fun (pieces, rest) => (.char c :: pieces, rest) := by
  have hescape : ∀ escape ∈ shortEscapes, escaped? escape.1 = some escape.2 ∧ escape.1 ≠ 'u' := by decide
  obtain ⟨hstands, hother⟩ := hescape _ h
  rw [readPieces.eq_4 _ _ (fun _ _ _ _ _ hu => absurd hu hother)]
  simp only [hstands, Option.bind_eq_bind, Option.bind_some]
  cases readPieces rest <;> rfl

/-- A character that stands for itself is read as such. -/
theorem readPieces_of_plain {c : Char} {rest : List Char} (hcode : 0x20 ≤ c.toNat) (hquote : c ≠ '"')
    (hbackslash : c ≠ '\\') :
    readPieces (c :: rest) = (readPieces rest).map fun (pieces, rest) => (.char c :: pieces, rest) := by
  rw [readPieces.eq_5 _ _ (by simpa using hquote) (by simp [hbackslash]) (by simp [hbackslash])]
  have hplain : (decide (c.toNat < 0x20) || c == '\\') = false := by simp [hbackslash, hcode]
  simp only [hplain]
  cases readPieces rest <;> rfl

/-- The code of a character is that of no half of a surrogate pair. -/
theorem not_surrogate (c : Char) : ¬(0xD800 ≤ c.toNat ∧ c.toNat < 0xE000) := by
  have hvalid := c.valid
  simp only [UInt32.isValidChar, Nat.isValidChar] at hvalid
  rw [Char.toNat]
  omega

/-- A unit that is no half of a surrogate pair is a character, whatever comes behind it. -/
theorem textOfPieces?_code (c : Char) (pieces : List Piece) :
    textOfPieces? (.unit c.toNat :: pieces) = (textOfPieces? pieces).map (c :: ·) := by
  have hwhole := not_surrogate c
  have hfirst : ¬(0xD800 ≤ c.toNat ∧ c.toNat < 0xDC00) := by omega
  have hsecond : ¬(0xDC00 ≤ c.toNat ∧ c.toNat < 0xE000) := by omega
  -- only before another unit is it looked at whether a pair begins
  match pieces with
  | [] => rw [textOfPieces?.eq_4 _ _ (by simp), if_neg hwhole, Char.ofNat_toNat]
  | .char _ :: _ => rw [textOfPieces?.eq_4 _ _ (by simp), if_neg hwhole, Char.ofNat_toNat]
  | .unit _ :: _ => rw [textOfPieces?.eq_3, if_neg hfirst, if_neg hsecond, Char.ofNat_toNat]

/-- The two halves of a surrogate pair are one character. -/
theorem textOfPieces?_pair {c : Char} (hlarge : 0x10000 ≤ c.toNat) (pieces : List Piece) :
    textOfPieces? (.unit (0xD800 + (c.toNat - 0x10000) / 0x400) ::
      .unit (0xDC00 + (c.toNat - 0x10000) % 0x400) :: pieces) = (textOfPieces? pieces).map (c :: ·) := by
  have hbound := c.valid
  simp only [UInt32.isValidChar, Nat.isValidChar] at hbound
  rw [Char.toNat] at *
  have hhigh : (c.val.toNat - 0x10000) / 0x400 < 0x400 := by omega
  have hlow : (c.val.toNat - 0x10000) % 0x400 < 0x400 := Nat.mod_lt _ (by omega)
  rw [textOfPieces?, if_pos (by omega), if_pos (by omega)]
  have hwhole : 0x10000 + (0xD800 + (c.val.toNat - 0x10000) / 0x400 - 0xD800) * 0x400 +
      (0xDC00 + (c.val.toNat - 0x10000) % 0x400 - 0xDC00) = c.toNat := by
    rw [Char.toNat]
    omega
  rw [hwhole, Char.ofNat_toNat]

/-- **A text is read as it is spelled**, up to the quote behind it. -/
theorem readPieces_of_spells {text spelling : List Char} (h : SpellsText text spelling) (rest : List Char) :
    ∃ pieces, readPieces (spelling ++ '"' :: rest) = some (pieces, rest) ∧ textOfPieces? pieces = some text := by
  induction h with
  | nil => exact ⟨[], by rw [List.nil_append, readPieces], rfl⟩
  | @plain c text _ hcode hquote hbackslash _ ih =>
    obtain ⟨pieces, hread, hmade⟩ := ih
    refine ⟨.char c :: pieces, ?_, by rw [textOfPieces?, hmade, Option.map_some]⟩
    rw [List.cons_append, readPieces_of_plain hcode hquote hbackslash, hread, Option.map_some]
  | @short letter c text _ hescape _ ih =>
    obtain ⟨pieces, hread, hmade⟩ := ih
    refine ⟨.char c :: pieces, ?_, by rw [textOfPieces?, hmade, Option.map_some]⟩
    rw [List.cons_append, List.cons_append, readPieces_of_short hescape, hread, Option.map_some]
  | @code c digits _ _ hunit _ ih =>
    obtain ⟨pieces, hread, hmade⟩ := ih
    refine ⟨.unit c.toNat :: pieces, ?_, by rw [textOfPieces?_code, hmade, Option.map_some]⟩
    rw [List.append_assoc, readPieces_of_spellsUnit hunit, hread, Option.map_some]
  | @pair c high low _ _ hlarge hfirst hsecond _ ih =>
    obtain ⟨pieces, hread, hmade⟩ := ih
    refine ⟨.unit _ :: .unit _ :: pieces, ?_, by rw [textOfPieces?_pair hlarge, hmade, Option.map_some]⟩
    simp only [List.cons_append, List.append_assoc]
    rw [← List.cons_append, ← List.cons_append, readPieces_of_spellsUnit hfirst, ← List.cons_append,
      ← List.cons_append, readPieces_of_spellsUnit hsecond, hread, Option.map_some, Option.map_some]

/-! ### Tokens -/

/-- **What is written for a mark or a string.** -/
inductive SpellsToken : Token → List Char → Prop
  /-- A mark stands for itself. -/
  | mark {c : Char} : isMark c = true → SpellsToken (.mark c) [c]
  /-- A text stands between quotes. -/
  | string {text spelling : List Char} : SpellsText text spelling →
    SpellsToken (.string (some text)) ('"' :: spelling ++ ['"'])

/-- **What is written for marks and strings**, with blanks anywhere around them. -/
inductive SpellsTokens : List Token → List Char → Prop
  /-- Nothing is written for no token. -/
  | nil : SpellsTokens [] []
  /-- A blank is passed over. -/
  | space {c : Char} {tokens : List Token} {text : List Char} : isSpace c = true → SpellsTokens tokens text →
    SpellsTokens tokens (c :: text)
  /-- A token comes before the others. -/
  | token {token : Token} {tokens : List Token} {head text : List Char} : SpellsToken token head →
    SpellsTokens tokens text → SpellsTokens (token :: tokens) (head ++ text)

/-- A token is read as it is spelled. It is no blank. -/
theorem readToken?_of_spells {token : Token} {head : List Char} (h : SpellsToken token head) (rest : List Char) :
    ∃ first others, head = first :: others ∧ isSpace first = false ∧
      readToken? (head ++ rest) = some (token, rest) := by
  cases h with
  | @mark c hmark =>
    have hsolid : isSpace c = false ∧ c ≠ '"' ∧ c ≠ '-' := by
      simp only [Json.isMark, Bool.or_eq_true, beq_iff_eq] at hmark
      rcases hmark with ((((rfl | rfl) | rfl) | rfl) | rfl) | rfl <;> decide
    refine ⟨c, [], rfl, hsolid.1, ?_⟩
    rw [List.singleton_append, readToken?.eq_4 _ _ (by simpa using hsolid.2.1) (by simpa using hsolid.2.2),
      if_pos hmark]
  | @string text spelling hspells =>
    obtain ⟨pieces, hread, hmade⟩ := readPieces_of_spells hspells rest
    refine ⟨'"', spelling ++ ['"'], rfl, by decide, ?_⟩
    rw [List.cons_append, List.cons_append, List.append_assoc, List.singleton_append, readToken?, hread]
    simp [hmade]

/-- The tokens that are spelled are read within the length of the text. -/
theorem tokensWithin?_of_spells {tokens : List Token} {text : List Char} (h : SpellsTokens tokens text) {length : Nat}
    (hbound : text.length ≤ length) : tokensWithin? length text = some tokens := by
  induction h generalizing length with
  | nil => rw [tokensWithin?]
  | space hspace _ ih =>
    obtain ⟨length, rfl⟩ := Nat.exists_eq_succ_of_ne_zero (Nat.ne_zero_of_lt hbound)
    rw [tokensWithin?, if_pos hspace]
    exact ih (Nat.le_of_succ_le_succ hbound)
  | @token token _ head text hspells _ ih =>
    obtain ⟨first, others, rfl, hsolid, hread⟩ := readToken?_of_spells hspells text
    obtain ⟨length, rfl⟩ := Nat.exists_eq_succ_of_ne_zero (Nat.ne_zero_of_lt hbound)
    have hshorter : text.length ≤ length := by
      simp only [List.cons_append, List.length_cons, List.length_append] at hbound
      omega
    rw [List.cons_append] at hread ⊢
    rw [tokensWithin?, if_neg (by simp [hsolid]), hread]
    simp [ih hshorter]

/-- **Tokens are read as they are spelled**, whichever way is taken. -/
theorem tokens?_of_spells {tokens : List Token} {text : List Char} (h : SpellsTokens tokens text) :
    tokens? text = some tokens := tokensWithin?_of_spells h (Nat.le_refl _)

/-- What is written for tokens, and then for others. -/
theorem SpellsTokens.append {front back : List Token} {first second : List Char} (h : SpellsTokens front first)
    (h' : SpellsTokens back second) : SpellsTokens (front ++ back) (first ++ second) := by
  induction h with
  | nil => exact h'
  | space hspace _ ih => exact .space hspace ih
  | token hspells _ ih =>
    rw [List.append_assoc]
    exact .token hspells ih

/-! ## Reading -/

mutual

/-- **The tokens of a value.** -/
def tokens : Json → List Token
  | .null => [.null]
  | .bool value => [.bool value]
  | .number digits => [.number digits.toList]
  | .string text => [.string (text.map String.toList)]
  | .array [] => [.mark '[', .mark ']']
  | .array (item :: items) => .mark '[' :: tokens item ++ itemTokens items
  | .object [] => [.mark '{', .mark '}']
  | .object ((name, value) :: members) =>
    .mark '{' :: .string (name.map String.toList) :: .mark ':' :: tokens value ++ memberTokens members

/-- The tokens of the further items of an array, up to its end. -/
def itemTokens : List Json → List Token
  | [] => [.mark ']']
  | item :: items => .mark ',' :: tokens item ++ itemTokens items

/-- The tokens of the further members of an object, up to its end. -/
def memberTokens : List (Option String × Json) → List Token
  | [] => [.mark '}']
  | (name, value) :: members =>
    .mark ',' :: .string (name.map String.toList) :: .mark ':' :: tokens value ++ memberTokens members

end

/-- **A text that writes a value.** -/
def Spells (value : Json) (text : List Char) : Prop := SpellsTokens value.tokens text

/-- The text of a string is kept. -/
@[simp] theorem keptText_map (text : Option String) : keptText (text.map String.toList) = text := by
  cases text <;> simp [keptText]

/-- The first token of a value does not end an array. -/
theorem exists_tokens_eq_cons (value : Json) : ∃ first others, value.tokens = first :: others ∧ first ≠ .mark ']' := by
  match value with
  | .null | .bool _ | .number _ | .string _ | .array [] | .array (_ :: _) | .object [] | .object (_ :: _) =>
    rw [tokens]
    exact ⟨_, _, rfl, by simp⟩

mutual

/-- A value is read from its tokens. -/
theorem readValue_tokens (bound : Nat) (value : Json) (rest : List Token) (henough : value.tokens.length ≤ bound) :
    readValue bound (value.tokens ++ rest) = some (value, rest) := by
  obtain ⟨first, others, hstarts, -⟩ := exists_tokens_eq_cons value
  obtain ⟨bound, rfl⟩ : ∃ smaller, bound = smaller + 1 := by
    rw [hstarts] at henough
    exact Nat.exists_eq_succ_of_ne_zero (Nat.ne_zero_of_lt henough)
  -- the bound counts tokens, of which each part of a value has fewer than the whole
  match value with
  | .null | .bool _ | .array [] | .object [] => rw [tokens]; rfl
  | .number _ | .string _ =>
    rw [tokens]
    simp [readValue]
  | .array (item :: items) =>
    simp only [tokens, List.cons_append, List.length_cons, List.length_append, List.append_assoc] at henough ⊢
    obtain ⟨first, others, hstarts, hnoEnd⟩ := exists_tokens_eq_cons item
    rw [readValue.eq_9 _ _ (by simp [hstarts, hnoEnd]), readValue_tokens bound item _ (by omega)]
    simp [readItems_tokens bound items rest (by omega)]
  | .object ((name, value) :: members) =>
    simp only [tokens, List.cons_append, List.length_cons, List.length_append, List.append_assoc] at henough ⊢
    rw [readValue.eq_10, readValue_tokens bound value _ (by omega)]
    simp [readMembers_tokens bound members rest (by omega)]

/-- The further items of an array are read from their tokens. -/
theorem readItems_tokens (bound : Nat) (items : List Json) (rest : List Token)
    (henough : (itemTokens items).length ≤ bound) :
    readItems bound (itemTokens items ++ rest) = some (items, rest) := by
  match items, bound with
  | [], 0 | _ :: _, 0 => simp [itemTokens] at henough
  | [], bound + 1 => rw [itemTokens]; rfl
  | item :: items, bound + 1 =>
    simp only [itemTokens, List.cons_append, List.length_cons, List.length_append, List.append_assoc] at henough ⊢
    rw [readItems.eq_3, readValue_tokens bound item _ (by omega)]
    simp [readItems_tokens bound items rest (by omega)]

/-- The further members of an object are read from their tokens. -/
theorem readMembers_tokens (bound : Nat) (members : List (Option String × Json)) (rest : List Token)
    (henough : (memberTokens members).length ≤ bound) :
    readMembers bound (memberTokens members ++ rest) = some (members, rest) := by
  match members, bound with
  | [], 0 | _ :: _, 0 => simp [memberTokens] at henough
  | [], bound + 1 => rw [memberTokens]; rfl
  | (name, value) :: members, bound + 1 =>
    simp only [memberTokens, List.cons_append, List.length_cons, List.length_append, List.append_assoc] at henough ⊢
    rw [readMembers.eq_3, readValue_tokens bound value _ (by omega)]
    simp [readMembers_tokens bound members rest (by omega)]

end

/-- **A value is read from every text that writes it.** -/
theorem parse?_of_spells {value : Json} {text : String} (h : value.Spells text.toList) : parse? text = some value := by
  have hread := readValue_tokens _ value [] (Nat.le_refl _)
  rw [List.append_nil] at hread
  simp [parse?, tokens?_of_spells h, hread]

end ComponentScaffold.Json
