import ComponentScaffold.Json.Value
import ComponentScaffold.Proofs.Json.Reading

/-! # A value laid out is written

Laying a value out over lines is one of the ways to write it, as long as it is made of texts: the blanks stand
between tokens, and what is escaped stands for what was there.

* **`Json.spellsText_escape`** — an escaped text stands for that text.
* **`Json.Laid`** — a value is written at every level; so are arrays and objects of such values. -/

namespace ComponentScaffold.Json

/-! ## Strings -/

/-- The two digits of a control character. -/
private theorem isHexDigit_hexChar : ∀ value < 16, IsHexDigit value (hexChar value) := by
  unfold IsHexDigit
  decide

/-- An escaped character stands for that character. -/
theorem spellsText_escapeChar (c : Char) {text spelling : List Char} (h : SpellsText text spelling) :
    SpellsText (c :: text) (escapeChar c ++ spelling) := by
  unfold escapeChar
  split_ifs with hquote hbackslash _ _ _ _ _ hcontrol
  -- what has a letter of its own is written by that
  any_goals
    subst c
    exact .short (by decide) h
  case pos =>
    have hhigh := isHexDigit_hexChar (c.toNat / 16) (by omega)
    have hlow := isHexDigit_hexChar (c.toNat % 16) (by omega)
    have hzero : IsHexDigit 0 '0' := .inl rfl
    have hunit := SpellsUnit.digits hzero hzero hhigh hlow
    rw [show 16 * (16 * (16 * 0 + 0) + c.toNat / 16) + c.toNat % 16 = c.toNat by omega] at hunit
    exact .code hunit h
  case neg => exact .plain (Nat.not_lt.mp hcontrol) hquote hbackslash h

/-- **An escaped text** stands for that text. -/
theorem spellsText_escape (text : List Char) : SpellsText text (text.flatMap escapeChar) := by
  induction text with
  | nil => exact .nil
  | cons c rest ih =>
    rw [List.flatMap_cons]
    exact spellsText_escapeChar c ih

/-- A text between its quotes is a token. -/
theorem spellsToken_quoted (text : String) : SpellsToken (.string (some text.toList)) (quoted (some text)) :=
  .string (spellsText_escape text.toList)

/-! ## Values -/

/-- **A value is written** where it is laid out, at every level. -/
def Laid (value : Json) : Prop := ∀ level, value.Spells (layout level value)

/-- The blanks of a new line are passed over. -/
theorem spells_newLine (level : Nat) {tokens : List Token} {text : List Char} (h : SpellsTokens tokens text) :
    SpellsTokens tokens (newLine level ++ text) := by
  have hblanks (count : Nat) : SpellsTokens tokens (List.replicate count ' ' ++ text) := by
    induction count with
    | zero => exact h
    | succ count ih => exact .space (by decide) ih
  exact .space (by decide) (hblanks _)

/-- A mark comes before other tokens. -/
theorem spells_mark (c : Char) (hmark : isMark c = true) {tokens : List Token} {text : List Char}
    (h : SpellsTokens tokens text) : SpellsTokens (.mark c :: tokens) (c :: text) := .token (.mark hmark) h

/-- A text is written. -/
theorem laid_ofText (text : String) : (ofText text).Laid := by
  intro level
  simpa [Spells, ofText, tokens, layout] using SpellsTokens.token (spellsToken_quoted text) .nil

/-- The further items of an array are written, if each of them is. -/
theorem spells_layoutItems (level : Nat) {items : List Json} (h : ∀ item ∈ items, item.Laid) {rest : List Char}
    (hclosed : SpellsTokens [.mark ']'] rest) : SpellsTokens (itemTokens items) (layoutItems level items ++ rest) := by
  induction items with
  | nil => rwa [itemTokens, layoutItems, List.nil_append]
  | cons item items ih =>
    obtain ⟨hfirst, hothers⟩ := List.forall_mem_cons.mp h
    rw [itemTokens, layoutItems]
    simp only [List.cons_append, List.append_assoc]
    exact spells_mark ',' rfl (spells_newLine level ((hfirst level).append (ih hothers)))

/-- **An array is written**, if its items are. -/
theorem laid_array {items : List Json} (h : ∀ item ∈ items, item.Laid) : (array items).Laid := by
  intro level
  cases items with
  | nil => simpa [Spells, tokens, layout] using spells_mark '[' rfl (spells_mark ']' rfl .nil)
  | cons item items =>
    obtain ⟨hfirst, hothers⟩ := List.forall_mem_cons.mp h
    rw [Spells, tokens, layout]
    simp only [List.cons_append, List.append_assoc]
    have hclosed := spells_newLine level (spells_mark ']' rfl .nil)
    exact spells_mark '[' rfl (spells_newLine _ ((hfirst _).append (spells_layoutItems _ hothers hclosed)))

/-- A member of an object before others. -/
theorem spells_member (level : Nat) (name : String) {value : Json} (h : value.Laid) {tokens : List Token}
    {text : List Char} (hothers : SpellsTokens tokens text) :
    SpellsTokens (.string (some name.toList) :: .mark ':' :: value.tokens ++ tokens)
      (quoted (some name) ++ ':' :: ' ' :: layout level value ++ text) := by
  simp only [List.cons_append, List.append_assoc]
  exact .token (spellsToken_quoted name) (spells_mark ':' rfl (.space (by decide) ((h level).append hothers)))

/-- The further members of an object are written, if their values are. -/
theorem spells_layoutMembers (level : Nat) {members : List (String × Json)} (h : ∀ held ∈ members, held.2.Laid)
    {rest : List Char} (hclosed : SpellsTokens [.mark '}'] rest) :
    SpellsTokens (memberTokens (members.map fun (name, value) => (some name, value)))
      (layoutMembers level (members.map fun (name, value) => (some name, value)) ++ rest) := by
  induction members with
  | nil => rwa [List.map_nil, memberTokens, layoutMembers, List.nil_append]
  | cons member members ih =>
    obtain ⟨hfirst, hothers⟩ := List.forall_mem_cons.mp h
    rw [List.map_cons, memberTokens, layoutMembers]
    have hmember := spells_member level member.1 hfirst (ih hothers)
    simp only [List.cons_append, List.append_assoc, Option.map_some] at hmember ⊢
    exact spells_mark ',' rfl (spells_newLine level hmember)

/-- **An object is written**, if the values of its members are. -/
theorem laid_ofMembers {members : List (String × Json)} (h : ∀ held ∈ members, held.2.Laid) :
    (ofMembers members).Laid := by
  intro level
  cases members with
  | nil => simpa [Spells, ofMembers, tokens, layout] using spells_mark '{' rfl (spells_mark '}' rfl .nil)
  | cons member members =>
    obtain ⟨hfirst, hothers⟩ := List.forall_mem_cons.mp h
    have hclosed := spells_newLine level (spells_mark '}' rfl .nil)
    have hmember := spells_member (level + 1) member.1 hfirst (spells_layoutMembers (level + 1) hothers hclosed)
    rw [Spells, ofMembers, List.map_cons, tokens, layout]
    simp only [List.cons_append, List.append_assoc, Option.map_some] at hmember ⊢
    exact spells_mark '{' rfl (spells_newLine _ hmember)

end ComponentScaffold.Json
