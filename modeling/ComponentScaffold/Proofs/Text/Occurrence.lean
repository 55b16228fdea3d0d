import Mathlib.Data.List.Infix
import ComponentScaffold.Text.Word

/-! # Where a text occurs

A text that occurs in another one of several parts lies within one of them, unless it runs over a seam.

* **`Text.infix_append_iff_of_head`**, **`Text.infix_append_iff_of_last`**, **`Text.infix_append_iff_of_first`** —
  seams over which it cannot run.
* **`Text.exists_of_word_before_blank`** — blanks and a word in front of other blanks.
* **`Text.HoldsWord`** — an occurrence as a whole word. -/

namespace ComponentScaffold.Text

/-! ## Seams -/

section

variable {needle front back : List Char}

/-- Nothing runs over a seam with a foreign character behind it. -/
theorem infix_append_iff_of_head (hforeign : ∀ c ∈ back.head?, c ∉ needle) :
    needle <:+: front ++ back ↔ needle <:+: front ∨ needle <:+: back := by
  rw [List.infix_append_iff]
  refine ⟨?_, fun h => h.imp_right .inl⟩
  rintro (hbefore | hbehind | ⟨left, right, rfl, hinFront, hinBack⟩)
  · exact .inl hbefore
  · exact .inr hbehind
  · cases right with
    | nil =>
      rw [List.append_nil]
      exact .inl hinFront.isInfix
    | cons c others =>
      obtain ⟨more, rfl⟩ := hinBack
      exact absurd (List.mem_append_right left List.mem_cons_self) (hforeign c rfl)

/-- What occurs ends before a text in which its last character does not stand. -/
theorem infix_append_iff_of_last (hforeign : ∀ c ∈ needle.getLast?, c ∉ back) :
    needle <:+: front ++ back ↔ needle <:+: front := by
  have hending {part : List Char} (hwithin : part <:+ needle) (hinBack : part ⊆ back) : part = [] := by
    by_contra hne
    obtain ⟨start, rfl⟩ := hwithin
    have hlast : (start ++ part).getLast? = some (part.getLast hne) := by
      rw [List.getLast?_append, List.getLast?_eq_some_getLast hne, Option.some_or]
    exact hforeign _ hlast (hinBack (List.getLast_mem hne))
  rw [List.infix_append_iff]
  refine ⟨?_, .inl⟩
  rintro (hbefore | hbehind | ⟨left, right, rfl, hinFront, hinBack⟩)
  · exact hbefore
  · rw [hending List.suffix_rfl hbehind.subset]
    exact List.nil_infix
  · rw [hending (List.suffix_append left right) hinBack.subset, List.append_nil]
    exact hinFront.isInfix

/-- What occurs starts behind a text in which its first character does not stand. -/
theorem infix_append_iff_of_first (hforeign : ∀ c ∈ needle.head?, c ∉ front) (back : List Char) :
    needle <:+: front ++ back ↔ needle <:+: back := by
  have hreversed : needle.reverse <:+: back.reverse ++ front.reverse ↔ needle.reverse <:+: back.reverse :=
    infix_append_iff_of_last (by simpa using hforeign)
  rwa [← List.reverse_append, List.reverse_infix, List.reverse_infix] at hreversed

/-- What a text starts with ends before a seam with a foreign character behind it. -/
theorem prefix_of_prefix_append (hforeign : ∀ c ∈ back.head?, c ∉ needle) (hstarts : needle <+: front ++ back) :
    needle <+: front := by
  obtain ⟨more, hparts⟩ := hstarts
  rcases List.append_eq_append_iff.mp hparts with ⟨between, rfl, -⟩ | ⟨between, rfl, rfl⟩
  case inl => exact List.prefix_append needle between
  case inr =>
    cases between with
    | nil =>
      rw [List.append_nil]
    | cons c others => exact absurd (List.mem_append_right front List.mem_cons_self) (hforeign c rfl)

end

/-! ## Words in front of blanks -/

/-- **A text ends solid**: its last character is no blank. -/
def EndsSolid (text : List Char) : Prop := ∃ c ∈ text.getLast?, isBlank c = false

/-- **A text starts blank.** -/
def StartsBlank (text : List Char) : Prop := ∃ c ∈ text.head?, isBlank c = true

/-- **A text starts solid**: its first character is no blank. -/
def StartsSolid (text : List Char) : Prop := ∃ c ∈ text.head?, isBlank c = false

/-- What ends solid does so whatever stands before it. -/
theorem EndsSolid.prepend {text : List Char} (hsolid : EndsSolid text) (front : List Char) :
    EndsSolid (front ++ text) := by
  obtain ⟨c, hlast, hc⟩ := hsolid
  refine ⟨c, ?_, hc⟩
  rw [List.getLast?_append, Option.mem_def.mp hlast]
  rfl

/-- What starts blank does so whatever stands behind it. -/
theorem StartsBlank.append {text : List Char} (hblank : StartsBlank text) (rest : List Char) :
    StartsBlank (text ++ rest) := by
  obtain ⟨c, hfirst, hc⟩ := hblank
  refine ⟨c, ?_, hc⟩
  rw [List.head?_append, Option.mem_def.mp hfirst]
  rfl

/-- What starts solid goes on behind other texts as it starts. -/
theorem StartsSolid.head?_append {text : List Char} (hsolid : StartsSolid text) (rest : List Char) :
    ∀ c ∈ (text ++ rest).head?, isBlank c = false := by
  obtain ⟨first, hmem, hc⟩ := hsolid
  intro c hmem'
  rw [List.head?_append, Option.mem_def.mp hmem] at hmem'
  obtain rfl : first = c := Option.some_inj.mp hmem'
  exact hc

/-- **A word behind blanks ends before the next blanks**, wherever the text is cut in front of them. -/
theorem exists_of_word_before_blank {blanks word tail within rest : List Char} (hends : EndsSolid within)
    (hstarts : StartsBlank rest) (hparts : within ++ rest = blanks ++ word ++ tail)
    (hblank : ∀ c ∈ blanks, isBlank c = true) (hsolid : ∀ c ∈ word, isBlank c = false) :
    ∃ more, within = blanks ++ word ++ more ∧ tail = more ++ rest := by
  rcases List.append_eq_append_iff.mp hparts with ⟨more, hwhole, hbehind⟩ | ⟨more, hwhole, hbehind⟩
  case inr => exact ⟨more, hwhole, hbehind⟩
  case inl =>
    cases more with
    | nil => exact ⟨[], by simpa using hwhole.symm, by simpa using hbehind.symm⟩
    | cons first others =>
      -- the first of the next blanks would stand in the word, or the last character of the text among the blanks
      obtain ⟨c, hmem, hstartsBlank⟩ := hstarts
      rw [hbehind] at hmem
      obtain rfl : first = c := Option.some_inj.mp hmem
      rcases List.append_eq_append_iff.mp hwhole with ⟨letters, -, rfl⟩ | ⟨others', rfl, -⟩
      case inl =>
        rw [hsolid first (by simp)] at hstartsBlank
        cases hstartsBlank
      case inr =>
        obtain ⟨last, hmem, hendsSolid⟩ := hends
        rw [hblank last (List.mem_append_left _ (List.mem_of_mem_getLast? hmem))] at hendsSolid
        cases hendsSolid

/-! ## Whole words -/

/-- **A word occurs in a text**, and does not go on at either end. -/
def HoldsWord (word text : List Char) : Prop :=
  ∃ before after, text = before ++ word ++ after ∧ (∀ c ∈ before.getLast?, isWordChar c = false) ∧
    ∀ c ∈ after.head?, isWordChar c = false

instance (word text : List Char) : Decidable (HoldsWord word text) :=
  decidable_of_iff
    (∃ before ∈ text.inits, text = before ++ word ++ text.drop (before ++ word).length ∧
      (before.getLast?.all fun c => !isWordChar c) = true ∧
      ((text.drop (before ++ word).length).head?.all fun c => !isWordChar c) = true) (by
    constructor
    · rintro ⟨before, -, hparts, hstarts, hends⟩
      refine ⟨before, _, hparts, ?_, ?_⟩
      · simpa [Option.all_eq_true] using hstarts
      · simpa [Option.all_eq_true] using hends
    · rintro ⟨before, after, rfl, hstarts, hends⟩
      refine ⟨before, ?_, ?_, ?_, ?_⟩
      · rw [List.mem_inits, List.append_assoc]
        exact List.prefix_append before _
      · rw [List.drop_left]
      · simpa [Option.all_eq_true] using hstarts
      · rw [List.drop_left]
        simpa [Option.all_eq_true] using hends)

end ComponentScaffold.Text
