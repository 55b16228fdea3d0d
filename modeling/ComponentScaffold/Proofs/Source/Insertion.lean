import ComponentScaffold.Proofs.Source.ClassHead

/-! # Classes around an insertion

Between words, a text can be inserted without making or hiding the declaration of a class, as long as it does not
open with the name of the class and no keyword in it is followed by a blank.

* **`Harmless`** — what may be inserted.
* **`DeclaresClass.cases_of_harmless`** — a declaration around it lies before it or behind it.
* **`FirstClass.insert`** — the first declaration with one insertion is the first with any other.
* **`ClassHead.IsFirst.insert_before`**, **`ClassHead.IsFirst.insert_behind`**, **`ClassHead.IsFirst.insert_within`** —
  what that does to its head. -/

namespace ComponentScaffold

open Text

variable {name front rest inserted other before after : List Char}

/-! ## The seam -/

/-- **A text ends apart** from what follows: its last character stands in no identifier. -/
def EndsApart (text : List Char) : Prop := ∀ c ∈ text.getLast?, isIdentifierPart c = false

/-- A text that ends apart does not end within an identifier. -/
theorem EndsApart.eq_nil {front back : List Char} (hapart : EndsApart (front ++ back))
    (hpart : ∀ c ∈ back, isIdentifierPart c = true) : back = [] := by
  by_contra hne
  have hlast := hapart (back.getLast hne) (by simp [List.getLast?_append, List.getLast?_eq_some_getLast hne])
  rw [hpart _ (List.getLast_mem hne)] at hlast
  cases hlast

/-- What stands behind a part of a text ends as the text does. -/
theorem EndsApart.of_append {front back : List Char} (hapart : EndsApart (front ++ back)) : EndsApart back := by
  intro c hlast
  exact hapart c (by rw [List.getLast?_append, Option.mem_def.mp hlast]; rfl)

/-- A word that starts before a seam ends before it. -/
theorem exists_of_starts_before {word : List Char} (hletters : ∀ c ∈ word, isIdentifierPart c = true)
    (hapart : EndsApart front) (hparts : front ++ rest = before ++ word ++ after)
    (hearlier : before.length < front.length) :
    ∃ within, front = before ++ word ++ within ∧ after = within ++ rest := by
  rcases List.append_eq_append_iff.mp hparts with ⟨more, hwhole, -⟩ | ⟨within, rfl, rfl⟩
  case inr => exact ⟨within, rfl, rfl⟩
  case inl =>
    rcases List.append_eq_append_iff.mp hwhole with ⟨start, rfl, rfl⟩ | ⟨more, rfl, -⟩
    case inl =>
      have hinside (c : Char) (hmem : c ∈ start) : isIdentifierPart c = true := hletters c (List.mem_append_left _ hmem)
      simp [hapart.eq_nil hinside] at hearlier
    case inr =>
      rw [List.length_append] at hearlier
      omega

/-- A word that starts behind a seam stands in the text behind it. -/
theorem exists_of_starts_behind {word : List Char} (hparts : front ++ rest = before ++ word ++ after)
    (hlater : front.length ≤ before.length) :
    ∃ between, before = front ++ between ∧ rest = between ++ word ++ after := by
  rw [List.append_assoc] at hparts
  obtain ⟨between, rfl⟩ := List.prefix_of_prefix_length_le ⟨rest, hparts⟩ (List.prefix_append before _) hlater
  rw [List.append_assoc] at hparts
  exact ⟨between, rfl, by rw [List.append_assoc, List.append_cancel_left hparts]⟩

/-- **A text may stand behind a seam** without a name that is read across it: it starts with no blank and not with
the name. -/
structure OpensApart (name text : List Char) : Prop where
  /-- It starts with no blank. -/
  solid : ∀ c ∈ text.head?, isBlank c = false
  /-- It does not start with the name. -/
  differs : ∀ tail, text = name ++ tail → ¬EndsName tail

/-- **A name that follows before a seam** does so whatever stands behind. -/
theorem NameFollows.change {within : List Char} (hidentifier : IsIdentifier name) (hapart : EndsApart within)
    (hopens : OpensApart name rest) (h : NameFollows name (within ++ rest)) (other : List Char) :
    NameFollows name (within ++ other) := by
  obtain ⟨blanks, tail, hparts, hne, hblank, hends⟩ := h
  have habsent : rest ≠ name ++ tail := fun hsame => hopens.differs tail hsame hends
  rcases List.append_eq_append_iff.mp hparts with ⟨more, hwhole, rfl⟩ | ⟨tail, rfl, rfl⟩
  case inl =>
    rcases List.append_eq_append_iff.mp hwhole with ⟨letters, rfl, hword⟩ | ⟨more, rfl, rfl⟩
    case inl =>
      have hinside (c : Char) (hmem : c ∈ letters) : isIdentifierPart c = true :=
        hidentifier.isIdentifierPart c (hword ▸ List.mem_append_left _ hmem)
      rw [hapart.eq_nil hinside, List.nil_append] at hword
      exact absurd (hword ▸ rfl) habsent
    case inr =>
      -- none of the blanks stands behind the seam
      cases more with
      | nil => exact absurd rfl habsent
      | cons c others =>
        have hfirst := hblank c (List.mem_append_right _ List.mem_cons_self)
        rw [hopens.solid c rfl] at hfirst
        cases hfirst
  case inr =>
    have hmore : tail ≠ [] := by
      rintro rfl
      rw [List.append_nil] at hapart
      exact hidentifier.ne_nil (hapart.eq_nil hidentifier.isIdentifierPart)
    refine ⟨blanks, tail ++ other, by simp, hne, hblank, ?_⟩
    obtain ⟨c, others, rfl⟩ := List.exists_cons_of_ne_nil hmore
    exact hends

/-! ## What may be inserted -/

/-- **A seam in a text**, where no name and no keyword goes on and no head ends. -/
structure Seam (name front rest : List Char) : Prop where
  /-- The text before it ends apart. -/
  apart : EndsApart front
  /-- The text behind it does not start with the name. -/
  opens : OpensApart name rest
  /-- Nor does it start with the keyword or a brace. -/
  unlike : ∀ c ∈ rest.head?, c ≠ 'c' ∧ c ≠ '{'

/-- **What may be inserted at a seam.** -/
structure Harmless (name front inserted rest : List Char) : Prop where
  /-- No keyword in it is followed by a blank. -/
  silent : KeepsApart inserted
  /-- It ends apart. -/
  apart : EndsApart (front ++ inserted)
  /-- The text from there on does not start with the name. -/
  opens : OpensApart name (inserted ++ rest)
  /-- It holds no brace. -/
  unopened : '{' ∉ inserted

/-- It is harmless to insert nothing. -/
theorem Seam.harmless_nil (hseam : Seam name front rest) : Harmless name front [] rest :=
  ⟨.nil, by rw [List.append_nil]; exact hseam.apart, hseam.opens, List.not_mem_nil⟩

/-- **A declaration around an insertion** lies before it or behind it. -/
theorem DeclaresClass.cases_of_harmless (h : DeclaresClass name before after) (hseam : Seam name front rest)
    (hharmless : Harmless name front inserted rest)
    (hparts : front ++ inserted ++ rest = before ++ classKeyword ++ after) :
    (∃ within, front = before ++ classKeyword ++ within ∧ after = within ++ (inserted ++ rest)) ∨
      ∃ between, between ≠ [] ∧ before = front ++ inserted ++ between ∧
        rest = between ++ classKeyword ++ after := by
  rcases Nat.lt_or_ge before.length front.length with hearlier | hlater
  case inl =>
    rw [List.append_assoc] at hparts
    exact .inl (exists_of_starts_before isIdentifierPart_of_mem_classKeyword hseam.apart hparts hearlier)
  rcases Nat.lt_or_ge before.length (front ++ inserted).length with hearlier | hbehind
  case inl =>
    -- the keyword would stand in what is inserted, with a blank behind it
    obtain ⟨within, hwhole, rfl⟩ :=
      exists_of_starts_before isIdentifierPart_of_mem_classKeyword hharmless.apart hparts hearlier
    obtain ⟨between, rfl, rfl⟩ := exists_of_starts_behind hwhole hlater
    have hmore : within ≠ [] := by
      rintro rfl
      have hapart := hharmless.apart
      rw [List.append_nil, ← List.append_assoc] at hapart
      exact absurd (hapart.eq_nil isIdentifierPart_of_mem_classKeyword) (by decide)
    obtain ⟨c, others, rfl⟩ := List.exists_cons_of_ne_nil hmore
    obtain ⟨blanks, tail, hfollows, hne, hblank, -⟩ := h.named
    obtain ⟨first, blanks, rfl⟩ := List.exists_cons_of_ne_nil hne
    obtain rfl : c = first := (List.cons.inj hfollows).1
    have hsolid := hharmless.silent.solid_behind c rfl
    rw [hblank c List.mem_cons_self] at hsolid
    cases hsolid
  case inr =>
    obtain ⟨between, rfl, rfl⟩ := exists_of_starts_behind hparts hbehind
    refine .inr ⟨between, ?_, rfl, rfl⟩
    rintro rfl
    exact (hseam.unlike 'c' rfl).1 rfl

/-- Before an insertion, a class is declared whatever is inserted. -/
theorem DeclaresClass.change {within : List Char} (h : DeclaresClass name before (within ++ rest))
    (hidentifier : IsIdentifier name) (hapart : EndsApart (before ++ classKeyword ++ within))
    (hopens : OpensApart name rest) (other : List Char) : DeclaresClass name before (within ++ other) :=
  ⟨h.alone, h.named.change hidentifier hapart.of_append hopens other⟩

/-- Behind an insertion, a class is declared whatever is inserted. -/
theorem DeclaresClass.move {between : List Char} (h : DeclaresClass name (front ++ between) after)
    (hne : between ≠ []) (other : List Char) : DeclaresClass name (other ++ between) after := by
  refine ⟨fun c hlast => h.alone c ?_, h.named⟩
  rw [List.getLast?_append_of_ne_nil _ hne] at hlast ⊢
  exact hlast

/-- **The first declaration around an insertion** is the first one around any other. -/
theorem FirstClass.insert {other : List Char} (hfirst : FirstClass name (front ++ inserted ++ rest) before after)
    (hidentifier : IsIdentifier name) (hseam : Seam name front rest) (hharmless : Harmless name front inserted rest)
    (hharmless' : Harmless name front other rest) :
    (∃ within, front = before ++ classKeyword ++ within ∧ after = within ++ (inserted ++ rest) ∧
        FirstClass name (front ++ other ++ rest) before (within ++ (other ++ rest))) ∨
      ∃ between, between ≠ [] ∧ before = front ++ inserted ++ between ∧ rest = between ++ classKeyword ++ after ∧
        FirstClass name (front ++ other ++ rest) (front ++ other ++ between) after := by
  -- each declaration around the other text is one around this text
  have hleast (front' back' : List Char) (hparts' : front ++ other ++ rest = front' ++ classKeyword ++ back')
      (hdeclares' : DeclaresClass name front' back') :
      front'.length < front.length ∧ before.length ≤ front'.length ∨
        ∃ between, front' = front ++ other ++ between ∧ before.length ≤ (front ++ inserted ++ between).length := by
    rcases hdeclares'.cases_of_harmless hseam hharmless' hparts' with ⟨within, rfl, rfl⟩ | ⟨between, hne, rfl, rfl⟩
    case inl =>
      have hdeclares := hdeclares'.change hidentifier hseam.apart hharmless'.opens (inserted ++ rest)
      refine .inl ⟨by simp [classKeyword], hfirst.first _ _ (by simp) hdeclares⟩
    case inr => exact .inr ⟨between, rfl, hfirst.first _ _ (by simp) (hdeclares'.move hne _)⟩
  rcases hfirst.declares.cases_of_harmless hseam hharmless hfirst.parts with
    ⟨within, rfl, rfl⟩ | ⟨between, hne, rfl, rfl⟩
  case inl =>
    refine .inl ⟨within, rfl, rfl, by simp, ?_, fun front' back' hparts' hdeclares' => ?_⟩
    · exact hfirst.declares.change hidentifier hseam.apart hharmless.opens _
    · rcases hleast front' back' hparts' hdeclares' with ⟨-, hle⟩ | ⟨between, rfl, -⟩
      · exact hle
      · simp
  case inr =>
    refine .inr ⟨between, hne, rfl, rfl, by simp, ?_, fun front' back' hparts' hdeclares' => ?_⟩
    · exact hfirst.declares.move hne _
    · rcases hleast front' back' hparts' hdeclares' with ⟨hearlier, hle⟩ | ⟨between', rfl, hle⟩
      · simp only [List.length_append] at hle
        omega
      · simpa using hle

/-! ## The head of a class -/

namespace ClassHead

/-- **A class that has a head** around an insertion has one around any other. -/
theorem exists_isFirst_insert {other : List Char} {cut : ClassHead}
    (h : cut.IsFirst name (front ++ inserted ++ rest)) (hidentifier : IsIdentifier name)
    (hseam : Seam name front rest) (hharmless : Harmless name front inserted rest)
    (hharmless' : Harmless name front other rest) :
    ∃ cut : ClassHead, cut.IsFirst name (front ++ other ++ rest) := by
  obtain ⟨after, hfirst, hhead⟩ := h.starts
  obtain ⟨inside, hbody⟩ := List.head?_eq_some_iff.mp h.opens
  have hbrace : '{' ∈ after := by
    have hmem : '{' ∈ classKeyword ++ after := by
      rw [← hhead, hbody]
      simp
    exact (List.mem_append.mp hmem).resolve_left (by decide)
  rcases hfirst.insert hidentifier hseam hharmless hharmless' with
    ⟨within, -, rfl, hfirst'⟩ | ⟨between, -, -, -, hfirst'⟩
  case inl =>
    -- the brace stands before or behind what is inserted, which holds none
    refine exists_isFirst hfirst' ?_
    simp only [List.mem_append, hharmless.unopened, false_or] at hbrace ⊢
    exact hbrace.imp_right .inr
  case inr => exact exists_isFirst hfirst' hbrace

/-- **A head behind a seam** stays as it is, whatever is inserted there. -/
theorem IsFirst.insert_before {cut : ClassHead} (h : cut.IsFirst name (front ++ rest))
    (hidentifier : IsIdentifier name) (hseam : Seam name front rest) (hharmless : Harmless name front inserted rest)
    (hbehind : front.length < cut.before.length) :
    ∃ between, cut.before = front ++ between ∧
      IsFirst name (front ++ inserted ++ rest) ⟨front ++ inserted ++ between, cut.head, cut.body⟩ := by
  obtain ⟨after, hfirst, hhead⟩ := h.starts
  rw [← List.append_nil front] at hfirst
  rcases hfirst.insert hidentifier hseam hseam.harmless_nil hharmless with
    ⟨within, hwhole, -⟩ | ⟨between, -, hwhole, -, hfirst'⟩
  case inl =>
    rw [hwhole] at hbehind
    simp only [List.length_append] at hbehind
    omega
  case inr =>
    rw [List.append_nil] at hwhole
    exact ⟨between, hwhole, ⟨after, hfirst', hhead⟩, h.opens, h.unopened⟩

/-- A head that starts before a seam starts with what stands there, whatever is inserted. -/
theorem IsFirst.starts_before {cut : ClassHead} (h : cut.IsFirst name (front ++ rest))
    (hidentifier : IsIdentifier name) (hseam : Seam name front rest) (hharmless : Harmless name front inserted rest)
    (hstarts : cut.before.length ≤ front.length) :
    ∃ within, front = cut.before ++ classKeyword ++ within ∧ cut.head ++ cut.body = classKeyword ++ within ++ rest ∧
      FirstClass name (front ++ inserted ++ rest) cut.before (within ++ (inserted ++ rest)) := by
  obtain ⟨after, hfirst, hhead⟩ := h.starts
  rw [← List.append_nil front] at hfirst
  rcases hfirst.insert hidentifier hseam hseam.harmless_nil hharmless with
    ⟨within, hwhole, rfl, hfirst'⟩ | ⟨between, hne, hwhole, -⟩
  case inl =>
    rw [List.nil_append, ← List.append_assoc] at hhead
    exact ⟨within, hwhole, hhead, hfirst'⟩
  case inr =>
    have hlonger := List.length_pos_of_ne_nil hne
    rw [hwhole] at hstarts
    simp only [List.length_append] at hstarts
    omega

/-- **A head before a seam** stays as it is, whatever is inserted there. -/
theorem IsFirst.insert_behind {cut : ClassHead} (h : cut.IsFirst name (front ++ rest))
    (hidentifier : IsIdentifier name) (hseam : Seam name front rest) (hharmless : Harmless name front inserted rest)
    (hbefore : cut.before.length + cut.head.length ≤ front.length) :
    ∃ between, cut.body = between ++ rest ∧
      IsFirst name (front ++ inserted ++ rest) ⟨cut.before, cut.head, between ++ (inserted ++ rest)⟩ := by
  obtain ⟨within, hwhole, hhead, hfirst⟩ := h.starts_before hidentifier hseam hharmless (by omega)
  have hreaches : cut.head.length ≤ (classKeyword ++ within).length := by
    rw [hwhole] at hbefore
    simp only [List.length_append] at hbefore ⊢
    omega
  -- the head ends before the seam, so nothing of it is moved
  obtain ⟨between, hjoined⟩ : cut.head <+: classKeyword ++ within :=
    List.prefix_of_prefix_length_le ⟨cut.body, hhead⟩ (List.prefix_append _ rest) hreaches
  have hbody : cut.body = between ++ rest := by
    rw [← hjoined, List.append_assoc] at hhead
    exact List.append_cancel_left hhead
  have hopens := h.opens
  rw [hbody] at hopens
  cases between with
  | nil => exact absurd rfl (hseam.unlike '{' hopens).2
  | cons c others =>
    refine ⟨c :: others, hbody, ⟨_, hfirst, ?_⟩, hopens, h.unopened⟩
    rw [← List.append_assoc, hjoined, List.append_assoc]

/-- **A head around a seam** is all that changes when something is inserted there. -/
theorem IsFirst.insert_within {cut : ClassHead} (h : cut.IsFirst name (front ++ rest))
    (hidentifier : IsIdentifier name) (hseam : Seam name front rest) (hharmless : Harmless name front inserted rest)
    (hstarts : cut.before.length ≤ front.length) (hends : front.length < cut.before.length + cut.head.length) :
    ∃ head, IsFirst name (front ++ inserted ++ rest) ⟨cut.before, head, cut.body⟩ := by
  obtain ⟨within, hwhole, hhead, hfirst⟩ := h.starts_before hidentifier hseam hharmless hstarts
  have hreaches : (classKeyword ++ within).length ≤ cut.head.length := by
    rw [hwhole] at hends
    simp only [List.length_append] at hends ⊢
    omega
  -- what is inserted stands between the two parts of the head
  obtain ⟨more, hjoined⟩ : classKeyword ++ within <+: cut.head :=
    List.prefix_of_prefix_length_le (hhead ▸ List.prefix_append _ rest) (List.prefix_append _ cut.body) hreaches
  have hbehind : rest = more ++ cut.body := by
    rw [← hjoined, List.append_assoc] at hhead
    exact (List.append_cancel_left hhead).symm
  refine ⟨classKeyword ++ within ++ inserted ++ more, ⟨_, hfirst, by simp [hbehind]⟩, h.opens, ?_⟩
  have hunopened := h.unopened
  rw [← hjoined, List.mem_append, not_or] at hunopened
  rw [List.mem_append, List.mem_append, not_or, not_or]
  exact ⟨⟨hunopened.1, hharmless.unopened⟩, hunopened.2⟩

end ClassHead

end ComponentScaffold
