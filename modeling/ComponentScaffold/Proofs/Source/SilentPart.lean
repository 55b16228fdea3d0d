import ComponentScaffold.Proofs.Source.NamespaceDeclaration
import ComponentScaffold.Proofs.Source.ViewModelText

/-! # Parts of a text that declare no namespace

What stands in a part of a text in which no namespace declaration starts does not matter to the search for one, as long
as the words around it end where they did.

* **`DeclaresNoNamespace`** — no namespace declaration starts in a part of a text;
  `declaresNoNamespace_of_not_holdsWord` and `declaresNoNamespace_of_word` are ways to see it.
* **`NamespaceDeclaration.map_name_find?_change`** — a text with another such part declares the same namespace. -/

namespace ComponentScaffold

open Text

variable {name text before part other gap gap' word rest front back : List Char} {declaration : NamespaceDeclaration}

/-! ## Where nothing is declared -/

/-- **No namespace is declared in a part of a text**, between what stands before it and behind it. -/
def DeclaresNoNamespace (before part rest : List Char) : Prop :=
  ∀ name start more, part = start ++ more → more ≠ [] → ¬DeclaresNamespace name (before ++ start) (more ++ rest)

/-- Two parts that declare nothing do so together. -/
theorem DeclaresNoNamespace.append (h : DeclaresNoNamespace before part (other ++ rest))
    (h' : DeclaresNoNamespace (before ++ part) other rest) : DeclaresNoNamespace before (part ++ other) rest := by
  intro name start more hparts hne hdeclares
  rcases List.append_eq_append_iff.mp hparts with ⟨between, rfl, rfl⟩ | ⟨between, rfl, rfl⟩
  case inl =>
    refine h' name between more rfl hne ?_
    rwa [List.append_assoc]
  case inr =>
    cases between with
    | nil =>
      refine h' name [] other rfl hne ?_
      simpa using hdeclares
    | cons c others =>
      refine h name start (c :: others) rfl (List.cons_ne_nil c others) ?_
      rwa [List.append_assoc] at hdeclares

/-- The keyword stands at the start of what names a namespace. -/
theorem NamesNamespace.startsWithKeyword (h : NamesNamespace name text) : namespaceKeyword <+: text := by
  obtain ⟨blanks, tail, rfl, -⟩ := h
  exact ⟨blanks ++ name ++ tail, by simp⟩

/-- Nothing is declared without the first letter of the keyword. -/
theorem declaresNoNamespace_of_notMem (habsent : 'n' ∉ part) : DeclaresNoNamespace before part rest := by
  rintro name start more rfl hne hdeclares
  obtain ⟨c, others, rfl⟩ := List.exists_cons_of_ne_nil hne
  obtain ⟨_, hparts⟩ := hdeclares.named.startsWithKeyword
  obtain rfl : 'n' = c := (List.cons.inj hparts).1
  simp at habsent

/-- No blank stands in words. -/
theorem Text.not_isWordChar_of_isBlank {c : Char} (hblank : isBlank c = true) : isWordChar c = false := by
  rw [Bool.eq_false_iff]
  intro hwithin
  have hapart : isBlank c = false := CodeRanges.not_contains_of_apart ranges_apart.1.2.2 hwithin
  rw [hapart] at hblank
  cases hblank

/-- **Nothing is declared where the word does not occur.** -/
theorem declaresNoNamespace_of_not_holdsWord (habsent : ¬HoldsWord namespaceKeyword part)
    (hforeign : ∀ c ∈ rest.head?, c ∉ namespaceKeyword) (before : List Char) :
    DeclaresNoNamespace before part rest := by
  rintro name start more rfl - hdeclares
  obtain ⟨blanks, tail, hparts, hne, hblank, -⟩ := hdeclares.named
  obtain ⟨after, rfl⟩ := prefix_of_prefix_append hforeign hdeclares.named.startsWithKeyword
  rw [List.append_assoc, List.append_assoc, List.append_assoc] at hparts
  have hbehind := List.append_cancel_left hparts
  refine habsent ⟨start, after, (List.append_assoc ..).symm, fun c hlast => hdeclares.starts c ?_, fun c hfirst => ?_⟩
  · rw [List.getLast?_append, Option.mem_def.mp hlast]
    rfl
  · -- the first character behind the keyword is the first of the blanks
    obtain ⟨others, rfl⟩ := List.head?_eq_some_iff.mp hfirst
    obtain ⟨space, blanks, rfl⟩ := List.exists_cons_of_ne_nil hne
    obtain rfl : c = space := (List.cons.inj hbehind).1
    exact not_isWordChar_of_isBlank (hblank c List.mem_cons_self)

/-- **Nothing is declared in a word and the blanks behind it** if no name follows. -/
theorem declaresNoNamespace_of_word {c : Char} (hsolid : ∀ d ∈ word, isBlank d = false)
    (hblank : ∀ d ∈ gap, isBlank d = true) (hstops : isBlank c = false) (hnameless : isIdentifierStart c = false)
    (hforeign : c ∉ namespaceKeyword) : DeclaresNoNamespace before (word ++ gap) (c :: rest) := by
  intro name start more hparts hne hdeclares
  obtain ⟨blanks, tail, hfollows, hsome, hblank', hdotted, -⟩ := hdeclares.named
  rcases List.append_eq_append_iff.mp hparts with ⟨between, rfl, rfl⟩ | ⟨letters, rfl, rfl⟩
  case inl =>
    -- the keyword would start with a blank
    obtain ⟨d, others, rfl⟩ := List.exists_cons_of_ne_nil hne
    obtain rfl : d = 'n' := (List.cons.inj hfollows).1
    exact absurd (hblank 'n' (by simp)) (by decide)
  case inr =>
    have hfirst : ∀ d ∈ (gap ++ c :: rest).head?, d ∉ namespaceKeyword := by
      cases gap with
      | nil =>
        rintro d ⟨⟩
        exact hforeign
      | cons space others =>
        rintro d ⟨⟩ hletter
        have hspace := hblank space List.mem_cons_self
        rw [not_isBlank_of_isIdentifierPart (isIdentifierPart_of_mem_namespaceKeyword space hletter)] at hspace
        cases hspace
    have hkeyword := hdeclares.named.startsWithKeyword
    rw [List.append_assoc] at hkeyword hfollows
    obtain ⟨letters', rfl⟩ := prefix_of_prefix_append hfirst hkeyword
    rw [List.append_assoc, List.append_assoc, List.append_assoc] at hfollows
    have hbehind := List.append_cancel_left hfollows
    cases letters' with
    | cons d others =>
      -- the word would go on with a blank
      obtain ⟨space, blanks, rfl⟩ := List.exists_cons_of_ne_nil hsome
      obtain rfl : d = space := (List.cons.inj hbehind).1
      have hd := hsolid d (by simp)
      rw [hblank' d List.mem_cons_self] at hd
      cases hd
    | nil =>
      -- the blanks are the same, so the name would start where they end
      have hstops' : ∀ d ∈ (c :: rest).head?, isBlank d = false := by
        rintro d ⟨⟩
        exact hstops
      have hwhole := (takeWhile_dropWhile_append hblank hstops').2
      rw [List.nil_append] at hbehind
      rw [hbehind, (takeWhile_dropWhile_append hblank' (hdotted.solid_head tail)).2] at hwhole
      obtain ⟨d, others, rfl, hstarts⟩ := hdotted.exists_cons
      obtain rfl : d = c := (List.cons.inj hwhole).1
      rw [hstarts] at hnameless
      cases hnameless

/-! ## Another part -/

/-- **A declaration in a text with a part that declares nothing** starts before that part or behind it. -/
theorem DeclaresNoNamespace.cases (hquiet : DeclaresNoNamespace before part rest)
    (hdeclares : DeclaresNamespace name front back) (hparts : before ++ part ++ rest = front ++ back) :
    front.length < before.length ∨ ∃ between, front = before ++ part ++ between ∧ rest = between ++ back := by
  rcases Nat.lt_or_ge front.length before.length with hearlier | hlater
  case inl => exact .inl hearlier
  case inr =>
    rw [List.append_assoc] at hparts
    obtain ⟨start, rfl⟩ := List.prefix_of_prefix_length_le ⟨part ++ rest, hparts⟩ (List.prefix_append front back) hlater
    rw [List.append_assoc] at hparts
    rcases List.append_eq_append_iff.mp (List.append_cancel_left hparts) with ⟨between, rfl, hrest⟩ | ⟨more, rfl, rfl⟩
    case inl => exact .inr ⟨between, (List.append_assoc ..).symm, hrest⟩
    case inr =>
      by_cases hne : more = []
      case neg => exact absurd hdeclares (hquiet name start more rfl hne)
      case pos =>
        subst hne
        exact .inr ⟨[], by simp⟩

section

variable (hapart : EndsApart before) (hsolid : EndsSolid word) (hforeign : ∀ c ∈ rest.head?, c ∉ namespaceKeyword)

include hapart hsolid hforeign

/-- **A declaration in the text with one part** is there with the other part, too: at the same place before it, or at
the same distance behind it. -/
theorem DeclaresNamespace.change_gap (hquiet : DeclaresNoNamespace before (word ++ gap) rest) (hblank : StartsBlank gap)
    (hblank' : StartsBlank gap') (hdeclares : DeclaresNamespace name front back)
    (hparts : before ++ (word ++ gap) ++ rest = front ++ back) :
    ∃ front' back', before ++ (word ++ gap') ++ rest = front' ++ back' ∧ DeclaresNamespace name front' back' ∧
      (front' = front ∧ front.length < before.length ∨
        ∃ between, front = before ++ (word ++ gap) ++ between ∧ front' = before ++ (word ++ gap') ++ between) := by
  rcases hquiet.cases hdeclares hparts with hearlier | ⟨between, rfl, rfl⟩
  case inl =>
    have hwhole : before ++ word ++ (gap ++ rest) = front ++ back := by
      simpa using hparts
    obtain ⟨back', hparts', hdeclares'⟩ :=
      hdeclares.change_behind hapart hsolid (hblank.append rest) (hblank'.append rest) hwhole hearlier
    exact ⟨front, back', by simpa using hparts', hdeclares', .inl ⟨rfl, hearlier⟩⟩
  case inr =>
    have hne : between ≠ [] := by
      rintro rfl
      obtain ⟨more, rfl⟩ := hdeclares.named.startsWithKeyword
      exact hforeign 'n' rfl (by decide)
    refine ⟨before ++ (word ++ gap') ++ between, back, by simp, ⟨fun c hlast => hdeclares.starts c ?_, hdeclares.named⟩,
      .inr ⟨between, rfl, rfl⟩⟩
    rw [List.getLast?_append_of_ne_nil _ hne] at hlast ⊢
    exact hlast

/-- The first declaration with one part is the first with the other. -/
theorem NamespaceDeclaration.IsFirst.change_gap (hquiet : DeclaresNoNamespace before (word ++ gap) rest)
    (hquiet' : DeclaresNoNamespace before (word ++ gap') rest) (hblank : StartsBlank gap) (hblank' : StartsBlank gap')
    (hfirst : declaration.IsFirst (before ++ (word ++ gap) ++ rest)) :
    ∃ other : NamespaceDeclaration, other.IsFirst (before ++ (word ++ gap') ++ rest) ∧
      other.name = declaration.name := by
  obtain ⟨front', back', hparts', hdeclares', hplace⟩ :=
    hfirst.declares.change_gap hapart hsolid hforeign hquiet hblank hblank' hfirst.parts
  refine ⟨⟨front', back', declaration.name⟩, ⟨hparts', hdeclares', fun name front back hparts hdeclares => ?_⟩, rfl⟩
  -- an earlier declaration would have been earlier with the one part, too
  obtain ⟨front'', back'', hparts'', hdeclares'', hplace'⟩ :=
    hdeclares.change_gap hapart hsolid hforeign hquiet' hblank' hblank hparts
  have hle := hfirst.first name front'' back'' hparts'' hdeclares''
  rcases hplace with ⟨rfl, hearlier⟩ | ⟨between, hsame, rfl⟩
  case inl =>
    rcases hplace' with ⟨rfl, -⟩ | ⟨between', rfl, -⟩
    · exact hle
    · simp only [List.length_append]
      omega
  case inr =>
    rw [hsame] at hle
    rcases hplace' with ⟨rfl, hearlier⟩ | ⟨between', rfl, rfl⟩
    · simp only [List.length_append] at hle
      omega
    · simp only [List.length_append] at hle ⊢
      omega

/-- **A text declares the same namespace with another part** that declares nothing, behind the same word. -/
theorem NamespaceDeclaration.map_name_find?_change (hquiet : DeclaresNoNamespace before (word ++ gap) rest)
    (hquiet' : DeclaresNoNamespace before (word ++ gap') rest) (hblank : StartsBlank gap) (hblank' : StartsBlank gap') :
    (find? (before ++ (word ++ gap') ++ rest)).map (·.name) =
      (find? (before ++ (word ++ gap) ++ rest)).map (·.name) := by
  cases hfound : find? (before ++ (word ++ gap) ++ rest) with
  | some declaration =>
    obtain ⟨other, hfirst, hname⟩ :=
      (isFirst_of_find? hfound).change_gap hapart hsolid hforeign hquiet hquiet' hblank hblank'
    rw [find?_eq_some_iff.mpr hfirst, Option.map_some, Option.map_some, hname]
  | none =>
    cases hfound' : find? (before ++ (word ++ gap') ++ rest) with
    | none => rfl
    | some declaration =>
      obtain ⟨other, hfirst, -⟩ :=
        (isFirst_of_find? hfound').change_gap hapart hsolid hforeign hquiet' hquiet hblank' hblank
      rw [find?_eq_some_iff.mpr hfirst] at hfound
      cases hfound

end

end ComponentScaffold
