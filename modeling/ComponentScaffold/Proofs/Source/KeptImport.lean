import ComponentScaffold.Proofs.Source.Inheritance

/-! # Whether an import stays

A class is let inherit by two edits. The second one replaces the head of the class, and with it whatever stands there:
a line that imports the namespace, if the first edit has found it there or has put it there.

* **`ClassHead.Spares`**, **`ClassHead.Covers`** — what stands outside of a head, and what starts within.
* **`infix_replace_iff`** — the line stands in the text with another head exactly if it stood outside of the old one.
* **`importLine_infix_iff`** — when the line stands in the text in the end. -/

namespace ComponentScaffold

open Text

variable {text name base imported front rest : List Char} {declaration : NamespaceDeclaration} {cut : ClassHead}
  {edited : EditedSource}

/-! ## The line -/

/-- A line that imports a namespace is a word, a blank and the namespace. -/
theorem importLine_eq (base : List Char) : importLine base = "using".toList ++ ' ' :: (base ++ [';']) := by
  have hword : "using ".toList = "using".toList ++ [' '] := by decide
  have hmark : ";".toList = [';'] := by decide
  unfold importLine
  -- Named, the literals are compared by name and not letter by letter.
  generalize "using ".toList = opening, "using".toList = keyword, ";".toList = ending at *
  subst hword hmark
  simp

/-- The characters of the line are those of the word and of the namespace, the blank and the semicolon. -/
theorem mem_importLine {c : Char} :
    c ∈ importLine imported ↔ c ∈ "using".toList ∨ c = ' ' ∨ c ∈ imported ∨ c = ';' := by
  rw [importLine_eq]
  simp only [List.mem_append, List.mem_cons, List.not_mem_nil, or_false]

/-- The line starts with a letter. -/
theorem head?_importLine (base : List Char) : (importLine base).head? = some 'u' := by
  rw [importLine_eq]
  rfl

/-- The line ends with a semicolon. -/
theorem getLast?_importLine (base : List Char) : (importLine base).getLast? = some ';' := by
  have hparts : importLine base = "using".toList ++ ' ' :: base ++ [';'] := by
    rw [importLine_eq, List.append_assoc, List.cons_append]
  rw [hparts, List.getLast?_concat]

/-- The line stands in no word. -/
theorem not_infix_of_not_isBlank {word : List Char} (hsolid : ∀ c ∈ word, isBlank c = false) :
    ¬importLine imported <:+: word := by
  intro hwithin
  have hblank := hsolid ' ' (hwithin.subset (mem_importLine.mpr (.inr (.inl rfl))))
  revert hblank
  decide

/-- No brace stands in the line. -/
theorem brace_notMem_importLine (hdotted : IsDottedName imported) : '{' ∉ importLine imported := by
  rw [mem_importLine]
  have hothers : '{' ∉ "using".toList ∧ '{' ≠ ' ' ∧ '{' ≠ ';' := by decide
  have hletters : '{' ∉ imported := hdotted.not_mem (by decide) (by decide)
  simp [hothers, hletters]

/-- The line does not start in the keyword of a class. -/
theorem importLine_infix_behind_classKeyword {space : Char} (hblank : isBlank space = true) :
    importLine imported <:+: classKeyword ++ space :: rest ↔ importLine imported <:+: rest := by
  have hforeign : ∀ c ∈ (importLine imported).head?, c ∉ classKeyword ++ [space] := by
    rw [head?_importLine]
    rintro c ⟨⟩ hmem
    rcases List.mem_append.mp hmem with hletter | hsame
    · exact absurd hletter (by decide)
    · rw [← List.mem_singleton.mp hsame] at hblank
      exact absurd hblank (by decide)
  rw [← infix_append_iff_of_first hforeign rest, List.append_assoc, List.singleton_append]

/-- **The line does not run into the keyword** of a class behind a blank: its only blank stands behind its first word,
and a semicolon stands before the next. -/
theorem importLine_infix_classKeyword {space : Char} (hdotted : IsDottedName imported)
    (halone : ∀ c ∈ front.getLast?, isBlank c = true) (hblank : isBlank space = true) :
    importLine imported <:+: front ++ (classKeyword ++ space :: rest) ↔
      importLine imported <:+: front ∨ importLine imported <:+: rest := by
  have hbehind : importLine imported <:+: classKeyword ++ space :: rest ↔ importLine imported <:+: rest :=
    importLine_infix_behind_classKeyword hblank
  rw [List.infix_append_iff, hbehind]
  refine ⟨?_, fun h => h.imp_right .inl⟩
  rintro (hbefore | hwithin | ⟨left, right, hparts, hinFront, hinBack⟩)
  · exact .inl hbefore
  · exact .inr hwithin
  rcases List.eq_nil_or_concat left with rfl | ⟨start, last, rfl⟩
  case inl =>
    rw [List.nil_append] at hparts
    exact .inr (hbehind.mp (hparts ▸ hinBack.isInfix))
  case inr =>
    -- the line would run over the blank at the end of the front, so all behind its own blank would start the keyword
    have hatEnd : isBlank last = true := by
      obtain ⟨more, rfl⟩ := hinFront
      exact halone last (by simp)
    have hsolid : ∀ c, isBlank c = true → c ∉ "using".toList ∧ c ∉ imported ++ [';'] := by
      intro c hblank
      constructor
      · intro hmem
        have hword : IsIdentifier "using".toList := ⟨by decide, List.all_eq_true.mp (by decide)⟩
        rw [hword.not_isBlank c hmem] at hblank
        cases hblank
      · intro hmem
        rcases List.mem_append.mp hmem with hwithin | hending
        · rw [hdotted.not_isBlank c hwithin] at hblank
          cases hblank
        · rw [List.mem_singleton.mp hending] at hblank
          exact absurd hblank (by decide)
    have hcut : "using".toList ++ ' ' :: (imported ++ [';']) = start ++ last :: right := by
      rw [← importLine_eq, hparts]
      simp
    obtain ⟨houtside, houtside'⟩ := hsolid last hatEnd
    obtain ⟨-, rfl, rfl⟩ := (List.append_cons_inj_of_notMem houtside houtside').mp hcut
    have hforeign : ∀ c ∈ (space :: rest).head?, c ∉ imported ++ [';'] := by
      rintro c ⟨⟩
      exact (hsolid space hblank).2
    have hkeyword := prefix_of_prefix_append hforeign hinBack
    exact absurd (hkeyword.subset (List.mem_append_right _ (List.mem_singleton_self ';'))) (by decide)

/-! ## The text with another head -/

/-- **A head spares a line** that stands before it or behind it. -/
def ClassHead.Spares (cut : ClassHead) (line : List Char) : Prop := line <:+: cut.before ∨ line <:+: cut.body

/-- **A head covers a declaration** that starts within it. -/
def ClassHead.Covers (cut : ClassHead) (declaration : NamespaceDeclaration) : Prop :=
  cut.before.length ≤ declaration.before.length ∧
    declaration.before.length < cut.before.length + cut.head.length

/-- A head spares no line that is missing. -/
theorem ClassHead.IsFirst.not_spares {line : List Char} (hfirst : cut.IsFirst name text) (hmissing : ¬line <:+: text) :
    ¬cut.Spares line := by
  rintro (hbefore | hbehind)
  · exact hmissing (hbefore.trans ⟨[], cut.head ++ cut.body, by rw [hfirst.parts]; simp⟩)
  · exact hmissing (hbehind.trans ⟨cut.before ++ cut.head, [], by rw [hfirst.parts]; simp⟩)

/-- The head of a class with a base class is the keyword, the name and the base class. -/
theorem inheritingHead_eq (name base : List Char) :
    inheritingHead name base = classKeyword ++ ' ' :: (name ++ ' ' :: (':' :: ' ' :: base)) := by
  have hopening : "class ".toList = classKeyword ++ [' '] := by decide
  have hcolon : " : ".toList = [' ', ':', ' '] := by decide
  unfold inheritingHead
  generalize "class ".toList = word, " : ".toList = mark at *
  subst hopening hcolon
  simp

/-- What is found stands behind a blank and is followed by a brace, whatever the name. -/
theorem ClassHead.alone_of_find? (hfound : ClassHead.find? name text = some cut) :
    (∀ c ∈ cut.before.getLast?, isBlank c = true) ∧ cut.body.head? = some '{' := by
  simp only [ClassHead.find?, Option.bind_eq_bind, Option.bind_eq_some_iff, Prod.exists, Option.pure_def,
    findClassAfter?_eq_some_iff] at hfound
  obtain ⟨_, _, ⟨before, after, hfirst, rfl, rfl⟩, head, inside, -, hsame⟩ := hfound
  obtain rfl := Option.some.inj hsame
  have hdeclares := hfirst.declares
  rw [declaresBetween, Bool.and_eq_true, List.append_nil, List.head?_reverse] at hdeclares
  refine ⟨fun c hlast => ?_, rfl⟩
  rw [List.append_nil, List.reverse_reverse] at hlast
  simpa [Option.mem_def.mp hlast] using hdeclares.1

/-- **The line stands in the text with another head** exactly if it stood outside of the old one, as long as the names
of the classes do not hold it. -/
theorem infix_replace_iff (hdotted : IsDottedName imported) (hfound : ClassHead.find? name text = some cut)
    (base : List Char) :
    importLine imported <:+: cut.replace (inheritingHead name base) ↔
      cut.Spares (importLine imported) ∨ importLine imported <:+: name ∨ importLine imported <:+: base := by
  obtain ⟨halone, hopens⟩ := ClassHead.alone_of_find? hfound
  have hbrace : ∀ c ∈ cut.body.head?, c ∉ importLine imported := by
    rw [hopens]
    rintro c ⟨⟩
    exact brace_notMem_importLine hdotted
  have hblanks : ∀ c ∈ (importLine imported).getLast?, c ∉ trailingBlanks cut.head := by
    rw [getLast?_importLine]
    rintro c ⟨⟩ hmem
    have hblank := (endsInBlanks_trailingBlanks cut.head).blank ';' hmem
    revert hblank
    decide
  have hcolon : ∀ c ∈ (':' :: ' ' :: base).head?, c ∉ importLine imported := by
    rintro c ⟨⟩
    rw [mem_importLine]
    have hothers : ':' ∉ "using".toList ∧ ':' ≠ ' ' ∧ ':' ≠ ';' := by decide
    have hletters : ':' ∉ imported := hdotted.not_mem (by decide) (by decide)
    simp [hothers, hletters]
  have hspace : ∀ c ∈ (importLine imported).getLast?, c ∉ [' '] := by
    rw [getLast?_importLine]
    rintro c ⟨⟩
    decide
  have hopening : ∀ c ∈ (importLine imported).head?, c ∉ [':', ' '] := by
    rw [head?_importLine]
    rintro c ⟨⟩
    decide
  -- from the end to the start, each part of the text is split off where no line runs on
  have hnames : importLine imported <:+: name ++ ' ' :: ':' :: ' ' :: base ↔
      importLine imported <:+: name ∨ importLine imported <:+: base := by
    rw [List.append_cons, infix_append_iff_of_head hcolon, infix_append_iff_of_last hspace,
      ← infix_append_iff_of_first hopening base]
    rfl
  rw [ClassHead.replace, infix_append_iff_of_head hbrace, infix_append_iff_of_last hblanks, inheritingHead_eq,
    importLine_infix_classKeyword hdotted halone (by decide), hnames, ClassHead.Spares]
  exact or_right_comm

/-! ## The line in the end -/

/-- What is let inherit has a head in the text with the import. -/
theorem exists_of_inheritFrom {baseNamespace : Option (List Char)}
    (hdone : inheritFrom text name base baseNamespace = .ok edited) :
    ∃ cut, ClassHead.find? name (addImport text baseNamespace).1 = some cut ∧
      edited = ⟨cut.replace (inheritingHead name base), (addImport text baseNamespace).2⟩ := by
  simp only [inheritFrom] at hdone
  split at hdone
  case h_1 cut hfound => exact ⟨cut, hfound, (Except.ok.inj hdone).symm⟩
  case h_2 => cases hdone

/-- **The first edit provides the line** where another namespace is declared, and tells whether it was missing. -/
theorem infix_addImport (hfound : NamespaceDeclaration.find? text = some declaration)
    (hdiffers : declaration.name ≠ imported) :
    importLine imported <:+: (addImport text (some imported)).1 ∧
      ((addImport text (some imported)).2 = some imported ↔ ¬importLine imported <:+: text) := by
  by_cases hpresent : importLine imported <:+: text
  case pos =>
    have hsame : addImport text (some imported) = (text, none) := by
      refine addImport_eq_self ?_
      rintro other ⟨⟩ declaration' hneeded
      exact hneeded.absent hpresent
    rw [hsame]
    exact ⟨hpresent, by simp [hpresent]⟩
  case neg =>
    have hneeded : NeedsImport text imported declaration := ⟨hfound, hdiffers, hpresent⟩
    rw [hneeded.addImport_eq]
    refine ⟨⟨declaration.before, "\n\n".toList ++ declaration.rest, by simp⟩, by simp [hpresent]⟩

/-- **A line that is added stays** exactly if the declaration it is added to does not start within the head. -/
theorem NeedsImport.infix_iff (hneeded : NeedsImport text imported declaration) (hidentifier : IsIdentifier name)
    (hnotUsing : name ≠ "using".toList) (hnotNamespace : name ≠ "namespace".toList) (hdotted : IsDottedName imported)
    (hfirst : cut.IsFirst name text) (hdone : inheritFrom text name base (some imported) = .ok edited) :
    importLine imported <:+: edited.text ↔ importLine imported <:+: base ∨ ¬cut.Covers declaration := by
  by_cases hcovers : cut.Covers declaration
  case pos =>
    -- the head grows by the line, and is replaced
    have hseam := NamespaceDeclaration.seam hneeded.found hidentifier hnotNamespace
    have hharmless := harmless_import hidentifier hnotUsing hdotted declaration.before declaration.rest
    have hparts := NamespaceDeclaration.append_of_findAfter? hneeded.found
    have habsent : ¬cut.Spares (importLine imported) := hfirst.not_spares hneeded.absent
    rw [← hparts] at hfirst
    obtain ⟨head, hfirst'⟩ := hfirst.insert_within hidentifier hseam hharmless hcovers.1 hcovers.2
    have hresult := inheritFrom_of_isFirst hneeded.addImport_eq hidentifier hfirst' base
    obtain rfl := Except.ok.inj (hdone.symm.trans hresult)
    have hkept := infix_replace_iff hdotted ((ClassHead.find?_eq_some_iff hidentifier).mpr hfirst') base
    rw [hkept]
    simp only [not_infix_of_not_isBlank hidentifier.not_isBlank, false_or, hcovers, not_true_eq_false, or_false]
    exact or_iff_right habsent
  case neg =>
    -- the line is one of the parts of the text
    refine iff_of_true ?_ (.inr hcovers)
    have houtside : ∀ other, NamespaceDeclaration.find? text = some other → ¬cut.Covers other := by
      intro other hfound
      obtain rfl := Option.some.inj (hneeded.found.symm.trans hfound)
      exact hcovers
    have hnamespaces : ∀ other ∈ some imported, IsDottedName other := by
      rintro other ⟨⟩
      exact hdotted
    obtain ⟨edited', hdone', hinherits⟩ :=
      inheritFrom_made hidentifier hnotUsing hnotNamespace hnamespaces hfirst houtside base
    obtain rfl := Except.ok.inj (hdone.symm.trans hdone')
    cases hinherits with
    | plain _ _ hneedless => exact absurd hneeded (hneedless imported rfl declaration)
    | @importBefore cut' _ blanks other between declaration' _ _ hsame =>
      obtain rfl := Option.some.inj hsame
      exact ⟨declaration'.before, "\n\n".toList ++ between ++ inheritingHead name base ++ blanks ++ cut'.body, by simp⟩
    | @importBehind cut' _ blanks other between declaration' _ _ hsame =>
      obtain rfl := Option.some.inj hsame
      exact ⟨cut'.before ++ inheritingHead name base ++ blanks ++ between, "\n\n".toList ++ declaration'.rest, by simp⟩

/-- **An import stays unless the head takes it away.** Where a text declares another namespace than that of the base
class, the line that imports it stands in the text before the head is replaced, and it was added exactly if that is
reported. It stands in the text in the end exactly if it stood outside of the head, or one of the names holds it. Said
of the text itself, if the name is an identifier but for the two keywords: exactly if the line stood outside of the
head, or the base class holds it, or it was missing and the declaration does not start within the head. -/
theorem importLine_infix_iff (hdotted : IsDottedName imported)
    (hfound : NamespaceDeclaration.find? text = some declaration) (hdiffers : declaration.name ≠ imported)
    (hdone : inheritFrom text name base (some imported) = .ok edited) :
    (importLine imported <:+: (addImport text (some imported)).1 ∧
      (edited.imported = some imported ↔ ¬importLine imported <:+: text) ∧
      ∃ cut, ClassHead.find? name (addImport text (some imported)).1 = some cut ∧
        (importLine imported <:+: edited.text ↔
          cut.Spares (importLine imported) ∨ importLine imported <:+: name ∨ importLine imported <:+: base)) ∧
    (IsIdentifier name → name ≠ "using".toList → name ≠ "namespace".toList →
      ∃ cut : ClassHead, cut.IsFirst name text ∧
        (importLine imported <:+: edited.text ↔ cut.Spares (importLine imported) ∨ importLine imported <:+: base ∨
          (¬importLine imported <:+: text ∧ ¬cut.Covers declaration))) := by
  obtain ⟨hprovided, hreported⟩ := infix_addImport hfound hdiffers
  refine ⟨?_, fun hidentifier hnotUsing hnotNamespace => ?_⟩
  · obtain ⟨cut, hwithin, rfl⟩ := exists_of_inheritFrom hdone
    exact ⟨hprovided, hreported, cut, hwithin, infix_replace_iff hdotted hwithin base⟩
  · have hnamespaces : ∀ other ∈ some imported, IsDottedName other := by
      rintro other ⟨⟩
      exact hdotted
    obtain ⟨cut, hfirst⟩ : ∃ cut : ClassHead, cut.IsFirst name text := by
      by_contra hheadless
      rw [inheritFrom_refused hidentifier hnotUsing hnotNamespace hnamespaces hheadless base] at hdone
      cases hdone
    refine ⟨cut, hfirst, ?_⟩
    by_cases hpresent : importLine imported <:+: text
    case pos =>
      have hneedless : ∀ other ∈ some imported, ∀ declaration, ¬NeedsImport text other declaration := by
        rintro other ⟨⟩ declaration' hneeded
        exact hneeded.absent hpresent
      have hresult := inheritFrom_of_isFirst (addImport_eq_self hneedless) hidentifier hfirst base
      obtain rfl := Except.ok.inj (hdone.symm.trans hresult)
      rw [infix_replace_iff hdotted ((ClassHead.find?_eq_some_iff hidentifier).mpr hfirst) base]
      simp [not_infix_of_not_isBlank hidentifier.not_isBlank, hpresent]
    case neg =>
      have hneeded : NeedsImport text imported declaration := ⟨hfound, hdiffers, hpresent⟩
      rw [hneeded.infix_iff hidentifier hnotUsing hnotNamespace hdotted hfirst hdone]
      have habsent : ¬cut.Spares (importLine imported) := hfirst.not_spares hpresent
      simp [habsent, hpresent]

/-- A line in a comment before the head, and one in the head. -/
theorem importLine_infix_iff_comments :
    let text := "namespace App.Views; // using App;\nclass Main // using App;\n\x7b\n\x7d\n".toList
    let edited := "namespace App.Views; // using App;\nclass Main : Base\n\x7b\n\x7d\n".toList
    inheritFrom text "Main".toList "Base".toList (some "App".toList) = .ok ⟨edited, none⟩ ∧
      ∃ cut : ClassHead, cut.IsFirst "Main".toList text ∧ cut.Spares (importLine "App".toList) ∧
        importLine "App".toList <:+: edited := by
  intro text edited
  have hspelled : text = _ := String.toList_ofList
  have hspelled' : edited = _ := String.toList_ofList
  have hidentifier : IsIdentifier "Main".toList := ⟨by decide, List.all_eq_true.mp (by decide)⟩
  have hdotted : IsDottedName "App".toList := .single ⟨by decide, List.all_eq_true.mp (by decide)⟩
  have hevaluated : NamespaceDeclaration.find? text = some ⟨[], text, "App.Views".toList⟩ ∧
      ClassHead.find? "Main".toList text = some ⟨"namespace App.Views; // using App;\n".toList,
        "class Main // using App;\n".toList, "\x7b\n\x7d\n".toList⟩ ∧
      inheritFrom text "Main".toList "Base".toList (some "App".toList) = .ok ⟨edited, none⟩ := by
    rw [hspelled, hspelled']
    repeat rw [String.toList_ofList]
    decide +kernel
  obtain ⟨hfound, hhead, hresult⟩ := hevaluated
  obtain ⟨-, hkept⟩ := importLine_infix_iff hdotted hfound (by decide) hresult
  obtain ⟨cut, hfirst, hkept⟩ := hkept hidentifier (by decide) (by decide)
  obtain rfl := Option.some.inj (hhead.symm.trans ((ClassHead.find?_eq_some_iff hidentifier).mpr hfirst))
  have hspared : importLine "App".toList <:+: "namespace App.Views; // using App;\n".toList := by
    repeat rw [String.toList_ofList]
    decide +kernel
  exact ⟨hresult, _, hfirst, .inl hspared, hkept.mpr (.inl (.inl hspared))⟩

/-- An import that is added and reported, and is taken away by the head: the first class that is declared stands in a
comment, and the namespace declaration before its brace. -/
theorem inheritFrom_loses_import :
    let text := "// class Foo\nnamespace A;\n\nclass Foo\n\x7b\n\x7d\n".toList
    let edited := "// class Foo : Base\n\x7b\n\x7d\n".toList
    (readDottedName? "App".toList = some "App".toList ∧
        (NamespaceDeclaration.find? text).map (·.name) = some "A".toList) ∧
      inheritFrom text "Foo".toList "Base".toList (some "App".toList) = .ok ⟨edited, some "App".toList⟩ ∧
        ¬importLine "App".toList <:+: edited := by
  intro text edited
  have hspelled : text = _ := String.toList_ofList
  have hspelled' : edited = _ := String.toList_ofList
  rw [hspelled, hspelled']
  repeat rw [String.toList_ofList]
  decide +kernel

end ComponentScaffold
