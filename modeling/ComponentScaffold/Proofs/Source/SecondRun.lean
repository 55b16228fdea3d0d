import ComponentScaffold.Proofs.Source.KeptImport
import ComponentScaffold.Proofs.Source.SilentPart

/-! # Letting a class inherit again

A class that has been let inherit is found again where it was, and its new head is replaced by itself. The text changes
once more only if the import is missing then, which the first run may have taken away with the old head.

* **`FirstClass.change_behind`**, **`ClassHead.IsFirst.replace`** — the class is found again, with its new head.
* **`map_name_find?_replace`** — the text declares the namespace that it declared.
* **`inheritFrom_again`** — when a second run changes nothing. -/

namespace ComponentScaffold

open Text

variable {text name base imported before within rest rest' : List Char} {baseNamespace : Option (List Char)}
  {cut : ClassHead} {edited : EditedSource}

/-! ## The class is found again -/

/-- A name ends in front of blanks. -/
theorem Text.StartsBlank.endsName (hblank : StartsBlank rest) : EndsName rest := by
  obtain ⟨first, hmem, hfirst⟩ := hblank
  intro c hmem'
  obtain rfl : first = c := Option.some_inj.mp (hmem.symm.trans hmem')
  have houtside : isNamePart first = false := by
    rw [Bool.eq_false_iff]
    intro hpart
    rw [not_isBlank_of_isNamePart hpart] at hfirst
    cases hfirst
  simpa [isNamePart] using houtside

/-- What follows with a name starts blank. -/
theorem NameFollows.startsBlank (h : NameFollows name rest) : StartsBlank rest := by
  obtain ⟨blanks, tail, rfl, hne, hblank, -⟩ := h
  obtain ⟨c, others, rfl⟩ := List.exists_cons_of_ne_nil hne
  exact ⟨c, rfl, hblank c List.mem_cons_self⟩

/-- **A name that follows in front of blanks** does so whatever stands behind them. -/
theorem NameFollows.change_behind (h : NameFollows name (within ++ rest)) (hidentifier : IsIdentifier name)
    (hsolid : EndsSolid within) (hblank : StartsBlank rest) (hblank' : StartsBlank rest') :
    NameFollows name (within ++ rest') := by
  obtain ⟨blanks, tail, hparts, hne, hallBlank, hends⟩ := h
  obtain ⟨more, rfl, rfl⟩ := exists_of_word_before_blank hsolid hblank hparts hallBlank hidentifier.not_isBlank
  refine ⟨blanks, more ++ rest', by simp, hne, hallBlank, ?_⟩
  cases more with
  | nil => exact hblank'.endsName
  | cons c others => exact hends

/-- Blanks end apart. -/
theorem endsApart_of_isBlank (halone : ∀ c ∈ before.getLast?, isBlank c = true) : EndsApart before := by
  intro c hlast
  rw [Bool.eq_false_iff]
  intro hpart
  have hblank := halone c hlast
  rw [not_isBlank_of_isIdentifierPart hpart] at hblank
  cases hblank

/-- The keyword ends solid. -/
theorem endsSolid_classKeyword : EndsSolid classKeyword := ⟨'s', rfl, by decide⟩

/-- **The first declaration stays the first one** whatever follows its keyword, if the name does. -/
theorem FirstClass.change_behind (hfirst : FirstClass name (before ++ classKeyword ++ rest) before rest)
    (hidentifier : IsIdentifier name) (hnamed : NameFollows name rest') :
    FirstClass name (before ++ classKeyword ++ rest') before rest' := by
  refine ⟨rfl, ⟨hfirst.declares.alone, hnamed⟩, fun front back hparts hdeclares => ?_⟩
  by_contra hearlier
  rw [List.append_assoc] at hparts
  obtain ⟨within, rfl, rfl⟩ := exists_of_starts_before isIdentifierPart_of_mem_classKeyword
    (endsApart_of_isBlank hfirst.declares.alone) hparts (Nat.lt_of_not_le hearlier)
  -- the name that follows the earlier keyword follows it in the other text, too
  have hfollows := hdeclares.named
  rw [← List.append_assoc] at hfollows
  have hbefore' := hfollows.change_behind hidentifier (endsSolid_classKeyword.prepend within) hnamed.startsBlank
    hfirst.declares.named.startsBlank
  exact hearlier (hfirst.first front _ (by simp) ⟨hdeclares.alone, hbefore'⟩)

/-! ## The head of the second run -/

/-- The head of a class starts with the keyword and a blank. -/
theorem ClassHead.IsFirst.exists_head (h : cut.IsFirst name text) :
    ∃ space more, isBlank space = true ∧ cut.head = classKeyword ++ space :: more := by
  obtain ⟨after, hfirst, hhead⟩ := h.starts
  obtain ⟨inside, hbody⟩ := List.head?_eq_some_iff.mp h.opens
  obtain ⟨space, hfirst', hblank⟩ := hfirst.declares.named.startsBlank
  obtain ⟨others, rfl⟩ := List.head?_eq_some_iff.mp hfirst'
  rw [hbody] at hhead
  have hnotBrace : space ≠ '{' := by
    rintro rfl
    exact absurd hblank (by decide)
  -- the brace stands neither in the keyword nor right behind it
  rcases List.append_eq_append_iff.mp hhead with ⟨between, hwhole, hparts⟩ | ⟨more, hwhole, hparts⟩
  case inl =>
    cases between with
    | nil => exact absurd (List.cons.inj hparts).1.symm hnotBrace
    | cons c others =>
      obtain rfl : '{' = c := (List.cons.inj hparts).1
      have hletter : '{' ∈ classKeyword := by
        rw [hwhole]
        simp
      exact absurd hletter (by decide)
  case inr =>
    cases more with
    | nil => exact absurd (List.cons.inj hparts).1 hnotBrace
    | cons c others =>
      obtain rfl : space = c := (List.cons.inj hparts).1
      exact ⟨space, others, hblank, hwhole⟩

/-- Blanks behind a text that ends solid are its trailing ones. -/
theorem trailingBlanks_append {front blanks : List Char} (hsolid : EndsSolid front)
    (hblank : ∀ c ∈ blanks, isBlank c = true) : trailingBlanks (front ++ blanks) = blanks := by
  obtain ⟨c, hlast, hc⟩ := hsolid
  have hstops : ∀ d ∈ front.reverse.head?, isBlank d = false := by
    rw [List.head?_reverse]
    intro d hmem
    obtain rfl := Option.some.inj ((Option.mem_def.mp hlast).symm.trans (Option.mem_def.mp hmem))
    exact hc
  have hblank' : ∀ d ∈ blanks.reverse, isBlank d = true := fun d hmem => hblank d (List.mem_reverse.mp hmem)
  rw [trailingBlanks, List.reverse_append, (takeWhile_dropWhile_append hblank' hstops).1, List.reverse_reverse]

section

variable (hne : base ≠ []) (hsolid : ∀ c ∈ base, isBlank c = false) (hunopened : '{' ∉ base)

include hne hsolid in
/-- The new head ends solid. -/
theorem endsSolid_inheritingHead (name : List Char) : EndsSolid (inheritingHead name base) := by
  have hends : EndsSolid base :=
    ⟨base.getLast hne, List.getLast?_eq_some_getLast hne, hsolid _ (List.getLast_mem hne)⟩
  exact hends.prepend _

include hunopened in
/-- **The new head is found again**, up to the brace of the old one. -/
theorem ClassHead.IsFirst.replace (h : cut.IsFirst name text) (hidentifier : IsIdentifier name) :
    IsFirst name (cut.replace (inheritingHead name base))
      ⟨cut.before, inheritingHead name base ++ trailingBlanks cut.head, cut.body⟩ := by
  obtain ⟨after, hfirst, -⟩ := h.starts
  have hnamed : NameFollows name
      (' ' :: (name ++ ' ' :: (':' :: ' ' :: base)) ++ trailingBlanks cut.head ++ cut.body) := by
    refine ⟨[' '], ' ' :: (':' :: ' ' :: base) ++ trailingBlanks cut.head ++ cut.body, by simp, by simp, ?_, ?_⟩
    · exact List.forall_mem_singleton.mpr (by decide)
    · exact StartsBlank.endsName ⟨' ', rfl, by decide⟩
  have hagain := (hfirst.parts ▸ hfirst).change_behind hidentifier hnamed
  rw [ClassHead.replace, inheritingHead_eq]
  refine ⟨⟨_, by simpa using hagain, by simp⟩, h.opens, ?_⟩
  · have hblank : '{' ∉ trailingBlanks cut.head := fun hmem =>
      absurd ((endsInBlanks_trailingBlanks cut.head).blank '{' hmem) (by decide)
    have hletters : '{' ∉ name := fun hmem => absurd (hidentifier.isIdentifierPart '{' hmem) (by decide)
    have hkeyword : '{' ∉ classKeyword := by decide
    simp [hblank, hletters, hkeyword, hunopened]

include hne hsolid in
/-- **The new head is replaced by itself.** -/
theorem ClassHead.replace_again (cut : ClassHead) (name : List Char) :
    ClassHead.replace ⟨cut.before, inheritingHead name base ++ trailingBlanks cut.head, cut.body⟩
      (inheritingHead name base) = cut.replace (inheritingHead name base) := by
  have hblank := (endsInBlanks_trailingBlanks cut.head).blank
  rw [ClassHead.replace, ClassHead.replace, trailingBlanks_append (endsSolid_inheritingHead hne hsolid name) hblank]

/-! ## The namespace is found again -/

include hsolid in
/-- **The new head declares no namespace**, whatever the names in it are. -/
theorem declaresNoNamespace_inheritingHead {blanks : List Char} (hidentifier : IsIdentifier name)
    (hblank : ∀ c ∈ blanks, isBlank c = true) (before inside : List Char) :
    DeclaresNoNamespace before (inheritingHead name base ++ blanks) ('{' :: inside) := by
  have hparts : inheritingHead name base ++ blanks =
      classKeyword ++ [' '] ++ (name ++ [' '] ++ ([':', ' '] ++ (base ++ blanks))) := by
    rw [inheritingHead_eq]
    simp
  have hspace : ∀ c ∈ [' '], isBlank c = true := List.forall_mem_singleton.mpr (by decide)
  -- behind the names stand a colon and a brace, which open no name
  rw [hparts]
  refine .append (declaresNoNamespace_of_notMem (by decide)) (.append ?_ (.append ?_ ?_))
  · exact declaresNoNamespace_of_word hidentifier.not_isBlank hspace (c := ':') (by decide) (by decide) (by decide)
  · exact declaresNoNamespace_of_notMem (by decide)
  · exact declaresNoNamespace_of_word hsolid hblank (by decide) (by decide) (by decide)

include hsolid in
/-- **The text declares the namespace that it declared**, if the old head declares none either. -/
theorem map_name_find?_replace (h : cut.IsFirst name text) (hidentifier : IsIdentifier name)
    (hsilent : ¬HoldsWord namespaceKeyword cut.head) :
    (NamespaceDeclaration.find? (cut.replace (inheritingHead name base))).map (·.name) =
      (NamespaceDeclaration.find? text).map (·.name) := by
  obtain ⟨space, more, hspace, hhead⟩ := h.exists_head
  obtain ⟨inside, hbody⟩ := List.head?_eq_some_iff.mp h.opens
  obtain ⟨after, hfirst, -⟩ := h.starts
  have hforeign : ∀ c ∈ cut.body.head?, c ∉ namespaceKeyword := by
    rw [h.opens]
    rintro c ⟨⟩
    decide
  -- both heads declare no namespace, and the words around them end at the same places
  have hblank := (endsInBlanks_trailingBlanks cut.head).blank
  have hquiet := declaresNoNamespace_of_not_holdsWord hsilent hforeign cut.before
  have hquiet' := declaresNoNamespace_inheritingHead hsolid hidentifier hblank cut.before inside
  rw [← hbody, inheritingHead_eq, List.append_assoc] at hquiet'
  rw [hhead] at hquiet
  have hsame := NamespaceDeclaration.map_name_find?_change (endsApart_of_isBlank hfirst.declares.alone)
    endsSolid_classKeyword hforeign hquiet hquiet' ⟨space, rfl, hspace⟩ ⟨' ', rfl, by decide⟩
  rw [← hhead] at hsame
  rw [ClassHead.replace, inheritingHead_eq, h.parts]
  simpa using hsame

/-! ## The second run -/

/-- **A line that stands in a text** stands within the head or outside of it. -/
theorem ClassHead.IsFirst.infix_iff (h : cut.IsFirst name text) (hdotted : IsDottedName imported) :
    importLine imported <:+: text ↔ importLine imported <:+: cut.head ∨ cut.Spares (importLine imported) := by
  obtain ⟨after, hfirst, -⟩ := h.starts
  obtain ⟨space, more, hblank, hhead⟩ := h.exists_head
  have hbrace : ∀ c ∈ cut.body.head?, c ∉ importLine imported := by
    rw [h.opens]
    rintro c ⟨⟩
    exact brace_notMem_importLine hdotted
  rw [ClassHead.Spares, h.parts, infix_append_iff_of_head hbrace, hhead,
    importLine_infix_classKeyword hdotted hfirst.declares.alone hblank, importLine_infix_behind_classKeyword hblank,
    or_comm (b := importLine imported <:+: more), or_assoc]

/-- A head that declares no namespace covers no declaration. -/
theorem ClassHead.IsFirst.not_covers {declaration : NamespaceDeclaration} (h : cut.IsFirst name text)
    (hsilent : ¬HoldsWord namespaceKeyword cut.head) (hfound : NamespaceDeclaration.find? text = some declaration) :
    ¬cut.Covers declaration := by
  have hforeign : ∀ c ∈ cut.body.head?, c ∉ namespaceKeyword := by
    rw [h.opens]
    rintro c ⟨⟩
    decide
  have hfirst := NamespaceDeclaration.isFirst_of_find? hfound
  rintro ⟨hstarts, hends⟩
  have hquiet := declaresNoNamespace_of_not_holdsWord hsilent hforeign cut.before
  rcases hquiet.cases hfirst.declares (h.parts.symm.trans hfirst.parts) with hearlier | ⟨between, hbehind, -⟩
  · omega
  · rw [hbehind, List.length_append, List.length_append] at hends
    omega

include hne hsolid hunopened in
/-- **A second run succeeds** where a head has been replaced, and changes nothing exactly if no import is needed
then. -/
theorem ClassHead.IsFirst.inheritFrom_replace (h : cut.IsFirst name text) (hidentifier : IsIdentifier name)
    (hnotUsing : name ≠ "using".toList) (hnotNamespace : name ≠ "namespace".toList)
    (hdotted : ∀ imported ∈ baseNamespace, IsDottedName imported) :
    ∃ again, inheritFrom (cut.replace (inheritingHead name base)) name base baseNamespace = .ok again ∧
      (again = ⟨cut.replace (inheritingHead name base), none⟩ ↔
        ∀ imported ∈ baseNamespace, ∀ declaration,
          ¬NeedsImport (cut.replace (inheritingHead name base)) imported declaration) := by
  have hfirst := h.replace hunopened hidentifier
  by_cases hneeded : ∃ imported ∈ baseNamespace, ∃ declaration,
      NeedsImport (cut.replace (inheritingHead name base)) imported declaration
  case neg =>
    push Not at hneeded
    refine ⟨_, inheritFrom_of_isFirst (addImport_eq_self hneeded) hidentifier hfirst base, iff_of_true ?_ hneeded⟩
    rw [ClassHead.replace_again hne hsolid]
  case pos =>
    obtain ⟨imported, rfl, declaration, hneeded⟩ := hneeded
    -- an import in front of a class that has a head leaves it one
    have hseam := NamespaceDeclaration.seam hneeded.found hidentifier hnotNamespace
    have hharmless := harmless_import hidentifier hnotUsing (hdotted imported rfl) declaration.before declaration.rest
    rw [← NamespaceDeclaration.append_of_findAfter? hneeded.found, ← List.append_nil declaration.before] at hfirst
    obtain ⟨cut', hfirst'⟩ := ClassHead.exists_isFirst_insert hfirst hidentifier hseam hseam.harmless_nil hharmless
    refine ⟨_, inheritFrom_of_isFirst hneeded.addImport_eq hidentifier hfirst' base, iff_of_false ?_ ?_⟩
    · intro hsame
      cases congrArg EditedSource.imported hsame
    · exact fun hneedless => hneedless imported rfl declaration hneeded

include hsolid in
/-- **An import is needed the next time** where the head is replaced and the line stood nowhere else. -/
theorem ClassHead.IsFirst.needsImport_replace_iff (h : cut.IsFirst name text) (hidentifier : IsIdentifier name)
    (hsilent : ¬HoldsWord namespaceKeyword cut.head) (hdotted : IsDottedName imported)
    (hneedless : ∀ declaration, ¬NeedsImport text imported declaration) :
    (∃ declaration, NeedsImport (cut.replace (inheritingHead name base)) imported declaration) ↔
      ∃ declaration, NamespaceDeclaration.find? text = some declaration ∧ declaration.name ≠ imported ∧
        importLine imported <:+: cut.head ∧ ¬cut.Spares (importLine imported) := by
  have hsame := map_name_find?_replace hsolid h hidentifier hsilent
  have hline := infix_replace_iff hdotted ((ClassHead.find?_eq_some_iff hidentifier).mpr h) base
  -- an import line holds a blank, which no name does
  have hnameless : ¬importLine imported <:+: name := not_infix_of_not_isBlank hidentifier.not_isBlank
  have hbaseless : ¬importLine imported <:+: base := not_infix_of_not_isBlank hsolid
  rw [or_iff_left (not_or.mpr ⟨hnameless, hbaseless⟩)] at hline
  constructor
  · rintro ⟨declaration, hfound, hdiffers, habsent⟩
    rw [hfound, Option.map_some, eq_comm, Option.map_eq_some_iff] at hsame
    obtain ⟨declaration', hfound', hname⟩ := hsame
    have hdiffers' : declaration'.name ≠ imported := hname ▸ hdiffers
    have hpresent : importLine imported <:+: text := by
      by_contra hmissing
      exact hneedless declaration' ⟨hfound', hdiffers', hmissing⟩
    rw [hline] at habsent
    exact ⟨declaration', hfound', hdiffers', ((h.infix_iff hdotted).mp hpresent).resolve_right habsent, habsent⟩
  · rintro ⟨declaration, hfound, hdiffers, -, hlost⟩
    rw [hfound, Option.map_some, Option.map_eq_some_iff] at hsame
    obtain ⟨declaration', hfound', hname⟩ := hsame
    exact ⟨declaration', hfound', hname ▸ hdiffers, hline.not.mpr hlost⟩

include hne hsolid hunopened in
/-- **A second run changes nothing but for an import that the first one took away.** For every text, every identifier
but the two keywords and every base class without blanks and braces, whose namespace may be given: if the class has been
let inherit, and the word for namespaces does not occur in the head that it had, then a second run succeeds. If the
letters of the word for imports do not occur there either, it changes nothing; and in any case it changes nothing
exactly if the line, where another namespace is declared and the head held it, also stood outside of the head. -/
theorem inheritFrom_again (hidentifier : IsIdentifier name) (hnotUsing : name ≠ "using".toList)
    (hnotNamespace : name ≠ "namespace".toList) (hdotted : ∀ imported ∈ baseNamespace, IsDottedName imported)
    (hfirst : cut.IsFirst name text) (hsilent : ¬HoldsWord namespaceKeyword cut.head)
    (hdone : inheritFrom text name base baseNamespace = .ok edited) :
    ∃ again, inheritFrom edited.text name base baseNamespace = .ok again ∧
      (¬"using".toList <:+: cut.head → again = ⟨edited.text, none⟩) ∧
      (again = ⟨edited.text, none⟩ ↔
        ∀ imported ∈ baseNamespace, ∀ declaration, NamespaceDeclaration.find? text = some declaration →
          declaration.name ≠ imported → importLine imported <:+: cut.head → cut.Spares (importLine imported)) := by
  have hsettled : (∀ imported ∈ baseNamespace, ∀ declaration, ¬NeedsImport edited.text imported declaration) ↔
      ∀ imported ∈ baseNamespace, ∀ declaration, NamespaceDeclaration.find? text = some declaration →
        declaration.name ≠ imported → importLine imported <:+: cut.head → cut.Spares (importLine imported) := by
    by_cases hneeded : ∃ imported ∈ baseNamespace, ∃ declaration, NeedsImport text imported declaration
    case pos =>
      -- the line is added, and stays where it is
      obtain ⟨imported, rfl, declaration, hneeded⟩ := hneeded
      have houtside := hfirst.not_covers hsilent hneeded.found
      have hkept := hneeded.infix_iff hidentifier hnotUsing hnotNamespace (hdotted imported rfl) hfirst hdone
      refine iff_of_true ?_ ?_
      · rintro other ⟨⟩ declaration' hneeded'
        exact hneeded'.absent (hkept.mpr (.inr houtside))
      · rintro other ⟨⟩ declaration' - - hinHead
        exact absurd ((hfirst.infix_iff (hdotted imported rfl)).mpr (.inl hinHead)) hneeded.absent
    case neg =>
      push Not at hneeded
      have hresult := inheritFrom_of_isFirst (addImport_eq_self hneeded) hidentifier hfirst base
      obtain rfl := Except.ok.inj (hdone.symm.trans hresult)
      refine forall₂_congr fun imported hmem => ?_
      have hchanged := hfirst.needsImport_replace_iff hsolid hidentifier hsilent (hdotted imported hmem)
        (hneeded imported hmem)
      rw [← not_exists, hchanged]
      push Not
      rfl
  obtain ⟨cut', hfound, rfl⟩ := exists_of_inheritFrom hdone
  have hfirst' := (ClassHead.find?_eq_some_iff hidentifier).mp hfound
  obtain ⟨again, hresult, hfixed⟩ :=
    hfirst'.inheritFrom_replace hne hsolid hunopened hidentifier hnotUsing hnotNamespace hdotted
  refine ⟨again, hresult, fun hsilent' => hfixed.mpr (hsettled.mpr ?_), hfixed.trans hsettled⟩
  -- without its first word there is no line in the head
  intro imported _ declaration _ _ hinHead
  have hopens : "using".toList <:+: importLine imported := by
    rw [importLine_eq]
    exact (List.prefix_append _ _).isInfix
  exact absurd (hopens.trans hinHead) hsilent'

end

/-- A class with a base list and a comment, in a text that needs an import. -/
theorem inheritFrom_again_baseList :
    let text := "namespace App.Views;\n\nclass Main : Old // namespaces\n\t\x7b\n\x7d\n".toList
    let edited := "using App;\n\nnamespace App.Views;\n\nclass Main : Base<T>\n\t\x7b\n\x7d\n".toList
    inheritFrom text "Main".toList "Base<T>".toList (some "App".toList) = .ok ⟨edited, some "App".toList⟩ ∧
      inheritFrom edited "Main".toList "Base<T>".toList (some "App".toList) = .ok ⟨edited, none⟩ := by
  intro text edited
  have hspelled : text = _ := String.toList_ofList
  have hspelled' : edited = _ := String.toList_ofList
  have hidentifier : IsIdentifier "Main".toList := ⟨by decide, List.all_eq_true.mp (by decide)⟩
  have hdotted : ∀ imported ∈ some "App".toList, IsDottedName imported := by
    rintro imported ⟨⟩
    exact .single ⟨by decide, List.all_eq_true.mp (by decide)⟩
  have hevaluated : (ClassHead.find? "Main".toList text = some ⟨"namespace App.Views;\n\n".toList,
        "class Main : Old // namespaces\n\t".toList, "\x7b\n\x7d\n".toList⟩ ∧
      ¬HoldsWord namespaceKeyword "class Main : Old // namespaces\n\t".toList ∧
      ¬"using".toList <:+: "class Main : Old // namespaces\n\t".toList) ∧
      inheritFrom text "Main".toList "Base<T>".toList (some "App".toList) = .ok ⟨edited, some "App".toList⟩ := by
    rw [hspelled, hspelled']
    repeat rw [String.toList_ofList]
    decide +kernel
  obtain ⟨⟨hfound, hsilent, hunused⟩, hdone⟩ := hevaluated
  have hfirst := (ClassHead.find?_eq_some_iff hidentifier).mp hfound
  have hunblank : ("Base<T>".toList.all fun c => !isBlank c) = true := by decide
  have hsolid : ∀ c ∈ "Base<T>".toList, isBlank c = false := fun c hmem => by
    simpa using List.all_eq_true.mp hunblank c hmem
  obtain ⟨again, hresult, hunchanged, -⟩ := inheritFrom_again (by decide) hsolid (by decide) hidentifier (by decide)
    (by decide) hdotted hfirst hsilent hdone
  obtain rfl := hunchanged hunused
  exact ⟨hdone, hresult⟩

/-- **A second run that adds an import**: the first one found the line within a longer word of the head, and took it
away with the head. -/
theorem inheritFrom_again_adds_import :
    let text := "namespace A;\n\nclass Foo // reusing App;\n\x7b\n\x7d\n".toList
    let edited := "namespace A;\n\nclass Foo : Base\n\x7b\n\x7d\n".toList
    (ClassHead.find? "Foo".toList text =
        some ⟨"namespace A;\n\n".toList, "class Foo // reusing App;\n".toList, "\x7b\n\x7d\n".toList⟩ ∧
      ¬HoldsWord namespaceKeyword "class Foo // reusing App;\n".toList ∧
      ¬HoldsWord "using".toList "class Foo // reusing App;\n".toList) ∧
    inheritFrom text "Foo".toList "Base".toList (some "App".toList) = .ok ⟨edited, none⟩ ∧
    inheritFrom edited "Foo".toList "Base".toList (some "App".toList) =
      .ok ⟨"using App;\n\n".toList ++ edited, some "App".toList⟩ := by
  intro text edited
  have hspelled : text = _ := String.toList_ofList
  have hspelled' : edited = _ := String.toList_ofList
  rw [hspelled, hspelled']
  repeat rw [String.toList_ofList]
  decide +kernel

end ComponentScaffold
