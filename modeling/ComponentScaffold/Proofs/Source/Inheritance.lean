import ComponentScaffold.Proofs.Source.Insertion
import ComponentScaffold.Proofs.Source.NamespaceDeclaration
import ComponentScaffold.Proofs.Source.ViewModelText

/-! # Letting a class inherit

A class that is let inherit changes in two places at most: its head is replaced, and an import may be inserted
before the namespace declaration. The import comes first, and the class is looked for in the text with it; that
finds the class that was there before.

* **`NamespaceDeclaration.seam`**, **`harmless_import`** — the import is inserted where no class is made or hidden.
* **`NeedsImport`** — when an import is inserted.
* **`Inherits`** — what the two edits make of a text.
* **`inheritFrom_edits`** — they are made if the class has a head, and refused otherwise. -/

namespace ComponentScaffold

open Text

variable {text name base : List Char} {declaration : NamespaceDeclaration}

/-! ## The seam before a namespace declaration -/

/-- What can stand in an identifier is a letter, a number or an underscore. -/
theorem Text.isNamePart_of_isIdentifierPart {c : Char} (h : isIdentifierPart c = true) : isNamePart c = true := by
  simp only [isNamePart, isAlphanumeric, isAlphabetic, isNumber, Bool.or_eq_true, beq_iff_eq, CodeRanges.contains_iff]
  rcases isIdentifierPart_iff.mp h with hupper | hlower | hdigit | rfl
  · exact .inl (.inl ⟨(0x41, 0x5A), .head _, hupper⟩)
  · exact .inl (.inl ⟨(0x61, 0x7A), .tail _ (.head _), hlower⟩)
  · exact .inl (.inr ⟨(0x30, 0x39), .head _, hdigit⟩)
  · exact .inr rfl

/-- Where a name ends, no identifier goes on. -/
theorem EndsName.not_isIdentifierPart {tail : List Char} (hends : EndsName tail) :
    ∀ c ∈ tail.head?, isIdentifierPart c = false := by
  intro c hmem
  rw [Bool.eq_false_iff]
  intro hpart
  obtain ⟨hletter, hunderscore⟩ := hends c hmem
  have hwithin := isNamePart_of_isIdentifierPart hpart
  simp [isNamePart, hletter, hunderscore] at hwithin

/-- **Behind a seam another word may stand**, with a blank behind it. -/
theorem opensApart_word {word : List Char} (hidentifier : IsIdentifier name) (hword : IsIdentifier word)
    (hdiffers : name ≠ word) {blank : Char} (hblank : isBlank blank = true) (rest : List Char) :
    OpensApart name (word ++ blank :: rest) := by
  refine ⟨hword.solid_head _, fun tail hparts hends => hdiffers ?_⟩
  have hstops : ∀ c ∈ (blank :: rest).head?, isIdentifierPart c = false := by
    intro c hmem
    obtain rfl : blank = c := Option.some_inj.mp hmem
    exact Bool.eq_false_iff.mpr fun hpart => by simp [not_isBlank_of_isIdentifierPart hpart] at hblank
  rw [← (takeWhile_dropWhile_append hword.isIdentifierPart hstops).1, hparts]
  exact (takeWhile_dropWhile_append hidentifier.isIdentifierPart hends.not_isIdentifierPart).1.symm

namespace NamespaceDeclaration

/-- **A declaration is behind a seam.** -/
theorem seam (hfound : find? text = some declaration) (hidentifier : IsIdentifier name)
    (hdiffers : name ≠ namespaceKeyword) : Seam name declaration.before declaration.rest := by
  have hfirst := isFirst_of_find? hfound
  obtain ⟨blanks, tail, hrest, hne, hblank, -⟩ := hfirst.declares.named
  obtain ⟨space, others, rfl⟩ := List.exists_cons_of_ne_nil hne
  refine ⟨hfirst.declares.apart, ?_, ?_⟩
  · have hkeyword : IsIdentifier namespaceKeyword := ⟨by decide, List.all_eq_true.mp (by decide)⟩
    rw [hrest, List.append_assoc, List.append_assoc]
    exact opensApart_word hidentifier hkeyword hdiffers (hblank space List.mem_cons_self) _
  · rw [hrest]
    rintro c ⟨⟩
    decide

end NamespaceDeclaration

/-- **An import is harmless** at a seam. -/
theorem harmless_import (hidentifier : IsIdentifier name) (hdiffers : name ≠ "using".toList)
    (hdotted : IsDottedName base) (front rest : List Char) :
    Harmless name front (importLine base ++ "\n\n".toList) rest := by
  refine ⟨keepsApart_importLines hdotted, fun c hlast => ?_, ?_, ?_⟩
  · have hgap : "\n\n".toList.getLast? = some '\n' := by decide
    rw [← List.append_assoc, List.getLast?_append, hgap, Option.some_or] at hlast
    obtain rfl : '\n' = c := Option.some_inj.mp hlast
    decide
  · have hopening : "using ".toList = "using".toList ++ [' '] := by decide
    have hword : IsIdentifier "using".toList := ⟨by decide, List.all_eq_true.mp (by decide)⟩
    have hline : importLine base ++ "\n\n".toList ++ rest =
        "using".toList ++ ' ' :: (base ++ ";".toList ++ "\n\n".toList ++ rest) := by
      unfold importLine
      -- Named, the literals are compared by name and not letter by letter.
      generalize "using ".toList = opening, "using".toList = keyword, ";".toList = ending, "\n\n".toList = gap at *
      subst hopening
      simp
    rw [hline]
    exact opensApart_word hidentifier hword hdiffers (by decide) _
  · unfold importLine
    simp only [List.mem_append, not_or]
    exact ⟨⟨⟨by decide, hdotted.not_mem (by decide) (by decide)⟩, by decide⟩, by decide⟩

/-! ## Both edits -/

/-- **An import is needed** before a namespace declaration: it is the first one and declares another namespace,
and the text has no such line yet. -/
structure NeedsImport (text base : List Char) (declaration : NamespaceDeclaration) : Prop where
  /-- It is the first declaration. -/
  found : NamespaceDeclaration.find? text = some declaration
  /-- It declares another namespace. -/
  differs : declaration.name ≠ base
  /-- The line is not there. -/
  absent : ¬importLine base <:+: text

/-- **A text ends in blanks**, and in no others than these. -/
structure EndsInBlanks (text solid blanks : List Char) : Prop where
  /-- The blanks stand at its end. -/
  parts : text = solid ++ blanks
  /-- They are blanks. -/
  blank : ∀ c ∈ blanks, isBlank c = true
  /-- No blank stands before them. -/
  whole : ∀ c ∈ solid.getLast?, isBlank c = false

/-- **A class is let inherit**: its head is replaced up to the blanks at the end. -/
inductive Inherits (text name base : List Char) (baseNamespace : Option (List Char)) : EditedSource → Prop
  /-- No import is needed. -/
  | plain {cut : ClassHead} {solid blanks : List Char} : cut.IsFirst name text → EndsInBlanks cut.head solid blanks →
    (∀ imported ∈ baseNamespace, ∀ declaration, ¬NeedsImport text imported declaration) →
    Inherits text name base baseNamespace
      ⟨cut.before ++ inheritingHead name base ++ blanks ++ cut.body, none⟩
  /-- An import is inserted before the class. -/
  | importBefore {cut : ClassHead} {solid blanks imported between : List Char} {declaration : NamespaceDeclaration} :
    cut.IsFirst name text → EndsInBlanks cut.head solid blanks → baseNamespace = some imported →
    NeedsImport text imported declaration → cut.before = declaration.before ++ between →
    Inherits text name base baseNamespace
      ⟨declaration.before ++ importLine imported ++ "\n\n".toList ++ between ++ inheritingHead name base ++ blanks ++
        cut.body, some imported⟩
  /-- An import is inserted behind the head. -/
  | importBehind {cut : ClassHead} {solid blanks imported between : List Char} {declaration : NamespaceDeclaration} :
    cut.IsFirst name text → EndsInBlanks cut.head solid blanks → baseNamespace = some imported →
    NeedsImport text imported declaration → cut.body = between ++ declaration.rest →
    Inherits text name base baseNamespace
      ⟨cut.before ++ inheritingHead name base ++ blanks ++ between ++ importLine imported ++ "\n\n".toList ++
        declaration.rest, some imported⟩

variable {baseNamespace : Option (List Char)} {cut : ClassHead}

/-- The blanks at the end of a text are its trailing ones. -/
theorem endsInBlanks_trailingBlanks (text : List Char) : EndsInBlanks text (trimEnd text) (trailingBlanks text) := by
  refine ⟨(trimEnd_append_trailingBlanks text).symm, fun c hmem => ?_, fun c hlast => ?_⟩
  · rw [trailingBlanks, List.mem_reverse] at hmem
    exact List.mem_takeWhile_imp hmem
  · have hsolid := List.head?_dropWhile_not isBlank text.reverse
    rw [trimEnd, List.getLast?_reverse] at hlast
    rw [Option.mem_def.mp hlast] at hsolid
    simpa using hsolid

/-- A text is left as it is where no import is needed. -/
theorem addImport_eq_self (hneedless : ∀ imported ∈ baseNamespace, ∀ declaration,
    ¬NeedsImport text imported declaration) : addImport text baseNamespace = (text, none) := by
  unfold addImport
  split
  case h_1 imported declaration hfound =>
    have hskipped : ¬(declaration.name ≠ imported ∧ occursIn (importLine imported) text = false) := by
      rintro ⟨hdiffers, habsent⟩
      rw [Bool.eq_false_iff, ne_eq, occursIn_iff] at habsent
      exact hneedless imported rfl declaration ⟨hfound, hdiffers, habsent⟩
    rw [if_neg (by simpa using hskipped)]
  case h_2 => rfl

/-- An import that is needed is inserted. -/
theorem NeedsImport.addImport_eq (hneeded : NeedsImport text base declaration) :
    addImport text (some base) =
      (declaration.before ++ (importLine base ++ "\n\n".toList) ++ declaration.rest, some base) := by
  have habsent : occursIn (importLine base) text = false := by
    rw [Bool.eq_false_iff, ne_eq, occursIn_iff]
    exact hneeded.absent
  simp [addImport, hneeded.found, hneeded.differs, habsent]

/-- **The class is let inherit** in the text with the import, if there is one. -/
theorem inheritFrom_of_isFirst {edited : List Char} {imported : Option (List Char)}
    (hedit : addImport text baseNamespace = (edited, imported)) (hidentifier : IsIdentifier name)
    (hfirst : cut.IsFirst name edited) (base : List Char) :
    inheritFrom text name base baseNamespace = .ok ⟨cut.replace (inheritingHead name base), imported⟩ := by
  have hfound := (ClassHead.find?_eq_some_iff hidentifier).mpr hfirst
  simp only [inheritFrom, hedit, hfound]

/-- A class without a head is not let inherit. -/
theorem inheritFrom_of_not_isFirst {edited : List Char} {imported : Option (List Char)}
    (hedit : addImport text baseNamespace = (edited, imported)) (hidentifier : IsIdentifier name)
    (hheadless : ¬∃ cut : ClassHead, cut.IsFirst name edited) (base : List Char) :
    inheritFrom text name base baseNamespace = .error (.declarationNotFound (String.ofList name)) := by
  have habsent : ClassHead.find? name edited = none := by
    rw [Option.eq_none_iff_forall_ne_some]
    exact fun cut hfound => hheadless ⟨cut, (ClassHead.find?_eq_some_iff hidentifier).mp hfound⟩
  simp only [inheritFrom, hedit, habsent]

section

variable (hidentifier : IsIdentifier name) (hnotUsing : name ≠ "using".toList)
  (hnotNamespace : name ≠ "namespace".toList) (hdotted : ∀ imported ∈ baseNamespace, IsDottedName imported)

include hidentifier hnotUsing hnotNamespace hdotted

/-- A class without a head is refused, whatever its base class. -/
theorem inheritFrom_refused (hheadless : ¬∃ cut : ClassHead, cut.IsFirst name text) (base : List Char) :
    inheritFrom text name base baseNamespace = .error (.declarationNotFound (String.ofList name)) := by
  by_cases hneeded : ∃ imported ∈ baseNamespace, ∃ declaration, NeedsImport text imported declaration
  case neg =>
    push Not at hneeded
    exact inheritFrom_of_not_isFirst (addImport_eq_self hneeded) hidentifier hheadless base
  case pos =>
    obtain ⟨imported, rfl, declaration, hneeded⟩ := hneeded
    refine inheritFrom_of_not_isFirst hneeded.addImport_eq hidentifier ?_ base
    rintro ⟨cut, hfirst⟩
    -- the text itself is the one with nothing inserted, so it would have a head too
    have hseam := NamespaceDeclaration.seam hneeded.found hidentifier hnotNamespace
    have hharmless := harmless_import hidentifier hnotUsing (hdotted imported rfl) declaration.before declaration.rest
    obtain ⟨cut, hfirst⟩ := ClassHead.exists_isFirst_insert hfirst hidentifier hseam hharmless hseam.harmless_nil
    rw [List.append_nil, NamespaceDeclaration.append_of_findAfter? hneeded.found] at hfirst
    exact hheadless ⟨cut, hfirst⟩

/-- A class with a head is let inherit. -/
theorem inheritFrom_made (h : cut.IsFirst name text)
    (houtside : ∀ declaration, NamespaceDeclaration.find? text = some declaration →
      ¬(cut.before.length ≤ declaration.before.length ∧
        declaration.before.length < cut.before.length + cut.head.length)) (base : List Char) :
    ∃ edited, inheritFrom text name base baseNamespace = .ok edited ∧
      Inherits text name base baseNamespace edited := by
  have hblanks := endsInBlanks_trailingBlanks cut.head
  by_cases hneeded : ∃ imported ∈ baseNamespace, ∃ declaration, NeedsImport text imported declaration
  case neg =>
    push Not at hneeded
    exact ⟨_, inheritFrom_of_isFirst (addImport_eq_self hneeded) hidentifier h base, .plain h hblanks hneeded⟩
  case pos =>
    obtain ⟨imported, rfl, declaration, hneeded⟩ := hneeded
    have hseam := NamespaceDeclaration.seam hneeded.found hidentifier hnotNamespace
    have hharmless := harmless_import hidentifier hnotUsing (hdotted imported rfl) declaration.before declaration.rest
    have hparts := NamespaceDeclaration.append_of_findAfter? hneeded.found
    have hfirst := h
    rw [← hparts] at hfirst
    -- the declaration stands before the class or behind its head, since it does not stand within
    rcases Nat.lt_or_ge declaration.before.length cut.before.length with hbehind | hbefore
    case inl =>
      obtain ⟨between, hstart, hfirst'⟩ := hfirst.insert_before hidentifier hseam hharmless hbehind
      refine ⟨_, inheritFrom_of_isFirst hneeded.addImport_eq hidentifier hfirst' base, ?_⟩
      simpa [ClassHead.replace] using Inherits.importBefore h hblanks rfl hneeded hstart
    case inr =>
      have hbefore : cut.before.length + cut.head.length ≤ declaration.before.length :=
        Nat.not_lt.mp fun hwithin => houtside declaration hneeded.found ⟨hbefore, hwithin⟩
      obtain ⟨between, hending, hfirst'⟩ := hfirst.insert_behind hidentifier hseam hharmless hbefore
      refine ⟨_, inheritFrom_of_isFirst hneeded.addImport_eq hidentifier hfirst' base, ?_⟩
      simpa [ClassHead.replace] using Inherits.importBehind h hblanks rfl hneeded hending

/-- **A class is let inherit in two places.** For every text, every identifier but the two keywords and every base
class, whose namespace may be given: unless the first namespace declaration stands within the head of the class,
the class is refused exactly if it has no head; and otherwise its head is replaced, and the import is inserted
right before the namespace declaration if it is needed. -/
theorem inheritFrom_edits
    (houtside : ∀ (cut : ClassHead) (declaration : NamespaceDeclaration), cut.IsFirst name text →
      NamespaceDeclaration.find? text = some declaration →
      ¬(cut.before.length ≤ declaration.before.length ∧
        declaration.before.length < cut.before.length + cut.head.length)) (base : List Char) :
    (inheritFrom text name base baseNamespace = .error (.declarationNotFound (String.ofList name)) ↔
        ¬∃ cut : ClassHead, cut.IsFirst name text) ∧
      ((∃ cut : ClassHead, cut.IsFirst name text) →
        ∃ edited, inheritFrom text name base baseNamespace = .ok edited ∧
          Inherits text name base baseNamespace edited) := by
  have hmade : (∃ cut : ClassHead, cut.IsFirst name text) →
      ∃ edited, inheritFrom text name base baseNamespace = .ok edited ∧
        Inherits text name base baseNamespace edited := fun ⟨cut, hfirst⟩ =>
    inheritFrom_made hidentifier hnotUsing hnotNamespace hdotted hfirst (fun _ => houtside cut _ hfirst) base
  refine ⟨⟨fun hrefused hheld => ?_, fun hnone => ?_⟩, hmade⟩
  · obtain ⟨edited, hdone, -⟩ := hmade hheld
    rw [hdone] at hrefused
    cases hrefused
  · exact inheritFrom_refused hidentifier hnotUsing hnotNamespace hdotted hnone base

end

/-- A class behind one whose name goes on, in a text that needs an import. -/
theorem inheritFrom_edits_lookalike :
    let text := "using System;\nnamespace App.Views;\nclass MainView \x7b\x7d\nclass Main : Old\n\x7b\n\x7d\n".toList
    let edited : EditedSource :=
      ⟨"using System;\nusing App;\n\nnamespace App.Views;\nclass MainView \x7b\x7d\nclass Main : Base\n\x7b\n\x7d\n".toList,
        some "App".toList⟩
    inheritFrom text "Main".toList "Base".toList (some "App".toList) = .ok edited ∧
      Inherits text "Main".toList "Base".toList (some "App".toList) edited := by
  intro text edited
  have hspelled : text = _ := String.toList_ofList
  have hspelled' : edited = _ := congrArg (EditedSource.mk · (some "App".toList)) String.toList_ofList
  have hidentifier : IsIdentifier "Main".toList := ⟨by decide, List.all_eq_true.mp (by decide)⟩
  have hdotted : ∀ imported ∈ some "App".toList, IsDottedName imported := by
    rintro imported ⟨⟩
    exact .single ⟨by decide, List.all_eq_true.mp (by decide)⟩
  have hevaluated : ClassHead.find? "Main".toList text =
        some ⟨"using System;\nnamespace App.Views;\nclass MainView \x7b\x7d\n".toList, "class Main : Old\n".toList,
          "\x7b\n\x7d\n".toList⟩ ∧
      NamespaceDeclaration.find? text =
        some ⟨"using System;\n".toList,
          "namespace App.Views;\nclass MainView \x7b\x7d\nclass Main : Old\n\x7b\n\x7d\n".toList,
          "App.Views".toList⟩ ∧
      inheritFrom text "Main".toList "Base".toList (some "App".toList) = .ok edited := by
    rw [hspelled, hspelled']
    repeat rw [String.toList_ofList]
    decide +kernel
  obtain ⟨hfound, hdeclared, hresult⟩ := hevaluated
  have hfirst := (ClassHead.find?_eq_some_iff hidentifier).mp hfound
  have houtside : ∀ (cut : ClassHead) (declaration : NamespaceDeclaration), cut.IsFirst "Main".toList text →
      NamespaceDeclaration.find? text = some declaration →
      ¬(cut.before.length ≤ declaration.before.length ∧
        declaration.before.length < cut.before.length + cut.head.length) := by
    intro cut declaration hfirst' hfound'
    obtain rfl := Option.some.inj (hfound.symm.trans ((ClassHead.find?_eq_some_iff hidentifier).mpr hfirst'))
    obtain rfl := Option.some.inj (hdeclared.symm.trans hfound')
    repeat rw [String.toList_ofList]
    decide
  obtain ⟨-, hmade⟩ := inheritFrom_edits hidentifier (by decide) (by decide) hdotted houtside "Base".toList
  obtain ⟨edited', hdone, hinherits⟩ := hmade ⟨_, hfirst⟩
  obtain rfl := Except.ok.inj (hdone.symm.trans hresult)
  exact ⟨hresult, hinherits⟩

end ComponentScaffold
