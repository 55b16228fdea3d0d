import ComponentScaffold.Proofs.Source.NamespaceDeclaration
import ComponentScaffold.Proofs.Source.RegionLens

/-! # A namespace that is filled in

A namespace is written into the region behind the first literal keyword, and it is read where the text first declares
one. Where these two are one place, they stay one, and what was written is what is read.

* **`NamespaceDeclaration.find?_of_replaceRegion`** — a declaration that is filled in is found at its place. -/

namespace ComponentScaffold

open Text

variable {text filled name rest : List Char} {declaration : NamespaceDeclaration}

/-- The marker in front of a namespace is the keyword and a blank. -/
theorem startMarker_codeNamespace : NamespaceToken.codeNamespace.startMarker.toList = namespaceKeyword ++ [' '] := rfl

/-- The marker behind it is a semicolon. -/
theorem endMarker_codeNamespace : NamespaceToken.codeNamespace.endMarker.toList = [';'] := rfl

namespace NamespaceDeclaration

/-- **A declaration stays the first one** whatever follows the blank behind its keyword, if a namespace is named
there. -/
theorem IsFirst.change_behind {other : List Char} (h : declaration.IsFirst text)
    (hkeyword : declaration.rest = namespaceKeyword ++ ' ' :: rest)
    (hnamed : NamesNamespace name (namespaceKeyword ++ ' ' :: other)) :
    IsFirst (declaration.before ++ (namespaceKeyword ++ ' ' :: other))
      ⟨declaration.before, namespaceKeyword ++ ' ' :: other, name⟩ := by
  have hblank (tail : List Char) : StartsBlank (' ' :: tail) := ⟨' ', rfl, by decide⟩
  have hsolid : EndsSolid namespaceKeyword := ⟨'e', rfl, by decide⟩
  refine ⟨rfl, ⟨h.declares.starts, hnamed⟩, fun name front back hparts hdeclares => ?_⟩
  by_contra hearlier
  -- an earlier one would have been there before
  obtain ⟨back', hparts', hdeclares'⟩ := hdeclares.change_behind h.declares.apart hsolid (hblank other) (hblank rest)
    (by rw [← hparts, List.append_assoc]) (Nat.lt_of_not_le hearlier)
  refine hearlier (h.first name front back' ?_ hdeclares')
  rw [h.parts, hkeyword, ← hparts', List.append_assoc]

/-- **A namespace that is filled in is the one that is declared.** If a text declares its first namespace where it first
holds the keyword with a blank behind it, and a dotted name is written into the region that starts there, then the text
declares that name, at the same place. -/
theorem find?_of_replaceRegion (hfound : find? text = some declaration)
    (hliteral : CutsAtFirst NamespaceToken.codeNamespace.startMarker.toList text declaration.before rest)
    (hdotted : IsDottedName name)
    (hfills : replaceRegion text NamespaceToken.codeNamespace.startMarker.toList
      NamespaceToken.codeNamespace.endMarker.toList name = .ok filled) :
    ∃ again, find? filled = some again ∧ again.name = name ∧ again.before = declaration.before ∧
      again.offset = declaration.offset := by
  have hfirst := find?_eq_some_iff.mp hfound
  obtain ⟨before, held, after, hstart, -, rfl⟩ := replaceRegion_eq_ok_iff.mp hfills
  obtain ⟨rfl, -⟩ := hliteral.unique hstart
  have hkeyword : declaration.rest = namespaceKeyword ++ ' ' :: (held ++ [';'] ++ after) := by
    have hparts := hfirst.parts.symm.trans hstart.parts
    rw [List.append_assoc, startMarker_codeNamespace, List.append_assoc] at hparts
    exact List.append_cancel_left hparts
  have hnamed : NamesNamespace name (namespaceKeyword ++ ' ' :: (name ++ ';' :: after)) := by
    have hends : EndsDotted (';' :: after) := endsDotted_of_ne_dot (by simp [isIdentifierPart])
    exact ⟨[' '], ';' :: after, by simp, by simp, List.forall_mem_singleton.mpr (by decide), hdotted, hends⟩
  have hagain := find?_eq_some_iff.mpr (hfirst.change_behind hkeyword hnamed)
  refine ⟨⟨declaration.before, namespaceKeyword ++ ' ' :: (name ++ ';' :: after), name⟩, ?_, rfl, rfl, rfl⟩
  rw [← hagain, startMarker_codeNamespace, endMarker_codeNamespace]
  simp

/-- A declaration behind a word that looks like one. -/
theorem find?_of_replaceRegion_lookalike :
    let text := "é namespaces\nnamespace Old ;\nclass Main \x7b\x7d\n".toList
    let filled := "é namespaces\nnamespace App.Views;\nclass Main \x7b\x7d\n".toList
    replaceRegion text "namespace ".toList ";".toList "App.Views".toList = .ok filled ∧
      ∃ again, find? filled = some again ∧ again.name = "App.Views".toList ∧ again.offset = 14 := by
  intro text filled
  have hspelled : text = _ := String.toList_ofList
  have hspelled' : filled = _ := String.toList_ofList
  have hevaluated : find? text = some ⟨"é namespaces\n".toList, "namespace Old ;\nclass Main \x7b\x7d\n".toList,
        "Old".toList⟩ ∧
      splitFirst? "namespace ".toList text =
        some ("é namespaces\n".toList, "Old ;\nclass Main \x7b\x7d\n".toList) ∧
      replaceRegion text "namespace ".toList ";".toList "App.Views".toList = .ok filled ∧
      readDottedName? "App.Views".toList = some "App.Views".toList := by
    rw [hspelled, hspelled']
    repeat rw [String.toList_ofList]
    decide +kernel
  obtain ⟨hfound, hliteral, hfills, hread⟩ := hevaluated
  obtain ⟨again, hfound', hname, -, hoffset⟩ :=
    find?_of_replaceRegion hfound (cutsAtFirst_of_splitFirst? hliteral) (isDottedName_of_readDottedName? hread) hfills
  exact ⟨hfills, again, hfound', hname, hoffset.trans (by decide +kernel)⟩

end NamespaceDeclaration

end ComponentScaffold
