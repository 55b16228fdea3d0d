import Mathlib.Data.List.Infix
import Mathlib.Tactic.ByContra
import ComponentScaffold.Proofs.Source.Region
import ComponentScaffold.Source.Token

/-! # A region as a lens

Reading a region and filling it are the two halves of a lens: what was filled in is what is read, and
a region filled twice holds what was filled in last.

* **`Text.CutsAtFirst.change_after`** — what follows the first occurrence has no say in where it is.
* **`Region.locate_replace`** — a filled region is found where it was, as long as the end marker does
  not begin in the new content.
* **`replaceRegion_lens`** — the laws, and what they come to for the places that hold a namespace. -/

namespace ComponentScaffold

namespace Text

variable {needle before after : List Char}

/-- **The first occurrence does not depend on what follows it.** An earlier one would end within the
one that was found, so it would have been there before. -/
theorem CutsAtFirst.change_after {text : List Char} (h : CutsAtFirst needle text before after)
    (other : List Char) : CutsAtFirst needle (before ++ needle ++ other) before other := by
  refine ⟨rfl, fun front back hparts => ?_⟩
  by_contra hearly
  have hshort : (front ++ needle).length ≤ (before ++ needle).length := by
    rw [List.length_append, List.length_append]
    omega
  have hwithin : front ++ needle <+: before ++ needle :=
    List.prefix_of_prefix_length_le (hparts ▸ List.prefix_append _ back) (List.prefix_append _ other)
      hshort
  obtain ⟨between, hjoined⟩ := hwithin
  refine hearly (h.first front (between ++ after) ?_)
  rw [h.parts, ← hjoined, List.append_assoc _ between]

/-- A text ends at the first occurrence of a character that it does not contain. -/
theorem cutsAtFirst_singleton {c : Char} (habsent : c ∉ before) (after : List Char) :
    CutsAtFirst [c] (before ++ [c] ++ after) before after := by
  refine ⟨rfl, fun front back hparts => ?_⟩
  by_contra hearly
  have hreaches : front ++ [c] <+: before := by
    refine List.prefix_of_prefix_length_le (hparts ▸ List.prefix_append _ back) ?_ ?_
    · rw [List.append_assoc]
      exact List.prefix_append before _
    · rw [List.length_append, List.length_singleton]
      omega
  exact habsent (hreaches.subset (by simp))

end Text

open Text

variable {text startMarker endMarker : List Char} {region : Region}

namespace Region

/-- **A region that is located** lies behind the first start marker and before the next end marker. -/
theorem locate_eq_ok_iff :
    locate text startMarker endMarker = .ok region ↔
      ∃ before after,
        CutsAtFirst startMarker text before (region.content ++ endMarker ++ after) ∧
        CutsAtFirst endMarker (region.content ++ endMarker ++ after) region.content after ∧
        region.before = before ++ startMarker ∧ region.after = endMarker ++ after := by
  unfold locate
  constructor
  · intro h
    split at h
    case h_1 => cases h
    case h_2 before rest hstart =>
      split at h
      case h_1 => cases h
      case h_2 held after hending =>
        obtain rfl := Except.ok.inj h
        have hcut := cutsAtFirst_of_splitFirst? hending
        refine ⟨before, after, ?_, ?_, rfl, rfl⟩
        · exact hcut.parts ▸ cutsAtFirst_of_splitFirst? hstart
        · exact hcut.parts ▸ hcut
  · rintro ⟨before, after, hstart, hending, hhead, htail⟩
    rw [splitFirst?_eq_some_iff.mpr hstart]
    simp only
    rw [splitFirst?_eq_some_iff.mpr hending]
    simp only
    rw [← hhead, ← htail]

/-- **A filled region is found where it was**, with what was filled in. -/
theorem locate_replace {content : List Char}
    (hlocated : locate text startMarker endMarker = .ok region)
    (hlate : CutsAtFirst endMarker (content ++ endMarker) content []) :
    locate (region.replace content) startMarker endMarker =
      .ok ⟨region.before, content, region.after⟩ := by
  obtain ⟨before, after, hstart, -, hhead, htail⟩ := locate_eq_ok_iff.mp hlocated
  refine locate_eq_ok_iff.mpr ⟨before, after, ?_, hlate.change_after after, hhead, htail⟩
  rw [replace, hhead, htail, List.append_assoc, ← List.append_assoc content]
  exact hstart.change_after _

end Region

/-- Replacing a located region fills it. -/
theorem replaceRegion_of_locate (hlocated : Region.locate text startMarker endMarker = .ok region)
    (content : List Char) :
    replaceRegion text startMarker endMarker content = .ok (region.replace content) := by
  rw [replaceRegion, hlocated, Except.map]

/-- **A region filled twice** holds what was filled in last. -/
theorem replaceRegion_replace {content : List Char}
    (hlocated : Region.locate text startMarker endMarker = .ok region)
    (hlate : CutsAtFirst endMarker (content ++ endMarker) content []) (next : List Char) :
    replaceRegion (region.replace content) startMarker endMarker next =
      replaceRegion text startMarker endMarker next := by
  rw [replaceRegion_of_locate (Region.locate_replace hlocated hlate),
    replaceRegion_of_locate hlocated, Region.replace, Region.replace]

/-- A namespace without the end marker of a token does not hide the end of the token. -/
theorem NamespaceToken.late_endMarker (token : NamespaceToken) {name : List Char}
    (hfree : ¬token.endMarker.toList <:+: name) :
    CutsAtFirst token.endMarker.toList (name ++ token.endMarker.toList) name [] := by
  have hsingle : ∃ c, token.endMarker.toList = [c] := by
    cases token with
    | markupClass => exact ⟨'\x22', rfl⟩
    | controlsXmlns => exact ⟨'\x22', rfl⟩
    | codeNamespace => exact ⟨';', rfl⟩
  obtain ⟨c, hmarker⟩ := hsingle
  rw [hmarker] at hfree ⊢
  have habsent : c ∉ name := fun hmem => hfree ((List.singleton_infix_iff c name).mpr hmem)
  simpa using cutsAtFirst_singleton habsent []

/-- **Filling a region is a lawful update.** Putting back what a region holds leaves the text as it
is; a content in which the end marker does not begin early is found again, at the offset of the old
one; and a later content takes the place of an earlier one. So a namespace free of its token's end
marker can be written twice, and the last one written stays. -/
theorem replaceRegion_lens (hlocated : Region.locate text startMarker endMarker = .ok region) :
    replaceRegion text startMarker endMarker region.content = .ok text ∧
    (∀ content, CutsAtFirst endMarker (content ++ endMarker) content [] →
      ∃ filled, replaceRegion text startMarker endMarker content = .ok filled ∧
        (∃ again, Region.locate filled startMarker endMarker = .ok again ∧
          again.startOffset = region.startOffset ∧ again.content = content) ∧
        ∀ next, replaceRegion filled startMarker endMarker next =
          replaceRegion text startMarker endMarker next) ∧
    ∀ token : NamespaceToken, token.startMarker.toList = startMarker →
      token.endMarker.toList = endMarker → ∀ name : String, ¬endMarker <:+: name.toList →
      ∃ filled, replaceRegion text startMarker endMarker name.toList = .ok filled ∧
        replaceRegion filled startMarker endMarker name.toList = .ok filled ∧
        ∀ next : String, replaceRegion filled startMarker endMarker next.toList =
          replaceRegion text startMarker endMarker next.toList := by
  have hfills := replaceRegion_of_locate hlocated
  refine ⟨?_, fun content hlate => ?_, ?_⟩
  · rw [hfills, Region.replace_content, Region.text_of_locate hlocated]
  · refine ⟨region.replace content, hfills content, ?_, replaceRegion_replace hlocated hlate⟩
    exact ⟨_, Region.locate_replace hlocated hlate, rfl, rfl⟩
  · rintro token - rfl name hfree
    have htwice := replaceRegion_replace hlocated (token.late_endMarker hfree)
    refine ⟨region.replace name.toList, hfills _, ?_, fun next => htwice next.toList⟩
    rw [htwice, hfills]

/-- The laws at a declaration whose start marker and end marker both occur twice in a row. -/
theorem replaceRegion_lens_declaration :
    let text := "é namespace namespace Old;; \x7d".toList
    let region : Region := ⟨"é namespace ".toList, "namespace Old".toList, ";; \x7d".toList⟩
    Region.locate text "namespace ".toList ";".toList = .ok region ∧
      replaceRegion text "namespace ".toList ";".toList region.content = .ok text ∧
      (∃ filled, replaceRegion text "namespace ".toList ";".toList "new ".toList = .ok filled ∧
        ∃ again, Region.locate filled "namespace ".toList ";".toList = .ok again ∧
          again.startOffset = region.startOffset ∧ again.content = "new ".toList) ∧
      ∃ filled, replaceRegion text "namespace ".toList ";".toList "App.Views".toList = .ok filled ∧
        replaceRegion filled "namespace ".toList ";".toList "App.Views".toList = .ok filled := by
  intro text region
  have hlocated : Region.locate text "namespace ".toList ";".toList = .ok region := by
    decide
  obtain ⟨hkept, hfound, hwritten⟩ := replaceRegion_lens hlocated
  refine ⟨hlocated, hkept, ?_, ?_⟩
  · obtain ⟨filled, hfills, hagain, -⟩ :=
      hfound "new ".toList (cutsAtFirst_of_splitFirst? (by decide))
    exact ⟨filled, hfills, hagain⟩
  · have hfree : ¬";".toList <:+: "App.Views".toList := by
      intro hoccurs
      exact absurd (hoccurs.subset (List.mem_singleton.mpr rfl)) (by decide)
    obtain ⟨filled, hfills, hagain, -⟩ := hwritten .codeNamespace rfl rfl "App.Views" hfree
    exact ⟨filled, hfills, hagain⟩

end ComponentScaffold
