import ComponentScaffold.Proofs.Source.RegionLens
import ComponentScaffold.Proofs.Text.Bytes

/-! # The leftmost region

A region between two markers is a way to take a text apart, and the one way in which both markers
stand as far left as they can.

* **`Leftmost`** — a text taken apart at the first start marker and at the first end marker behind it.
* **`Region.locate_eq_error_iff`** — a search fails for the marker that is missing, and for no other
  reason.
* **`Region.locate_leftmost`** — a region is located exactly where the text comes apart, at the byte
  offsets of its parts.
* **`Region.locate_same_marker`** — what the name of the missing marker cannot tell. -/

namespace ComponentScaffold

open Text

/-- **A text taken apart** at the first start marker, and what follows at the first end marker. -/
structure Leftmost (startMarker endMarker text before content after : List Char) : Prop where
  /-- The first start marker of the text ends where the content begins. -/
  start : CutsAtFirst startMarker text before (content ++ endMarker ++ after)
  /-- The first end marker from there on begins where the content ends. -/
  ending : CutsAtFirst endMarker (content ++ endMarker ++ after) content after

variable {text startMarker endMarker before content after : List Char}

namespace Leftmost

/-- The parts make up the text. -/
theorem parts (h : Leftmost startMarker endMarker text before content after) :
    text = before ++ startMarker ++ content ++ endMarker ++ after := by
  rw [h.start.parts]
  simp only [List.append_assoc]

/-- **A text comes apart in one way.** -/
theorem unique {before' content' after' : List Char}
    (h : Leftmost startMarker endMarker text before content after)
    (h' : Leftmost startMarker endMarker text before' content' after') :
    before' = before ∧ content' = content ∧ after' = after := by
  obtain ⟨rfl, hrest⟩ := h'.start.unique h.start
  obtain ⟨rfl, rfl⟩ := (hrest ▸ h'.ending).unique h.ending
  exact ⟨rfl, rfl, rfl⟩

/-- The region of a text that comes apart is what lies between the markers. -/
theorem locate (h : Leftmost startMarker endMarker text before content after) :
    Region.locate text startMarker endMarker =
      .ok ⟨before ++ startMarker, content, endMarker ++ after⟩ :=
  Region.locate_eq_ok_iff.mpr ⟨before, after, h.start, h.ending, rfl, rfl⟩

/-- What is filled in stands between the markers. -/
theorem replaceRegion (h : Leftmost startMarker endMarker text before content after)
    (filling : List Char) :
    replaceRegion text startMarker endMarker filling =
      .ok (before ++ startMarker ++ filling ++ endMarker ++ after) :=
  replaceRegion_eq_ok_iff.mpr ⟨before, content, after, h.start, h.ending, rfl⟩

end Leftmost

namespace Region

variable {region : Region}

/-- A region that is located takes the text apart. -/
theorem exists_leftmost (hlocated : locate text startMarker endMarker = .ok region) :
    ∃ before after, Leftmost startMarker endMarker text before region.content after := by
  obtain ⟨before, after, hstart, hending, -⟩ := locate_eq_ok_iff.mp hlocated
  exact ⟨before, after, hstart, hending⟩

/-- Why a text has no region is why none is located. -/
theorem locate_of_lacksRegion {failure : Failure}
    (hlacks : LacksRegion startMarker endMarker text failure) :
    locate text startMarker endMarker = .error failure := by
  rw [locate]
  cases hlacks with
  | start hmissing => rw [splitFirst?_eq_none_iff.mpr hmissing]
  | ending hcut hmissing =>
    rw [splitFirst?_eq_some_iff.mpr hcut]
    simp only
    rw [splitFirst?_eq_none_iff.mpr hmissing]

/-- **A region is not located** exactly where a marker is missing, and the failure names that one. -/
theorem locate_eq_error_iff {failure : Failure} :
    locate text startMarker endMarker = .error failure ↔
      LacksRegion startMarker endMarker text failure := by
  refine ⟨fun hfailed => ?_, locate_of_lacksRegion⟩
  have hrefused : replaceRegion text startMarker endMarker [] = .error failure := by
    rw [ComponentScaffold.replaceRegion, hfailed, Except.map]
  exact lacksRegion_of_replaceRegion hrefused

end Region

/-- Of two markers that differ the start marker is named where it does not occur. -/
theorem lacksRegion_startMarker_iff (hdiffer : startMarker ≠ endMarker) :
    LacksRegion startMarker endMarker text (.markerNotFound (String.ofList startMarker)) ↔
      ¬startMarker <:+: text := by
  refine ⟨fun hlacks => ?_, .start⟩
  generalize hnamed : Failure.markerNotFound (String.ofList startMarker) = failure at hlacks
  cases hlacks with
  | start hmissing => exact hmissing
  | ending =>
    injection hnamed with hname
    exact absurd (String.ofList_injective hname) hdiffer

/-- Of two markers that differ the end marker is named where it does not occur behind the first start
marker. -/
theorem lacksRegion_endMarker_iff (hdiffer : startMarker ≠ endMarker) :
    LacksRegion startMarker endMarker text (.markerNotFound (String.ofList endMarker)) ↔
      ∃ before rest, CutsAtFirst startMarker text before rest ∧ ¬endMarker <:+: rest := by
  refine ⟨fun hlacks => ?_, fun ⟨_, _, hcut, hmissing⟩ => .ending hcut hmissing⟩
  generalize hnamed : Failure.markerNotFound (String.ofList endMarker) = failure at hlacks
  cases hlacks with
  | start =>
    injection hnamed with hname
    exact absurd (String.ofList_injective hname).symm hdiffer
  | ending hcut hmissing => exact ⟨_, _, hcut, hmissing⟩

/-- **A region is located where the text comes apart.** There is one way to take the text apart, and
the offsets of the region count the bytes of the parts: they lie on character boundaries, in order and
within the text. Whatever is filled in stands between the same parts. Otherwise the search fails, for
the start marker where that one does not occur, and for the end marker where it does not occur behind
the first start marker; if the markers differ, the name in the failure tells the two apart. -/
theorem Region.locate_leftmost (text startMarker endMarker : List Char) :
    ((∃ region, locate text startMarker endMarker = .ok region) ↔
      ∃ before content after, Leftmost startMarker endMarker text before content after) ∧
    (∀ before content after, Leftmost startMarker endMarker text before content after →
      text = before ++ startMarker ++ content ++ endMarker ++ after ∧
      (∀ before' content' after', Leftmost startMarker endMarker text before' content' after' →
        before' = before ∧ content' = content ∧ after' = after) ∧
      (∃ region, locate text startMarker endMarker = .ok region ∧
        region.content = content ∧
        region.startOffset = utf8Size (before ++ startMarker) ∧
        region.endOffset = utf8Size (before ++ startMarker ++ content) ∧
        String.Pos.Raw.IsValid (String.ofList text) ⟨region.startOffset⟩ ∧
        String.Pos.Raw.IsValid (String.ofList text) ⟨region.endOffset⟩ ∧
        region.startOffset ≤ region.endOffset ∧
        region.endOffset ≤ (String.ofList text).utf8ByteSize) ∧
      ∀ filling, replaceRegion text startMarker endMarker filling =
        .ok (before ++ startMarker ++ filling ++ endMarker ++ after)) ∧
    (∀ failure, locate text startMarker endMarker = .error failure ↔
      LacksRegion startMarker endMarker text failure) ∧
    (startMarker ≠ endMarker →
      (locate text startMarker endMarker = .error (.markerNotFound (String.ofList startMarker)) ↔
        ¬startMarker <:+: text) ∧
      (locate text startMarker endMarker = .error (.markerNotFound (String.ofList endMarker)) ↔
        ∃ before rest, CutsAtFirst startMarker text before rest ∧ ¬endMarker <:+: rest)) := by
  refine ⟨⟨?_, ?_⟩, fun before content after h => ?_, fun _ => locate_eq_error_iff, fun hdiffer => ?_⟩
  · rintro ⟨region, hlocated⟩
    obtain ⟨before, after, h⟩ := exists_leftmost hlocated
    exact ⟨before, region.content, after, h⟩
  · rintro ⟨before, content, after, h⟩
    exact ⟨_, h.locate⟩
  · have hends : endOffset ⟨before ++ startMarker, content, endMarker ++ after⟩ =
        utf8Size (before ++ startMarker ++ content) :=
      (utf8Size_append _ _).symm
    refine ⟨h.parts, fun _ _ _ => h.unique, ⟨_, h.locate, rfl, rfl, hends, ?_⟩, h.replaceRegion⟩
    have htext : text = before ++ startMarker ++ content ++ (endMarker ++ after) := by
      rw [h.parts, List.append_assoc _ endMarker]
    refine ⟨?_, ?_, Nat.le_add_right _ _, ?_⟩
    · rw [htext, List.append_assoc _ content]
      exact isValid_utf8Size _ _
    · rw [hends, htext]
      exact isValid_utf8Size _ _
    · rw [hends, ← utf8Size_eq_utf8ByteSize, htext, utf8Size_append _ (endMarker ++ after)]
      exact Nat.le_add_right _ _
  · exact ⟨locate_eq_error_iff.trans (lacksRegion_startMarker_iff hdiffer),
      locate_eq_error_iff.trans (lacksRegion_endMarker_iff hdiffer)⟩

/-- **One marker for both ends** leaves the name in the failure ambiguous: the text holds the marker that is
named, and what is missing is another one behind it. -/
theorem Region.locate_same_marker :
    ¬(Region.locate "ab".toList "ab".toList "ab".toList = .error (.markerNotFound "ab") ↔
      ¬"ab".toList <:+: "ab".toList) :=
  fun hsame => hsame.mp (by decide) (List.infix_refl _)

/-- An end marker that overlaps the start marker does not stand behind it. -/
example : Region.locate "éabaXab".toList "ab".toList "ba".toList =
    .error (.markerNotFound "ba") := by
  decide

end ComponentScaffold
