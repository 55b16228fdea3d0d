import ComponentScaffold.Source.Region

/-! # What filling a region changes

The region between two markers is said without searching: the first occurrence of one marker, and the
first occurrence of the other behind it.

* **`Text.splitFirst?_eq_some_iff`** — a search cuts a text at the first occurrence and nowhere else.
* **`replaceRegion_eq_ok_iff`** — replacing a region changes what is between the markers and nothing
  else. -/

namespace ComponentScaffold

namespace Text

/-- **A text cut at the first occurrence** of another one. -/
structure CutsAtFirst (needle text before after : List Char) : Prop where
  /-- The parts make up the text. -/
  parts : text = before ++ needle ++ after
  /-- No occurrence starts earlier. -/
  first : ∀ front back, text = front ++ needle ++ back → before.length ≤ front.length

/-- Two cuts at the first occurrence are one. -/
theorem CutsAtFirst.unique {needle text before after before' after' : List Char}
    (h : CutsAtFirst needle text before after) (h' : CutsAtFirst needle text before' after') :
    before = before' ∧ after = after' := by
  have hlength : before.length = before'.length :=
    Nat.le_antisymm (h.first _ _ h'.parts) (h'.first _ _ h.parts)
  have hparts := h.parts.symm.trans h'.parts
  rw [List.append_assoc, List.append_assoc] at hparts
  obtain ⟨hbefore, hrest⟩ := List.append_inj hparts hlength
  exact ⟨hbefore, List.append_cancel_left hrest⟩

/-- Where a search cuts a text, no occurrence starts earlier. -/
theorem cutsAtFirst_of_splitFirst? {needle text before after : List Char}
    (h : splitFirst? needle text = some (before, after)) : CutsAtFirst needle text before after := by
  refine ⟨append_of_splitFirst? h, fun front back hfront => ?_⟩
  -- a match at the start is the first one, and where none starts it is first in what is behind
  induction text generalizing before front with
  | nil =>
    rw [splitFirst?] at h
    split at h
    case isTrue =>
      obtain ⟨rfl, -⟩ := Prod.mk.inj (Option.some.inj h)
      exact Nat.zero_le _
    case isFalse => cases h
  | cons c rest ih =>
    rw [splitFirst?] at h
    split at h
    case h_1 =>
      obtain ⟨rfl, -⟩ := Prod.mk.inj (Option.some.inj h)
      exact Nat.zero_le _
    case h_2 hhead =>
      obtain ⟨⟨before', after'⟩, hrest, hcons⟩ := Option.map_eq_some_iff.1 h
      obtain ⟨rfl, rfl⟩ := Prod.mk.inj hcons
      cases front with
      | nil =>
        rw [after?_eq_some_iff.2 (by simpa using hfront)] at hhead
        cases hhead
      | cons _ front => exact Nat.succ_le_succ (ih hrest front (List.cons.inj hfront).2)

/-- A text that occurs is found. -/
theorem exists_splitFirst?_append (needle front back : List Char) :
    ∃ before after, splitFirst? needle (front ++ needle ++ back) = some (before, after) := by
  induction front with
  | nil =>
    cases htext : needle ++ back with
    | nil =>
      have hneedle : needle = [] := (List.append_eq_nil_iff.1 htext).1
      exact ⟨[], [], by simp [hneedle, splitFirst?, (List.append_eq_nil_iff.1 htext).2]⟩
    | cons c rest =>
      refine ⟨[], back, ?_⟩
      rw [List.nil_append, htext, splitFirst?, after?_eq_some_iff.2 htext.symm]
  | cons c front ih =>
    obtain ⟨before, after, hsplit⟩ := ih
    rw [List.cons_append, List.cons_append, splitFirst?]
    split
    case h_1 tail _ => exact ⟨[], tail, rfl⟩
    case h_2 => exact ⟨c :: before, after, by rw [hsplit]; rfl⟩

/-- **A search cuts a text** at the first occurrence of what is looked for. -/
theorem splitFirst?_eq_some_iff {needle text before after : List Char} :
    splitFirst? needle text = some (before, after) ↔ CutsAtFirst needle text before after := by
  refine ⟨cutsAtFirst_of_splitFirst?, fun h => ?_⟩
  obtain ⟨before', after', hsplit⟩ := exists_splitFirst?_append needle before after
  rw [← h.parts] at hsplit
  obtain ⟨rfl, rfl⟩ := h.unique (cutsAtFirst_of_splitFirst? hsplit)
  exact hsplit

/-- A search finds nothing where there is nothing to be found. -/
theorem splitFirst?_eq_none_iff {needle text : List Char} :
    splitFirst? needle text = none ↔ ¬needle <:+: text := by
  constructor
  · rintro hnone ⟨front, back, rfl⟩
    obtain ⟨before, after, hsome⟩ := exists_splitFirst?_append needle front back
    rw [hnone] at hsome
    cases hsome
  · intro hnot
    cases hsplit : splitFirst? needle text with
    | none => rfl
    | some parts => exact absurd ⟨parts.1, parts.2, (append_of_splitFirst? hsplit).symm⟩ hnot

/-- A text occurs in another one exactly if a search finds it there. -/
theorem occursIn_iff {needle text : List Char} : occursIn needle text = true ↔ needle <:+: text := by
  rw [occursIn, Option.isSome_iff_ne_none, ne_eq, splitFirst?_eq_none_iff, Classical.not_not]

end Text

open Text

/-- **A text with another content** between the first start marker and the next end marker. -/
def FillsRegion (startMarker endMarker content old new : List Char) : Prop :=
  ∃ before held after,
    CutsAtFirst startMarker old before (held ++ endMarker ++ after) ∧
    CutsAtFirst endMarker (held ++ endMarker ++ after) held after ∧
    new = before ++ startMarker ++ content ++ endMarker ++ after

/-- **Replacing a region** changes what is between the markers and nothing else. -/
theorem replaceRegion_eq_ok_iff {text startMarker endMarker content new : List Char} :
    replaceRegion text startMarker endMarker content = .ok new ↔
      FillsRegion startMarker endMarker content text new := by
  unfold replaceRegion Region.locate
  constructor
  · intro h
    split at h
    case h_1 => cases h
    case h_2 before rest hstart =>
      split at h
      case h_1 => cases h
      case h_2 held after hend =>
        have hcut := cutsAtFirst_of_splitFirst? hstart
        have hcut' := cutsAtFirst_of_splitFirst? hend
        have hrest := hcut'.parts
        subst hrest
        refine ⟨before, held, after, hcut, hcut', ?_⟩
        rw [← Except.ok.inj h]
        simp [Region.replace]
  · rintro ⟨before, held, after, hcut, hcut', rfl⟩
    rw [splitFirst?_eq_some_iff.2 hcut]
    simp only
    rw [splitFirst?_eq_some_iff.2 hcut']
    simp [Except.map, Region.replace]

/-- **Why a text has no region** between two markers. -/
inductive LacksRegion (startMarker endMarker text : List Char) : Failure → Prop
  /-- The start marker does not occur. -/
  | start : ¬startMarker <:+: text →
    LacksRegion startMarker endMarker text (.markerNotFound (String.ofList startMarker))
  /-- The end marker does not occur behind it. -/
  | ending {before rest} : CutsAtFirst startMarker text before rest → ¬endMarker <:+: rest →
    LacksRegion startMarker endMarker text (.markerNotFound (String.ofList endMarker))

/-- **A region that cannot be replaced** is not there. -/
theorem lacksRegion_of_replaceRegion {text startMarker endMarker content : List Char} {failure : Failure}
    (h : replaceRegion text startMarker endMarker content = .error failure) :
    LacksRegion startMarker endMarker text failure := by
  unfold replaceRegion Region.locate at h
  split at h
  case h_1 hstart =>
    obtain rfl := Except.error.inj h
    exact .start (splitFirst?_eq_none_iff.1 hstart)
  case h_2 before rest hstart =>
    split at h
    case h_1 hend =>
      obtain rfl := Except.error.inj h
      exact .ending (cutsAtFirst_of_splitFirst? hstart) (splitFirst?_eq_none_iff.1 hend)
    case h_2 => cases h

end ComponentScaffold
