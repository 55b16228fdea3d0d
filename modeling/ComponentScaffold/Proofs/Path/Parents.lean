import ComponentScaffold.Proofs.Path.Names

/-! # One step up

What is left of an absolute path one step up, beside its names: it is shorter in steps and no longer in text.
The path of a place goes up and down as the place does.

* **`Path.components_of_parent?`**, **`Path.size_le_of_parent?`** — the path one step up is shorter.
* **`Path.names_of_no_parent?`** — a path from which no step leads up goes nowhere.
* **`Path.parent?_ofLocation`**, **`Path.descend_ofLocation`** — up and down from a place. -/

namespace ComponentScaffold

namespace Path

variable {p q : Path}

/-- The steps of a path one step up are all but the last. -/
theorem components_of_parent? (habs : p.isAbsolute = true) (h : p.parent? = some q) :
    p.components.length = q.components.length + 1 := by
  obtain ⟨hq, dots, last, ends, hnames, hlast, hdots, hends, -⟩ := exists_names_of_parent? habs h
  have hidle {idle : List String} (hidle : ∀ dot ∈ idle, dot = ".") :
      idle.filterMap Component.ofPiece? = [] := by
    rw [List.filterMap_eq_nil_iff]
    intro dot hdot
    rw [hidle dot hdot]
    rfl
  have hstep : IsStep last := isStep_of_mem_names (p := p) (by rw [hnames]; simp)
  obtain ⟨step, hstep⟩ : ∃ step, Component.ofPiece? last = some step := by
    unfold Component.ofPiece?
    rw [if_neg (by simp [isIdle, hlast, hstep.ne_empty])]
    split <;> exact ⟨_, rfl⟩
  rw [components_of_isAbsolute habs, components_of_isAbsolute hq, hnames]
  simp [hidle hdots, hidle hends, hstep]

/-- What stands in front of a list is put in front of the whole with the same separator. -/
private theorem intercalate_prefix {α : Type} (separator : List α) (front back : List (List α)) :
    List.intercalate separator front <+: List.intercalate separator (front ++ back) := by
  induction front with
  | nil => exact List.nil_prefix
  | cons first rest ih =>
    cases rest with
    | nil =>
      cases back with
      | nil => exact List.prefix_rfl
      | cons next others => exact ⟨_, by simp [List.intercalate]; rfl⟩
    | cons second others =>
      simpa [List.intercalate, List.intersperse] using ih

/-- An absolute path is its pieces behind the root, put together again. -/
private theorem toList_text_of_isAbsolute (habs : p.isAbsolute = true) :
    p.text.toList = '/' :: List.intercalate ['/'] (p.pieces.tail.map String.toList) := by
  obtain ⟨hpieces, hne⟩ := pieces_of_isAbsolute habs
  have hsplit : p.text.toList.splitOn '/' = p.pieces.map String.toList := by
    simp [pieces, Function.comp_def]
  rw [← @List.intercalate_splitOn _ p.text.toList _ _ '/', hsplit, hpieces]
  cases htail : p.pieces.tail with
  | nil => exact absurd htail hne
  | cons piece rest => simp [List.intercalate]

/-- A path is no longer one step up. -/
theorem size_le_of_parent? (habs : p.isAbsolute = true) (h : p.parent? = some q) :
    q.text.utf8ByteSize ≤ p.text.utf8ByteSize := by
  obtain ⟨body, dots, last, ends, hwhole, rfl, -⟩ := exists_pieces_of_parent? habs h
  obtain ⟨rest, hrest⟩ : (View.path ⟨some .root, body⟩).text.toList <+: p.text.toList := by
    rw [toList_text_of_isAbsolute habs, hwhole, List.append_assoc, List.append_assoc, List.map_append]
    simpa [View.path] using intercalate_prefix ['/'] (body.map String.toList) _
  have htext : p.text = (View.path ⟨some .root, body⟩).text ++ String.ofList rest :=
    String.toList_injective (by simp [← hrest])
  rw [htext, String.utf8ByteSize_append]
  exact Nat.le_add_right _ _

/-- A path from which no step leads up goes through dots only. -/
theorem names_of_no_parent? (habs : p.isAbsolute = true) (h : p.parent? = none) :
    ∀ name ∈ p.names, name = "." := by
  obtain ⟨ends, hends, hendsIdle⟩ := exists_eq_dropIdleEnd_append p.pieces.tail
  simp only [parent?, view_of_isAbsolute habs] at h
  split at h
  case h_1 hnil =>
    rw [hnil, List.nil_append] at hends
    rw [names_of_isAbsolute habs, hends]
    exact fun _ => eq_current_of_mem_filter hendsIdle
  case h_2 => cases h

/-! ## Paths of places -/

variable {place : Location} {name : String}

/-- The pieces of a place's path are the names of the place. -/
private theorem pieces_tail_ofLocation (hne : place ≠ []) (h : ∀ name ∈ place, IsStep name) :
    (ofLocation place).pieces.tail = place := by
  have hpieces := pieces_append_slash "" ("/".intercalate place)
  rw [String.empty_append, pieces_of_no_slash (by simp : '/' ∉ "".toList), ← ofPieces,
    pieces_ofPieces hne fun name hname => (h name hname).no_slash] at hpieces
  rw [ofLocation, hpieces]
  rfl

/-- **The path of a place one step up** is that of the place above. -/
theorem parent?_ofLocation (h : ∀ step ∈ place ++ [name], IsStep step ∧ step ≠ ".") :
    (ofLocation (place ++ [name])).parent? = some (ofLocation place) := by
  have hbusy (step : String) (hstep : step ∈ place ++ [name]) : isIdle step = false := by
    simp [isIdle, (h step hstep).1.ne_empty, (h step hstep).2]
  have hplace : place.reverse.dropWhile isIdle = place.reverse := by
    cases hreversed : place.reverse with
    | nil => rfl
    | cons last front =>
      have hlast : last ∈ place := List.mem_reverse.1 (hreversed ▸ List.mem_cons_self)
      rw [List.dropWhile_cons_of_neg (by simp [hbusy last (List.mem_append_left _ hlast)])]
  simp only [parent?, view_of_isAbsolute (isAbsolute_ofLocation _),
    pieces_tail_ofLocation (by simp) fun step hstep => (h step hstep).1]
  simp [dropIdleEnd, hbusy name (by simp), hplace, View.path, ofLocation]

/-- A list is put behind others with the separator between. -/
private theorem intercalate_concat {α : Type} (separator : List α) {front : List (List α)} (hne : front ≠ [])
    (last : List α) :
    List.intercalate separator (front ++ [last]) = List.intercalate separator front ++ separator ++ last := by
  induction front with
  | nil => exact absurd rfl hne
  | cons first rest ih =>
    cases rest with
    | nil => simp [List.intercalate]
    | cons second others => simpa [List.intercalate, List.intersperse] using ih (List.cons_ne_nil _ _)

/-- The path of a place in another is that one's, a slash and a name, except in the root. -/
private theorem text_ofLocation_concat (hne : place ≠ []) (name : String) :
    (ofLocation (place ++ [name])).text = (ofLocation place).text ++ "/" ++ name := by
  refine String.toList_injective ?_
  have hjoin := intercalate_concat ['/'] (by simpa using hne : place.map String.toList ≠ []) name.toList
  simp [ofLocation, hjoin]

/-- Going on from a place to an entry in it. -/
theorem child_ofLocation (hplace : ∀ name ∈ place, IsStep name) (hname : IsStep name) :
    (ofLocation place).child name = ofLocation (place ++ [name]) := by
  rw [child, join, if_neg (by simp [not_isAbsolute_of_isStep hname])]
  rcases List.eq_nil_or_concat place with rfl | ⟨front, last, rfl⟩
  · simp [ofLocation]
  rw [List.concat_eq_append] at hplace ⊢
  have hlast := hplace last (by simp)
  obtain ⟨above, habove⟩ : ∃ above, (ofLocation (front ++ [last])).text = above ++ last := by
    rcases Decidable.em (front = []) with rfl | hne
    · exact ⟨"/", by simp [ofLocation]⟩
    · exact ⟨_, text_ofLocation_concat hne last⟩
  -- the path of a place other than the root ends in a name, so a slash goes behind it
  have hslashed : (ofLocation (front ++ [last])).text.toList.getLast? ≠ some '/' := by
    obtain ⟨c, hc⟩ : ∃ c, last.toList.getLast? = some c := by
      cases hlist : last.toList with
      | nil => exact absurd (String.toList_injective (by simpa using hlist)) hlast.ne_empty
      | cons first rest => exact ⟨_, List.getLast?_eq_some_getLast (by simp)⟩
    rw [habove, String.toList_append, List.getLast?_append, hc]
    rintro ⟨rfl⟩
    exact hlast.no_slash (List.mem_of_getLast? hc)
  rw [if_neg (by simpa [text_ne_of_isAbsolute (isAbsolute_ofLocation _)] using hslashed)]
  exact congrArg Path.mk (text_ofLocation_concat (by simp) name).symm

/-- **Going on from a place** leads to the places below. -/
theorem descend_ofLocation {names : List String} (hplace : ∀ name ∈ place, IsStep name)
    (hnames : ∀ name ∈ names, IsStep name) : (ofLocation place).descend names = ofLocation (place ++ names) := by
  induction names generalizing place with
  | nil => rw [List.append_nil]; rfl
  | cons name rest ih =>
    have hname := hnames name List.mem_cons_self
    have hrest : ∀ other ∈ rest, IsStep other := fun other hother => hnames other (List.mem_cons_of_mem _ hother)
    rw [descend, List.foldl_cons, ← descend, child_ofLocation hplace hname, ih ?_ hrest, List.append_assoc,
      List.singleton_append]
    intro other hother
    rcases List.mem_append.1 hother with hmem | hmem
    · exact hplace other hmem
    · exact List.mem_singleton.1 hmem ▸ hname

end Path

end ComponentScaffold
