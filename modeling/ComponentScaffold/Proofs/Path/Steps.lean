import ComponentScaffold.Proofs.Path.Names

/-! # Steps of a path

However a path is written and wherever it starts, it takes the step of its start, if that is written
out, and then those of its names.

* **`Path.components_eq`** — the steps of a path, told by its names.
* **`Path.components_child`**, **`Path.components_descend`** — going on by names adds their steps.
* **`Path.relativeTo?_components`** — what is left below a path has the steps that are left. -/

namespace ComponentScaffold

namespace Path

/-! ## Steps of pieces -/

/-- Idle pieces make no steps. -/
theorem filterMap_ofPiece?_of_idle {pieces : List String} (h : ∀ piece ∈ pieces, isIdle piece = true) :
    pieces.filterMap Component.ofPiece? = [] := by
  rw [List.filterMap_eq_nil_iff]
  intro piece hpiece
  rw [Component.ofPiece?, if_pos (h piece hpiece)]

/-- What is dropped at the end makes no steps. -/
theorem filterMap_ofPiece?_dropIdleEnd (pieces : List String) :
    (dropIdleEnd pieces).filterMap Component.ofPiece? = pieces.filterMap Component.ofPiece? := by
  obtain ⟨idle, hidle, hall⟩ := exists_eq_dropIdleEnd_append pieces
  conv => rhs; rw [hidle]
  rw [List.filterMap_append, filterMap_ofPiece?_of_idle hall, List.append_nil]

/-- Nor does what is dropped in front. -/
theorem filterMap_ofPiece?_dropWhile (pieces : List String) :
    (pieces.dropWhile isIdle).filterMap Component.ofPiece? = pieces.filterMap Component.ofPiece? := by
  have htaken : (pieces.takeWhile isIdle).filterMap Component.ofPiece? = [] :=
    filterMap_ofPiece?_of_idle fun piece hpiece => List.all_eq_true.1 List.all_takeWhile piece hpiece
  conv => rhs; rw [← List.takeWhile_append_dropWhile (p := isIdle) (l := pieces)]
  rw [List.filterMap_append, htaken, List.nil_append]

/-- A piece makes no step exactly if it is idle. -/
theorem ofPiece?_eq_none_iff {piece : String} :
    Component.ofPiece? piece = none ↔ isIdle piece = true := by
  unfold Component.ofPiece?
  split
  case isTrue h => simp [h]
  case isFalse h => split <;> simp [h]

/-- Dropping steps drops as many steps. -/
theorem filterMap_ofPiece?_dropSteps (count : Nat) (pieces : List String) :
    (dropSteps count pieces).filterMap Component.ofPiece? =
      (pieces.filterMap Component.ofPiece?).drop count := by
  induction count, pieces using dropSteps.induct with
  | case1 pieces => simp [dropSteps]
  | case2 count => simp [dropSteps]
  | case3 count piece rest hidle ih =>
    rw [dropSteps, if_pos hidle, ih, List.filterMap_cons_none (ofPiece?_eq_none_iff.2 hidle)]
  | case4 count piece rest hidle ih =>
    obtain ⟨step, hstep⟩ := Option.ne_none_iff_exists'.1 (mt ofPiece?_eq_none_iff.1 hidle)
    rw [dropSteps, if_neg hidle, ih, List.filterMap_cons_some hstep, List.drop_succ_cons]

/-- Pieces that do not start idly make their steps, put together to a path. -/
theorem components_ofPieces {pieces : List String} (h : ∀ piece ∈ pieces, '/' ∉ piece.toList)
    (hfirst : ∀ first, pieces.head? = some first → isIdle first = false) :
    (ofPieces pieces).components = pieces.filterMap Component.ofPiece? := by
  cases pieces with
  | nil => rfl
  | cons first rest =>
    have hidle : first ≠ "" ∧ first ≠ "." := by simpa [isIdle] using hfirst first rfl
    have hpieces := pieces_ofPieces (List.cons_ne_nil first rest) h
    have habs : (ofPieces (first :: rest)).isAbsolute = false := by
      rw [Bool.eq_false_iff]
      intro habs
      have hroot := (pieces_of_isAbsolute habs).1
      rw [hpieces] at hroot
      exact hidle.1 (List.cons.inj hroot).1
    have hview : (ofPieces (first :: rest)).view = ⟨none, first :: rest⟩ := by
      rw [view, hpieces]
      simp [habs, hidle.2]
    rw [components, hview]
    rfl

/-- What is left after some steps is at the end. -/
theorem dropSteps_suffix (count : Nat) (pieces : List String) : dropSteps count pieces <:+ pieces := by
  induction count, pieces using dropSteps.induct with
  | case1 pieces =>
    unfold dropSteps
    exact List.suffix_refl pieces
  | case2 count => exact List.suffix_refl _
  | case3 count piece rest hidle ih =>
    rw [dropSteps, if_pos hidle]
    exact ih.trans (List.suffix_cons _ _)
  | case4 count piece rest hidle ih =>
    rw [dropSteps, if_neg hidle]
    exact ih.trans (List.suffix_cons _ _)

/-- A piece makes a step to a name, or up. -/
theorem eq_of_ofPiece? {piece : String} {step : Component} (h : Component.ofPiece? piece = some step) :
    step = .parent ∨ step = .name piece ∧ piece ≠ "" ∧ piece ≠ "." ∧ piece ≠ ".." := by
  unfold Component.ofPiece? at h
  split at h
  case isTrue => cases h
  case isFalse hidle =>
    split at h
    case isTrue => exact .inl (Option.some.inj h).symm
    case isFalse hparent =>
      have hpiece : piece ≠ "" ∧ piece ≠ "." := by simpa [isIdle] using hidle
      exact .inr ⟨(Option.some.inj h).symm, hpiece.1, hpiece.2, hparent⟩

/-- Names make the steps to them. -/
theorem filterMap_ofPiece?_of_names {names : List String}
    (h : ∀ name ∈ names, IsStep name ∧ name ≠ "." ∧ name ≠ "..") :
    names.filterMap Component.ofPiece? = names.map .name := by
  induction names with
  | nil => rfl
  | cons name rest ih =>
    obtain ⟨⟨hstep, hcurrent, hparent⟩, hrest⟩ := List.forall_mem_cons.1 h
    have hname : Component.ofPiece? name = some (.name name) := by
      simp [Component.ofPiece?, isIdle, hstep.ne_empty, hcurrent, hparent]
    rw [List.filterMap_cons_some hname, ih hrest, List.map_cons]

/-! ## The steps of a path -/

/-- The step that a written start makes. -/
def View.opening (v : View) : List Component := v.start.toList.map Start.component

/-- **The steps of a path** are those of its start and those of its names. -/
theorem components_eq (p : Path) :
    p.components = p.view.opening ++ p.names.filterMap Component.ofPiece? := by
  rw [names, filterMap_ofPiece?_filter, components, View.components, View.opening, view]
  cases hwritten : p.pieces with
  | nil => rfl
  | cons first rest =>
    by_cases habs : p.isAbsolute = true
    · -- the piece in front of the root is empty
      have hfront := (pieces_of_isAbsolute habs).1
      rw [hwritten, List.cons.injEq] at hfront
      simp [habs, hfront.1, Component.ofPiece?, isIdle]
    · by_cases hdot : first = "."
      · simp [habs, hdot, Component.ofPiece?, isIdle]
      · simp [habs, hdot]

/-- What a path starts from is told by its first piece. -/
theorem view_start (p : Path) :
    p.view.start = if p.isAbsolute then some .root
      else if p.pieces.head? = some "." then some .current else none := by
  rw [view]
  cases hwritten : p.pieces with
  | nil => exact absurd hwritten (pieces_ne_nil p)
  | cons first rest =>
    by_cases habs : p.isAbsolute = true
    · simp [habs]
    · by_cases hdot : first = "." <;> simp [habs, hdot]

/-- A path that is written out is absolute exactly if its first piece is empty. -/
theorem isAbsolute_iff_head? {p : Path} (hwritten : p.text ≠ "") :
    p.isAbsolute = true ↔ p.pieces.head? = some "" := by
  constructor
  · intro habs
    rw [(pieces_of_isAbsolute habs).1]
    rfl
  · intro hhead
    obtain ⟨c, rest, hchars⟩ := List.exists_cons_of_ne_nil
      (fun hnothing : p.text.toList = [] => hwritten (String.toList_injective (by simpa using hnothing)))
    rw [pieces, hchars, List.splitOn_cons_eq_if_modifyHead] at hhead
    by_cases hslash : c = '/'
    · exact isAbsolute_iff.mpr ⟨String.ofList rest, String.toList_injective (by simp [hchars, hslash])⟩
    · -- the first piece goes on from the first character
      rw [if_neg (by simpa using hslash)] at hhead
      cases hparts : rest.splitOn '/' with
      | nil => simp [hparts] at hhead
      | cons first others => simp [hparts] at hhead

/-- A name that an entry can have is its own only step. -/
theorem components_name {name : String} (h : IsStep name ∧ name ≠ "." ∧ name ≠ "..") :
    (⟨name⟩ : Path).components = [.name name] := by
  have hstep : [name].filterMap Component.ofPiece? = [.name name] :=
    filterMap_ofPiece?_of_names (by simpa using h)
  have hstart : (⟨name⟩ : Path).view.start = none := by
    rw [view_start, not_isAbsolute_of_isStep h.1, pieces_of_no_slash h.1.no_slash]
    simp [h.2.1]
  rw [components_eq, View.opening, hstart, names_of_isStep h.1, hstep]
  rfl

/-- Going on from a path that is written out keeps its first piece. -/
theorem head?_pieces_join {p q : Path} (hwritten : p.text ≠ "") (hrelative : q.isAbsolute = false) :
    (p.join q).text ≠ "" ∧ (p.join q).pieces.head? = p.pieces.head? := by
  -- what one goes on to stands behind a slash
  obtain ⟨front, hjoined, hbefore⟩ : ∃ front, (p.join q).text = front ++ "/" ++ q.text ∧
      (p.text = front ∨ p.text = front ++ "/" ++ "") := by
    unfold join
    rw [if_neg (by simp [hrelative])]
    split
    case isTrue h =>
      rw [Bool.or_eq_true] at h
      have hslash := h.resolve_left (by simpa using hwritten)
      obtain ⟨front, hchars⟩ := List.getLast?_eq_some_iff.mp (by simpa using hslash)
      have htext : p.text = String.ofList front ++ "/" := String.toList_injective (by simp [hchars])
      exact ⟨String.ofList front, by simp [htext], .inr (by simp [htext])⟩
    case isFalse => exact ⟨p.text, rfl, .inl rfl⟩
  refine ⟨by simp [hjoined], ?_⟩
  have hbehind : (p.join q).pieces = (⟨front⟩ : Path).pieces ++ q.pieces := by
    rw [← pieces_append_slash, ← hjoined]
  obtain ⟨first, others, hpieces⟩ := List.exists_cons_of_ne_nil (pieces_ne_nil ⟨front⟩)
  have hsame : p.pieces = (⟨front⟩ : Path).pieces ∨
      p.pieces = (⟨front⟩ : Path).pieces ++ (⟨""⟩ : Path).pieces := by
    rw [← pieces_append_slash]
    exact hbefore.imp (fun htext => by rw [← htext]) (fun htext => by rw [← htext])
  rcases hsame with hsame | hsame <;> rw [hbehind, hsame, hpieces] <;> rfl

/-- Going on from a path that is written out does not change what it starts from. -/
theorem view_start_join {p q : Path} (hwritten : p.text ≠ "") (hrelative : q.isAbsolute = false) :
    (p.join q).view.start = p.view.start := by
  obtain ⟨hgoesOn, hhead⟩ := head?_pieces_join hwritten hrelative
  have habs : (p.join q).isAbsolute = p.isAbsolute := by
    rw [Bool.eq_iff_iff, isAbsolute_iff_head? hgoesOn, isAbsolute_iff_head? hwritten, hhead]
  rw [view_start, view_start, hhead, habs]

/-- **Going on by a name** adds the step to it. -/
theorem components_child {p : Path} {name : String} (h : IsStep name ∧ name ≠ "." ∧ name ≠ "..") :
    (p.child name).components = p.components ++ [.name name] := by
  by_cases hwritten : p.text = ""
  · obtain rfl : p = ⟨""⟩ := congrArg Path.mk hwritten
    have halone : (⟨""⟩ : Path).child name = ⟨name⟩ := by
      simp [child, join, not_isAbsolute_of_isStep h.1]
    rw [halone, components_name h]
    rfl
  · have hstep : [name].filterMap Component.ofPiece? = [.name name] :=
      filterMap_ofPiece?_of_names (by simpa using h)
    rw [components_eq, components_eq, names_child h.1, View.opening, View.opening, child,
      view_start_join hwritten (not_isAbsolute_of_isStep h.1), List.filterMap_append, hstep,
      List.append_assoc]

/-- **Going on through names** adds their steps. -/
theorem components_descend {p : Path} {names : List String}
    (h : ∀ name ∈ names, IsStep name ∧ name ≠ "." ∧ name ≠ "..") :
    (p.descend names).components = p.components ++ names.map .name := by
  induction names generalizing p with
  | nil => simp [descend]
  | cons name rest ih =>
    obtain ⟨hfirst, hothers⟩ := List.forall_mem_cons.mp h
    rw [descend, List.foldl_cons, ← descend, ih hothers, components_child hfirst, List.append_assoc,
      List.map_cons, List.singleton_append]

/-- A name that a path steps to is one that an entry can have. -/
theorem isStep_of_name_mem_components {p : Path} {name : String} (h : .name name ∈ p.components) :
    IsStep name ∧ name ≠ "." ∧ name ≠ ".." := by
  rw [components_eq, List.mem_append, View.opening, List.mem_map, List.mem_filterMap] at h
  rcases h with ⟨start, -, hstep⟩ | ⟨piece, hmem, hstep⟩
  · cases start <;> cases hstep
  · rcases eq_of_ofPiece? hstep with hup | ⟨hsame, -, hcurrent, hparent⟩
    · cases hup
    · obtain rfl := Component.name.inj hsame
      exact ⟨isStep_of_mem_names hmem, hcurrent, hparent⟩

/-! ## What is left below a path -/

/-- No piece behind the start holds a slash. -/
theorem no_slash_of_mem_body {p : Path} {piece : String} (h : piece ∈ p.view.body) :
    '/' ∉ piece.toList := by
  refine no_slash_of_mem_pieces (p := p) ?_
  rw [view] at h
  split at h
  case h_1 => cases h
  case h_2 first rest hwritten =>
    rw [hwritten]
    split at h
    case isTrue => exact List.mem_cons_of_mem _ h
    case isFalse =>
      split at h
      case isTrue => exact List.mem_cons_of_mem _ h
      case isFalse => exact h

/-- What a path starts from is written out, or its first piece is a step. -/
theorem of_view_start_eq_none {p : Path} (h : p.view.start = none) :
    p.view.body = p.pieces ∧ p.isAbsolute = false ∧ p.pieces.head? ≠ some "." := by
  have hstart := view_start p
  rw [h] at hstart
  split at hstart
  case isTrue => cases hstart
  case isFalse hrelative =>
    split at hstart
    case isTrue => cases hstart
    case isFalse hother =>
      refine ⟨?_, by simpa using hrelative, hother⟩
      rw [view]
      cases hwritten : p.pieces with
      | nil => rfl
      | cons first rest =>
        rw [hwritten, List.head?_cons, Option.some.injEq] at hother
        simp [hrelative, hother]

/-- Parts that are put together make the same steps, unless they would be taken for others. -/
theorem components_path {v : View} (hsplit : ∀ piece ∈ v.body, '/' ∉ piece.toList)
    (hbare : v.start = none → ∀ first, v.body.head? = some first → isIdle first = false) :
    v.path.components = v.components := by
  obtain ⟨start, body⟩ := v
  cases start with
  | none => exact components_ofPieces hsplit (hbare rfl)
  | some start =>
    cases start with
    | root =>
      have habs : (View.path ⟨some .root, body⟩).isAbsolute = true := isAbsolute_iff.mpr ⟨_, rfl⟩
      rw [components_of_isAbsolute habs, names_root_path hsplit, filterMap_ofPiece?_filter]
      rfl
    | current =>
      -- the dot is written as a piece of its own, and is read as the start again
      have hpieces : (ofPieces ("." :: body)).pieces = "." :: body :=
        pieces_ofPieces (List.cons_ne_nil _ _) (List.forall_mem_cons.mpr ⟨by decide, hsplit⟩)
      have hrelative : (ofPieces ("." :: body)).isAbsolute = false := by
        rw [Bool.eq_false_iff]
        intro habs
        have hfront := (pieces_of_isAbsolute habs).1
        rw [hpieces, List.cons.injEq] at hfront
        exact absurd hfront.1 (by decide)
      rw [View.path, components, view, hpieces]
      simp [hrelative]

/-- **Idle pieces at the end** of a path make no steps. -/
theorem components_path_dropIdleEnd (p : Path) :
    (View.path ⟨p.view.start, dropIdleEnd p.view.body⟩).components = p.components := by
  obtain ⟨idle, hwhole, -⟩ := exists_eq_dropIdleEnd_append p.view.body
  rw [components_path, View.components, filterMap_ofPiece?_dropIdleEnd]
  · rfl
  · intro piece hmem
    refine no_slash_of_mem_body (p := p) ?_
    rw [hwhole]
    exact List.mem_append_left _ hmem
  · intro hstart first hhead
    -- a path without a start begins with a piece that counts, else it would be read with one
    obtain ⟨hbody, hrelative, hother⟩ := of_view_start_eq_none hstart
    have hfront : p.pieces.head? = some first := by
      rw [← hbody, hwhole, List.head?_append]
      simp only at hhead
      rw [hhead]
      rfl
    rw [Bool.eq_false_iff]
    intro hdropped
    simp only [isIdle, Bool.or_eq_true, beq_iff_eq] at hdropped
    rcases hdropped with rfl | rfl
    · by_cases hwritten : p.text = ""
      · obtain rfl : p = ⟨""⟩ := congrArg Path.mk hwritten
        exact absurd hhead (by decide)
      · rw [(isAbsolute_iff_head? hwritten).mpr hfront] at hrelative
        cases hrelative
    · exact hother hfront

/-- Idle pieces at both ends make no steps. -/
theorem components_ofPieces_trimmed {pieces : List String} (hsplit : ∀ piece ∈ pieces, '/' ∉ piece.toList) :
    (ofPieces (dropIdleEnd (pieces.dropWhile isIdle))).components = pieces.filterMap Component.ofPiece? := by
  obtain ⟨idle, hwhole, -⟩ := exists_eq_dropIdleEnd_append (pieces.dropWhile isIdle)
  have hfront : dropIdleEnd (pieces.dropWhile isIdle) <+: pieces.dropWhile isIdle := ⟨idle, hwhole.symm⟩
  rw [components_ofPieces, filterMap_ofPiece?_dropIdleEnd, filterMap_ofPiece?_dropWhile]
  · exact fun piece hmem => hsplit piece ((List.dropWhile_suffix _).mem (hfront.mem hmem))
  · intro first hhead
    have hkept := List.head?_dropWhile_not isIdle pieces
    rw [hwhole, List.head?_append, hhead] at hkept
    simpa using hkept

/-- **What is left of a path below another one** goes on from the steps of the other, however the two are
written. -/
theorem relativeTo?_components (p base : Path) :
    (∃ way, p.relativeTo? base = some way ∧ p.components = base.components ++ way.components) ∨
      p.relativeTo? base = none ∧ ∀ steps, p.components ≠ base.components ++ steps := by
  unfold relativeTo?
  simp only
  split
  case isFalse h =>
    refine .inr ⟨rfl, fun steps hgoesOn => h ?_⟩
    rw [List.isPrefixOf_iff_prefix, hgoesOn]
    exact List.prefix_append _ _
  case isTrue h =>
    left
    obtain ⟨left, hgoesOn⟩ := List.isPrefixOf_iff_prefix.mp h
    split
    case h_1 hnothing =>
      refine ⟨_, rfl, ?_⟩
      rw [hnothing, components_path_dropIdleEnd, List.nil_append]
    case h_2 first others hwritten =>
      refine ⟨_, rfl, ?_⟩
      rw [components_ofPieces_trimmed fun piece hmem =>
        no_slash_of_mem_body ((dropSteps_suffix _ _).mem hmem), filterMap_ofPiece?_dropSteps]
      -- at least as many steps are taken as the start makes
      have hatLeast : p.view.start.toList.length ≤ base.components.length := by
        rw [hwritten, List.length_cons]
        exact Nat.le_trans Option.length_toList_le (Nat.le_add_left _ _)
      have hsteps : p.components = p.view.start.toList.map Start.component ++
          p.view.body.filterMap Component.ofPiece? := rfl
      have hbehind : p.components.drop base.components.length = (p.view.body.filterMap
          Component.ofPiece?).drop (base.components.length - p.view.start.toList.length) := by
        rw [hsteps, List.drop_append, List.length_map, List.drop_eq_nil_of_le, List.nil_append]
        rwa [List.length_map]
      rw [← hbehind, ← hgoesOn, List.drop_left]

end Path

end ComponentScaffold
