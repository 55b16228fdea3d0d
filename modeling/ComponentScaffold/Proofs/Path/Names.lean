import ComponentScaffold.Files.Resolve

/-! # Names of a path

What the operations on paths do to the names that a path goes through, and to its steps.

* **`Path.IsStep`** — what stands between slashes.
* **`Path.names_join`**, **`Path.names_child`**, **`Path.names_descend`** — going on from a path.
* **`Path.exists_names_of_parent?`** — the path one step up has all names but the last. -/

namespace ComponentScaffold

namespace Path

/-- **A text that stands between slashes**: some characters, none of them a slash. -/
structure IsStep (text : String) : Prop where
  /-- There is something. -/
  ne_empty : text ≠ ""
  /-- There is no slash. -/
  no_slash : '/' ∉ text.toList

theorem IsStep.exists_toList_eq_cons {text : String} (h : IsStep text) :
    ∃ first rest, text.toList = first :: rest :=
  List.exists_cons_of_ne_nil fun hnil => h.ne_empty (String.toList_injective (by simpa using hnil))

/-! ## Pieces -/

theorem pieces_ne_nil (p : Path) : p.pieces ≠ [] := by simp [pieces]

/-- No part of a list that is split holds what it is split at. -/
private theorem not_mem_of_mem_splitOn {α : Type} [BEq α] [LawfulBEq α] {separator : α}
    {whole part : List α} (h : part ∈ whole.splitOn separator) : separator ∉ part := by
  induction whole generalizing part with
  | nil =>
    rw [List.splitOn_nil, List.mem_singleton] at h
    simp [h]
  | cons head rest ih =>
    rw [List.splitOn_cons_eq_if_modifyHead] at h
    split at h
    case isTrue =>
      rcases List.mem_cons.1 h with rfl | hpart
      · simp
      · exact ih hpart
    case isFalse hhead =>
      -- the first part grows by a character that is no separator
      cases hrest : rest.splitOn separator with
      | nil => exact absurd hrest (by simp)
      | cons first others =>
        rw [hrest, List.modifyHead_cons] at h
        rcases List.mem_cons.1 h with rfl | hpart
        · have hfirst := ih (hrest ▸ List.mem_cons_self : first ∈ rest.splitOn separator)
          simp only [beq_iff_eq] at hhead
          simp [hfirst, Ne.symm hhead]
        · exact ih (hrest ▸ List.mem_cons_of_mem _ hpart)

/-- No piece of a path holds a slash. -/
theorem no_slash_of_mem_pieces {p : Path} {piece : String} (h : piece ∈ p.pieces) :
    '/' ∉ piece.toList := by
  obtain ⟨part, hpart, rfl⟩ := List.mem_map.1 h
  simpa using not_mem_of_mem_splitOn hpart

/-- A slash ends one piece and starts another. -/
theorem pieces_append_slash (front back : String) :
    (⟨front ++ "/" ++ back⟩ : Path).pieces =
      (⟨front⟩ : Path).pieces ++ (⟨back⟩ : Path).pieces := by
  simp [pieces, List.splitOn_append_cons_self]

/-- A text without a slash is one piece. -/
theorem pieces_of_no_slash {text : String} (h : '/' ∉ text.toList) :
    (⟨text⟩ : Path).pieces = [text] := by
  simp [pieces, List.splitOn_eq_singleton h]

/-- Pieces that are put together are taken apart again. -/
theorem pieces_ofPieces {pieces : List String} (hne : pieces ≠ [])
    (h : ∀ piece ∈ pieces, '/' ∉ piece.toList) : (ofPieces pieces).pieces = pieces := by
  have hsplit : (List.intercalate ['/'] (pieces.map String.toList)).splitOn '/' =
      pieces.map String.toList :=
    List.splitOn_intercalate '/' (by simpa using h) (by simpa using hne)
  have htext : ("/".intercalate pieces).toList = List.intercalate ['/'] (pieces.map String.toList) := by
    simp
  rw [ofPieces, Path.pieces, htext, hsplit, List.map_map]
  simp [Function.comp_def]

/-- What is put behind a list, without the separator, is only in its last part. -/
private theorem mem_splitOn_append_right {α : Type} [BEq α] [LawfulBEq α] {separator : α}
    {middle back part : List α} (hback : separator ∉ back)
    (h : part ∈ (middle ++ back).splitOn separator) :
    part ∈ middle.splitOn separator ∨ back <:+ part := by
  by_cases hmem : separator ∈ middle
  · obtain ⟨last, front, hreversed, hlast⟩ := List.eq_append_cons_of_mem (List.mem_reverse.2 hmem)
    obtain rfl : middle = front.reverse ++ separator :: last.reverse := by
      rw [List.reverse_eq_iff.1 hreversed]
      simp
    rw [List.append_assoc, List.cons_append, List.splitOn_append_cons_self, List.mem_append] at h
    rcases h with hpart | hpart
    · exact .inl (by rw [List.splitOn_append_cons_self]; exact List.mem_append_left _ hpart)
    · rw [List.splitOn_eq_singleton (by simp [hlast, hback]), List.mem_singleton] at hpart
      exact .inr ⟨last.reverse, hpart.symm⟩
  · rw [List.splitOn_eq_singleton (by simp [hmem, hback]), List.mem_singleton] at h
    exact .inr ⟨middle, h.symm⟩

/-- What is put around a text, without a slash, is only in its first and its last piece. -/
theorem mem_pieces_append {front middle back piece : String} (hfront : '/' ∉ front.toList)
    (hback : '/' ∉ back.toList) (h : piece ∈ (⟨front ++ middle ++ back⟩ : Path).pieces) :
    piece ∈ (⟨middle⟩ : Path).pieces ∨ front.toList <+: piece.toList ∨ back.toList <:+ piece.toList := by
  obtain ⟨part, hpart, rfl⟩ := List.mem_map.1 h
  simp only [String.toList_append, String.toList_ofList, pieces, List.mem_map] at hpart ⊢
  by_cases hmem : '/' ∈ middle.toList
  · obtain ⟨first, rest, hmiddle, hfirst⟩ := List.eq_append_cons_of_mem hmem
    rw [hmiddle, ← List.append_assoc, List.append_assoc, List.cons_append,
      List.splitOn_append_cons_self_of_not_mem (by simp [hfront, hfirst]), List.mem_cons] at hpart
    rcases hpart with rfl | hpart
    · exact .inr (.inl ⟨first, rfl⟩)
    · rcases mem_splitOn_append_right hback hpart with hrest | hsuffix
      · refine .inl ⟨part, ?_, rfl⟩
        rw [hmiddle, List.splitOn_append_cons_self_of_not_mem hfirst]
        exact List.mem_cons_of_mem _ hrest
      · exact .inr (.inr hsuffix)
  · rw [List.splitOn_eq_singleton (by simp [hfront, hback, hmem]), List.mem_singleton] at hpart
    exact .inr (.inl ⟨middle.toList ++ back.toList, by simp [hpart]⟩)

/-- A text without a slash starts a piece, whatever follows it. -/
theorem exists_mem_pieces_of_prefix {front : String} (h : '/' ∉ front.toList) (back : String) :
    ∃ piece ∈ (⟨front ++ back⟩ : Path).pieces, front.toList <+: piece.toList := by
  by_cases hmem : '/' ∈ back.toList
  · obtain ⟨first, rest, hback, hfirst⟩ := List.eq_append_cons_of_mem hmem
    refine ⟨String.ofList (front.toList ++ first), List.mem_map_of_mem ?_, first, by simp⟩
    rw [String.toList_append, hback, ← List.append_assoc,
      List.splitOn_append_cons_self_of_not_mem (by simp [h, hfirst])]
    exact List.mem_cons_self
  · refine ⟨front ++ back, ?_, back.toList, by simp⟩
    rw [pieces_of_no_slash (by simp [h, hmem])]
    exact List.mem_singleton_self _

/-- A text without a slash ends a piece, whatever stands before it. -/
theorem exists_mem_pieces_of_suffix {back : String} (h : '/' ∉ back.toList) (front : String) :
    ∃ piece ∈ (⟨front ++ back⟩ : Path).pieces, back.toList <:+ piece.toList := by
  by_cases hmem : '/' ∈ front.toList
  · obtain ⟨last, first, hreversed, hlast⟩ := List.eq_append_cons_of_mem (List.mem_reverse.2 hmem)
    have hend : (last.reverse ++ back.toList).splitOn '/' = [last.reverse ++ back.toList] :=
      List.splitOn_eq_singleton (by simp [hlast, h])
    refine ⟨String.ofList (last.reverse ++ back.toList), List.mem_map_of_mem ?_, last.reverse, by simp⟩
    rw [String.toList_append, List.reverse_eq_iff.1 hreversed, List.reverse_append, List.reverse_cons,
      List.append_assoc, List.append_assoc, List.singleton_append, List.splitOn_append_cons_self, hend]
    exact List.mem_append_right _ (List.mem_singleton_self _)
  · refine ⟨front ++ back, ?_, front.toList, by simp⟩
    rw [pieces_of_no_slash (by simp [h, hmem])]
    exact List.mem_singleton_self _

/-! ## Absolute paths -/

/-- An absolute path starts with a slash. -/
theorem isAbsolute_iff {p : Path} : p.isAbsolute = true ↔ ∃ rest, p.text = "/" ++ rest := by
  rw [isAbsolute, List.isPrefixOf_iff_prefix]
  constructor
  · rintro ⟨rest, hrest⟩
    exact ⟨String.ofList rest, String.toList_injective (by simpa using hrest.symm)⟩
  · rintro ⟨rest, hrest⟩
    exact ⟨rest.toList, by simp [hrest]⟩

/-- An absolute path has an empty piece in front of all others. -/
theorem pieces_of_isAbsolute {p : Path} (h : p.isAbsolute = true) :
    p.pieces = "" :: p.pieces.tail ∧ p.pieces.tail ≠ [] := by
  obtain ⟨rest, hrest⟩ := isAbsolute_iff.1 h
  have hpieces : p.pieces = "" :: (⟨rest⟩ : Path).pieces := by
    have := pieces_append_slash "" rest
    rw [String.empty_append, ← hrest, pieces_of_no_slash (by simp : '/' ∉ "".toList)] at this
    exact this
  rw [hpieces]
  exact ⟨rfl, pieces_ne_nil _⟩

/-- An absolute path starts from the root. -/
theorem view_of_isAbsolute {p : Path} (h : p.isAbsolute = true) :
    p.view = ⟨some .root, p.pieces.tail⟩ := by
  unfold view
  rw [(pieces_of_isAbsolute h).1]
  simp [h]

/-- An absolute path has a text. -/
theorem text_ne_of_isAbsolute {p : Path} (h : p.isAbsolute = true) : p.text ≠ "" := by
  obtain ⟨rest, hrest⟩ := isAbsolute_iff.1 h
  rw [hrest]
  simp

/-! ## Names -/

/-- What is between slashes is a step. -/
theorem isStep_of_mem_names {p : Path} {name : String} (h : name ∈ p.names) : IsStep name := by
  obtain ⟨hpiece, hne⟩ := List.mem_filter.1 h
  exact ⟨by simpa using hne, no_slash_of_mem_pieces hpiece⟩

/-- The names of an absolute path are its pieces behind the root. -/
theorem names_of_isAbsolute {p : Path} (h : p.isAbsolute = true) :
    p.names = p.pieces.tail.filter (· ≠ "") := by
  rw [names, (pieces_of_isAbsolute h).1]
  simp

/-- Pieces without characters make no step. -/
theorem filterMap_ofPiece?_filter (pieces : List String) :
    (pieces.filter (· ≠ "")).filterMap Component.ofPiece? = pieces.filterMap Component.ofPiece? := by
  rw [List.filterMap_filter]
  congr 1
  funext piece
  by_cases hpiece : piece = "" <;> simp [hpiece, Component.ofPiece?, isIdle]

/-- **The steps of an absolute path** are one to the root and those of its names. -/
theorem components_of_isAbsolute {p : Path} (h : p.isAbsolute = true) :
    p.components = .root :: p.names.filterMap Component.ofPiece? := by
  rw [components, view_of_isAbsolute h, names_of_isAbsolute h, filterMap_ofPiece?_filter]
  rfl

/-- What stands between slashes is its own only name. -/
theorem names_of_isStep {name : String} (h : IsStep name) : (⟨name⟩ : Path).names = [name] := by
  rw [names, pieces_of_no_slash h.no_slash]
  simp [h.ne_empty]

/-- What stands between slashes is no absolute path. -/
theorem not_isAbsolute_of_isStep {name : String} (h : IsStep name) :
    (⟨name⟩ : Path).isAbsolute = false := by
  rw [Bool.eq_false_iff]
  intro habs
  obtain ⟨rest, hrest⟩ := isAbsolute_iff.1 habs
  exact h.no_slash (by simp [show name = "/" ++ rest from hrest])

/-- **Going on** from a path goes through its names first. -/
theorem names_join {p q : Path} (hq : q.isAbsolute = false) : (p.join q).names = p.names ++ q.names := by
  unfold join
  rw [if_neg (by simp [hq])]
  split
  case isTrue h =>
    rw [Bool.or_eq_true] at h
    rcases h with hempty | hslash
    · obtain ⟨text⟩ := p
      obtain rfl : text = "" := by simpa using hempty
      simp [names, pieces_of_no_slash (by simp : '/' ∉ "".toList)]
    · -- the slash at the end is the one that `q` goes on from
      obtain ⟨front, hfront⟩ := List.getLast?_eq_some_iff.1 (by simpa using hslash)
      have htext : p.text = String.ofList front ++ "/" ++ "" := String.toList_injective (by simp [hfront])
      have hp : p.pieces = (⟨String.ofList front⟩ : Path).pieces ++ [""] := by
        rw [← pieces_of_no_slash (by simp : '/' ∉ "".toList), ← pieces_append_slash, ← htext]
      have hjoin : p.text ++ q.text = String.ofList front ++ "/" ++ q.text := by
        simp [htext]
      rw [hjoin, names, names, names, pieces_append_slash, hp]
      simp
  case isFalse => rw [names, names, names, pieces_append_slash, List.filter_append]

/-- Going on to an entry adds its name. -/
theorem names_child {p : Path} {name : String} (h : IsStep name) :
    (p.child name).names = p.names ++ [name] := by
  rw [child, names_join (not_isAbsolute_of_isStep h), names_of_isStep h]

/-- Going on through entries adds their names. -/
theorem names_descend {p : Path} {names : List String} (h : ∀ name ∈ names, IsStep name) :
    (p.descend names).names = p.names ++ names := by
  induction names generalizing p with
  | nil => simp [descend]
  | cons name rest ih =>
    have hrest : ∀ name ∈ rest, IsStep name := fun other hother => h other (List.mem_cons_of_mem _ hother)
    rw [descend, List.foldl_cons, ← descend, ih hrest, names_child (h name List.mem_cons_self),
      List.append_assoc, List.singleton_append]

/-- Where one goes on from an absolute path is absolute. -/
theorem isAbsolute_join {p : Path} (h : p.isAbsolute = true) (q : Path) :
    (p.join q).isAbsolute = true := by
  obtain ⟨rest, hrest⟩ := isAbsolute_iff.1 h
  unfold join
  split
  case isTrue hq => exact hq
  case isFalse =>
    split
    case isTrue => exact isAbsolute_iff.2 ⟨rest ++ q.text, by simp [hrest, String.append_assoc]⟩
    case isFalse =>
      exact isAbsolute_iff.2 ⟨rest ++ "/" ++ q.text, by simp [hrest, String.append_assoc]⟩

theorem isAbsolute_child {p : Path} (h : p.isAbsolute = true) (name : String) :
    (p.child name).isAbsolute = true := isAbsolute_join h _

theorem isAbsolute_descend {p : Path} (h : p.isAbsolute = true) (names : List String) :
    (p.descend names).isAbsolute = true := by
  induction names generalizing p with
  | nil => exact h
  | cons name rest ih => exact ih (isAbsolute_child h name)

/-- Only what one goes on to decides whether a directory is asked for. -/
theorem isSlashed_join {p q : Path} (hq : q.text ≠ "") (habs : q.isAbsolute = false) :
    (p.join q).isSlashed = q.isSlashed := by
  have hlast : ∃ last, q.text.toList.getLast? = some last := by
    cases hlist : q.text.toList with
    | nil => exact absurd (String.toList_injective (by simpa using hlist)) hq
    | cons c rest => exact ⟨_, List.getLast?_eq_some_getLast (by simp)⟩
  obtain ⟨last, hlast⟩ := hlast
  unfold join
  rw [if_neg (by simp [habs])]
  split <;> simp [isSlashed, hlast, List.getLast?_cons]

/-- What stands between slashes asks for no directory. -/
theorem isSlashed_of_isStep {name : String} (h : IsStep name) : (⟨name⟩ : Path).isSlashed = false := by
  simp only [isSlashed, beq_eq_false_iff_ne, ne_eq]
  exact fun hlast => h.no_slash (List.mem_of_getLast? hlast)

theorem isSlashed_child {p : Path} {name : String} (h : IsStep name) :
    (p.child name).isSlashed = false := by
  rw [child, isSlashed_join h.ne_empty (not_isAbsolute_of_isStep h), isSlashed_of_isStep h]

/-! ## Paths of places -/

theorem isAbsolute_ofLocation (place : Location) : (ofLocation place).isAbsolute = true :=
  isAbsolute_iff.2 ⟨_, rfl⟩

/-- **The path of a place** goes through the names of the place. -/
theorem names_ofLocation {place : Location} (h : ∀ name ∈ place, IsStep name) :
    (ofLocation place).names = place := by
  cases place with
  | nil => rfl
  | cons name rest =>
    have hpieces := pieces_append_slash "" ("/".intercalate (name :: rest))
    have hbody := pieces_ofPieces (List.cons_ne_nil name rest) (fun piece hpiece => (h piece hpiece).no_slash)
    rw [String.empty_append] at hpieces
    have hfilter : (name :: rest).filter (· ≠ "") = name :: rest :=
      List.filter_eq_self.2 fun piece hpiece => by simpa using (h piece hpiece).ne_empty
    rw [ofLocation, names, hpieces, pieces_of_no_slash (by simp : '/' ∉ "".toList), ← ofPieces, hbody,
      List.filter_append, hfilter]
    rfl

/-! ## One step up -/

/-- What is dropped at the end is idle. -/
theorem exists_eq_dropIdleEnd_append (pieces : List String) :
    ∃ idle, pieces = dropIdleEnd pieces ++ idle ∧ ∀ piece ∈ idle, isIdle piece = true := by
  refine ⟨(pieces.reverse.takeWhile isIdle).reverse, ?_, fun piece hpiece => ?_⟩
  · rw [dropIdleEnd, ← List.reverse_append, List.takeWhile_append_dropWhile, List.reverse_reverse]
  · exact List.all_eq_true.1 List.all_takeWhile piece (List.mem_reverse.1 hpiece)

/-- What is left in the end is not idle. -/
theorem isIdle_of_getLast?_dropIdleEnd {pieces : List String} {last : String}
    (h : (dropIdleEnd pieces).getLast? = some last) : isIdle last = false := by
  rw [dropIdleEnd, List.getLast?_reverse] at h
  have := List.head?_dropWhile_not isIdle pieces.reverse
  rw [h] at this
  simpa using this

/-- Idle pieces have no name, or the name of a dot. -/
theorem eq_current_of_mem_filter {idle : List String} (h : ∀ piece ∈ idle, isIdle piece = true)
    {name : String} (hname : name ∈ idle.filter (· ≠ "")) : name = "." := by
  obtain ⟨hmem, hne⟩ := List.mem_filter.1 hname
  have hidle := h name hmem
  simp only [isIdle, Bool.or_eq_true, beq_iff_eq] at hidle
  exact hidle.resolve_left (by simpa using hne)

/-- A path that is put together behind the root has the names of its pieces. -/
theorem names_root_path {body : List String} (h : ∀ piece ∈ body, '/' ∉ piece.toList) :
    (View.path ⟨some .root, body⟩).names = body.filter (· ≠ "") := by
  have hpieces := pieces_append_slash "" ("/".intercalate body)
  rw [String.empty_append] at hpieces
  rw [View.path, names, hpieces, pieces_of_no_slash (by simp : '/' ∉ "".toList)]
  cases body with
  | nil => rfl
  | cons piece rest =>
    rw [← ofPieces, pieces_ofPieces (List.cons_ne_nil piece rest) h]
    simp

/-- **What a step up cuts off** from an absolute path: the last piece that is not idle, and the idle ones around
it. -/
theorem exists_pieces_of_parent? {p q : Path} (habs : p.isAbsolute = true) (h : p.parent? = some q) :
    ∃ body dots last ends, p.pieces.tail = body ++ dots ++ [last] ++ ends ∧ q = View.path ⟨some .root, body⟩ ∧
      isIdle last = false ∧ (∀ piece ∈ dots, isIdle piece = true) ∧ (∀ piece ∈ ends, isIdle piece = true) ∧
      p.view.lastPiece? = some last := by
  simp only [parent?, View.lastPiece?, view_of_isAbsolute habs] at h ⊢
  obtain ⟨ends, hends, hendsIdle⟩ := exists_eq_dropIdleEnd_append p.pieces.tail
  split at h
  case h_1 => cases h
  case h_2 steps hsteps =>
    obtain ⟨dots, hdots, hdotsIdle⟩ := exists_eq_dropIdleEnd_append (dropIdleEnd p.pieces.tail).dropLast
    obtain rfl := Option.some.inj h
    have hne : dropIdleEnd p.pieces.tail ≠ [] := hsteps
    obtain ⟨last, hlast⟩ : ∃ last, (dropIdleEnd p.pieces.tail).getLast? = some last :=
      ⟨_, List.getLast?_eq_some_getLast hne⟩
    refine ⟨_, dots, last, ends, ?_, rfl, isIdle_of_getLast?_dropIdleEnd hlast, hdotsIdle, hendsIdle, hlast⟩
    rw [← hdots, ← List.getLast_of_getLast?_eq_some hlast, List.dropLast_concat_getLast, ← hends]

/-- **The path one step up** from an absolute one has all its names but the last, where dots do not count. The
last is the one that the path ends in, unless it leads up itself. -/
theorem exists_names_of_parent? {p q : Path} (habs : p.isAbsolute = true) (h : p.parent? = some q) :
    q.isAbsolute = true ∧ ∃ dots last ends, p.names = q.names ++ dots ++ [last] ++ ends ∧
      last ≠ "." ∧ (∀ dot ∈ dots, dot = ".") ∧ (∀ dot ∈ ends, dot = ".") ∧
      p.fileName? = if last = ".." then none else some last := by
  obtain ⟨body, dots, last, ends, hwhole, rfl, hlastIdle, hdotsIdle, hendsIdle, hend⟩ :=
    exists_pieces_of_parent? habs h
  simp only [isIdle, Bool.or_eq_false_iff, beq_eq_false_iff_ne] at hlastIdle
  have hslash : ∀ piece ∈ body, '/' ∉ piece.toList := by
    intro piece hpiece
    refine no_slash_of_mem_pieces (p := p) (List.mem_of_mem_tail ?_)
    rw [hwhole]
    simp [hpiece]
  refine ⟨isAbsolute_iff.2 ⟨_, rfl⟩, dots.filter (· ≠ ""), last, ends.filter (· ≠ ""), ?_,
    hlastIdle.2, fun _ => eq_current_of_mem_filter hdotsIdle,
    fun _ => eq_current_of_mem_filter hendsIdle, by rw [fileName?, hend]⟩
  rw [names_of_isAbsolute habs, hwhole, names_root_path hslash]
  simp [hlastIdle.1]

/-- One step up from an absolute path is an absolute path. -/
theorem isAbsolute_of_parent? {p q : Path} (habs : p.isAbsolute = true) (h : p.parent? = some q) :
    q.isAbsolute = true := (exists_names_of_parent? habs h).1

/-- The name that an absolute path ends in is one of its names, and leads to an entry. -/
theorem isStep_of_fileName? {p : Path} {name : String} (habs : p.isAbsolute = true)
    (h : p.fileName? = some name) : IsStep name ∧ name ≠ "." ∧ name ≠ ".." := by
  simp only [fileName?, view_of_isAbsolute habs, View.lastPiece?] at h
  split at h
  case h_1 piece hpiece =>
    split at h
    case isTrue => cases h
    case isFalse hparent =>
      obtain rfl := Option.some.inj h
      have hidle := isIdle_of_getLast?_dropIdleEnd hpiece
      simp only [isIdle, Bool.or_eq_false_iff, beq_eq_false_iff_ne] at hidle
      obtain ⟨ends, hends, -⟩ := exists_eq_dropIdleEnd_append p.pieces.tail
      refine ⟨⟨hidle.1, no_slash_of_mem_pieces (p := p) (List.mem_of_mem_tail ?_)⟩, hidle.2, hparent⟩
      rw [hends]
      exact List.mem_append_left _ (List.mem_of_getLast? hpiece)
  case h_2 => cases h

/-- A path that ends in a name has the names of the path one step up, and that one. -/
theorem exists_names_of_fileName? {p q : Path} {name : String} (habs : p.isAbsolute = true)
    (h : p.parent? = some q) (hname : p.fileName? = some name) :
    ∃ dots ends, p.names = q.names ++ dots ++ [name] ++ ends ∧ (∀ dot ∈ dots, dot = ".") ∧
      ∀ dot ∈ ends, dot = "." := by
  obtain ⟨-, dots, last, ends, hnames, -, hdots, hends, hlast⟩ := exists_names_of_parent? habs h
  obtain rfl : last = name := by
    rw [hname] at hlast
    split at hlast
    · cases hlast
    · exact (Option.some.inj hlast).symm
  exact ⟨dots, ends, hnames, hdots, hends⟩

end Path

end ComponentScaffold
