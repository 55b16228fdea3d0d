import ComponentScaffold.Proofs.Project.Directories

/-! # The order of the walk

Names are listed in strict order, so the walk over the directories below a place comes to them in the order of
their places: name by name, and a directory before all that is in it.

* **`FileSystem.pairwise_childNames`** — the names in a directory.
* **`FileSystem.pairwise_directoriesWithin`** — the directories of the walk.
* **`FileSystem.directoriesFrom_of_directory`** — the directories of a search.
* **`exists_least_of_findSome?`** — what is found first in a list that is in order is the least. -/

namespace ComponentScaffold

/-- **What is found first** in a list that is in order is the least of what could be found. -/
theorem exists_least_of_findSome? {α β : Type} {r : α → α → Prop} {list : List α} {f : α → Option β}
    {found : β} (hlist : list.Pairwise r) (h : list.findSome? f = some found) :
    ∃ first ∈ list, f first = some found ∧ ∀ other ∈ list, f other ≠ none → other = first ∨ r first other := by
  obtain ⟨front, first, back, rfl, hfirst, hfront⟩ := List.findSome?_eq_some_iff.1 h
  refine ⟨first, by simp, hfirst, fun other hother hsome => ?_⟩
  rcases List.mem_append.1 hother with hmem | hmem
  · exact absurd (hfront other hmem) hsome
  · rcases List.mem_cons.1 hmem with rfl | hback
    · exact .inl rfl
    · exact .inr ((List.pairwise_cons.1 (List.pairwise_append.1 hlist).2.1).1 other hback)

namespace FileSystem

variable (fs : FileSystem)

/-! ## Names in a directory -/

/-- No name is left twice. -/
theorem nodup_eraseDups (names : List String) : names.eraseDups.Nodup := by
  match names with
  | [] => exact List.nodup_nil
  | name :: rest =>
    rw [List.eraseDups_cons, List.nodup_cons, List.mem_eraseDups]
    exact ⟨by simp, nodup_eraseDups _⟩
termination_by names.length
decreasing_by exact Nat.lt_succ_of_le (List.length_filter_le _ _)

/-- **The names in a directory** are in strict order. -/
theorem pairwise_childNames (directory : Location) : (fs.childNames directory).Pairwise (· < ·) := by
  have hsorted : (fs.childNames directory).Pairwise fun name other => decide (name ≤ other) = true :=
    List.pairwise_mergeSort (fun _ _ _ h h' => by simpa using String.le_trans (by simpa using h) (by simpa using h'))
      (fun name other => by simpa using String.le_total name other) _
  have hnodup : (fs.childNames directory).Nodup :=
    (List.mergeSort_perm _ _).nodup_iff.2 (nodup_eraseDups _)
  refine (hsorted.and hnodup).imp fun {name other} ⟨hle, hne⟩ => ?_
  rcases Decidable.em (name < other) with hlt | hge
  · exact hlt
  · exact absurd (String.le_antisymm (of_decide_eq_true hle) hge) hne

/-- So are those with their entries. -/
theorem pairwise_children (directory : Location) :
    (fs.children directory).Pairwise fun listed other => listed.1 < other.1 := by
  refine List.pairwise_filterMap.2 ((fs.pairwise_childNames directory).imp ?_)
  simp only [Option.map_eq_some_iff]
  rintro name other hlt _ ⟨_, -, rfl⟩ _ ⟨_, -, rfl⟩
  exact hlt

/-- And so are those of some of the entries. -/
theorem pairwise_filterMap_children (directory : Location) {select : String × Entry → Option String}
    (hselect : ∀ listed name, select listed = some name → listed.1 = name) :
    ((fs.children directory).filterMap select).Pairwise (· < ·) := by
  refine List.pairwise_filterMap.2 ((fs.pairwise_children directory).imp ?_)
  intro listed other hlt name hname name' hname'
  rwa [← hselect _ _ hname, ← hselect _ _ hname']

theorem pairwise_subdirectories (directory : Location) : (fs.subdirectories directory).Pairwise (· < ·) := by
  refine fs.pairwise_filterMap_children directory fun (listed, entry) name hname => ?_
  dsimp only at hname
  split at hname
  case isTrue => exact Option.some.inj hname
  case isFalse => cases hname

theorem pairwise_fileNames (directory : Location) : (fs.fileNames directory).Pairwise (· < ·) := by
  refine fs.pairwise_filterMap_children directory fun (listed, entry) name hname => ?_
  dsimp only at hname
  split at hname
  case h_1 => exact Option.some.inj hname
  case h_2 => cases hname

/-! ## The walk -/

/-- A place is before all that is below it. -/
theorem lt_append_cons (place : Location) (name : String) (rest : List String) :
    place < place ++ name :: rest := by
  simpa using List.append_left_lt (List.nil_lt_cons name rest)

/-- **The directories below a place** are in the order of their places. -/
theorem pairwise_directoriesWithin (levels : Nat) (place : Location) (path : Path) :
    (fs.directoriesWithin levels place path).Pairwise fun found other => found.1 < other.1 := by
  induction levels generalizing place path with
  | zero => exact .nil
  | succ levels ih =>
    rw [directoriesWithin]
    split
    case h_1 => exact .nil
    case h_2 hopened =>
      obtain ⟨-, rfl⟩ := openedAt_eq_ok_iff.1 hopened
      rw [List.pairwise_flatMap]
      -- all that is found below a name goes on from it, so between two names these decide
      have hbelow {name : String} {found : Location × Path}
          (h : found ∈ (place ++ [name], path.child name) ::
            fs.directoriesWithin levels (place ++ [name]) (path.child name)) :
          ∃ rest, found.1 = place ++ name :: rest := by
        rcases List.mem_cons.1 h with rfl | hfound
        · exact ⟨[], rfl⟩
        · obtain ⟨next, rest, -, -, rfl⟩ := mem_directoriesWithin_iff.1 hfound
          exact ⟨next :: rest, by simp⟩
      constructor
      · intro name _
        refine List.pairwise_cons.2 ⟨fun found hfound => ?_, ih _ _⟩
        obtain ⟨next, rest, -, -, rfl⟩ := mem_directoriesWithin_iff.1 hfound
        exact lt_append_cons _ _ _
      · refine (fs.pairwise_subdirectories place).imp fun hlt found hfound other hother => ?_
        obtain ⟨rest, hrest⟩ := hbelow hfound
        obtain ⟨rest', hrest'⟩ := hbelow hother
        rw [hrest, hrest']
        exact List.append_left_lt (.rel hlt)

/-- **The directories of a search** from one are those that it comes to, in the order of their places. -/
theorem directoriesFrom_of_directory {start : Path} {place : Location}
    (h : fs.resolve start .name = .ok (.entry place .directory)) :
    ∃ directories, fs.directoriesFrom start = .ok directories ∧
      (directories.Pairwise fun found other => found.1 < other.1) ∧
      ∀ found, found ∈ directories ↔
        ∃ names, fs.ComesTo place start names ∧ found = (place ++ names, start.descend names) := by
  refine ⟨(place, start) :: fs.directoriesBelow place start, by rw [directoriesFrom, h], ?_, fun found => ?_⟩
  · refine List.pairwise_cons.2 ⟨fun found hfound => ?_, fs.pairwise_directoriesWithin _ _ _⟩
    obtain ⟨name, rest, -, rfl⟩ := mem_directoriesBelow_iff.1 hfound
    exact lt_append_cons _ _ _
  · rw [List.mem_cons, mem_directoriesBelow_iff]
    constructor
    · rintro (rfl | ⟨name, rest, hcomes, rfl⟩)
      · exact ⟨[], .here place start, by rw [List.append_nil]; rfl⟩
      · exact ⟨name :: rest, hcomes, rfl⟩
    · rintro ⟨names, hcomes, rfl⟩
      cases names with
      | nil => exact .inl (by rw [List.append_nil]; rfl)
      | cons name rest => exact .inr ⟨name, rest, hcomes, rfl⟩

end FileSystem

end ComponentScaffold
