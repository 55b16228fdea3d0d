import ComponentScaffold.Proofs.Project.LeastRoot

/-! # The root where folders are new

New directories hold no files, so they are no roots, and they do not change which root comes first.

* **`findSome?_of_gaps`** — what is found first in a list that is in order does not change with what is found
  nothing for.
* **`FileSystem.located_of_gainsFolders`** — the root that is located stays the same. -/

namespace ComponentScaffold

/-- **What is found first** is the same in a list that is in order and in one that holds more, in the same order,
where nothing is found for the rest. -/
theorem findSome?_of_gaps {α β : Type} {r : α → α → Prop} {some? : α → Option β} {list more : List α}
    (hasymm : ∀ x y, r x y → ¬r y x) (hlist : list.Pairwise r) (hmore : more.Pairwise r)
    (hsub : ∀ x ∈ list, x ∈ more) (hrest : ∀ x ∈ more, some? x ≠ none → x ∈ list) :
    more.findSome? some? = list.findSome? some? := by
  cases hfound : list.findSome? some? with
  | none =>
    rw [List.findSome?_eq_none_iff] at hfound ⊢
    intro x hx
    refine Decidable.byContradiction fun hsome => ?_
    exact hsome (hfound x (hrest x hx hsome))
  | some found =>
    -- what is first in either list is in the other, and comes before all that is found there
    obtain ⟨first, hfirst, hsome, hleast⟩ := exists_least_of_findSome? hlist hfound
    obtain ⟨other, hother⟩ : ∃ other, more.findSome? some? = some other := by
      rw [← Option.ne_none_iff_exists', ne_eq, List.findSome?_eq_none_iff]
      intro hnone
      rw [hnone first (hsub first hfirst)] at hsome
      cases hsome
    obtain ⟨first', hfirst', hsome', hleast'⟩ := exists_least_of_findSome? hmore hother
    have hmem := hrest first' hfirst' (by simp [hsome'])
    obtain rfl : first = first' := by
      rcases hleast first' hmem (by simp [hsome']) with heq | hlt
      · exact heq.symm
      rcases hleast' first (hsub first hfirst) (by simp [hsome]) with heq | hgt
      · exact heq
      exact absurd hgt (hasymm _ _ hlt)
    rw [hother, ← hsome', hsome]

namespace FileSystem

variable {fs made : FileSystem} {markers : ProjectMarkers} {place : Location} {path : Path}

/-- A search still comes to a directory where nothing is lost. -/
theorem ComesTo.grows (hgrows : fs.GrowsTo made) {names : List String} (h : fs.ComesTo place path names) :
    made.ComesTo place path names := by
  induction h with
  | here => exact .here _ _
  | down hsize hname _ ih => exact .down hsize (hgrows.directory hname) ih

/-- A search that comes to what was there came to it before. -/
theorem ComesTo.of_gainsFolders (hfs : fs.WellFormed) (hgains : fs.GainsFolders made) {names : List String}
    (h : made.ComesTo place path names) (hthere : fs.lookup (place ++ names) ≠ none) :
    fs.ComesTo place path names := by
  induction h with
  | here => exact .here _ _
  | @down place path name rest hsize hname _ ih =>
    rw [List.append_cons] at hthere
    rcases hgains.gains hname with hfolder | ⟨hnone, -⟩
    · exact .down hsize hfolder (ih hthere)
    · exact absurd (hfs.none_below_append hnone rest) hthere

/-- No file is new. -/
theorem hasFile_of_gainsFolders (hgains : fs.GainsFolders made) {name : String} :
    made.HasFile place name ↔ fs.HasFile place name := by
  constructor
  · rintro ⟨bytes, h⟩
    rcases hgains.gains h with hthere | ⟨-, hfolder⟩
    · exact ⟨bytes, hthere⟩
    · cases hfolder
  · rintro ⟨bytes, h⟩
    exact ⟨bytes, hgains.keeps h⟩

/-- What a search finds a directory to be stays the same. -/
theorem openedRoot?_of_gainsFolders (hgains : fs.GainsFolders made) :
    made.openedRoot? markers place path = fs.openedRoot? markers place path := by
  ext root
  rw [openedRoot?_eq_some_iff, openedRoot?_eq_some_iff, rootAt?_eq_some_iff, rootAt?_eq_some_iff]
  exact and_congr_right fun _ => ⟨fun h => h.of_hasFile fun _ => (hasFile_of_gainsFolders hgains).symm,
    fun h => h.of_hasFile fun _ => hasFile_of_gainsFolders hgains⟩

/-- A new directory is no root. -/
theorem openedRoot?_of_none (hfs : fs.WellFormed) (hnone : fs.lookup place = none) :
    fs.openedRoot? markers place path = none := by
  cases hroot : fs.openedRoot? markers place path with
  | none => rfl
  | some root =>
    obtain ⟨_, ⟨_, hfile⟩ | ⟨_, hfile⟩⟩ := (isRoot_of_rootAt? (openedRoot?_eq_some_iff.1 hroot).2).marked
    all_goals
      rw [hfs.inFolder hfile] at hnone
      cases hnone

/-- **What is found first below a place** is the same where folders are new. -/
theorem findSome?_directoriesBelow (hfs : fs.WellFormed) (hgains : fs.GainsFolders made) (place : Location)
    (path : Path) :
    ((made.directoriesBelow place path).findSome? fun found => fs.openedRoot? markers found.1 found.2) =
      (fs.directoriesBelow place path).findSome? fun found => fs.openedRoot? markers found.1 found.2 := by
  refine findSome?_of_gaps (r := fun found other => found.1 < other.1) (fun _ _ => List.lt_asymm)
    (fs.pairwise_directoriesWithin _ _ _) (made.pairwise_directoriesWithin _ _ _) ?_ ?_
  · intro found hfound
    obtain ⟨name, rest, hcomes, rfl⟩ := mem_directoriesBelow_iff.1 hfound
    exact mem_directoriesBelow_iff.2 ⟨name, rest, hcomes.grows hgains.growsTo, rfl⟩
  · intro found hfound hroot
    obtain ⟨name, rest, hcomes, rfl⟩ := mem_directoriesBelow_iff.1 hfound
    refine mem_directoriesBelow_iff.2 ⟨name, rest, hcomes.of_gainsFolders hfs hgains fun hnone => ?_, rfl⟩
    exact hroot (openedRoot?_of_none hfs hnone)

/-- **The root that is located** from a path that leads to a directory is the same where folders are new. -/
theorem located_of_gainsFolders {start : Path} (hfs : fs.WellFormed) (hgains : fs.GainsFolders made)
    (habs : start.isAbsolute = true) (h : fs.resolve start .target = .ok (.entry place .directory)) :
    made.located markers start = fs.located markers start := by
  have hgrows := hgains.growsTo
  have hfind := resolve_grows hgrows habs h .directory
  obtain ⟨found, entry, hname⟩ := exists_resolve_name h
  obtain ⟨hfound⟩ := resolve_holds hfs habs hname
  have hname' := resolve_grows hgrows habs hname (.entry (hgains.keeps hfound) (.same entry))
  -- the search starts from the same entry, be it the directory itself or a link to it
  unfold located directoriesFrom
  rw [hname, hname']
  cases entry with
  | directory =>
    simp only [List.findSome?_cons, openedRoot?_of_gainsFolders hgains, findSome?_directoriesBelow hfs hgains]
  | link target =>
    simp only [find, h, hfind, Except.bind, entryAt, openedRoot?_of_gainsFolders hgains,
      findSome?_directoriesBelow hfs hgains]
  | file | device | queue => rfl

end FileSystem

end ComponentScaffold
