import ComponentScaffold.Proofs.Files.Folders

/-! # Paths of places in a file system

The path of a place leads through the directories above it, and through no link on the way.

* **`FileSystem.leads_place_iff`** — a way through a directory's place goes on from the directory.
* **`FileSystem.leads_place`** — the names of a place lead to what is there.
* **`FileSystem.isDirectory_of_makesPlace`** — where directories are made, what is on the way already leads to
  one. -/

namespace ComponentScaffold

/-- What is on the way to a path is no longer. -/
theorem Path.OnWayTo.size_le {p q : Path} (h : q.OnWayTo p) (habs : p.isAbsolute = true) :
    q.text.utf8ByteSize ≤ p.text.utf8ByteSize := by
  induction h with
  | here => exact Nat.le_refl _
  | above hup _ ih =>
    exact Nat.le_trans (ih (isAbsolute_of_parent? habs hup)) (size_le_of_parent? habs hup)

/-- A place is on the way to those below it. -/
theorem Path.onWayTo_ofLocation {front back : Location} (h : ∀ step ∈ front ++ back, IsStep step ∧ step ≠ ".") :
    (ofLocation front).OnWayTo (ofLocation (front ++ back)) := by
  induction hreversed : back.reverse generalizing back with
  | nil =>
    obtain rfl := List.reverse_eq_nil_iff.1 hreversed
    rw [List.append_nil]
    exact .here _
  | cons last rest ih =>
    obtain rfl : back = rest.reverse ++ [last] := List.reverse_eq_cons_iff.1 hreversed
    rw [← List.append_assoc] at h ⊢
    exact .above (parent?_ofLocation h)
      (ih (fun step hstep => h step (List.mem_append_left _ hstep)) (List.reverse_reverse _))

namespace FileSystem

variable {fs made : FileSystem} {purpose : Purpose} {place : Location} {entry : Entry}

/-- The names of a directory's place lead to the directory. -/
theorem leads_place_iff (hfs : fs.WellFormed) {links : Nat} {rest : List String} {slashed : Bool}
    {destination : Destination} (hplace : fs.lookup place = some .directory) (hrest : purpose = .file → rest ≠ []) :
    fs.Leads purpose links [] (place ++ rest) slashed destination ↔
      fs.Leads purpose links place rest slashed destination := by
  induction hreversed : place.reverse generalizing place rest with
  | nil => rw [List.reverse_eq_nil_iff.1 hreversed, List.nil_append]
  | cons last front ih =>
    obtain rfl : place = front.reverse ++ [last] := List.reverse_eq_cons_iff.1 hreversed
    rw [List.append_assoc, List.singleton_append,
      ih (hfs.inFolder hplace) (fun _ => List.cons_ne_nil _ _) (List.reverse_reverse _)]
    exact leads_folder_iff ((hfs.named hplace).passable fun h => hrest h.1 h.2.1) hplace

/-- **The names of a place** lead to what is there, unless that is a link that is followed. -/
theorem leads_place (hfs : fs.WellFormed) {links : Nat} (h : fs.lookup place = some entry)
    (hlink : purpose = .name ∨ ∀ target, entry ≠ .link target) :
    fs.Leads purpose links [] place false (.entry place entry) := by
  rcases List.eq_nil_or_concat place with rfl | ⟨front, last, rfl⟩
  · rw [lookup_root, Option.some.injEq] at h
    exact h ▸ .here
  rw [List.concat_eq_append] at h ⊢
  have hpass : Passable purpose last [] false := (hfs.named h).passable (by simp)
  rw [leads_place_iff hfs (hfs.inFolder h) (by simp)]
  cases hentry : entry with
  | directory => exact .down hpass (hentry ▸ h) .here
  | link target =>
    refine .link hpass (hentry ▸ h) (hlink.resolve_right fun hnone => ?_)
    exact hnone target hentry
  | file | device | queue => exact .entry hpass (hentry ▸ h) (by simp) (by simp)

/-- The steps of a place where something is. -/
theorem isStep_of_lookup (hfs : fs.WellFormed) (h : fs.lookup place = some entry) :
    ∀ step ∈ place, Path.IsStep step ∧ step ≠ "." :=
  fun _ hstep => ⟨(hfs.isEntryName_of_mem h hstep).toIsStep, (hfs.isEntryName_of_mem h hstep).ne_current⟩

/-- What leads to a directory by the path of a place, and is no link, is that directory. -/
theorem eq_directory_of_isDirectory (hfs : fs.WellFormed) (h : fs.lookup place = some entry)
    (hlink : ∀ target, entry ≠ .link target) (hdirectory : fs.isDirectory (.ofLocation place) = true) :
    entry = .directory := by
  have habs := Path.isAbsolute_ofLocation place
  obtain ⟨found, hfound⟩ := (isDirectory_iff habs).1 hdirectory
  have hleads := ((resolve_eq_ok_iff habs).1 hfound).2
  rw [Path.names_ofLocation fun step hstep => (isStep_of_lookup hfs h step hstep).1] at hleads
  exact (Destination.entry.inj ((leads_place hfs h (.inr hlink)).unique (hleads.slash false))).2

/-- **Where directories are made**, whatever is at a place on the way leads to one. -/
theorem isDirectory_of_makesPlace {p : Path} (hfs : fs.WellFormed) (habs : p.isAbsolute = true)
    (hsize : p.text.utf8ByteSize ≤ maxPathBytes) (hmade : fs.makeDirectories p = (made, .ok ()))
    (hway : (Path.ofLocation place).OnWayTo p) (h : fs.lookup place = some entry) :
    fs.isDirectory (.ofLocation place) = true := by
  have hname : fs.resolveName (.ofLocation place) = .ok (.entry place entry) := by
    rw [resolveName, resolveAs_eq_ok_iff (Path.isAbsolute_ofLocation place),
      Path.names_ofLocation fun step hstep => (isStep_of_lookup hfs h step hstep).1]
    exact ⟨Nat.le_trans (hway.size_le habs) hsize, leads_place hfs h (.inl rfl)⟩
  exact isDirectory_of_makeDirectoriesWithin habs hmade hway hname

end FileSystem

end ComponentScaffold
