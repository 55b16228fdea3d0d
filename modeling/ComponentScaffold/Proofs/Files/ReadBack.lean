import ComponentScaffold.Proofs.Files.Writes
import ComponentScaffold.Proofs.Scaffold.NewFolders

/-! # What is written is read back

A path that leads to a regular file or to a free name takes any bytes, and gives them back. The path may be
relative, as long as the directory that it starts from was not removed.

* **`FileSystem.startOf?`** — the place that a path is followed from.
* **`FileSystem.TakesFile`** — the paths that files are written to.
* **`FileSystem.TakesFile.exists_writeBytes`** — they give back what is written to them. -/

namespace ComponentScaffold

namespace FileSystem

variable {fs : FileSystem} {p : Path} {purpose : Purpose} {start : Location}

/-- **The place that a path is followed from**: the root, or the current directory if it was not removed. -/
def startOf? (fs : FileSystem) (p : Path) : Option Location := if p.isAbsolute then some [] else fs.current?

/-- A path leads where its names lead from its start. -/
theorem resolve_eq_ok_iff_of_start (hstarted : fs.startOf? p = some start) {destination : Destination} :
    fs.resolve p purpose = .ok destination ↔
      (p.text.utf8ByteSize ≤ maxPathBytes ∧ p.text ≠ "") ∧
        fs.Leads purpose maxLinks start p.names p.isSlashed destination := by
  have hfollowed : (if p.isAbsolute then fs.followLinks purpose maxLinks [] p.names p.isSlashed
      else fs.followFrom purpose p.names p.isSlashed fs.standing.directory) =
      fs.followLinks purpose maxLinks start p.names p.isSlashed := by
    unfold startOf? at hstarted
    split at hstarted
    case isTrue habs => rw [if_pos habs, Option.some.inj hstarted]
    case isFalse hrelative =>
      rw [current?] at hstarted
      rw [if_neg hrelative]
      cases p.names <;> simp [followFrom, hstarted]
  rw [← leads_iff, resolve, resolveAs, resolveWhole, hfollowed]
  split
  case isTrue hlong => simp [Nat.not_le.mpr hlong]
  case isFalse hshort => by_cases hempty : p.text = "" <;> simp [hempty, Nat.not_lt.mp hshort]

/-- A path is followed from a directory. -/
theorem lookup_start (hstands : fs.StandsInFolder) (hstarted : fs.startOf? p = some start) :
    fs.lookup start = some .directory := by
  unfold startOf? at hstarted
  split at hstarted
  case isTrue => rw [← Option.some.inj hstarted, lookup_root]
  case isFalse => exact hstands start hstarted

/-- What a path leads to is there. -/
theorem resolve_holds_of_start (hfs : fs.WellFormed) (hstands : fs.StandsInFolder)
    (hstarted : fs.startOf? p = some start) {destination : Destination} (h : fs.resolve p purpose = .ok destination) :
    fs.Holds destination := by
  rw [resolve_eq_ok_iff_of_start hstarted] at h
  exact h.2.holds hfs (lookup_start hstands hstarted) fun _ => Path.isStep_of_mem_names

/-- Where nothing is lost and the start is the same, a path leads to the file that has been written. -/
theorem readBytes_of_becomes {after : FileSystem} {old : Destination} {place : Location} {bytes : ByteArray}
    (hstarted : fs.startOf? p = some start) (hsame : after.startOf? p = some start) (hgrows : fs.GrowsTo after)
    (hbefore : fs.resolve p .file = .ok old) (hbecomes : after.Becomes old (.entry place (.file bytes))) :
    after.readBytes p = .ok bytes := by
  rw [resolve_eq_ok_iff_of_start hstarted] at hbefore
  have htarget : after.resolve p .target = .ok (.entry place (.file bytes)) :=
    (resolve_eq_ok_iff_of_start hsame).mpr ⟨hbefore.1, (hbefore.2.grows hgrows hbecomes).target (by simp)⟩
  rw [readBytes, htarget]
  rfl

/-- Other bytes do not move the current directory. -/
theorem current?_rewrite (fs : FileSystem) (place : Location) (entry : Entry) :
    (fs.rewrite place entry).current? = fs.current? := by
  have hstanding : (fs.rewrite place entry).standing = fs.standing := by
    unfold rewrite
    split
    · rfl
    · split <;> rfl
  simp only [current?, placeOf?, hstanding, places_rewrite]

/-- **A path that files are written to.** -/
inductive TakesFile (fs : FileSystem) (p : Path) : Prop
  /-- A regular file is there. -/
  | file {place : Location} {old : ByteArray} : fs.resolve p .file = .ok (.entry place (.file old)) → TakesFile fs p
  /-- Nothing is there, but a directory for it. -/
  | vacant {directory : Location} {name : String} {slashed : Bool} :
    fs.resolve p .file = .ok (.vacant directory name slashed) → TakesFile fs p

/-- **Bytes are written and read back.** -/
theorem TakesFile.exists_writeBytes (htakes : fs.TakesFile p) (hfs : fs.WellFormed) (hstands : fs.StandsInFolder)
    (hstarted : (fs.startOf? p).isSome) (bytes : ByteArray) :
    ∃ written, fs.writeBytes p bytes = .ok written ∧ written.readBytes p = .ok bytes := by
  obtain ⟨start, hstarted⟩ := Option.isSome_iff_exists.mp hstarted
  cases htakes with
  | @file place old hleads =>
    obtain ⟨hthere⟩ := resolve_holds_of_start hfs hstands hstarted hleads
    have hinside := ne_nil_of_lookup hthere (by simp)
    have halike := Entry.Alike.file old bytes
    have hnow := lookup_rewrite_self hinside hthere (.file bytes)
    have hsame : (fs.rewrite place (.file bytes)).startOf? p = some start := by
      rw [startOf?, current?_rewrite]
      exact hstarted
    exact ⟨_, by rw [writeBytes, hleads],
      readBytes_of_becomes hstarted hsame (growsTo_rewrite hinside hthere halike) hleads (.entry hnow halike)⟩
  | @vacant directory name slashed hleads =>
    obtain _ | ⟨-, -, hfree⟩ := resolve_holds_of_start hfs hstands hstarted hleads
    -- a slash at the end would ask for a directory, which no free name is
    have hunslashed : slashed = false := by
      have hway := ((resolve_eq_ok_iff_of_start hstarted).mp hleads).2
      exact Bool.eq_false_iff.mpr fun hasks => hway.not_slashed directory name (hasks ▸ rfl)
    subst hunslashed
    have hnow : (fs.create directory name (.file bytes)).lookup (directory ++ [name]) = some (.file bytes) := by
      rw [lookup_create, if_pos rfl]
    have hsame : (fs.create directory name (.file bytes)).startOf? p = some start := by
      rw [startOf?, current?_create hstands _ hfree]
      exact hstarted
    exact ⟨_, by rw [writeBytes, hleads],
      readBytes_of_becomes hstarted hsame (growsTo_create _ hfree) hleads (.file hnow)⟩

end FileSystem

end ComponentScaffold
