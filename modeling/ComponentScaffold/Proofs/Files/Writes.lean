import ComponentScaffold.Proofs.Files.Paths
import ComponentScaffold.Proofs.Session

/-! # Writing to one path again and again

Whatever is written to a path, and however often, one node takes it: the one that the path leads to, or the
one that the first write makes.

* **`FileSystem.WritesTo`** — a run of such writes.
* **`FileSystem.WritesTo.lookup_of_entry`** — the path leads to an entry: its node takes all.
* **`FileSystem.WritesTo.of_vacant`** — the path leads to a free name: it becomes a file. -/

namespace ComponentScaffold

namespace FileSystem

variable {fs before written after : FileSystem} {p : Path}

/-- **A run of writes** to a path. -/
inductive WritesTo (p : Path) : FileSystem → FileSystem → Prop
  /-- Nothing is written. -/
  | nothing (fs : FileSystem) : WritesTo p fs fs
  /-- After a write there are others. -/
  | first {before written after : FileSystem} {bytes : ByteArray} :
    before.writeBytes p bytes = .ok written → WritesTo p written after → WritesTo p before after

/-- A single write is a run. -/
theorem WritesTo.single {bytes : ByteArray} (h : before.writeBytes p bytes = .ok after) :
    WritesTo p before after := .first h (.nothing after)

/-- One run of writes after another is one. -/
theorem WritesTo.trans (h : WritesTo p before written) (h' : WritesTo p written after) :
    WritesTo p before after := by
  induction h with
  | nothing => exact h'
  | first hwrite _ ih => exact .first hwrite (ih h')

instance : Std.Refl (WritesTo p) := ⟨.nothing⟩

instance : Trans (WritesTo p) (WritesTo p) (WritesTo p) := ⟨.trans⟩

/-- Where a file is asked for, a free name asks for no directory. -/
theorem Leads.not_slashed {links : Nat} {place : Location} {names : List String} {slashed : Bool}
    {destination : Destination} (h : fs.Leads .file links place names slashed destination) :
    ∀ directory name, destination ≠ .vacant directory name true := by
  induction h with
  | here => simp
  | stay _ ih | up _ ih | down _ _ _ ih | jump _ _ _ _ _ ih => exact ih
  | vacant hname =>
    intro directory name heq
    exact hname.not_slashed ⟨rfl, rfl, (Destination.vacant.inj heq).2.2⟩
  | link _ _ hpurpose => cases hpurpose
  | entry => simp

/-- Whether an entry holds the bytes that are written to it. -/
def holdsBytes : Entry → Bool
  | .file _ => true
  | .queue _ => true
  | _ => false

/-! ## One write -/

/-- **Other bytes for the file** that a path leads to: the path still leads there, and all places of the file
have them. -/
theorem rewrite_of_file (hfs : fs.WellFormed) (habs : p.isAbsolute = true) {place : Location}
    {old : ByteArray} (h : fs.resolve p .file = .ok (.entry place (.file old))) (new : ByteArray) :
    (fs.rewrite place (.file new)).WellFormed ∧
      (fs.rewrite place (.file new)).resolve p .file = .ok (.entry place (.file new)) ∧
      ∀ other, other ≠ [] → fs.numberAt other = fs.numberAt place →
        (fs.rewrite place (.file new)).lookup other = some (.file new) := by
  obtain ⟨hplace⟩ := resolve_holds hfs habs h
  have hne := ne_nil_of_lookup hplace (by simp)
  have halike := Entry.Alike.file old new
  have hlookup (other : Location) (hother : other ≠ []) (hnumber : fs.numberAt other = fs.numberAt place) :
      (fs.rewrite place (.file new)).lookup other = some (.file new) := by
    rw [lookup_rewrite hne hother hplace, if_pos hnumber]
  exact ⟨hfs.rewrite hne hplace halike, resolve_grows (growsTo_rewrite hne hplace halike) habs h
    (.entry (hlookup place hne rfl) halike), hlookup⟩

/-- **A write** to a path that leads to an entry changes no node but that of the entry. -/
theorem writeBytes_of_entry {bytes : ByteArray} (hfs : fs.WellFormed) (habs : p.isAbsolute = true)
    {place : Location} {entry : Entry} (hresolve : fs.resolve p .file = .ok (.entry place entry))
    (h : fs.writeBytes p bytes = .ok written) :
    written = fs ∨ ∃ new, entry.Alike new ∧ place ≠ [] ∧ fs.lookup place = some entry ∧
      written = fs.rewrite place new ∧ written.resolve p .file = .ok (.entry place new) := by
  obtain ⟨hplace⟩ := resolve_holds hfs habs hresolve
  have hbecomes {new : Entry} (halike : entry.Alike new) (hne : place ≠ []) :
      (fs.rewrite place new).resolve p .file = .ok (.entry place new) :=
    resolve_grows (growsTo_rewrite hne hplace halike) habs hresolve
      (.entry (lookup_rewrite_self hne hplace new) halike)
  -- a file takes the bytes instead of its own, a queue behind its own, and a device keeps none
  rcases writeBytes_ok h with ⟨place', old, hresolve', rfl⟩ | ⟨place', held, hresolve', rfl⟩ |
    ⟨place', device, -, rfl⟩ | ⟨directory, name, slashed, hresolve', -⟩
  · rw [hresolve, Except.ok.injEq, Destination.entry.injEq] at hresolve'
    obtain ⟨rfl, rfl⟩ := hresolve'
    have hne := ne_nil_of_lookup hplace (by simp)
    exact .inr ⟨.file bytes, .file old bytes, hne, hplace, rfl, hbecomes (.file old bytes) hne⟩
  · rw [hresolve, Except.ok.injEq, Destination.entry.injEq] at hresolve'
    obtain ⟨rfl, rfl⟩ := hresolve'
    have hne := ne_nil_of_lookup hplace (by simp)
    exact .inr ⟨.queue (held ++ bytes), .queue held _, hne, hplace, rfl, hbecomes (.queue held _) hne⟩
  · exact .inl rfl
  · rw [hresolve] at hresolve'
    cases hresolve'

/-- A write to a path that leads to a free name makes a file. -/
theorem writeBytes_of_vacant {bytes : ByteArray} {directory : Location} {name : String} {slashed : Bool}
    (hfs : fs.WellFormed) (habs : p.isAbsolute = true)
    (hresolve : fs.resolve p .file = .ok (.vacant directory name slashed))
    (h : fs.writeBytes p bytes = .ok written) :
    fs.lookup (directory ++ [name]) = none ∧ written = fs.create directory name (.file bytes) ∧
      written.WellFormed ∧
      written.resolve p .file = .ok (.entry (directory ++ [name]) (.file bytes)) := by
  obtain _ | ⟨hdirectory, hname, hnone⟩ := resolve_holds hfs habs hresolve
  obtain rfl : slashed = false := by
    cases slashed with
    | false => rfl
    | true => exact absurd rfl (((resolve_eq_ok_iff habs).1 hresolve).2.not_slashed directory name)
  have hgrows := growsTo_create (.file bytes) hnone
  rcases writeBytes_ok h with ⟨_, _, hresolve', -⟩ | ⟨_, _, hresolve', -⟩ | ⟨_, _, hresolve', -⟩ |
    ⟨directory', name', slashed', hresolve', rfl⟩
  case inr.inr.inr =>
    rw [hresolve, Except.ok.injEq, Destination.vacant.injEq] at hresolve'
    obtain ⟨rfl, rfl, -⟩ := hresolve'
    refine ⟨hnone, rfl, hfs.create _ hdirectory hname hnone, ?_⟩
    exact resolve_grows hgrows habs hresolve (.file (by rw [lookup_create, if_pos rfl]))
  all_goals
    rw [hresolve] at hresolve'
    cases hresolve'

/-- A write keeps a file system well-formed, and loses nothing but bytes. -/
theorem writeBytes_wellFormed {bytes : ByteArray} (hfs : fs.WellFormed) (habs : p.isAbsolute = true)
    (h : fs.writeBytes p bytes = .ok written) : written.WellFormed ∧ fs.GrowsTo written := by
  cases hresolve : fs.resolve p .file with
  | error fault =>
    rw [writeBytes, hresolve] at h
    cases h
  | ok destination =>
    cases destination with
    | entry place entry =>
      rcases writeBytes_of_entry hfs habs hresolve h with rfl | ⟨new, halike, hne, hplace, rfl, -⟩
      · exact ⟨hfs, .refl written⟩
      · exact ⟨hfs.rewrite hne hplace halike, growsTo_rewrite hne hplace halike⟩
    | vacant directory name slashed =>
      obtain ⟨hnone, rfl, hwritten, -⟩ := writeBytes_of_vacant hfs habs hresolve h
      exact ⟨hwritten, growsTo_create _ hnone⟩
    | removed number => exact absurd hresolve (resolve_ne_removed habs number)

/-- **What a write leaves**: its path leads to an entry, a file there holds what was written and no more, and
no other node was changed. -/
structure WriteLands (p : Path) (bytes : ByteArray) (before after : FileSystem) (own : Location) (entry : Entry) :
    Prop where
  /-- The path leads there. -/
  leads : after.resolve p .file = .ok (.entry own entry)
  /-- It is no directory. -/
  writable : entry ≠ .directory
  /-- A file holds what was written. -/
  holds : ∀ held, entry = .file held → held = bytes
  /-- Other nodes have what they had. -/
  others : ∀ place, after.numberAt place ≠ after.numberAt own → after.lookup place = before.lookup place
  /-- Where the path led to an entry before, that is the same one but for its bytes, and no node is new. -/
  steady : ∀ place old, before.resolve p .file = .ok (.entry place old) →
    place = own ∧ old.Alike entry ∧ ∀ other, after.numberAt other = before.numberAt other

/-- A write lands where its path leads then. -/
theorem exists_writeLands {bytes : ByteArray} (hfs : fs.WellFormed) (habs : p.isAbsolute = true)
    (h : fs.writeBytes p bytes = .ok written) : ∃ own entry, WriteLands p bytes fs written own entry := by
  -- a file and a queue take bytes in the same way
  have hrewrite {place : Location} {old new : Entry} (hresolve : fs.resolve p .file = .ok (.entry place old))
      (hold : old ≠ .directory) (hnew : new ≠ .directory) (halike : old.Alike new)
      (hholds : ∀ held, new = .file held → held = bytes) :
      WriteLands p bytes fs (fs.rewrite place new) place new := by
    obtain ⟨hplace⟩ := resolve_holds hfs habs hresolve
    have hne := ne_nil_of_lookup hplace hold
    have hnow := lookup_rewrite_self hne hplace new
    refine ⟨resolve_grows (growsTo_rewrite hne hplace halike) habs hresolve (.entry hnow halike), hnew,
      hholds, fun other hnumber => ?_, fun found entry hfound => ?_⟩
    · exact lookup_rewrite_of_ne hne hplace (by simpa using hnumber) new
    · rw [hresolve, Except.ok.injEq, Destination.entry.injEq] at hfound
      obtain ⟨rfl, rfl⟩ := hfound
      exact ⟨rfl, halike, by simp⟩
  rcases writeBytes_ok h with ⟨place, old, hresolve, rfl⟩ | ⟨place, held, hresolve, rfl⟩ |
    ⟨place, device, hresolve, rfl⟩ | ⟨directory, name, slashed, hresolve, -⟩
  · exact ⟨place, _, hrewrite hresolve (by simp) (by simp) (.file old bytes) (by simp)⟩
  · exact ⟨place, _, hrewrite hresolve (by simp) (by simp) (.queue held _) (by simp)⟩
  · refine ⟨place, _, hresolve, by simp, by simp, fun _ _ => rfl, fun found entry hfound => ?_⟩
    rw [hresolve, Except.ok.injEq, Destination.entry.injEq] at hfound
    obtain ⟨rfl, rfl⟩ := hfound
    exact ⟨rfl, .same _, fun _ => rfl⟩
  · obtain ⟨-, rfl, -, hleads⟩ := writeBytes_of_vacant hfs habs hresolve h
    refine ⟨_, _, hleads, by simp, by simp, fun place hnumber => ?_, fun found entry hfound => ?_⟩
    · have hother : place ≠ directory ++ [name] := fun hplace => hnumber (by rw [hplace])
      rw [lookup_create, if_neg hother]
    · rw [hresolve] at hfound
      cases hfound

/-! ## A run of writes -/

namespace WritesTo

/-- **A path that leads to an entry**: whatever is written to it, no node changes but that of the
entry. -/
theorem lookup_of_entry (h : WritesTo p before after) (hfs : before.WellFormed)
    (habs : p.isAbsolute = true) {place : Location} {entry : Entry}
    (hresolve : before.resolve p .file = .ok (.entry place entry)) :
    (∃ new, entry.Alike new ∧ after.lookup place = some new ∧
        after.resolve p .file = .ok (.entry place new)) ∧
      ∀ other, before.numberAt other ≠ before.numberAt place →
        after.lookup other = before.lookup other := by
  induction h generalizing entry with
  | nothing fs =>
    obtain ⟨hplace⟩ := resolve_holds hfs habs hresolve
    exact ⟨⟨entry, .same entry, hplace, hresolve⟩, fun _ _ => rfl⟩
  | first hwrite _ ih =>
    rcases writeBytes_of_entry hfs habs hresolve hwrite with rfl |
      ⟨new, halike, hne, hplace, rfl, hresolve'⟩
    · exact ih hfs hresolve
    obtain ⟨⟨newer, halike', hnewer⟩, hothers⟩ := ih (hfs.rewrite hne hplace halike) hresolve'
    refine ⟨⟨newer, halike.trans halike', hnewer⟩, fun other hnumber => ?_⟩
    rw [hothers other (by simpa using hnumber), lookup_rewrite_of_ne hne hplace hnumber]

/-- **A path that leads to a free name**: if anything is written to it, there is a new file, and nothing
else changes. -/
theorem of_vacant (h : WritesTo p before after) (hfs : before.WellFormed) (habs : p.isAbsolute = true)
    {directory : Location} {name : String} {slashed : Bool}
    (hresolve : before.resolve p .file = .ok (.vacant directory name slashed)) :
    after = before ∨
      before.lookup (directory ++ [name]) = none ∧
        (∃ bytes, after.lookup (directory ++ [name]) = some (.file bytes) ∧
          after.resolve p .file = .ok (.entry (directory ++ [name]) (.file bytes))) ∧
        ∀ other, other ≠ directory ++ [name] → after.lookup other = before.lookup other := by
  cases h with
  | nothing => exact .inl rfl
  | first hwrite hrest =>
    right
    obtain ⟨hnone, rfl, hwritten, hresolve'⟩ := writeBytes_of_vacant hfs habs hresolve hwrite
    obtain ⟨⟨new, halike, hnew⟩, hothers⟩ := hrest.lookup_of_entry hwritten habs hresolve'
    obtain ⟨bytes, rfl⟩ := halike.eq_file
    refine ⟨hnone, ⟨bytes, hnew⟩, fun other hother => ?_⟩
    rw [hothers other fun hnumber => hother (eq_of_numberAt_create hnumber), lookup_create, if_neg hother]

/-- A well-formed file system stays so, and nothing is lost but bytes. -/
theorem wellFormed_growsTo (h : WritesTo p before after) (hfs : before.WellFormed)
    (habs : p.isAbsolute = true) : after.WellFormed ∧ before.GrowsTo after := by
  induction h with
  | nothing fs => exact ⟨hfs, .refl fs⟩
  | first hwrite _ ih =>
    obtain ⟨hwritten, hgrows⟩ := writeBytes_wellFormed hfs habs hwrite
    exact (ih hwritten).imp_right hgrows.trans

/-- What holds no bytes is not changed. -/
theorem eq_of_not_holdsBytes (h : WritesTo p before after) {place : Location} {entry : Entry}
    (hresolve : before.resolve p .file = .ok (.entry place entry)) (hentry : holdsBytes entry = false) :
    after = before := by
  induction h with
  | nothing => rfl
  | first hwrite _ ih =>
    rcases writeBytes_ok hwrite with ⟨_, _, hresolve', -⟩ | ⟨_, _, hresolve', -⟩ | ⟨_, _, -, rfl⟩ |
      ⟨_, _, _, hresolve', -⟩
    case inr.inr.inl => exact ih hresolve
    all_goals
      rw [hresolve] at hresolve'
      cases hresolve'
      try cases hentry

/-- A path that leads nowhere takes no writes. -/
theorem eq_of_error (h : WritesTo p before after) {fault : OsFault}
    (hresolve : before.resolve p .file = .error fault) : after = before := by
  cases h with
  | nothing => rfl
  | first hwrite =>
    rw [writeBytes, hresolve] at hwrite
    cases hwrite

end WritesTo

end FileSystem

/-- Writing a text to a path is a run of writes there. -/
theorem Action.Moves.writeText (path : Path) (text : String) :
    Action.Moves (FileSystem.WritesTo path) (Action.writeText path text) := by
  intro session
  rw [Action.perform_writeText]
  split
  case h_1 changed hchanged => exact ⟨.single hchanged, rfl⟩
  case h_2 => exact ⟨.nothing _, rfl⟩

end ComponentScaffold
