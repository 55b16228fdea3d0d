import ComponentScaffold.Proofs.Files.Entries

/-! # Ways through a file system

The way that a path takes, as a relation with one rule for each kind of step. `leads_iff` says that it
is what following names comes to, so a fact about all ways is proved by induction on the steps.

* **`FileSystem.Leads`** — where names lead from a place, through at most so many links.
* **`FileSystem.Leads.grows`** — where nothing is lost, a way still leads where it led.
* **`FileSystem.exists_forall_leads_append_iff`** — a way through a directory goes on from there.
* **`FileSystem.Leads.fewer`** — where nothing is lost, a way takes as many links as before. -/

namespace ComponentScaffold

namespace FileSystem

/-- What a name must be so that it is looked for in a directory: no step of its own, not too long, and
not asked to be a directory where a file is asked for. -/
structure Passable (purpose : Purpose) (name : String) (rest : List String) (slashed : Bool) :
    Prop where
  /-- It does not stand for the directory it is in. -/
  ne_current : name ≠ "."
  /-- It does not stand for the directory above. -/
  ne_parent : name ≠ ".."
  /-- Where a file is asked for, the last name has no slash behind it. -/
  not_slashed : ¬(purpose = .file ∧ rest = [] ∧ slashed = true)
  /-- It is not too long. -/
  size_le : name.utf8ByteSize ≤ maxNameBytes

/-- The place that a link's target is followed from: the root, or the directory the link is in. -/
def linkStart (place : Location) (target : Path) : Location := if target.isAbsolute then [] else place

/-- **Where names lead** from a place through at most a number of links. -/
inductive Leads (fs : FileSystem) (purpose : Purpose) :
    (links : Nat) → Location → List String → (slashed : Bool) → Destination → Prop
  /-- No name leads to where one is. -/
  | here {links place slashed} : Leads fs purpose links place [] slashed (.entry place .directory)
  /-- A dot leads nowhere. -/
  | stay {links place rest slashed destination} :
    Leads fs purpose links place rest slashed destination →
    Leads fs purpose links place ("." :: rest) slashed destination
  /-- Two dots lead up. -/
  | up {links place rest slashed destination} :
    Leads fs purpose links place.dropLast rest slashed destination →
    Leads fs purpose links place (".." :: rest) slashed destination
  /-- The last name may be free. -/
  | vacant {links place name slashed} : Passable purpose name [] slashed →
    fs.lookup (place ++ [name]) = none →
    Leads fs purpose links place [name] slashed (.vacant place name slashed)
  /-- The name of a directory leads into it. -/
  | down {links place name rest slashed destination} : Passable purpose name rest slashed →
    fs.lookup (place ++ [name]) = some .directory →
    Leads fs purpose links (place ++ [name]) rest slashed destination →
    Leads fs purpose links place (name :: rest) slashed destination
  /-- A link at the end may be what is asked for. -/
  | link {links place name target} : Passable purpose name [] false →
    fs.lookup (place ++ [name]) = some (.link target) → purpose = .name →
    Leads fs purpose links place [name] false (.entry (place ++ [name]) (.link target))
  /-- Any other link leads along its target. -/
  | jump {links place name rest slashed destination target} : Passable purpose name rest slashed →
    fs.lookup (place ++ [name]) = some (.link target) →
    ¬(purpose = .name ∧ rest = [] ∧ slashed = false) → target.text ≠ "" →
    Leads fs purpose links (linkStart place target) (target.names ++ rest)
      (slashed || rest.isEmpty && target.isSlashed) destination →
    Leads fs purpose (links + 1) place (name :: rest) slashed destination
  /-- The last name may be that of an entry that is neither directory nor link. -/
  | entry {links place name entry} : Passable purpose name [] false →
    fs.lookup (place ++ [name]) = some entry → entry ≠ .directory → (∀ target, entry ≠ .link target) →
    Leads fs purpose links place [name] false (.entry (place ++ [name]) entry)

variable {fs : FileSystem} {purpose : Purpose}

/-- A name that is passed is passed for other purposes and with other names behind it, where no file is asked
for with a slash behind its name. -/
theorem Passable.anew {other : Purpose} {name : String} {rest behind : List String} {slashed slashed' : Bool}
    (h : Passable purpose name rest slashed) (hslashed : ¬(other = .file ∧ behind = [] ∧ slashed' = true)) :
    Passable other name behind slashed' :=
  ⟨h.ne_current, h.ne_parent, hslashed, h.size_le⟩

/-! ## Following names -/

section Follow

variable {jump : Onward} {place : Location} {name : String} {rest : List String} {slashed : Bool}

/-- A name that leads on and is no step of its own is passed. -/
theorem passable_of_follow {destination : Destination} (hcurrent : name ≠ ".") (hparent : name ≠ "..")
    (h : fs.follow purpose jump place (name :: rest) slashed = .ok destination) :
    Passable purpose name rest slashed := by
  rw [follow, if_neg hcurrent, if_neg hparent] at h
  split at h
  case isTrue => cases h
  case isFalse hslashed =>
    split at h
    case isTrue => cases h
    case isFalse hsize =>
      exact ⟨hcurrent, hparent, by simpa [and_assoc] using hslashed, Nat.le_of_not_lt hsize⟩

/-- Where nothing has the name, it is free if it is the last one. -/
theorem follow_vacant (hname : Passable purpose name rest slashed)
    (hnone : fs.lookup (place ++ [name]) = none) :
    fs.follow purpose jump place (name :: rest) slashed =
      if rest = [] then .ok (.vacant place name slashed) else .error .noEntry := by
  rw [follow, if_neg hname.ne_current, if_neg hname.ne_parent,
    if_neg (by simpa [and_assoc] using hname.not_slashed), if_neg (Nat.not_lt.2 hname.size_le)]
  simp [hnone]

/-- The name of a directory leads into it. -/
theorem follow_folder (hname : Passable purpose name rest slashed)
    (hfolder : fs.lookup (place ++ [name]) = some .directory) :
    fs.follow purpose jump place (name :: rest) slashed =
      fs.follow purpose jump (place ++ [name]) rest slashed := by
  rw [follow, if_neg hname.ne_current, if_neg hname.ne_parent,
    if_neg (by simpa [and_assoc] using hname.not_slashed), if_neg (Nat.not_lt.2 hname.size_le)]
  simp only [hfolder]

/-- A link is what is asked for, or leads along its target. -/
theorem follow_link {target : Path} (hname : Passable purpose name rest slashed)
    (hlink : fs.lookup (place ++ [name]) = some (.link target)) :
    fs.follow purpose jump place (name :: rest) slashed =
      if purpose = .name ∧ rest = [] ∧ slashed = false then .ok (.entry (place ++ [name]) (.link target))
      else if target.text = "" then .error .noEntry
      else jump (linkStart place target) (target.names ++ rest)
        (slashed || rest.isEmpty && target.isSlashed) := by
  rw [follow, if_neg hname.ne_current, if_neg hname.ne_parent,
    if_neg (by simpa [and_assoc] using hname.not_slashed), if_neg (Nat.not_lt.2 hname.size_le)]
  simp [hlink, linkStart, and_comm]

/-- Any other entry is reached by the last name only. -/
theorem follow_entry {entry : Entry} (hname : Passable purpose name rest slashed)
    (hentry : fs.lookup (place ++ [name]) = some entry) (hdirectory : entry ≠ .directory)
    (hlink : ∀ target, entry ≠ .link target) :
    fs.follow purpose jump place (name :: rest) slashed =
      if rest = [] ∧ slashed = false then .ok (.entry (place ++ [name]) entry)
      else .error .notDirectory := by
  rw [follow, if_neg hname.ne_current, if_neg hname.ne_parent,
    if_neg (by simpa [and_assoc] using hname.not_slashed), if_neg (Nat.not_lt.2 hname.size_le)]
  cases entry with
  | directory => exact absurd rfl hdirectory
  | link target => exact absurd rfl (hlink target)
  | file | device | queue => simp [hentry]

end Follow

/-- Following names takes a way, if what goes on at links does. -/
private theorem leads_of_follow {links : Nat} {jump : Onward}
    (hjump : ∀ place names slashed destination, jump place names slashed = .ok destination →
      ∃ fewer, links = fewer + 1 ∧ fs.Leads purpose fewer place names slashed destination)
    {place : Location} {names : List String} {slashed : Bool} {destination : Destination}
    (h : fs.follow purpose jump place names slashed = .ok destination) :
    fs.Leads purpose links place names slashed destination := by
  -- on the names up to the next link; what goes on behind it is left to `hjump`
  induction names generalizing place with
  | nil =>
    rw [follow, Except.ok.injEq] at h
    exact h ▸ .here
  | cons name rest ih =>
    by_cases hcurrent : name = "."
    · rw [follow, if_pos hcurrent] at h
      exact hcurrent ▸ .stay (ih h)
    by_cases hparent : name = ".."
    · rw [follow, if_neg hcurrent, if_pos hparent] at h
      exact hparent ▸ .up (ih h)
    have hname := passable_of_follow hcurrent hparent h
    cases hentry : fs.lookup (place ++ [name]) with
    | none =>
      rw [follow_vacant hname hentry] at h
      split at h
      case isTrue hrest =>
        subst hrest
        cases h
        exact .vacant hname hentry
      case isFalse => cases h
    | some entry =>
      cases entry with
      | directory =>
        rw [follow_folder hname hentry] at h
        exact .down hname hentry (ih h)
      | link target =>
        rw [follow_link hname hentry] at h
        split at h
        case isTrue hend =>
          obtain ⟨hpurpose, rfl, rfl⟩ := hend
          cases h
          exact .link hname hentry hpurpose
        case isFalse hend =>
          split at h
          case isTrue => cases h
          case isFalse htext =>
            obtain ⟨fewer, rfl, hleads⟩ := hjump _ _ _ _ h
            exact .jump hname hentry hend htext hleads
      | file | device | queue =>
        rw [follow_entry hname hentry nofun nofun] at h
        split at h
        case isTrue hend =>
          obtain ⟨rfl, rfl⟩ := hend
          cases h
          exact .entry hname hentry nofun nofun
        case isFalse => cases h

/-- A way that leads somewhere is taken by following names. -/
private theorem followLinks_of_leads {links : Nat} {place : Location} {names : List String}
    {slashed : Bool} {destination : Destination}
    (h : fs.Leads purpose links place names slashed destination) :
    fs.followLinks purpose links place names slashed = .ok destination := by
  -- whatever number of links is left, names are followed alike up to the next one
  have hopen (links : Nat) : ∃ jump, fs.followLinks purpose links = fs.follow purpose jump := by
    cases links <;> exact ⟨_, rfl⟩
  induction h with
  | @here links =>
    obtain ⟨jump, hjump⟩ := hopen links
    rw [hjump, follow]
  | @stay links _ _ _ _ _ ih =>
    obtain ⟨jump, hjump⟩ := hopen links
    rw [hjump] at ih ⊢
    rw [follow, if_pos rfl, ih]
  | @up links _ _ _ _ _ ih =>
    obtain ⟨jump, hjump⟩ := hopen links
    rw [hjump] at ih ⊢
    rw [follow, if_neg (by decide), if_pos rfl, ih]
  | @vacant links _ _ _ hname hnone =>
    obtain ⟨jump, hjump⟩ := hopen links
    rw [hjump, follow_vacant hname hnone, if_pos rfl]
  | @down links _ _ _ _ _ hname hfolder _ ih =>
    obtain ⟨jump, hjump⟩ := hopen links
    rw [hjump] at ih ⊢
    rw [follow_folder hname hfolder, ih]
  | @link links _ _ _ hname hlink hpurpose =>
    obtain ⟨jump, hjump⟩ := hopen links
    rw [hjump, follow_link hname hlink, if_pos ⟨hpurpose, rfl, rfl⟩]
  | jump hname hlink hend htext _ ih =>
    rw [followLinks, follow_link hname hlink, if_neg hend, if_neg htext, ih]
  | @entry links _ _ _ hname hentry hdirectory hlink =>
    obtain ⟨jump, hjump⟩ := hopen links
    rw [hjump, follow_entry hname hentry hdirectory hlink, if_pos ⟨rfl, rfl⟩]

/-- **Following names** comes to the way that they take. -/
theorem leads_iff {links : Nat} {place : Location} {names : List String} {slashed : Bool}
    {destination : Destination} :
    fs.followLinks purpose links place names slashed = .ok destination ↔
      fs.Leads purpose links place names slashed destination := by
  refine ⟨fun h => ?_, followLinks_of_leads⟩
  induction links generalizing place names slashed destination with
  | zero => exact leads_of_follow (fun _ _ _ _ h => by cases h) h
  | succ links ih => exact leads_of_follow (fun _ _ _ _ h => ⟨links, rfl, ih h⟩) h

/-- Names lead to one destination only. -/
theorem Leads.unique {links : Nat} {place : Location} {names : List String} {slashed : Bool}
    {first second : Destination} (h : fs.Leads purpose links place names slashed first)
    (h' : fs.Leads purpose links place names slashed second) : first = second :=
  Except.ok.inj ((leads_iff.2 h).symm.trans (leads_iff.2 h'))

/-! ## Single steps -/

/-- A dot is passed over. -/
theorem leads_current_iff {links : Nat} {place : Location} {rest : List String} {slashed : Bool}
    {destination : Destination} :
    fs.Leads purpose links place ("." :: rest) slashed destination ↔
      fs.Leads purpose links place rest slashed destination := by
  refine ⟨fun h => ?_, .stay⟩
  generalize hnames : "." :: rest = names at h
  cases h with
  | stay h => exact (List.cons.inj hnames).2 ▸ h
  | here => cases hnames
  | up => exact absurd (List.cons.inj hnames).1 (by decide)
  | vacant hname | down hname | link hname | jump hname | entry hname =>
    exact absurd (List.cons.inj hnames).1.symm hname.ne_current

/-- Two dots are a step up. -/
theorem leads_parent_iff {links : Nat} {place : Location} {rest : List String} {slashed : Bool}
    {destination : Destination} :
    fs.Leads purpose links place (".." :: rest) slashed destination ↔
      fs.Leads purpose links place.dropLast rest slashed destination := by
  refine ⟨fun h => ?_, .up⟩
  generalize hnames : ".." :: rest = names at h
  cases h with
  | up h => exact (List.cons.inj hnames).2 ▸ h
  | here => cases hnames
  | stay => exact absurd (List.cons.inj hnames).1 (by decide)
  | vacant hname | down hname | link hname | jump hname | entry hname =>
    exact absurd (List.cons.inj hnames).1.symm hname.ne_parent

/-- The name of a directory is a step down. -/
theorem leads_folder_iff {links : Nat} {place : Location} {name : String} {rest : List String}
    {slashed : Bool} {destination : Destination} (hname : Passable purpose name rest slashed)
    (hfolder : fs.lookup (place ++ [name]) = some .directory) :
    fs.Leads purpose links place (name :: rest) slashed destination ↔
      fs.Leads purpose links (place ++ [name]) rest slashed destination := by
  refine ⟨fun h => ?_, .down hname hfolder⟩
  cases h with
  | stay => exact absurd rfl hname.ne_current
  | up => exact absurd rfl hname.ne_parent
  | down _ _ h => exact h
  | vacant _ hnone => rw [hfolder] at hnone; cases hnone
  | link _ hlink | jump _ hlink => rw [hfolder] at hlink; cases hlink
  | entry _ hentry hdirectory =>
    rw [hfolder, Option.some.injEq] at hentry
    exact absurd hentry.symm hdirectory

/-- The name of a link that has to be followed is a jump along its target. -/
theorem leads_link_iff {links : Nat} {place : Location} {name : String} {rest : List String}
    {slashed : Bool} {destination : Destination} {target : Path}
    (hname : Passable purpose name rest slashed)
    (hlink : fs.lookup (place ++ [name]) = some (.link target))
    (hend : ¬(purpose = .name ∧ rest = [] ∧ slashed = false)) (htext : target.text ≠ "") :
    fs.Leads purpose (links + 1) place (name :: rest) slashed destination ↔
      fs.Leads purpose links (linkStart place target) (target.names ++ rest)
        (slashed || rest.isEmpty && target.isSlashed) destination := by
  refine ⟨fun h => ?_, .jump hname hlink hend htext⟩
  cases h with
  | stay => exact absurd rfl hname.ne_current
  | up => exact absurd rfl hname.ne_parent
  | down _ hfolder => rw [hlink] at hfolder; cases hfolder
  | vacant _ hnone => rw [hlink] at hnone; cases hnone
  | link _ _ hpurpose => exact absurd ⟨hpurpose, rfl, rfl⟩ hend
  | jump _ hlink' _ _ h =>
    rw [hlink, Option.some.injEq, Entry.link.injEq] at hlink'
    exact hlink' ▸ h
  | entry _ hentry _ hnoLink =>
    rw [hlink, Option.some.injEq] at hentry
    exact absurd hentry.symm (hnoLink target)

/-! ## Ways through a directory -/

/-- A name in front of others is passed whatever it is passed for. -/
theorem Passable.of_cons {other : Purpose} {name : String} {rest back : List String}
    {slashed slashed' : Bool} (h : Passable other name rest slashed) (hback : back ≠ []) :
    Passable purpose name (rest ++ back) slashed' :=
  h.anew fun ⟨_, hnil, _⟩ => hback (List.append_eq_nil_iff.1 hnil).2

/-- **A way to a directory** goes on from there, whatever follows. -/
theorem exists_forall_leads_append_iff {links : Nat} {place middle : Location} {front : List String}
    {slashed : Bool} (h : fs.Leads .target links place front slashed (.entry middle .directory)) :
    ∃ fewer, ∀ (purpose : Purpose) (back : List String) (slashed : Bool) (destination : Destination),
      back ≠ [] →
      (fs.Leads purpose links place (front ++ back) slashed destination ↔
        fs.Leads purpose fewer middle back slashed destination) := by
  generalize hdestination : Destination.entry middle .directory = destination at h
  induction h with
  | @here links =>
    cases hdestination
    exact ⟨links, fun _ _ _ _ _ => Iff.rfl⟩
  | stay _ ih =>
    obtain ⟨fewer, hfewer⟩ := ih hdestination
    refine ⟨fewer, fun purpose back slashed destination hback => ?_⟩
    rw [List.cons_append, leads_current_iff, hfewer _ _ _ _ hback]
  | up _ ih =>
    obtain ⟨fewer, hfewer⟩ := ih hdestination
    refine ⟨fewer, fun purpose back slashed destination hback => ?_⟩
    rw [List.cons_append, leads_parent_iff, hfewer _ _ _ _ hback]
  | vacant => cases hdestination
  | down hname hfolder _ ih =>
    obtain ⟨fewer, hfewer⟩ := ih hdestination
    refine ⟨fewer, fun purpose back slashed destination hback => ?_⟩
    rw [List.cons_append, leads_folder_iff (hname.of_cons hback) hfolder, hfewer _ _ _ _ hback]
  | link => cases hdestination
  | @jump links place name rest slashed destination target hname hlink _ htext _ ih =>
    obtain ⟨fewer, hfewer⟩ := ih hdestination
    refine ⟨fewer, fun purpose back slashed destination hback => ?_⟩
    -- names stand behind the link, so it is followed whatever the way is for
    have hrest : rest ++ back ≠ [] := fun hnil => hback (List.append_eq_nil_iff.1 hnil).2
    rw [List.cons_append, leads_link_iff (hname.of_cons hback) hlink (fun hend => hrest hend.2.1) htext,
      List.isEmpty_eq_false_iff.2 hrest, ← List.append_assoc, hfewer _ _ _ _ hback, Bool.false_and,
      Bool.or_false]
  | entry _ _ hdirectory =>
    cases hdestination
    exact absurd rfl hdirectory

/-! ## Ways in a file system that has grown -/

/-- **What a destination becomes** where nothing is lost: an entry stays, and a free name may be taken. -/
inductive Becomes (after : FileSystem) : Destination → Destination → Prop
  /-- A directory stays one. -/
  | directory {place} : Becomes after (.entry place .directory) (.entry place .directory)
  /-- Another entry may have got other bytes. -/
  | entry {place old new} : after.lookup place = some new → old.Alike new →
    Becomes after (.entry place old) (.entry place new)
  /-- A free name stays free. -/
  | free {place name slashed} : after.lookup (place ++ [name]) = none →
    Becomes after (.vacant place name slashed) (.vacant place name slashed)
  /-- A free name is taken by a directory. -/
  | folder {place name slashed} : after.lookup (place ++ [name]) = some .directory →
    Becomes after (.vacant place name slashed) (.entry (place ++ [name]) .directory)
  /-- A free name is taken by a file. -/
  | file {place name bytes} : after.lookup (place ++ [name]) = some (.file bytes) →
    Becomes after (.vacant place name false) (.entry (place ++ [name]) (.file bytes))

/-- **Where nothing is lost**, a way leads to what its destination has become. -/
theorem Leads.grows {after : FileSystem} (hgrows : fs.GrowsTo after) {links : Nat} {place : Location}
    {names : List String} {slashed : Bool} {old new : Destination}
    (h : fs.Leads purpose links place names slashed old) (hnew : after.Becomes old new) :
    after.Leads purpose links place names slashed new := by
  induction h with
  | here =>
    cases hnew with
    | directory => exact .here
    | entry _ halike => cases halike; exact .here
  | stay _ ih => exact .stay (ih hnew)
  | up _ ih => exact .up (ih hnew)
  | vacant hname hnone =>
    -- the one step that may have changed: a free name may have been taken, by what ends the way
    cases hnew with
    | free hfree => exact .vacant hname hfree
    | folder hfolder => exact .down hname hfolder .here
    | file hfile => exact .entry hname hfile (by simp) (by simp)
  | down hname hfolder _ ih => exact .down hname (hgrows.directory hfolder) (ih hnew)
  | link hname hlink hpurpose =>
    obtain ⟨entry, hentry, halike⟩ := hgrows hlink
    cases halike
    cases hnew with
    | entry _ halike => cases halike; exact .link hname hentry hpurpose
  | jump hname hlink hend htext _ ih =>
    obtain ⟨entry, hentry, halike⟩ := hgrows hlink
    cases halike
    exact .jump hname hentry hend htext (ih hnew)
  | entry hname _ hdirectory hlink =>
    cases hnew with
    | directory => exact absurd rfl hdirectory
    | entry hentry halike =>
      refine .entry hname hentry ?_ ?_
      · rintro rfl
        cases halike
        exact hdirectory rfl
      · rintro target rfl
        cases halike
        exact hlink target rfl

/-! ## Ways for other purposes -/

/-- A way on which no link is asked for leads to the same destination for every purpose. -/
theorem Leads.of_name {links : Nat} {place : Location} {names : List String}
    {destination : Destination} (h : fs.Leads .name links place names false destination)
    (hlink : ∀ place target, destination ≠ .entry place (.link target)) :
    fs.Leads purpose links place names false destination := by
  generalize hslashed : false = slashed at h
  induction h with
  | here => exact .here
  | stay _ ih => exact .stay (ih hlink hslashed)
  | up _ ih => exact .up (ih hlink hslashed)
  | vacant hname hnone =>
    exact .vacant (hname.anew (by simp [← hslashed])) hnone
  | down hname hfolder _ ih =>
    exact .down (hname.anew (by simp [← hslashed])) hfolder (ih hlink hslashed)
  | link => exact absurd rfl (hlink _ _)
  | @jump links place name rest slashed destination target hname hlink' hend htext _ ih =>
    subst hslashed
    have hrest : rest ≠ [] := fun hnil => hend ⟨rfl, hnil, rfl⟩
    have hempty : rest.isEmpty = false := List.isEmpty_eq_false_iff.2 hrest
    refine .jump (hname.anew (by simp)) hlink' (fun hend' => hrest hend'.2.1) htext ?_
    exact hempty ▸ ih hlink (by simp [hempty])
  | entry hname hentry hdirectory hlink' =>
    exact .entry (hname.anew (by simp)) hentry hdirectory hlink'

/-- A way that ends at no link is the one to what the path leads to. -/
theorem Leads.target {links : Nat} {place : Location} {names : List String} {slashed : Bool}
    {destination : Destination} (h : fs.Leads purpose links place names slashed destination)
    (hlink : purpose = .name → ∀ place target, destination ≠ .entry place (.link target)) :
    fs.Leads .target links place names slashed destination := by
  induction h with
  | here => exact .here
  | stay _ ih => exact .stay (ih hlink)
  | up _ ih => exact .up (ih hlink)
  | vacant hname hnone => exact .vacant (hname.anew (by simp)) hnone
  | down hname hfolder _ ih => exact .down (hname.anew (by simp)) hfolder (ih hlink)
  | link _ _ hpurpose => exact absurd rfl (hlink hpurpose _ _)
  | jump hname hjump _ htext _ ih =>
    exact .jump (hname.anew (by simp)) hjump (by simp) htext (ih hlink)
  | entry hname hentry hdirectory hnoLink =>
    exact .entry (hname.anew (by simp)) hentry hdirectory hnoLink

/-- A path that leads to an entry names one, which may be a link on the way. -/
theorem Leads.exists_name {links : Nat} {place found : Location} {names : List String} {slashed : Bool}
    {entry : Entry} (h : fs.Leads .target links place names slashed (.entry found entry)) :
    ∃ found entry, fs.Leads .name links place names slashed (.entry found entry) := by
  generalize hdestination : Destination.entry found entry = destination at h
  induction h with
  | here => exact ⟨_, _, .here⟩
  | stay _ ih =>
    obtain ⟨found, entry, hleads⟩ := ih hdestination
    exact ⟨found, entry, .stay hleads⟩
  | up _ ih =>
    obtain ⟨found, entry, hleads⟩ := ih hdestination
    exact ⟨found, entry, .up hleads⟩
  | vacant => cases hdestination
  | down hname hfolder _ ih =>
    obtain ⟨found, entry, hleads⟩ := ih hdestination
    exact ⟨found, entry, .down (hname.anew (by simp)) hfolder hleads⟩
  | link _ _ hpurpose => cases hpurpose
  | @jump links place name rest slashed destination target hname hlink _ htext _ ih =>
    -- a link that ends the path is what it names
    by_cases hend : rest = [] ∧ slashed = false
    · obtain ⟨rfl, rfl⟩ := hend
      exact ⟨_, _, .link (hname.anew (by simp)) hlink rfl⟩
    · obtain ⟨found, entry, hleads⟩ := ih hdestination
      exact ⟨found, entry, .jump (hname.anew (by simp)) hlink (fun h => hend h.2) htext hleads⟩
  | entry hname hfound hdirectory hlink =>
    exact ⟨_, _, .entry (hname.anew (by simp)) hfound hdirectory hlink⟩

/-- A way to a directory is the same with a slash behind it. -/
theorem Leads.slash {links : Nat} {place found : Location} {names : List String} {slashed : Bool}
    (h : fs.Leads .target links place names slashed (.entry found .directory)) (slashed' : Bool) :
    fs.Leads .target links place names slashed' (.entry found .directory) := by
  generalize hdestination : Destination.entry found .directory = destination at h
  induction h generalizing slashed' with
  | here => exact .here
  | stay _ ih => exact .stay (ih slashed' hdestination)
  | up _ ih => exact .up (ih slashed' hdestination)
  | vacant => cases hdestination
  | down hname hfolder _ ih => exact .down (hname.anew (by simp)) hfolder (ih slashed' hdestination)
  | link => cases hdestination
  | jump hname hlink _ htext _ ih =>
    exact .jump (hname.anew (by simp)) hlink (by simp) htext (ih _ hdestination)
  | entry _ _ hdirectory => cases hdestination; exact absurd rfl hdirectory

/-- **A way** goes through directories, up to its last name. -/
theorem Leads.exists_middle {links : Nat} {place : Location} {front back : List String} {slashed : Bool}
    {destination : Destination} (hback : back ≠ [])
    (h : fs.Leads purpose links place (front ++ back) slashed destination) :
    ∃ middle, fs.Leads .target links place front false (.entry middle .directory) := by
  generalize hnames : front ++ back = names at h
  -- where a single name is left, it is one of those behind the front
  have hend {name : String} {front : List String} (hnames : front ++ back = [name]) : front = [] := by
    rcases List.append_eq_cons_iff.1 hnames with ⟨rfl, -⟩ | ⟨front, rfl, hrest⟩
    · rfl
    · exact absurd (List.append_eq_nil_iff.1 hrest.symm).2 hback
  induction h generalizing front with
  | here => exact absurd (List.append_eq_nil_iff.1 hnames).2 hback
  | @stay links place _ _ _ _ ih =>
    rcases List.append_eq_cons_iff.1 hnames with ⟨rfl, -⟩ | ⟨front, rfl, hrest⟩
    · exact ⟨place, .here⟩
    · exact (ih hrest.symm).imp fun _ => .stay
  | @up links place _ _ _ _ ih =>
    rcases List.append_eq_cons_iff.1 hnames with ⟨rfl, -⟩ | ⟨front, rfl, hrest⟩
    · exact ⟨place, .here⟩
    · exact (ih hrest.symm).imp fun _ => .up
  | @down links place name _ _ _ hname hfolder _ ih =>
    rcases List.append_eq_cons_iff.1 hnames with ⟨rfl, -⟩ | ⟨front, rfl, hrest⟩
    · exact ⟨place, .here⟩
    · exact (ih hrest.symm).imp fun _ => .down (hname.anew (by simp)) hfolder
  | @jump links place name rest slashed _ target hname hlink _ htext _ ih =>
    rcases List.append_eq_cons_iff.1 hnames with ⟨rfl, -⟩ | ⟨front, rfl, rfl⟩
    · exact ⟨place, .here⟩
    · obtain ⟨middle, hmiddle⟩ := ih (List.append_assoc _ _ _)
      exact ⟨middle, .jump (hname.anew (by simp)) hlink (by simp) htext (hmiddle.slash _)⟩
  | @vacant _ place | @link _ place | @entry _ place => exact ⟨place, hend hnames ▸ .here⟩

/-- A way that is followed to its target ends at no link. -/
theorem Leads.ne_link {links : Nat} {place : Location} {names : List String} {slashed : Bool}
    {destination : Destination} (h : fs.Leads purpose links place names slashed destination)
    (hpurpose : purpose ≠ .name) (found : Location) (target : Path) : destination ≠ .entry found (.link target) := by
  induction h with
  | here | vacant => simp
  | stay _ ih | up _ ih | down _ _ _ ih | jump _ _ _ _ _ ih => exact ih
  | link _ _ hname => exact absurd hname hpurpose
  | entry _ _ _ hlink =>
    rintro ⟨⟩
    exact hlink target rfl

/-! ## How many links a way takes -/

/-- A way is taken as well where more links may be followed. -/
theorem Leads.more {links : Nat} {place : Location} {names : List String} {slashed : Bool}
    {destination : Destination} (h : fs.Leads purpose links place names slashed destination) (extra : Nat) :
    fs.Leads purpose (links + extra) place names slashed destination := by
  induction h with
  | here => exact .here
  | stay _ ih => exact .stay ih
  | up _ ih => exact .up ih
  | vacant hname hnone => exact .vacant hname hnone
  | down hname hfolder _ ih => exact .down hname hfolder ih
  | link hname hlink hpurpose => exact .link hname hlink hpurpose
  | jump hname hlink hend htext _ ih => exact Nat.succ_add _ _ ▸ .jump hname hlink hend htext ih
  | entry hname hentry hdirectory hlink => exact .entry hname hentry hdirectory hlink

/-- A way to a directory and one from there are one way, with the links of both. -/
theorem Leads.append {links more : Nat} {place middle : Location} {front back : List String}
    {slashed slashed' : Bool} {destination : Destination}
    (h : fs.Leads .target links place front slashed' (.entry middle .directory)) (hback : back ≠ [])
    (h' : fs.Leads purpose more middle back slashed destination) :
    fs.Leads purpose (links + more) place (front ++ back) slashed destination := by
  generalize hdestination : Destination.entry middle .directory = found at h
  induction h with
  | here =>
    cases hdestination
    exact Nat.add_comm _ _ ▸ h'.more _
  | stay _ ih => exact .stay (ih hdestination)
  | up _ ih => exact .up (ih hdestination)
  | vacant | link => cases hdestination
  | down hname hfolder _ ih => exact .down (hname.of_cons hback) hfolder (ih hdestination)
  | @jump links place name rest _ _ target hname hlink _ htext _ ih =>
    have hrest : rest ++ back ≠ [] := fun hnil => hback (List.append_eq_nil_iff.1 hnil).2
    have hgoes := ih hdestination
    rw [List.append_assoc] at hgoes
    rw [List.cons_append, Nat.succ_add]
    refine .jump (hname.of_cons hback) hlink (fun hend => hrest hend.2.1) htext ?_
    simpa only [List.isEmpty_eq_false_iff.2 hrest, Bool.false_and, Bool.or_false] using hgoes
  | entry _ _ hdirectory =>
    cases hdestination
    exact absurd rfl hdirectory

/-- **Where nothing is lost, a way takes the same links**: if as many are enough afterwards, they were enough
before. -/
theorem Leads.fewer {after : FileSystem} (hgrows : fs.GrowsTo after) {links fewer : Nat} {place : Location}
    {names : List String} {slashed : Bool} {destination destination' : Destination}
    (h : fs.Leads purpose links place names slashed destination)
    (h' : after.Leads purpose fewer place names slashed destination') :
    fs.Leads purpose fewer place names slashed destination := by
  induction h generalizing fewer with
  | here => exact .here
  | stay _ ih => exact .stay (ih (leads_current_iff.1 h'))
  | up _ ih => exact .up (ih (leads_parent_iff.1 h'))
  | vacant hname hnone => exact .vacant hname hnone
  | down hname hfolder _ ih =>
    exact .down hname hfolder (ih ((leads_folder_iff hname (hgrows.directory hfolder)).1 h'))
  | link hname hlink hpurpose => exact .link hname hlink hpurpose
  | jump hname hlink hend htext _ ih =>
    obtain ⟨entry, hentry, halike⟩ := hgrows hlink
    cases halike
    -- the link is still there, so every way along it takes one link more than what goes on behind it
    cases fewer with
    | zero =>
      cases h' with
      | stay => exact absurd rfl hname.ne_current
      | up => exact absurd rfl hname.ne_parent
      | vacant _ hnone => rw [hentry] at hnone; cases hnone
      | down _ hfolder => rw [hentry] at hfolder; cases hfolder
      | link _ _ hpurpose => exact absurd ⟨hpurpose, rfl, rfl⟩ hend
      | entry _ hother _ hnoLink =>
        rw [hentry, Option.some.injEq] at hother
        exact absurd hother.symm (hnoLink _)
    | succ fewer => exact .jump hname hlink hend htext (ih ((leads_link_iff hname hentry hend htext).1 h'))
  | entry hname hentry hdirectory hlink => exact .entry hname hentry hdirectory hlink

end FileSystem

end ComponentScaffold
