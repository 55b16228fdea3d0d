import ComponentScaffold.Proofs.Files.Folders
import ComponentScaffold.Proofs.Scaffold.Namespaces
import ComponentScaffold.Proofs.Source.Edit
import ComponentScaffold.Scaffold.Run

/-! # What creating a view-model changes

The file of a view-model is created only where nothing is found, but that is asked before its folder is
made. A path that goes through the folder and up again leads nowhere until then, and may lead to a file
afterwards.

* **`FileSystem.Overwrites`** — a path of this kind.
* **`FileSystem.CreatesFile`** — the ways in which creating a view-model goes, and where it ends.
* **`FileSystem.CreatesFile.keeps`**, **`FileSystem.CreatesFile.gains`** — what is kept, and what is
  new. -/

namespace ComponentScaffold

open ComponentScaffold.Action

namespace FileSystem

/-- A path leads to what holds the bytes that are at a place. -/
def TakesWrites (fs : FileSystem) (p : Path) (place : Location) : Prop :=
  ∃ found entry, fs.resolve p .file = .ok (.entry found entry) ∧ holdsBytes entry = true ∧
    fs.numberAt place = fs.numberAt found

/-- **A new file at a path overwrites** what is at a place: the path leads to nothing, but once its folder is
made it leads to a file of the same node. -/
def Overwrites (fs : FileSystem) (p : Path) (place : Location) : Prop :=
  fs.exists? p = false ∧ ∃ folder made, p.parent? = some folder ∧
    fs.makeDirectories folder = (made, .ok ()) ∧ made.TakesWrites p place

/-- **How a file is created** at a path where nothing is found: its folder is made, and only then it is
written, maybe again and again. -/
inductive CreatesFile (p : Path) : FileSystem → FileSystem → Prop
  /-- Something is there. -/
  | taken (fs : FileSystem) : CreatesFile p fs fs
  /-- Its folder cannot be made. -/
  | unfit {fs made : FileSystem} {folder : Path} {fault : OsFault} : p.parent? = some folder →
    fs.makeDirectories folder = (made, .error fault) → CreatesFile p fs made
  /-- Its folder is made. -/
  | written {fs made after : FileSystem} {folder : Path} : fs.exists? p = false → p.parent? = some folder →
    fs.makeDirectories folder = (made, .ok ()) → WritesTo p made after → CreatesFile p fs after
  /-- It has no folder. -/
  | alone {fs after : FileSystem} : fs.exists? p = false → p.parent? = none → WritesTo p fs after →
    CreatesFile p fs after

variable {fs made after : FileSystem} {p : Path}

/-- A path that leads nowhere leads to no entry to write to. -/
theorem resolve_file_of_not_exists (habs : p.isAbsolute = true) (h : fs.exists? p = false)
    (place : Location) (entry : Entry) : fs.resolve p .file ≠ .ok (.entry place entry) :=
  fun hresolve => (not_exists?_iff habs).1 h place entry (resolve_target hresolve (by simp))

/-- **Along a path without steps up**, nothing is overwritten. -/
theorem not_overwrites (hfs : fs.WellFormed) (habs : p.isAbsolute = true) (hparents : ".." ∉ p.names)
    (place : Location) : ¬fs.Overwrites p place := by
  rintro ⟨hnothing, folder, made, hup, hmade, found, entry, hfound, -⟩
  exact not_resolve_of_makeDirectories hfs habs hparents hup (resolve_file_of_not_exists habs hnothing)
    hmade hfound

/-- **What a run of writes comes to**: nothing changes, or only the node does that the path leads to, or a new file
is there. -/
theorem WritesTo.comesTo (h : WritesTo p made after) (hmade : made.WellFormed) (habs : p.isAbsolute = true) :
    after = made ∨
      (∃ found held, made.resolve p .file = .ok (.entry found held) ∧ holdsBytes held = true ∧
        ∀ other, made.numberAt other ≠ made.numberAt found → after.lookup other = made.lookup other) ∨
      ∃ new bytes, made.lookup new = none ∧ after.lookup new = some (.file bytes) ∧
        after.resolve p .file = .ok (.entry new (.file bytes)) ∧
        ∀ other, other ≠ new → after.lookup other = made.lookup other := by
  cases hresolve : made.resolve p .file with
  | error fault => exact .inl (h.eq_of_error hresolve)
  | ok destination =>
    cases destination with
    | entry found held =>
      cases hheld : holdsBytes held with
      | false => exact .inl (h.eq_of_not_holdsBytes hresolve hheld)
      | true => exact .inr (.inl ⟨found, held, rfl, hheld, (h.lookup_of_entry hmade habs hresolve).2⟩)
    | vacant directory name slashed =>
      rcases h.of_vacant hmade habs hresolve with rfl | ⟨hnone, ⟨bytes, hbytes, hleads⟩, hothers⟩
      · exact .inl rfl
      · exact .inr (.inr ⟨directory ++ [name], bytes, hnone, hbytes, hleads, hothers⟩)
    | removed number => exact absurd hresolve (resolve_ne_removed habs number)

/-- **What writes keep**: everything but what the path leads to. -/
theorem WritesTo.keeps (h : WritesTo p made after) (hmade : made.WellFormed) (habs : p.isAbsolute = true)
    {place : Location} {entry : Entry} (hplace : made.lookup place = some entry) :
    after.lookup place = some entry ∨ made.TakesWrites p place := by
  rcases h.comesTo hmade habs with rfl | ⟨found, held, hresolve, hheld, hothers⟩ | ⟨new, -, hnone, -, -, hothers⟩
  · exact .inl hplace
  · by_cases hnumber : made.numberAt place = made.numberAt found
    · exact .inr ⟨found, held, hresolve, hheld, hnumber⟩
    · exact .inl ((hothers place hnumber).trans hplace)
  · refine .inl ((hothers place ?_).trans hplace)
    rintro rfl
    rw [hnone] at hplace
    cases hplace

/-- **What writes bring**: at most the file that the path leads to. -/
theorem WritesTo.gains (h : WritesTo p made after) (hmade : made.WellFormed) (habs : p.isAbsolute = true)
    {place : Location} {entry : Entry} (hplace : after.lookup place = some entry)
    (hnone : made.lookup place = none) :
    after.resolve p .file = .ok (.entry place entry) ∧ ∃ bytes, entry = .file bytes := by
  rcases h.comesTo hmade habs with rfl | ⟨found, held, hresolve, hheld, hothers⟩ |
    ⟨new, bytes, -, hnew, hleads, hothers⟩
  · rw [hnone] at hplace
    cases hplace
  · -- the places of the node that is written to are taken already
    have hnumber : made.numberAt place ≠ made.numberAt found := by
      intro hnumber
      obtain ⟨hfound⟩ := resolve_holds hmade habs hresolve
      have hne : found ≠ [] := ne_nil_of_lookup hfound (by rintro rfl; cases hheld)
      have hplaceNe : place ≠ [] := by
        rintro rfl
        rw [lookup_root] at hnone
        cases hnone
      rw [lookup_eq_of_numberAt_eq hne hplaceNe hnumber, hfound] at hnone
      cases hnone
    rw [hothers place hnumber, hnone] at hplace
    cases hplace
  · by_cases hsame : place = new
    · subst hsame
      obtain rfl := Option.some.inj (hplace.symm.trans hnew)
      exact ⟨hleads, bytes, rfl⟩
    · rw [hothers place hsame, hnone] at hplace
      cases hplace

namespace CreatesFile

/-- A well-formed file system stays so, however far it comes. -/
theorem wellFormed (h : CreatesFile p fs after) (hfs : fs.WellFormed) (habs : p.isAbsolute = true) :
    after.WellFormed := by
  have hmade {folder : Path} (hup : p.parent? = some folder) : (fs.makeDirectories folder).1.WellFormed :=
    (makeDirectories_makes hfs (Path.isAbsolute_of_parent? habs hup)).wellFormed hfs
  cases h with
  | taken => exact hfs
  | unfit hup hmake => simpa [hmake] using hmade hup
  | written _ hup hmake hwrites =>
    have hform := hmade hup
    rw [hmake] at hform
    exact (hwrites.wellFormed_growsTo hform habs).1
  | alone _ _ hwrites => exact (hwrites.wellFormed_growsTo hfs habs).1

/-- **Everything that was there is kept**, unless the new file overwrites it. -/
theorem keeps (h : CreatesFile p fs after) (hfs : fs.WellFormed) (habs : p.isAbsolute = true)
    {place : Location} {entry : Entry} (hplace : fs.lookup place = some entry) :
    after.lookup place = some entry ∨ fs.Overwrites p place := by
  cases h with
  | taken => exact .inl hplace
  | @unfit _ folder fault hup hmade =>
    have hrun : MakesFolders folder fs after := .of_makeDirectories hfs (Path.isAbsolute_of_parent? habs hup) hmade
    exact .inl (hrun.gainsFolders.keeps hplace)
  | @written made _ folder hnothing hup hmade hwrites =>
    have hrun : MakesFolders folder fs made := .of_makeDirectories hfs (Path.isAbsolute_of_parent? habs hup) hmade
    rcases hwrites.keeps (hrun.wellFormed hfs) habs (hrun.gainsFolders.keeps hplace) with hkept | htakes
    · exact .inl hkept
    · exact .inr ⟨hnothing, folder, made, hup, hmade, htakes⟩
  | alone hnothing _ hwrites =>
    rcases hwrites.keeps hfs habs hplace with hkept | ⟨found, held, hresolve, -⟩
    · exact .inl hkept
    · exact absurd hresolve (resolve_file_of_not_exists habs hnothing found held)

/-- **What is new** is the file that the path leads to, or a directory that a path on the way leads
to. -/
theorem gains (h : CreatesFile p fs after) (hfs : fs.WellFormed) (habs : p.isAbsolute = true)
    {place : Location} {entry : Entry} (hplace : after.lookup place = some entry)
    (hnone : fs.lookup place = none) :
    (after.resolve p .file = .ok (.entry place entry) ∧ ∃ bytes, entry = .file bytes) ∨
      ∃ above : Path, above.OnWayTo p ∧ after.resolve above .target = .ok (.entry place .directory) ∧
        entry = .directory := by
  cases h with
  | taken =>
    rw [hnone] at hplace
    cases hplace
  | @unfit _ folder fault hup hmade =>
    have hfolder := Path.isAbsolute_of_parent? habs hup
    have hrun : MakesFolders folder fs after := .of_makeDirectories hfs hfolder hmade
    obtain ⟨above, habove, hleads⟩ := hrun.exists_onWayTo hfolder hplace hnone
    obtain ⟨hdirectory⟩ := resolve_holds (hrun.wellFormed hfs) (habove.isAbsolute hfolder) hleads
    exact .inr ⟨above, .above hup habove, hleads, Option.some.inj (hplace.symm.trans hdirectory)⟩
  | @written made _ folder hnothing hup hmade hwrites =>
    have hfolder := Path.isAbsolute_of_parent? habs hup
    have hrun : MakesFolders folder fs made := .of_makeDirectories hfs hfolder hmade
    cases hold : made.lookup place with
    | none => exact .inl (hwrites.gains (hrun.wellFormed hfs) habs hplace hold)
    | some old =>
      obtain ⟨above, habove, hleads⟩ := hrun.exists_onWayTo hfolder hold hnone
      obtain ⟨hafter, hgrows⟩ := hwrites.wellFormed_growsTo (hrun.wellFormed hfs) habs
      have habsAbove := habove.isAbsolute hfolder
      have hleads' := resolve_grows hgrows habsAbove hleads .directory
      obtain ⟨hdirectory⟩ := resolve_holds hafter habsAbove hleads'
      exact .inr ⟨above, .above hup habove, hleads', Option.some.inj (hplace.symm.trans hdirectory)⟩
  | alone hnothing _ hwrites => exact .inl (hwrites.gains hfs habs hplace hnone)

end CreatesFile

end FileSystem

/-! ## View-models -/

/-- What is left to do for a view-model in its folder. -/
def writeViewModel (baseFile : String) (plan : ViewModelPlan) : Action ViewModelReport := do
  Action.writeText plan.path (viewModelSource plan.className)
  let token := NamespaceToken.codeNamespace
  fillRegion plan.path token.startMarker token.endMarker (token.select plan.namespaces)
  let inheritance ← injectBaseClass plan.path plan.className plan.baseFolder baseFile
  return ⟨plan.path, plan.namespaces, inheritance⟩

/-- A view-model is created in its folder, unless something is found at its path. -/
theorem perform_createViewModel (baseFile : String) (plan : ViewModelPlan) (session : Session) :
    (createViewModel baseFile plan).perform session =
      if session.files.exists? plan.path then (.error (.io (.taken plan.path)), session)
      else match plan.path.parent? with
        | some folder =>
          (Action.makeDirectories folder >>= fun _ => writeViewModel baseFile plan).perform session
        | none => (writeViewModel baseFile plan).perform session := by
  rw [createViewModel, perform_bind_of_ok (perform_files session)]
  simp only
  split
  case isTrue => rfl
  case isFalse => cases plan.path.parent? <;> rfl

/-- In its folder, only the file of a view-model is written to. -/
theorem writeViewModel_moves (baseFile : String) (plan : ViewModelPlan) :
    Moves (FileSystem.WritesTo plan.path) (writeViewModel baseFile plan) := by
  refine (Moves.writeText _ _).bind fun _ => (fillRegion_moves _ _ _ _).bind fun _ => ?_
  exact (injectBaseClass_moves _ _ _ _).bind fun _ => (Computes.pure _).moves

/-- **A text of a new view-model**: its source with its namespace, and maybe with a base class. -/
def ViewModelPlan.GivesText (plan : ViewModelPlan) (text : String) : Prop :=
  ∃ filled : String, NamespaceToken.codeNamespace.Fills plan.namespaces (viewModelSource plan.className) filled ∧
    (text = filled ∨ ∃ base baseNamespace edited,
      inheritFrom filled.toList plan.className.toList base baseNamespace = .ok edited ∧
      text = String.ofList edited.text)

/-- The source of a view-model holds a namespace. -/
theorem exists_fills_viewModelSource (name : String) (namespaces : NamespacePair) :
    ∃ filled, NamespaceToken.codeNamespace.Fills namespaces (viewModelSource name) filled := by
  obtain ⟨rest, hrest⟩ : ∃ rest, (viewModelSource name).toList =
      [] ++ "namespace ".toList ++ ("ViewModels".toList ++ ";".toList ++ rest) :=
    ⟨"\n\npublic partial class ".toList ++ name.toList ++ "\n\x7b\n\x7d\n".toList, by
      simp [viewModelSource, placeholderNamespace, toString]⟩
  obtain ⟨held, after, hend⟩ := Text.exists_splitFirst?_append ";".toList "ViewModels".toList rest
  have hcut := Text.splitFirst?_eq_some_iff.1 hend
  rw [hcut.parts] at hrest hcut
  exact ⟨String.ofList _, [], held, after, ⟨hrest, fun _ _ _ => Nat.zero_le _⟩, hcut, String.toList_ofList⟩

/-- A view-model whose source was written gets its namespace, and then its base class. -/
theorem perform_writeViewModel {plan : ViewModelPlan} {session written : Session} {place : Location}
    (baseFile : String)
    (hwrite : (Action.writeText plan.path (viewModelSource plan.className)).perform session = (.ok (), written))
    (hsource : written.files.resolve plan.path .file =
      .ok (.entry place (.file (viewModelSource plan.className).toUTF8))) :
    ∃ (filled : String) (named : Session),
      NamespaceToken.codeNamespace.Fills plan.namespaces (viewModelSource plan.className) filled ∧
      named.files = written.files.rewrite place (.file filled.toUTF8) ∧
      (writeViewModel baseFile plan).perform session =
        (injectBaseClass plan.path plan.className plan.baseFolder baseFile >>= fun inheritance =>
          (pure ⟨plan.path, plan.namespaces, inheritance⟩ : Action ViewModelReport)).perform named := by
  obtain ⟨filled, hfilled⟩ := exists_fills_viewModelSource plan.className plan.namespaces
  obtain ⟨named, hfill, hnamed⟩ := perform_fillRegion_of_file hsource hfilled
  exact ⟨filled, named, hfilled, hnamed, by
    rw [writeViewModel, perform_bind_of_ok hwrite, perform_bind_of_ok hfill]⟩

/-- In its folder, a view-model whose path leads to a file becomes its text. -/
theorem writeViewModel_text {baseFile : String} {plan : ViewModelPlan} {session : Session}
    {place : Location} {old : ByteArray} (hfs : session.files.WellFormed)
    (habs : plan.path.isAbsolute = true)
    (h : session.files.resolve plan.path .file = .ok (.entry place (.file old))) :
    ∃ text, plan.GivesText text ∧
      ∀ other, other ≠ [] → session.files.numberAt other = session.files.numberAt place →
        ((writeViewModel baseFile plan).perform session).2.files.lookup other =
          some (.file text.toUTF8) := by
  -- the source, the namespace and the base class are written one after the other into the same node
  obtain ⟨hsource, hleads, -⟩ :=
    FileSystem.rewrite_of_file hfs habs h (viewModelSource plan.className).toUTF8
  obtain ⟨written, hwrite, hwritten⟩ : ∃ written,
      (Action.writeText plan.path (viewModelSource plan.className)).perform session = (.ok (), written) ∧
        written.files = session.files.rewrite place (.file (viewModelSource plan.className).toUTF8) :=
    ⟨_, perform_writeText_of_file h _, rfl⟩
  rw [← hwritten] at hsource hleads
  obtain ⟨filled, named, hfilled, hnamed, hrun⟩ := perform_writeViewModel baseFile hwrite hleads
  obtain ⟨hform, hleads', hlookup⟩ := FileSystem.rewrite_of_file hsource habs hleads filled.toUTF8
  rw [← hnamed] at hform hleads' hlookup
  have hnumber (other : Location) : named.files.numberAt other = session.files.numberAt other := by
    simp [hnamed, hwritten]
  rw [hrun, perform_bind]
  have hends : ∃ text, plan.GivesText text ∧ ∀ other, other ≠ [] →
      session.files.numberAt other = session.files.numberAt place →
        ((injectBaseClass plan.path plan.className plan.baseFolder baseFile).perform named).2.files.lookup
          other = some (.file text.toUTF8) := by
    rcases injectBaseClass_of_file hleads' with hkept | ⟨base, baseNamespace, edited, hedit, hedited⟩
    · refine ⟨filled, ⟨filled, hfilled, .inl rfl⟩, fun other hother hsame => ?_⟩
      rw [hkept]
      exact hlookup other hother (by simpa [hwritten] using hsame)
    · refine ⟨_, ⟨filled, hfilled, .inr ⟨base, baseNamespace, edited, hedit, rfl⟩⟩, fun other hother hsame => ?_⟩
      rw [hedited]
      exact (FileSystem.rewrite_of_file hform habs hleads' _).2.2 other hother
        (by rw [hnumber, hnumber, hsame])
  split
  case h_1 report after heq => simpa [heq] using hends
  case h_2 failure after heq => simpa [heq] using hends

/-- **Creating a view-model** creates its file, however far that comes. -/
theorem createViewModel_moves (baseFile : String) (plan : ViewModelPlan) :
    Moves (FileSystem.CreatesFile plan.path) (createViewModel baseFile plan) := by
  intro session
  rw [perform_createViewModel]
  split
  case isTrue => exact ⟨.taken _, rfl⟩
  case isFalse hnothing =>
    rw [Bool.not_eq_true] at hnothing
    split
    case h_1 folder hup =>
      rw [perform_bind, perform_makeDirectories]
      cases hmade : session.files.makeDirectories folder with
      | mk made outcome =>
        cases outcome with
        | error fault => exact ⟨.unfit hup hmade, rfl⟩
        | ok _ =>
          obtain ⟨hwrites, hinvocations⟩ := writeViewModel_moves baseFile plan { session with files := made }
          exact ⟨.written hnothing hup hmade hwrites, hinvocations⟩
    case h_2 hup =>
      obtain ⟨hwrites, hinvocations⟩ := writeViewModel_moves baseFile plan session
      exact ⟨.alone hnothing hup hwrites, hinvocations⟩

/-- Creating a view-model does not look at what was reported. -/
theorem createViewModel_ignoresRecords (baseFile : String) (plan : ViewModelPlan) :
    IgnoresRecords (createViewModel baseFile plan) := by
  have hwrite : IgnoresRecords (writeViewModel baseFile plan) := by
    refine (IgnoresRecords.writeText _ _).bind fun _ => (fillRegion_ignoresRecords _ _ _ _).bind fun _ => ?_
    exact (injectBaseClass_ignoresRecords _ _ _ _).bind fun _ => (Computes.pure _).ignoresRecords
  intro session other hfiles
  rw [perform_createViewModel, perform_createViewModel, hfiles]
  split
  case isTrue => exact ⟨rfl, hfiles⟩
  case isFalse =>
    split
    case h_1 folder _ => exact ((IgnoresRecords.makeDirectories _).bind fun _ => hwrite) session other hfiles
    case h_2 => exact hwrite session other hfiles

/-- **A file that is overwritten** ends up as the text of the view-model. -/
theorem createViewModel_overwrites {baseFile : String} {plan : ViewModelPlan} {session : Session}
    {place : Location} {old : ByteArray} (hfs : session.files.WellFormed)
    (habs : plan.path.isAbsolute = true) (hplace : session.files.lookup place = some (.file old))
    (h : session.files.Overwrites plan.path place) :
    ∃ text, plan.GivesText text ∧
      ((createViewModel baseFile plan).perform session).2.files.lookup place = some (.file text.toUTF8) := by
  obtain ⟨hnothing, folder, made, hup, hmade, found, entry, hfound, hheld, hnumber⟩ := h
  have hrun : FileSystem.MakesFolders folder session.files made :=
    .of_makeDirectories hfs (Path.isAbsolute_of_parent? habs hup) hmade
  have hform := hrun.wellFormed hfs
  have hold := hrun.gainsFolders.keeps hplace
  have hne := FileSystem.ne_nil_of_lookup hplace (by simp)
  obtain ⟨hentry⟩ := FileSystem.resolve_holds hform habs hfound
  have hfoundNe := FileSystem.ne_nil_of_lookup hentry (by rintro rfl; cases hheld)
  -- the place and what the path leads to are one node, so they hold one file
  obtain rfl : entry = .file old := by
    rw [FileSystem.lookup_eq_of_numberAt_eq hfoundNe hne hnumber, hentry] at hold
    exact Option.some.inj hold
  rw [perform_createViewModel, if_neg (by simp [hnothing]), hup]
  simp only
  rw [perform_bind, perform_makeDirectories, hmade]
  obtain ⟨text, htext, hlookup⟩ :=
    @writeViewModel_text baseFile plan { session with files := made } found old hform habs hfound
  exact ⟨text, htext, hlookup place hne hnumber⟩

/-- **What creating a view-model does** to the file system, however far it comes. -/
structure ViewModelPlan.Furnishes (plan : ViewModelPlan) (before after : FileSystem) : Prop where
  /-- Its file is created. -/
  creates : FileSystem.CreatesFile plan.path before after
  /-- A file that it overwrites ends up as its text. -/
  overwrites : before.WellFormed → plan.path.isAbsolute = true → ∀ place old,
    before.lookup place = some (.file old) → before.Overwrites plan.path place →
      ∃ text, plan.GivesText text ∧ after.lookup place = some (.file text.toUTF8)

/-- Creating a view-model furnishes it, and asks no generator. -/
theorem createViewModel_furnishes (baseFile : String) (plan : ViewModelPlan) (session : Session) :
    plan.Furnishes session.files ((createViewModel baseFile plan).perform session).2.files ∧
      ((createViewModel baseFile plan).perform session).2.invocations = session.invocations := by
  obtain ⟨hcreates, hinvocations⟩ := createViewModel_moves baseFile plan session
  exact ⟨⟨hcreates, fun hfs habs _ _ hplace hover => createViewModel_overwrites hfs habs hplace hover⟩,
    hinvocations⟩

end ComponentScaffold
