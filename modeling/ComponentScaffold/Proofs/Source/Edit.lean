import ComponentScaffold.Proofs.Files.Writes
import ComponentScaffold.Proofs.Source.Region
import ComponentScaffold.Proofs.Source.WholeEdit

/-! # What edits change

An edit of a file writes to that file and to nothing else, and only what it has worked out in full.

* **`fillRegion_moves`**, **`injectBaseClass_moves`** — only the file itself is written to.
* **`perform_fillRegion_ok`** — what a region that was filled holds.
* **`perform_fillRegion_of_file`**, **`injectBaseClass_of_file`** — what becomes of the text of a file.
* **`injectBaseClass_error`** — why a class is given no base class. -/

namespace ComponentScaffold

open ComponentScaffold.Action

/-- Filling a region writes to no other path. -/
theorem fillRegion_moves (file : Path) (startMarker endMarker content : String) :
    Moves (FileSystem.WritesTo file) (fillRegion file startMarker endMarker content) := by
  refine (readText_computes _).moves.bind fun text => (Computes.lift _).moves.bind fun edited => ?_
  exact (Moves.writeText _ _).bind fun _ => (Computes.report _ _ _).moves

/-- Filling a region does not look at what was reported. -/
theorem fillRegion_ignoresRecords (file : Path) (startMarker endMarker content : String) :
    IgnoresRecords (fillRegion file startMarker endMarker content) := by
  refine (readText_computes _).ignoresRecords.bind fun text => (Computes.lift _).ignoresRecords.bind fun edited => ?_
  exact (IgnoresRecords.writeText _ _).bind fun _ => (Computes.report _ _ _).ignoresRecords

/-- Giving a class a base class writes to no other path than that of the class. -/
theorem injectBaseClass_moves (file : Path) (className : String) (baseFolder : Path)
    (baseFile : String) :
    Moves (FileSystem.WritesTo file) (injectBaseClass file className baseFolder baseFile) := by
  refine Computes.files.moves.bind fun files => ?_
  split
  case isTrue => exact (Computes.report _ _ _).moves.bind fun _ => (Computes.pure _).moves
  case isFalse =>
    refine (readText_computes _).moves.bind fun baseText => (readText_computes _).moves.bind fun text => ?_
    refine (Computes.lift _).moves.bind fun edited => (Moves.writeText _ _).bind fun _ => ?_
    exact (Computes.report _ _ _).moves.bind fun _ => (Computes.pure _).moves

/-- Giving a class a base class does not look at what was reported. -/
theorem injectBaseClass_ignoresRecords (file : Path) (className : String) (baseFolder : Path)
    (baseFile : String) : IgnoresRecords (injectBaseClass file className baseFolder baseFile) := by
  refine Computes.files.ignoresRecords.bind fun files => ?_
  split
  case isTrue =>
    exact (Computes.report _ _ _).ignoresRecords.bind fun _ => (Computes.pure _).ignoresRecords
  case isFalse =>
    refine (readText_computes _).ignoresRecords.bind fun baseText =>
      (readText_computes _).ignoresRecords.bind fun text => ?_
    refine (Computes.lift _).ignoresRecords.bind fun edited => (IgnoresRecords.writeText _ _).bind fun _ => ?_
    exact (Computes.report _ _ _).ignoresRecords.bind fun _ => (Computes.pure _).ignoresRecords

/-- **A region that was filled**: the file held a text with such a region, and is written with another
content of the region and nothing else changed. -/
theorem perform_fillRegion_ok {file : Path} {startMarker endMarker content : String}
    {session after : Session}
    (h : (fillRegion file startMarker endMarker content).perform session = (.ok (), after)) :
    ∃ old new : String, session.files.readBytes file = .ok old.toUTF8 ∧
      FillsRegion startMarker.toList endMarker.toList content.toList old.toList new.toList ∧
      session.files.writeBytes file new.toUTF8 = .ok after.files ∧
      after.invocations = session.invocations := by
  have hwhole := fillRegion_whole file startMarker endMarker content session
  rw [h] at hwhole
  cases hwhole with
  | filled hwrite hchanges hfilled => exact ⟨_, _, hchanges.readBytes, replaceRegion_eq_ok_iff.mp hfilled, hwrite, rfl⟩

/-- **Why a region of a file cannot be filled.** -/
inductive FileSystem.CannotFill (fs : FileSystem) (file : Path) (startMarker endMarker content : String) :
    Failure → Prop
  /-- The file is not there, or cannot be read. -/
  | unread {fault} : fs.readBytes file = .error fault →
    CannotFill fs file startMarker endMarker content (.io (.system fault))
  /-- It holds no text. -/
  | notUtf8 {bytes} : fs.readBytes file = .ok bytes → String.fromUTF8? bytes = none →
    CannotFill fs file startMarker endMarker content (.io .notUtf8)
  /-- Its text has no such region. -/
  | unmarked {text : String} {failure} : fs.readBytes file = .ok text.toUTF8 →
    LacksRegion startMarker.toList endMarker.toList text.toList failure →
    CannotFill fs file startMarker endMarker content failure
  /-- The text with the region filled cannot be written. -/
  | unwritten {old new : String} {fault} : fs.readBytes file = .ok old.toUTF8 →
    FillsRegion startMarker.toList endMarker.toList content.toList old.toList new.toList →
    fs.writeBytes file new.toUTF8 = .error fault →
    CannotFill fs file startMarker endMarker content (.io (.system fault))

/-- **A region that was not filled**: nothing was changed, and this is why. -/
theorem perform_fillRegion_error {file : Path} {startMarker endMarker content : String}
    {session after : Session} {failure : Failure}
    (h : (fillRegion file startMarker endMarker content).perform session = (.error failure, after)) :
    after = session ∧ session.files.CannotFill file startMarker endMarker content failure := by
  have hwhole := fillRegion_whole file startMarker endMarker content session
  rw [h] at hwhole
  cases hwhole with
  | refused hcannot =>
    refine ⟨rfl, ?_⟩
    cases hcannot with
    | unread hcannotRead =>
      cases hcannotRead with
      | refused hfault => exact .unread hfault
      | notUtf8 hread hnone => exact .notUtf8 hread hnone
    | unedited hread hlacks => exact .unmarked hread (lacksRegion_of_replaceRegion hlacks)
    | unwritten hread hfilled hfault =>
      refine .unwritten hread ?_ hfault
      rw [String.toList_ofList]
      exact replaceRegion_eq_ok_iff.mp hfilled

/-! ## The text of a file -/

/-- The text of a file that a path leads to is read. -/
theorem perform_readText_of_file {file : Path} {place : Location} {text : String} {session : Session}
    (h : session.files.resolve file .file = .ok (.entry place (.file text.toUTF8))) :
    (readText file).perform session = (.ok text, session) := by
  exact perform_readText_of_readBytes (FileSystem.readBytes_of_file (FileSystem.resolve_target h (by simp)))

/-- The file that a path leads to is written to. -/
theorem perform_writeText_of_file {file : Path} {place : Location} {old : ByteArray} {session : Session}
    (h : session.files.resolve file .file = .ok (.entry place (.file old))) (text : String) :
    (writeText file text).perform session =
      (.ok (), { session with files := session.files.rewrite place (.file text.toUTF8) }) := by
  rw [perform_writeText, FileSystem.writeBytes, h]

/-- **A region of a file** that holds it is filled. -/
theorem perform_fillRegion_of_file {file : Path} {startMarker endMarker content old new : String}
    {place : Location} {session : Session}
    (h : session.files.resolve file .file = .ok (.entry place (.file old.toUTF8)))
    (hfills : FillsRegion startMarker.toList endMarker.toList content.toList old.toList new.toList) :
    ∃ after, (fillRegion file startMarker endMarker content).perform session = (.ok (), after) ∧
      after.files = session.files.rewrite place (.file new.toUTF8) := by
  rw [fillRegion, perform_bind_of_ok (perform_readText_of_file h)]
  rw [replaceRegion_eq_ok_iff.2 hfills, perform_bind_of_ok (perform_lift _ _), String.ofList_toList]
  rw [perform_bind_of_ok (perform_writeText_of_file h new)]
  exact ⟨_, rfl, rfl⟩

/-- **The file of a class** gets a base class in its text, or keeps its text. -/
theorem injectBaseClass_of_file {file baseFolder : Path} {className baseFile text : String}
    {place : Location} {session : Session}
    (h : session.files.resolve file .file = .ok (.entry place (.file text.toUTF8))) :
    ((injectBaseClass file className baseFolder baseFile).perform session).2.files = session.files ∨
      ∃ base baseNamespace edited,
        inheritFrom text.toList className.toList base baseNamespace = .ok edited ∧
        ((injectBaseClass file className baseFolder baseFile).perform session).2.files =
          session.files.rewrite place (.file (String.ofList edited.text).toUTF8) := by
  have hwhole := injectBaseClass_whole file className baseFolder baseFile session
  generalize (injectBaseClass file className baseFolder baseFile).perform session = outcome at hwhole ⊢
  cases hwhole with
  | skipped | refused => exact .inl rfl
  | @inherited base old edited files _ _ _ _ hworked hwrite hchanges =>
    have htarget := FileSystem.resolve_target h (by simp)
    obtain rfl : text = old := String.toByteArray_inj.mp
      (Except.ok.inj ((FileSystem.readBytes_of_file htarget).symm.trans hchanges.readBytes))
    rw [FileSystem.writeBytes, h] at hwrite
    exact .inr ⟨_, _, edited, hworked, (Except.ok.inj hwrite).symm⟩

/-- **A class that was given a base class** has the one that the file of the base class says. -/
theorem injectBaseClass_ok {file baseFolder : Path} {className baseFile base : String} {imported : Option String}
    {session after : Session}
    (h : (injectBaseClass file className baseFolder baseFile).perform session =
      (.ok (.inherits base imported), after)) :
    ∃ (place : Location) (text : String),
      session.files.resolve (baseFolder.child baseFile) .target = .ok (.entry place (.file text.toUTF8)) ∧
      base = String.ofList (BaseClass.ofText (baseFolder.child baseFile) text.toList).name := by
  have hwhole := injectBaseClass_whole file className baseFolder baseFile session
  rw [h] at hwhole
  cases hwhole with
  | inherited hregular hread _ _ _ =>
    obtain ⟨place, bytes, hleads⟩ := hregular
    obtain rfl := Except.ok.inj ((FileSystem.readBytes_of_file hleads).symm.trans hread)
    exact ⟨place, _, hleads, rfl⟩

/-- **Why a class cannot be given a base class** by a file: that holds no text, or by what it says the class is
not found in its own text. -/
inductive FileSystem.CannotInherit (fs : FileSystem) (basePath : Path) (className text : String) : Failure → Prop
  /-- It holds no text. -/
  | notUtf8 {place bytes} : fs.resolve basePath .target = .ok (.entry place (.file bytes)) →
    String.fromUTF8? bytes = none → CannotInherit fs basePath className text (.io .notUtf8)
  /-- The class is not found. -/
  | undeclared {place failure} {base : String} :
    fs.resolve basePath .target = .ok (.entry place (.file base.toUTF8)) →
    inheritFrom text.toList className.toList (BaseClass.ofText basePath base.toList).name
      (BaseClass.ofText basePath base.toList).namespaceName = .error failure →
    CannotInherit fs basePath className text failure

/-- This is how it fails. -/
theorem FileSystem.CannotInherit.failure_eq {fs : FileSystem} {basePath : Path} {className text : String}
    {failure : Failure} (h : fs.CannotInherit basePath className text failure) :
    failure = .io .notUtf8 ∨ failure = .declarationNotFound className := by
  cases h with
  | notUtf8 => exact .inl rfl
  | undeclared _ hedit =>
    unfold inheritFrom at hedit
    simp only at hedit
    split at hedit
    case h_1 => cases hedit
    case h_2 => exact .inr (by rw [← Except.error.inj hedit, String.ofList_toList])

/-- **A class that could not be given a base class** has its file as it was. -/
theorem injectBaseClass_error {file baseFolder : Path} {className baseFile text : String} {place : Location}
    {session after : Session} {failure : Failure}
    (h : session.files.resolve file .file = .ok (.entry place (.file text.toUTF8)))
    (hrun : (injectBaseClass file className baseFolder baseFile).perform session = (.error failure, after)) :
    after.files = session.files ∧
      session.files.CannotInherit (baseFolder.child baseFile) className text failure := by
  have hwhole := injectBaseClass_whole file className baseFolder baseFile session
  rw [hrun] at hwhole
  cases hwhole with
  | refused hregular hcannot =>
    refine ⟨rfl, ?_⟩
    obtain ⟨found, bytes, hleads⟩ := hregular
    cases hcannot with
    | unread hcannotRead =>
      obtain ⟨hnone, rfl⟩ := hcannotRead.of_file hleads
      exact .notUtf8 hleads hnone
    | unedited hread hcannotEdit =>
      obtain rfl := Except.ok.inj ((FileSystem.readBytes_of_file hleads).symm.trans hread)
      exact .undeclared hleads (hcannotEdit.of_file h)

end ComponentScaffold
