import ComponentScaffold.Proofs.Files.Paths
import ComponentScaffold.Proofs.Session
import ComponentScaffold.Source.Edit

/-! # Edits of whole files

An edit reads the text of a file, works out another one, and writes that. It is done and reported as a whole, or it
fails before anything is changed.

* **`FileSystem.ChangesFile`** — one file has other bytes, and nothing else is changed.
* **`Action.editText`**, **`EditsText`** — an edit of the text of a file, and what it comes to.
* **`FillsWhole`**, **`InheritsWhole`** — what filling a region and giving a class a base class come to.
* **`edits_whole`** — they come to nothing else. -/

namespace ComponentScaffold

/-! ## One file with other bytes -/

namespace FileSystem

variable {fs written : FileSystem} {p : Path} {purpose : Purpose}

/-- **One file has other bytes**, and nothing else is changed: the path leads to an entry from which the old bytes are
read; a regular file there has the new ones afterwards, at all of its places. -/
structure ChangesFile (p : Path) (old new : ByteArray) (before after : FileSystem) (place : Location) (entry : Entry) :
    Prop where
  /-- The path leads to the entry. -/
  leads : before.resolve p .target = .ok (.entry place entry)
  /-- The old bytes are read from it. -/
  read : entryBytes entry = .ok old
  /-- A regular file has the new bytes, under whatever name. -/
  holds : entry = .file old → ∀ other, other ≠ [] → before.numberAt other = before.numberAt place →
    before.lookup other = some (.file old) ∧ after.lookup other = some (.file new)
  /-- Every other entry is as it was, and nothing is new. -/
  others : ∀ other, before.numberAt other ≠ before.numberAt place → after.lookup other = before.lookup other
  /-- No name is given to another entry. -/
  numbers : ∀ other, after.numberAt other = before.numberAt other

/-- The old bytes are those that the file is read with. -/
theorem ChangesFile.readBytes {old new : ByteArray} {place : Location} {entry : Entry}
    (h : ChangesFile p old new fs written place entry) : fs.readBytes p = .ok old := by
  rw [FileSystem.readBytes, h.leads]
  exact h.read

/-- Other bytes at a place change one node. -/
theorem changesFile_rewrite {place : Location} {held entry : Entry} {old new : ByteArray}
    (hleads : fs.resolve p .target = .ok (.entry place held)) (hinside : held ≠ .directory)
    (hread : entryBytes held = .ok old) (hbecomes : held = .file old → entry = .file new) :
    ChangesFile p old new fs (fs.rewrite place entry) place held := by
  have hthere := lookup_of_resolve hleads hinside
  have hinner := ne_nil_of_lookup hthere hinside
  refine ⟨hleads, hread, fun hfile other hne hsame => ?_, fun other hdifferent => ?_,
    fun other => numberAt_rewrite ..⟩
  · rw [lookup_eq_of_numberAt_eq hinner hne hsame, lookup_rewrite hinner hne hthere, if_pos hsame, hthere, hfile,
      hbecomes hfile]
    exact ⟨rfl, rfl⟩
  · exact lookup_rewrite_of_ne hinner hthere hdifferent entry

/-- **Who writes what was read changes one file.** -/
theorem exists_changesFile {old new : ByteArray} (hread : fs.readBytes p = .ok old)
    (hwrite : fs.writeBytes p new = .ok written) : ∃ place entry, ChangesFile p old new fs written place entry := by
  have hsameEntry {place : Location} {entry : Entry} (hleads : fs.resolve p .file = .ok (.entry place entry)) :
      fs.resolve p .target = .ok (.entry place entry) ∧ entryBytes entry = .ok old := by
    have htarget := resolve_target hleads (by simp)
    rw [readBytes, htarget] at hread
    exact ⟨htarget, hread⟩
  rcases writeBytes_ok hwrite with ⟨place, held, hleads, rfl⟩ | ⟨place, held, hleads, rfl⟩ |
    ⟨place, device, hleads, rfl⟩ | ⟨directory, name, slashed, hleads, -⟩
  · obtain ⟨htarget, hbytes⟩ := hsameEntry hleads
    exact ⟨place, _, changesFile_rewrite htarget (by simp) hbytes fun _ => rfl⟩
  · obtain ⟨htarget, hbytes⟩ := hsameEntry hleads
    exact ⟨place, _, changesFile_rewrite htarget (by simp) hbytes (by simp)⟩
  · obtain ⟨htarget, hbytes⟩ := hsameEntry hleads
    exact ⟨place, _, htarget, hbytes, by simp, fun _ _ => rfl, fun _ => rfl⟩
  · -- nothing is read where a name is free
    rw [readBytes, resolve_target hleads (by simp)] at hread
    cases hread

end FileSystem

/-! ## Editing a text -/

section

variable {α : Type} {file : Path} {edit : List Char → Except Failure α} {text : α → List Char} {session : Session}

open ComponentScaffold.Action

/-- **Edit the text of a file**: what is worked out from it holds the text that is written. -/
def Action.editText (file : Path) (edit : List Char → Except Failure α) (text : α → List Char) : Action α := do
  let old ← readText file
  let edited ← lift (edit old.toList)
  writeText file (String.ofList (text edited))
  return edited

/-- **Why the text of a file cannot be read.** -/
inductive FileSystem.CannotRead (fs : FileSystem) (file : Path) : Failure → Prop
  /-- The file is not there, or cannot be read. -/
  | refused {fault} : fs.readBytes file = .error fault → CannotRead fs file (.io (.system fault))
  /-- It holds no text. -/
  | notUtf8 {bytes} : fs.readBytes file = .ok bytes → String.fromUTF8? bytes = none →
    CannotRead fs file (.io .notUtf8)

/-- **Why the text of a file cannot be edited.** -/
inductive FileSystem.CannotEdit (fs : FileSystem) (file : Path) (edit : List Char → Except Failure α)
    (text : α → List Char) : Failure → Prop
  /-- It cannot be read. -/
  | unread {failure} : fs.CannotRead file failure → CannotEdit fs file edit text failure
  /-- No other text can be worked out. -/
  | unedited {old : String} {failure} : fs.readBytes file = .ok old.toUTF8 → edit old.toList = .error failure →
    CannotEdit fs file edit text failure
  /-- The other text cannot be written. -/
  | unwritten {old : String} {edited fault} : fs.readBytes file = .ok old.toUTF8 → edit old.toList = .ok edited →
    fs.writeBytes file (String.ofList (text edited)).toUTF8 = .error fault →
    CannotEdit fs file edit text (.io (.system fault))

/-- A file that is there cannot be read as a text only if it holds none. -/
theorem FileSystem.CannotRead.of_file {fs : FileSystem} {place : Location} {bytes : ByteArray} {failure : Failure}
    (hcannot : fs.CannotRead file failure) (hleads : fs.resolve file .target = .ok (.entry place (.file bytes))) :
    String.fromUTF8? bytes = none ∧ failure = .io .notUtf8 := by
  have hheld := readBytes_of_file hleads
  cases hcannot with
  | refused hfault => cases hheld.symm.trans hfault
  | notUtf8 hread hnone =>
    obtain rfl := Except.ok.inj (hheld.symm.trans hread)
    exact ⟨hnone, rfl⟩

/-- A file that holds a text cannot be edited only if no other text can be worked out. -/
theorem FileSystem.CannotEdit.of_file {fs : FileSystem} {place : Location} {old : String} {failure : Failure}
    (hcannot : fs.CannotEdit file edit text failure)
    (hleads : fs.resolve file .file = .ok (.entry place (.file old.toUTF8))) : edit old.toList = .error failure := by
  have htarget := resolve_target hleads (by simp)
  cases hcannot with
  | unread hcannotRead =>
    have hnone := (hcannotRead.of_file htarget).1
    rw [Text.fromUTF8?_toUTF8] at hnone
    cases hnone
  | @unedited held _ hread hworked =>
    obtain rfl : old = held := String.toByteArray_inj.mp (Except.ok.inj ((readBytes_of_file htarget).symm.trans hread))
    exact hworked
  | unwritten _ _ hfault =>
    rw [writeBytes, hleads] at hfault
    cases hfault

/-- **What an edit comes to**: the file is written with what was worked out from its text, or nothing is changed. -/
inductive EditsText (file : Path) (edit : List Char → Except Failure α) (text : α → List Char) (session : Session) :
    Except Failure α × Session → Prop
  /-- It is done. -/
  | edited {old : String} {value files} : session.files.readBytes file = .ok old.toUTF8 →
    edit old.toList = .ok value → session.files.writeBytes file (String.ofList (text value)).toUTF8 = .ok files →
    EditsText file edit text session (.ok value, { session with files })
  /-- It fails. -/
  | refused {failure} : session.files.CannotEdit file edit text failure →
    EditsText file edit text session (.error failure, session)

/-- A text is read, or this is why not. -/
theorem perform_readText_cases (file : Path) (session : Session) :
    (∃ text : String, session.files.readBytes file = .ok text.toUTF8 ∧
        (readText file).perform session = (.ok text, session)) ∨
      ∃ failure, session.files.CannotRead file failure ∧
        (readText file).perform session = (.error failure, session) := by
  cases hrun : (readText file).perform session with
  | mk outcome after =>
    cases outcome with
    | ok text =>
      obtain ⟨rfl, hbytes⟩ := perform_readText_ok hrun
      exact .inl ⟨text, hbytes, rfl⟩
    | error failure =>
      obtain ⟨rfl, ⟨fault, hbytes, rfl⟩ | ⟨bytes, hheld, hnone, rfl⟩⟩ := perform_readText_error hrun
      · exact .inr ⟨_, .refused hbytes, rfl⟩
      · exact .inr ⟨_, .notUtf8 hheld hnone, rfl⟩

/-- **An edit is done, or changes nothing.** -/
theorem editText_edits (file : Path) (edit : List Char → Except Failure α) (text : α → List Char) (session : Session) :
    EditsText file edit text session ((editText file edit text).perform session) := by
  rw [editText]
  rcases perform_readText_cases file session with ⟨old, hbytes, hread⟩ | ⟨failure, hcannot, hread⟩
  case inr =>
    rw [perform_bind_of_error hread]
    exact .refused (.unread hcannot)
  rw [perform_bind_of_ok hread]
  cases hworked : edit old.toList with
  | error failure =>
    rw [perform_bind_of_error (perform_lift _ _)]
    exact .refused (.unedited hbytes hworked)
  | ok value =>
    rw [perform_bind_of_ok (perform_lift _ _)]
    have hwrite := perform_writeText file (String.ofList (text value)) session
    cases hdone : session.files.writeBytes file (String.ofList (text value)).toUTF8 with
    | error fault =>
      rw [hdone] at hwrite
      rw [perform_bind_of_error hwrite]
      exact .refused (.unwritten hbytes hworked hdone)
    | ok files =>
      rw [hdone] at hwrite
      rw [perform_bind_of_ok hwrite]
      exact .edited hbytes hworked hdone

end

/-! ## The two edits -/

section

variable {file baseFolder : Path} {className baseFile startMarker endMarker content : String} {session : Session}

open ComponentScaffold.Action

/-- Filling a region is an edit, which is reported. -/
theorem fillRegion_eq (file : Path) (startMarker endMarker content : String) :
    fillRegion file startMarker endMarker content =
      (do
        let _ ← editText file (replaceRegion · startMarker.toList endMarker.toList content.toList) id
        report .info "namespace rewritten" [("file", file.text), ("value", content)]) := by
  simp [fillRegion, editText]

/-- **What filling a region of a file comes to**: all of it, or nothing. -/
inductive FillsWhole (file : Path) (startMarker endMarker content : String) (session : Session) :
    Except Failure Unit × Session → Prop
  /-- The region is filled, and that is reported once. -/
  | filled {old new : String} {files place entry} : session.files.writeBytes file new.toUTF8 = .ok files →
    FileSystem.ChangesFile file old.toUTF8 new.toUTF8 session.files files place entry →
    replaceRegion old.toList startMarker.toList endMarker.toList content.toList = .ok new.toList →
    FillsWhole file startMarker endMarker content session (.ok (), { session with
      files := files,
      records := session.records ++ [⟨.info, "namespace rewritten", [("file", file.text), ("value", content)]⟩] })
  /-- Nothing is changed, and nothing is reported. -/
  | refused {failure} :
    session.files.CannotEdit file (replaceRegion · startMarker.toList endMarker.toList content.toList) id failure →
    FillsWhole file startMarker endMarker content session (.error failure, session)

/-- **A region is filled as a whole, or not at all.** -/
theorem fillRegion_whole (file : Path) (startMarker endMarker content : String) (session : Session) :
    FillsWhole file startMarker endMarker content session
      ((fillRegion file startMarker endMarker content).perform session) := by
  have hedits := editText_edits file (replaceRegion · startMarker.toList endMarker.toList content.toList) id session
  rw [fillRegion_eq]
  generalize hrun : (editText file (replaceRegion · startMarker.toList endMarker.toList content.toList) id).perform
    session = outcome at hedits
  cases hedits with
  | edited hread hfilled hwrite =>
    rw [perform_bind_of_ok hrun]
    obtain ⟨place, entry, hchanges⟩ := FileSystem.exists_changesFile hread hwrite
    exact .filled hwrite hchanges (by rw [String.toList_ofList]; exact hfilled)
  | refused hcannot =>
    rw [perform_bind_of_error hrun]
    exact .refused hcannot

/-- The class in a text is given what the text of a file says of the base class. -/
def inheritBy (className : String) (basePath : Path) (base : String) (text : List Char) : Except Failure EditedSource :=
  inheritFrom text className.toList (BaseClass.ofText basePath base.toList).name
    (BaseClass.ofText basePath base.toList).namespaceName

/-- Giving a class a base class is an edit by what the file of the base class says, which is reported. -/
theorem injectBaseClass_eq (file : Path) (className : String) (baseFolder : Path) (baseFile : String) :
    injectBaseClass file className baseFolder baseFile =
      (do
        if !(← files).isFile (baseFolder.child baseFile) then
          report .debug "no base class file, skipping inheritance" [("expected", (baseFolder.child baseFile).text)]
          return .noBaseClass
        let base ← readText (baseFolder.child baseFile)
        let edited ← editText file (inheritBy className (baseFolder.child baseFile) base) (·.text)
        let name := String.ofList (BaseClass.ofText (baseFolder.child baseFile) base.toList).name
        let imported := edited.imported.map String.ofList
        report .info "base class injected"
          [("file", file.text), ("class", className), ("base", name), ("import", imported.getD "")]
        return .inherits name imported) := by
  simp [injectBaseClass, editText, inheritBy]

/-- **Why a class in a file cannot be given the base class** of another file. -/
inductive FileSystem.CannotInject (fs : FileSystem) (file : Path) (className : String) (basePath : Path) :
    Failure → Prop
  /-- The file of the base class cannot be read. -/
  | unread {failure} : fs.CannotRead basePath failure → CannotInject fs file className basePath failure
  /-- The file of the class cannot be edited by what it says. -/
  | unedited {base : String} {failure} : fs.readBytes basePath = .ok base.toUTF8 →
    fs.CannotEdit file (inheritBy className basePath base) (·.text) failure →
    CannotInject fs file className basePath failure

/-- **What giving a class a base class comes to**: nothing to do, all of it, or nothing. -/
inductive InheritsWhole (file : Path) (className : String) (basePath : Path) (session : Session) :
    Except Failure Inheritance × Session → Prop
  /-- No file of a base class is there: nothing is changed. -/
  | skipped : ¬session.files.LeadsToFile basePath →
    InheritsWhole file className basePath session (.ok .noBaseClass, { session with
      records := session.records ++
        [⟨.debug, "no base class file, skipping inheritance", [("expected", basePath.text)]⟩] })
  /-- The class inherits, and that is reported once. -/
  | inherited {base old : String} {edited files place entry} : session.files.LeadsToFile basePath →
    session.files.readBytes basePath = .ok base.toUTF8 → inheritBy className basePath base old.toList = .ok edited →
    session.files.writeBytes file (String.ofList edited.text).toUTF8 = .ok files →
    FileSystem.ChangesFile file old.toUTF8 (String.ofList edited.text).toUTF8 session.files files place entry →
    InheritsWhole file className basePath session
      (.ok (.inherits (String.ofList (BaseClass.ofText basePath base.toList).name) (edited.imported.map String.ofList)),
        { session with
          files := files,
          records := session.records ++ [⟨.info, "base class injected",
            [("file", file.text), ("class", className),
              ("base", String.ofList (BaseClass.ofText basePath base.toList).name),
              ("import", (edited.imported.map String.ofList).getD "")]⟩] })
  /-- Nothing is changed, and nothing is reported. -/
  | refused {failure} : session.files.LeadsToFile basePath →
    session.files.CannotInject file className basePath failure →
    InheritsWhole file className basePath session (.error failure, session)

/-- **A class is given a base class as a whole, or not at all.** -/
theorem injectBaseClass_whole (file : Path) (className : String) (baseFolder : Path) (baseFile : String)
    (session : Session) :
    InheritsWhole file className (baseFolder.child baseFile) session
      ((injectBaseClass file className baseFolder baseFile).perform session) := by
  rw [injectBaseClass_eq, perform_bind_of_ok (perform_files session)]
  by_cases hregular : session.files.LeadsToFile (baseFolder.child baseFile)
  case neg =>
    have habsent : (!session.files.isFile (baseFolder.child baseFile)) = true := by
      rw [Bool.not_eq_true', Bool.eq_false_iff, Ne, FileSystem.isFile_iff]
      exact hregular
    simp only [habsent, if_true]
    exact .skipped hregular
  have hthere : (!session.files.isFile (baseFolder.child baseFile)) = false := by
    simpa [FileSystem.isFile_iff] using hregular
  simp only [hthere, Bool.false_eq_true, if_false]
  rcases perform_readText_cases (baseFolder.child baseFile) session with
    ⟨base, hbytes, hread⟩ | ⟨failure, hcannot, hread⟩
  case inr =>
    rw [perform_bind_of_error hread]
    exact .refused hregular (.unread hcannot)
  rw [perform_bind_of_ok hread]
  -- the base class has been read by now, so it does not matter whether the two files are one
  have hedits := editText_edits file (inheritBy className (baseFolder.child baseFile) base) (·.text) session
  generalize hrun : (editText file (inheritBy className (baseFolder.child baseFile) base) (·.text)).perform session =
    outcome at hedits
  cases hedits with
  | edited hreadOld hworked hwrite =>
    rw [perform_bind_of_ok hrun]
    obtain ⟨place, entry, hchanges⟩ := FileSystem.exists_changesFile hreadOld hwrite
    exact .inherited hregular hbytes hworked hwrite hchanges
  | refused hcannot =>
    rw [perform_bind_of_error hrun]
    exact .refused hregular (.unedited hbytes hcannot)

/-- Where no file of a base class is there, a class is given none, whatever its own file holds. -/
theorem injectBaseClass_of_not_leadsToFile (habsent : ¬session.files.LeadsToFile (baseFolder.child baseFile)) :
    (injectBaseClass file className baseFolder baseFile).perform session = (.ok .noBaseClass, { session with
      records := session.records ++ [⟨.debug, "no base class file, skipping inheritance",
        [("expected", (baseFolder.child baseFile).text)]⟩] }) := by
  have hwhole := injectBaseClass_whole file className baseFolder baseFile session
  generalize (injectBaseClass file className baseFolder baseFile).perform session = outcome at hwhole ⊢
  cases hwhole with
  | skipped => rfl
  | inherited hthere | refused hthere => exact absurd hthere habsent

/-- **Edits of whole files are all or nothing.** Whatever the file system holds, and whichever paths and texts are
given: a region of a file is filled, or a class in a file is given a base class, by writing to that one file the text
worked out from the text that was read, and by one report of it; or this fails, for one of the causes that are listed,
and nothing is changed or reported. A class is given no base class exactly if none has a regular file, and then neither
the file of the class nor its name makes a difference. -/
theorem edits_whole (session : Session) (file : Path) :
    (∀ startMarker endMarker content, FillsWhole file startMarker endMarker content session
      ((fillRegion file startMarker endMarker content).perform session)) ∧
    ∀ className baseFolder baseFile,
      InheritsWhole file className (baseFolder.child baseFile) session
        ((injectBaseClass file className baseFolder baseFile).perform session) ∧
      (((injectBaseClass file className baseFolder baseFile).perform session).1 = .ok .noBaseClass ↔
        ¬session.files.LeadsToFile (baseFolder.child baseFile)) ∧
      (¬session.files.LeadsToFile (baseFolder.child baseFile) → ∀ other otherName,
        (injectBaseClass other otherName baseFolder baseFile).perform session =
          (injectBaseClass file className baseFolder baseFile).perform session) := by
  refine ⟨fun _ _ _ => fillRegion_whole .., fun className baseFolder baseFile => ?_⟩
  have hwhole := injectBaseClass_whole file className baseFolder baseFile session
  refine ⟨hwhole, ⟨fun hnone => ?_, fun habsent => ?_⟩, fun habsent other otherName => ?_⟩
  · generalize (injectBaseClass file className baseFolder baseFile).perform session = outcome at hwhole hnone
    cases hwhole with
    | skipped habsent => exact habsent
    | inherited | refused => cases hnone
  · rw [injectBaseClass_of_not_leadsToFile habsent]
  · rw [injectBaseClass_of_not_leadsToFile habsent, injectBaseClass_of_not_leadsToFile habsent]

end

end ComponentScaffold
