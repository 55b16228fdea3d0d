import ComponentScaffold.Proofs.Source.Edit
import ComponentScaffold.Scaffold.Run

/-! # What writing namespaces changes

The namespaces are written into the generated files one after the other. Files that share nothing with
each other and with nothing else are changed between the markers, and nothing else is changed.

* **`FileSystem.StandsAlone`** — a regular file that has no other place.
* **`setNamespaces_updated`** — the files that are reported.
* **`setNamespaces_effect`** — what becomes of every place. -/

namespace ComponentScaffold

open ComponentScaffold.Action

/-- **A path names a regular file** that is at no other place. -/
structure FileSystem.StandsAlone (fs : FileSystem) (p : Path) (place : Location) : Prop where
  /-- The path names the file, and not through a link at its end. -/
  leads : ∃ bytes, fs.resolve p .name = .ok (.entry place (.file bytes))
  /-- No other place has its node. -/
  alone : ∀ other, fs.numberAt other = fs.numberAt place → other = place

/-- **A text with the namespace** that belongs to a token written between its markers. -/
def NamespaceToken.Fills (token : NamespaceToken) (namespaces : NamespacePair) (old new : String) : Prop :=
  FillsRegion token.startMarker.toList token.endMarker.toList (token.select namespaces).toList old.toList
    new.toList

/-! ## Generated files -/

/-- Names hold no slashes and no dots. -/
theorem not_isNamePart : ¬isNamePart '/' = true ∧ ¬isNamePart '.' = true :=
  ⟨by decide +kernel, by decide +kernel⟩

/-- The name of a component stands between slashes. -/
theorem isStep_of_isComponentName {name : String} (h : isComponentName name = true) :
    Path.IsStep name := by
  constructor
  · rintro rfl
    simp [isComponentName] at h
  · intro hslash
    exact absurd (isNamePart_of_mem h hslash) not_isNamePart.1

/-- So does every name that starts with it and goes on without a slash. -/
theorem isStep_append {name rest : String} (h : Path.IsStep name) (hrest : '/' ∉ rest.toList) :
    Path.IsStep (name ++ rest) :=
  ⟨by simp [h.ne_empty], by simp [h.no_slash, hrest]⟩

/-- The generated files lie right in the folder of a component. -/
theorem isStep_of_mem_generatedFiles {kind : ComponentKind} {name : String} {file : GeneratedFile}
    (hname : isComponentName name = true) (hfile : file ∈ kind.generatedFiles name) :
    Path.IsStep file.fileName := by
  have hend (ending : String) (hslash : '/' ∉ ending.toList) : Path.IsStep (name ++ ending) :=
    isStep_append (isStep_of_isComponentName hname) hslash
  cases kind <;> simp only [ComponentKind.generatedFiles, List.mem_cons, List.not_mem_nil, or_false] at hfile
  case window | userControl | templatedControl =>
    rcases hfile with rfl | rfl <;> exact hend _ (by decide)
  case styles | resource =>
    subst hfile
    exact hend _ (by decide)

/-! ## One file -/

/-- A file stands alone if its node is kept for no other place. -/
theorem FileSystem.StandsAlone.of_places {fs : FileSystem} {p : Path} {place : Location} {bytes : ByteArray}
    {number : Nat} (hresolve : fs.resolve p .name = .ok (.entry place (.file bytes)))
    (hnumber : fs.numberAt place = some number) (hroot : number ≠ FileSystem.rootNumber)
    (h : ∀ held ∈ fs.places, held.2 = number → held.1 = place) : fs.StandsAlone p place := by
  refine ⟨⟨bytes, hresolve⟩, fun other hother => ?_⟩
  rw [hnumber] at hother
  by_cases hnil : other = []
  · subst hnil
    exact absurd (Option.some.inj hother).symm hroot
  · rw [FileSystem.numberAt_of_ne_nil _ hnil] at hother
    exact h _ (FileSystem.mem_places_of_lookup hother) rfl

/-! ## All files -/

/-- **One file at a time**: one that holds no namespace is left, and one that holds one gets it before the rest. -/
theorem setNamespaces_cons_ok {folder : Path} {namespaces : NamespacePair} {file : GeneratedFile}
    {rest : List GeneratedFile} {session after : Session} {updated : List Path}
    (h : (setNamespaces folder namespaces (file :: rest)).perform session = (.ok updated, after)) :
    (file.token = none ∧ ∃ reported : Session, reported.files = session.files ∧
      (setNamespaces folder namespaces rest).perform reported = (.ok updated, after)) ∨
    ∃ token filled others, file.token = some token ∧
      (fillRegion (folder.child file.fileName) token.startMarker token.endMarker
        (token.select namespaces)).perform session = (.ok (), filled) ∧
      (setNamespaces folder namespaces rest).perform filled = (.ok others, after) ∧
      updated = folder.child file.fileName :: others := by
  rw [setNamespaces] at h
  split at h
  case h_1 hnone =>
    obtain ⟨_, reported, hreport, hrest⟩ := perform_bind_ok h
    rw [perform_report] at hreport
    exact .inl ⟨hnone, reported, (Prod.mk.inj hreport).2 ▸ rfl, hrest⟩
  case h_2 token hsome =>
    obtain ⟨_, filled, hfill, hrest⟩ := perform_bind_ok h
    obtain ⟨others, done, hothers, hdone⟩ := perform_bind_ok hrest
    obtain ⟨hupdated, rfl⟩ := Prod.mk.inj hdone
    exact .inr ⟨token, filled, others, hsome, hfill, hothers, (Except.ok.inj hupdated).symm⟩

/-- The files that hold a namespace are reported, in their order. -/
theorem setNamespaces_updated {folder : Path} {namespaces : NamespacePair} {files : List GeneratedFile}
    {session after : Session} {updated : List Path}
    (h : (setNamespaces folder namespaces files).perform session = (.ok updated, after)) :
    updated = (files.filter (·.token.isSome)).map fun file => folder.child file.fileName := by
  induction files generalizing session after updated with
  | nil => exact (Except.ok.inj (Prod.mk.inj h).1).symm
  | cons file rest ih =>
    rcases setNamespaces_cons_ok h with ⟨hnone, reported, -, hrest⟩ |
      ⟨token, filled, others, hsome, -, hothers, rfl⟩
    · rw [List.filter_cons_of_neg (by simp [hnone])]
      exact ih hrest
    · rw [List.filter_cons_of_pos (by simp [hsome]), List.map_cons, ← ih hothers]

/-- Writing namespaces keeps a file system well-formed. -/
theorem setNamespaces_moves {folder : Path} (habs : folder.isAbsolute = true)
    (namespaces : NamespacePair) (files : List GeneratedFile) :
    Moves FileSystem.KeepsForm (setNamespaces folder namespaces files) := by
  induction files with
  | nil => exact (Computes.pure _).moves
  | cons file rest ih =>
    rw [setNamespaces]
    split
    case h_1 => exact (Computes.report _ _ _).moves.bind fun _ => ih
    case h_2 token _ =>
      have hfill : Moves FileSystem.KeepsForm (fillRegion (folder.child file.fileName) token.startMarker
          token.endMarker (token.select namespaces)) :=
        (fillRegion_moves _ _ _ _).mono fun _ _ hwrites hfs =>
          (hwrites.wellFormed_growsTo hfs (Path.isAbsolute_child habs _)).1
      exact hfill.bind fun _ => ih.bind fun _ => (Computes.pure _).moves

/-- Writing namespaces does not look at what was reported. -/
theorem setNamespaces_ignoresRecords (folder : Path) (namespaces : NamespacePair)
    (files : List GeneratedFile) : IgnoresRecords (setNamespaces folder namespaces files) := by
  induction files with
  | nil => exact (Computes.pure _).ignoresRecords
  | cons file rest ih =>
    rw [setNamespaces]
    split
    case h_1 => exact (Computes.report _ _ _).ignoresRecords.bind fun _ => ih
    case h_2 =>
      refine (fillRegion_ignoresRecords _ _ _ _).bind fun _ => ih.bind fun _ => ?_
      exact (Computes.pure _).ignoresRecords

/-- **Generated files that are distinct**: those that are there are regular files, and no two are one file. -/
structure FileSystem.Distinct (fs : FileSystem) (folder : Path) (files : List GeneratedFile) : Prop where
  /-- What is there is a regular file. -/
  regular : ∀ file ∈ files, ∀ place entry,
    fs.resolve (folder.child file.fileName) .name = .ok (.entry place entry) → ∃ bytes, entry = .file bytes
  /-- No two have one node. -/
  apart : files.Pairwise fun file other => ∀ place entry place' entry',
    fs.resolve (folder.child file.fileName) .name = .ok (.entry place entry) →
      fs.resolve (folder.child other.fileName) .name = .ok (.entry place' entry') →
        fs.numberAt place ≠ fs.numberAt place'

/-- Files that are there are distinct if they are regular files of different nodes. -/
theorem FileSystem.Distinct.of_places {fs : FileSystem} {folder : Path} {files : List GeneratedFile}
    {place : GeneratedFile → Location}
    (hplace : ∀ file ∈ files, ∃ bytes,
      fs.resolve (folder.child file.fileName) .name = .ok (.entry (place file) (.file bytes)))
    (hnumber : files.Pairwise fun file other => fs.numberAt (place file) ≠ fs.numberAt (place other)) :
    fs.Distinct folder files := by
  have hat {file : GeneratedFile} (hfile : file ∈ files) {found : Location} {entry : Entry}
      (hfound : fs.resolve (folder.child file.fileName) .name = .ok (.entry found entry)) :
      found = place file ∧ ∃ bytes, entry = .file bytes := by
    obtain ⟨bytes, hbytes⟩ := hplace file hfile
    rw [hbytes, Except.ok.injEq, Destination.entry.injEq] at hfound
    exact ⟨hfound.1.symm, bytes, hfound.2.symm⟩
  refine ⟨fun file hfile found entry hfound => (hat hfile hfound).2, ?_⟩
  refine List.Pairwise.imp_of_mem ?_ hnumber
  intro file other hfile hother hne found entry found' entry' hfound hfound'
  rw [(hat hfile hfound).1, (hat hother hfound').1]
  exact hne

/-- **What writing namespaces changes**: each file that holds one has it between its markers, and nothing else
is changed. -/
structure FileSystem.GetsNamespaces (before : FileSystem) (folder : Path) (namespaces : NamespacePair)
    (files : List GeneratedFile) (after : FileSystem) : Prop where
  /-- The files that hold a namespace have it. -/
  filled : ∀ file ∈ files, ∀ token, file.token = some token → ∃ place, ∃ old new : String,
    before.resolve (folder.child file.fileName) .name = .ok (.entry place (.file old.toUTF8)) ∧
      token.Fills namespaces old new ∧ after.lookup place = some (.file new.toUTF8)
  /-- What has no node in common with them is what it was. -/
  kept : ∀ other, (∀ file ∈ files, file.token ≠ none → ∀ place entry,
    before.resolve (folder.child file.fileName) .name = .ok (.entry place entry) →
      before.numberAt other ≠ before.numberAt place) → after.lookup other = before.lookup other

/-- **A region that is filled** in what has to be a regular file. -/
theorem fillRegion_of_regular {file : Path} {startMarker endMarker content : String} {session after : Session}
    (habs : file.isAbsolute = true) (hslashed : file.isSlashed = false)
    (hregular : ∀ place entry, session.files.resolve file .name = .ok (.entry place entry) →
      ∃ bytes, entry = .file bytes)
    (h : (fillRegion file startMarker endMarker content).perform session = (.ok (), after)) :
    ∃ place, ∃ old new : String,
      session.files.resolve file .name = .ok (.entry place (.file old.toUTF8)) ∧
        FillsRegion startMarker.toList endMarker.toList content.toList old.toList new.toList ∧
        after.files = session.files.rewrite place (.file new.toUTF8) := by
  obtain ⟨old, new, hold, hfills, hnew, -⟩ := perform_fillRegion_ok h
  obtain ⟨found, held, hfound⟩ : ∃ found held, session.files.resolve file .target = .ok (.entry found held) := by
    unfold FileSystem.readBytes at hold
    split at hold
    case h_1 found held hfound => exact ⟨found, held, hfound⟩
    all_goals cases hold
  obtain ⟨place, entry, hname⟩ := FileSystem.exists_resolve_name hfound
  obtain ⟨bytes, rfl⟩ := hregular place entry hname
  have hall (purpose : Purpose) : session.files.resolve file purpose = .ok (.entry place (.file bytes)) :=
    FileSystem.resolve_of_name habs hslashed hname
  rw [FileSystem.readBytes, hall] at hold
  rw [FileSystem.writeBytes, hall] at hnew
  obtain rfl : bytes = old.toUTF8 := Except.ok.inj hold
  exact ⟨place, old, new, hname, hfills, (Except.ok.inj hnew).symm⟩

/-- Where a file has got other bytes, every path names what it named. -/
theorem FileSystem.exists_alike_of_rewrite {fs : FileSystem} {p : Path} {place other : Location}
    {old new : ByteArray} {entry : Entry} (hplace : fs.lookup place = some (.file old))
    (hfs : (fs.rewrite place (.file new)).WellFormed) (habs : p.isAbsolute = true)
    (h : (fs.rewrite place (.file new)).resolve p .name = .ok (.entry other entry)) :
    ∃ entry', fs.resolve p .name = .ok (.entry other entry') ∧ entry.Alike entry' := by
  have hgrows := rewrite_growsTo (ne_nil_of_lookup hplace (by simp)) hplace (.file old new)
  obtain ⟨hother⟩ := resolve_holds hfs habs h
  obtain ⟨entry', hentry', halike⟩ := hgrows hother
  exact ⟨entry', resolve_grows hgrows habs h (.entry hentry' halike), halike⟩

/-- Distinct files stay distinct where one of them, or another one, has got other bytes. -/
theorem FileSystem.Distinct.rewrite {fs : FileSystem} {folder : Path} {files : List GeneratedFile}
    (h : fs.Distinct folder files) (habs : folder.isAbsolute = true) {place : Location} {old new : ByteArray}
    (hplace : fs.lookup place = some (.file old)) (hfs : (fs.rewrite place (.file new)).WellFormed) :
    (fs.rewrite place (.file new)).Distinct folder files := by
  have hback (file : GeneratedFile) {other : Location} {entry : Entry} :=
    @exists_alike_of_rewrite fs (folder.child file.fileName) place other old new entry hplace hfs
      (Path.isAbsolute_child habs _)
  constructor
  · intro file hfile other entry hresolve
    obtain ⟨entry', hresolve', halike⟩ := hback file hresolve
    obtain ⟨bytes, rfl⟩ := h.regular file hfile _ _ hresolve'
    exact halike.symm.eq_file
  · refine h.apart.imp fun hapart other entry other' entry' hresolve hresolve' => ?_
    obtain ⟨held, hheld, -⟩ := hback _ hresolve
    obtain ⟨held', hheld', -⟩ := hback _ hresolve'
    simpa using hapart _ _ _ _ hheld hheld'

/-- Distinct files are distinct without the first one. -/
theorem FileSystem.Distinct.tail {fs : FileSystem} {folder : Path} {file : GeneratedFile} {rest : List GeneratedFile}
    (h : fs.Distinct folder (file :: rest)) : fs.Distinct folder rest :=
  ⟨fun other hother => h.regular other (List.mem_cons_of_mem _ hother), (List.pairwise_cons.1 h.apart).2⟩

namespace FileSystem.GetsNamespaces

variable {fs after : FileSystem} {folder : Path} {namespaces : NamespacePair} {file : GeneratedFile}
  {rest : List GeneratedFile}

/-- A file that holds no namespace is left. -/
theorem cons_of_none (hnone : file.token = none) (h : fs.GetsNamespaces folder namespaces rest after) :
    fs.GetsNamespaces folder namespaces (file :: rest) after := by
  refine ⟨List.forall_mem_cons.2 ⟨fun token htoken => ?_, h.filled⟩, fun other hother => ?_⟩
  · rw [hnone] at htoken
    cases htoken
  · exact h.kept other (List.forall_mem_cons.1 hother).2

/-- A file that holds a namespace gets it before the rest, which are other files and leave it. -/
theorem cons_of_fills {token : NamespaceToken} {place : Location} {old new : String} (hfs : fs.WellFormed)
    (habs : folder.isAbsolute = true) (hdistinct : fs.Distinct folder (file :: rest))
    (hsome : file.token = some token)
    (hold : fs.resolve (folder.child file.fileName) .name = .ok (.entry place (.file old.toUTF8)))
    (hfills : token.Fills namespaces old new)
    (h : (fs.rewrite place (.file new.toUTF8)).GetsNamespaces folder namespaces rest after) :
    fs.GetsNamespaces folder namespaces (file :: rest) after := by
  have habsChild (file : GeneratedFile) := Path.isAbsolute_child habs file.fileName
  obtain ⟨hplace⟩ := resolve_holds hfs (habsChild file) hold
  have hne := ne_nil_of_lookup hplace (by simp)
  have hwf := hfs.rewrite hne hplace (.file _ new.toUTF8)
  have hapart := (List.pairwise_cons.1 hdistinct.apart).1
  -- what a path of the rest names now, it named before
  have hback {other : GeneratedFile} {found : Location} {entry : Entry}
      (hfound : (fs.rewrite place (.file new.toUTF8)).resolve (folder.child other.fileName) .name =
        .ok (.entry found entry)) :
      ∃ entry', fs.resolve (folder.child other.fileName) .name = .ok (.entry found entry') :=
    (exists_alike_of_rewrite hplace hwf (habsChild other) hfound).imp fun _ => And.left
  refine ⟨List.forall_mem_cons.2 ⟨fun token' htoken => ?_, fun other hother token' htoken => ?_⟩,
    fun other hother => ?_⟩
  · obtain rfl := Option.some.inj (hsome.symm.trans htoken)
    refine ⟨place, old, new, hold, hfills, ?_⟩
    rw [h.kept place fun other hother _ found entry hfound => ?_, lookup_rewrite_self hne hplace]
    obtain ⟨entry', hfound'⟩ := hback hfound
    simpa only [numberAt_rewrite] using hapart other hother _ _ _ _ hold hfound'
  · obtain ⟨found, oldOther, newOther, holdOther, hfillsOther, hnewOther⟩ := h.filled other hother token' htoken
    obtain ⟨entry', hfound⟩ := hback holdOther
    obtain ⟨bytes, rfl⟩ := hdistinct.regular other (List.mem_cons_of_mem _ hother) _ _ hfound
    obtain ⟨hbefore⟩ := resolve_holds hfs (habsChild other) hfound
    obtain ⟨hafter⟩ := resolve_holds hwf (habsChild other) holdOther
    rw [lookup_rewrite_of_ne hne hplace (hapart other hother _ _ _ _ hold hfound).symm, hbefore] at hafter
    exact ⟨found, oldOther, newOther, Option.some.inj hafter ▸ hfound, hfillsOther, hnewOther⟩
  · rw [List.forall_mem_cons] at hother
    rw [h.kept other fun file' hfile' htoken found entry hfound => ?_,
      lookup_rewrite_of_ne hne hplace (hother.1 (by simp [hsome]) _ _ hold)]
    obtain ⟨entry', hfound'⟩ := hback hfound
    simpa only [numberAt_rewrite] using hother.2 file' hfile' htoken _ _ hfound'

end FileSystem.GetsNamespaces

/-- **What becomes of distinct files**: those that hold a namespace get it, and nothing else is changed. -/
theorem setNamespaces_getsNamespaces {folder : Path} {namespaces : NamespacePair} {files : List GeneratedFile}
    {session after : Session} {updated : List Path} (hfs : session.files.WellFormed)
    (habs : folder.isAbsolute = true) (hstep : ∀ file ∈ files, Path.IsStep file.fileName)
    (hdistinct : session.files.Distinct folder files)
    (h : (setNamespaces folder namespaces files).perform session = (.ok updated, after)) :
    session.files.GetsNamespaces folder namespaces files after.files := by
  induction files generalizing session updated with
  | nil =>
    obtain ⟨-, rfl⟩ := Prod.mk.inj h
    exact ⟨by simp, fun _ _ => rfl⟩
  | cons file rest ih =>
    rw [List.forall_mem_cons] at hstep
    rcases setNamespaces_cons_ok h with ⟨hnone, reported, hsame, hrest⟩ |
      ⟨token, filled, others, hsome, hfill, hothers, -⟩
    · rw [← hsame] at hfs hdistinct ⊢
      exact .cons_of_none hnone (ih hfs hstep.2 hdistinct.tail hrest)
    · have habsChild := Path.isAbsolute_child habs file.fileName
      obtain ⟨place, old, new, hold, hfills, hfiles⟩ := fillRegion_of_regular habsChild
        (Path.isSlashed_child hstep.1) (hdistinct.regular file List.mem_cons_self) hfill
      obtain ⟨hplace⟩ := FileSystem.resolve_holds hfs habsChild hold
      have hwf : filled.files.WellFormed :=
        hfiles ▸ hfs.rewrite (FileSystem.ne_nil_of_lookup hplace (by simp)) hplace (.file _ _)
      have hrest : filled.files.Distinct folder rest :=
        hfiles ▸ hdistinct.tail.rewrite habs hplace (hfiles ▸ hwf)
      exact .cons_of_fills hfs habs hdistinct hsome hold hfills (hfiles ▸ ih hwf hstep.2 hrest hothers)

/-- **What becomes of every place** where the files share nothing: a file that holds a namespace is changed
there, and everything else keeps what it was. -/
theorem setNamespaces_effect {folder : Path} {namespaces : NamespacePair} {files : List GeneratedFile}
    {session after : Session} {updated : List Path} {place : GeneratedFile → Location}
    (hfs : session.files.WellFormed) (habs : folder.isAbsolute = true)
    (hstep : ∀ file ∈ files, Path.IsStep file.fileName)
    (halone : ∀ file ∈ files, session.files.StandsAlone (folder.child file.fileName) (place file))
    (hdistinct : files.Pairwise fun file other => place file ≠ place other)
    (h : (setNamespaces folder namespaces files).perform session = (.ok updated, after)) :
    (∀ file ∈ files, ∀ token, file.token = some token →
      ∃ old new : String, session.files.lookup (place file) = some (.file old.toUTF8) ∧
        after.files.lookup (place file) = some (.file new.toUTF8) ∧ token.Fills namespaces old new) ∧
    ∀ other, (∀ file ∈ files, file.token ≠ none → other ≠ place file) →
      after.files.lookup other = session.files.lookup other := by
  have hfiles : session.files.Distinct folder files :=
    .of_places (fun file hfile => (halone file hfile).leads) (List.Pairwise.imp_of_mem
      (fun _ hother hne hnumber => hne ((halone _ hother).alone _ hnumber)) hdistinct)
  have hat {file : GeneratedFile} (hfile : file ∈ files) {found : Location} {entry : Entry}
      (hfound : session.files.resolve (folder.child file.fileName) .name = .ok (.entry found entry)) :
      found = place file := by
    obtain ⟨bytes, hbytes⟩ := (halone file hfile).leads
    rw [hbytes, Except.ok.injEq, Destination.entry.injEq] at hfound
    exact hfound.1.symm
  obtain ⟨hfilled, hkept⟩ := setNamespaces_getsNamespaces hfs habs hstep hfiles h
  refine ⟨fun file hfile token htoken => ?_, fun other hother => hkept other ?_⟩
  · obtain ⟨found, old, new, hold, hfills, hnew⟩ := hfilled file hfile token htoken
    obtain rfl := hat hfile hold
    obtain ⟨hplace⟩ := FileSystem.resolve_holds hfs (Path.isAbsolute_child habs _) hold
    exact ⟨old, new, hplace, hnew, hfills⟩
  · intro file hfile htoken found entry hfound hnumber
    obtain rfl := hat hfile hfound
    exact hother file hfile htoken ((halone file hfile).alone other hnumber)

end ComponentScaffold
