import ComponentScaffold.Proofs.Scaffold.Effect

/-! # What a failure leaves behind

Scaffolding that fails has done what a successful one does first, and nothing else: nothing at all, or
directories on the way to the folder of the component, or these and what the generator did, or this and the
namespaces of the files before the one that could not be given its own.

* **`Scaffolder.Residue`** — the ways to fail, each with what is left behind.
* **`Scaffolder.scaffold_failed`** — there is no other. -/

namespace ComponentScaffold

open ComponentScaffold.Action

/-! ## Directories on the way -/

/-- **Only directories on the way** to a path come to be there. -/
structure FileSystem.GainsWay (before : FileSystem) (p : Path) (after : FileSystem) : Prop
    extends before.GainsFolders after where
  /-- What is new is a directory that a path on the way leads to. -/
  onWay : ∀ place entry, after.lookup place = some entry → before.lookup place = none →
    ∃ above : Path, above.OnWayTo p ∧ after.resolve above .target = .ok (.entry place .directory)

/-- Making a directory makes those on the way to it, also where it is not made itself. -/
theorem FileSystem.makeDirectories_gainsWay {fs : FileSystem} {p : Path} (hfs : fs.WellFormed)
    (habs : p.isAbsolute = true) : fs.GainsWay p (fs.makeDirectories p).1 where
  toGainsFolders := (makeDirectories_makes hfs habs).gainsFolders
  onWay _ _ := (makeDirectories_makes hfs habs).exists_onWayTo habs

/-! ## The files before the one that fails -/

/-- **Where a namespace cannot be written**, those of the files before it were, and it is the region of its
file that cannot be filled. -/
theorem setNamespaces_error {folder : Path} {namespaces : NamespacePair} {files : List GeneratedFile}
    {session after : Session} {failure : Failure}
    (h : (setNamespaces folder namespaces files).perform session = (.error failure, after)) :
    ∃ filled failed later token updated, files = filled ++ failed :: later ∧ failed.token = some token ∧
      (setNamespaces folder namespaces filled).perform session = (.ok updated, after) ∧
      after.files.CannotFill (folder.child failed.fileName) token.startMarker token.endMarker
        (token.select namespaces) failure := by
  -- a file that is passed goes in front of those that are filled before the failure
  induction files generalizing session with
  | nil => cases (Prod.mk.inj h).1
  | cons file rest ih =>
    rw [setNamespaces] at h
    split at h
    case h_1 hnone =>
      rcases perform_bind_error h with hreport | ⟨_, reported, hreport, hrest⟩
      · cases (Prod.mk.inj hreport).1
      obtain ⟨filled, failed, later, token, updated, rfl, htoken, hfilled, hcannot⟩ := ih hrest
      refine ⟨file :: filled, failed, later, token, updated, rfl, htoken, ?_, hcannot⟩
      rw [setNamespaces, hnone]
      exact (perform_bind_of_ok hreport _).trans hfilled
    case h_2 token hsome =>
      rcases perform_bind_error h with hfill | ⟨_, between, hfill, hrest⟩
      · obtain ⟨rfl, hcannot⟩ := perform_fillRegion_error hfill
        exact ⟨[], file, rest, token, [], rfl, hsome, rfl, hcannot⟩
      rcases perform_bind_error hrest with hothers | ⟨_, _, -, hdone⟩
      · obtain ⟨filled, failed, later, token', updated, rfl, htoken, hfilled, hcannot⟩ := ih hothers
        refine ⟨file :: filled, failed, later, token', folder.child file.fileName :: updated, rfl, htoken, ?_,
          hcannot⟩
        rw [setNamespaces, hsome]
        exact (perform_bind_of_ok hfill _).trans (perform_bind_of_ok hfilled _)
      · cases (Prod.mk.inj hdone).1

/-- Nothing comes to be where files only get their namespaces. -/
theorem FileSystem.GetsNamespaces.none_of_none {before after : FileSystem} {folder : Path}
    {namespaces : NamespacePair} {files : List GeneratedFile}
    (h : before.GetsNamespaces folder namespaces files after) (hfs : before.WellFormed)
    (habs : folder.isAbsolute = true) (hdistinct : before.Distinct folder files) {place : Location}
    (hnone : before.lookup place = none) : after.lookup place = none := by
  rw [h.kept place fun file hfile _ found entry hfound hnumber => ?_, hnone]
  obtain ⟨bytes, rfl⟩ := hdistinct.regular file hfile _ _ hfound
  obtain ⟨hheld⟩ := resolve_holds hfs (Path.isAbsolute_child habs _) hfound
  have hplace : place ≠ [] := by
    rintro rfl
    simp at hnone
  rw [lookup_eq_of_numberAt_eq (ne_nil_of_lookup hheld (by simp)) hplace hnumber, hheld] at hnone
  cases hnone

/-- The first ones of distinct files are distinct. -/
theorem FileSystem.Distinct.of_append {fs : FileSystem} {folder : Path} {files others : List GeneratedFile}
    (h : fs.Distinct folder (files ++ others)) : fs.Distinct folder files where
  regular file hfile := h.regular file (List.mem_append_left _ hfile)
  apart := (List.pairwise_append.1 h.apart).1

/-- **What is left where the namespaces stop** at a file: those before it have theirs, it and those after it
are as they were, and nothing is new. -/
structure FileSystem.StopsBefore (left : FileSystem) (folder : Path) (namespaces : NamespacePair)
    (filled others : List GeneratedFile) (after : FileSystem) : Prop
    extends left.GetsNamespaces folder namespaces filled after where
  /-- The other files are as they were. -/
  untouched : ∀ file ∈ others, ∀ place entry,
    left.resolve (folder.child file.fileName) .name = .ok (.entry place entry) →
      after.lookup place = left.lookup place
  /-- Nothing is new. -/
  nothingNew : ∀ place, left.lookup place = none → after.lookup place = none

/-- Files that are distinct, of which the first ones got their namespaces. -/
theorem FileSystem.GetsNamespaces.stopsBefore {left after : FileSystem} {folder : Path}
    {namespaces : NamespacePair} {filled others : List GeneratedFile}
    (h : left.GetsNamespaces folder namespaces filled after) (hleft : left.WellFormed)
    (habs : folder.isAbsolute = true) (hdistinct : left.Distinct folder (filled ++ others)) :
    left.StopsBefore folder namespaces filled others after where
  toGetsNamespaces := h
  untouched file hfile place entry hplace := by
    refine h.kept place fun before hbefore _ found entry' hfound => ?_
    exact ((List.pairwise_append.1 hdistinct.apart).2.2 before hbefore file hfile _ _ _ _ hfound hplace).symm
  nothingNew place := h.none_of_none hleft habs hdistinct.of_append

namespace Scaffolder

/-! ## The ways to fail -/

/-- **The ways in which scaffolding fails**, each with what is left behind. -/
inductive Residue (scaffolder : Scaffolder) (request : Request) (before after : Session) (failure : Failure) :
    Prop
  /-- There is no plan, and nothing was done. -/
  | unplanned : scaffolder.planned request before.files = .error failure →
    after.files = before.files → after.invocations = before.invocations →
    Residue scaffolder request before after failure
  /-- The folder could not be made, and the generator was not asked. -/
  | noFolder {plan : Plan} {fault : OsFault} : scaffolder.planned request before.files = .ok plan →
    before.files.makeDirectories plan.target = (after.files, .error fault) →
    failure = .io (.system fault) → before.files.GainsWay plan.target after.files →
    after.invocations = before.invocations →
    Residue scaffolder request before after failure
  /-- The generator failed, and what it did is left. -/
  | notGenerated {plan : Plan} {made : FileSystem} : scaffolder.planned request before.files = .ok plan →
    before.files.makeDirectories plan.target = (made, .ok ()) → before.files.GainsWay plan.target made →
    (scaffolder.generator.perform (invocation request plan) made).outcome = .error failure →
    after.files = scaffolder.generator.leaves (invocation request plan) made →
    after.invocations = before.invocations ++ [invocation request plan] →
    Residue scaffolder request before after failure
  /-- A generated file could not be given its namespace, and was the first such one. -/
  | unfilled {plan : Plan} {made left : FileSystem} {output : GeneratorOutput}
    {filled later : List GeneratedFile} {failed : GeneratedFile} {token : NamespaceToken} :
    scaffolder.planned request before.files = .ok plan →
    before.files.makeDirectories plan.target = (made, .ok ()) → before.files.GainsWay plan.target made →
    (scaffolder.generator.perform (invocation request plan) made).outcome = .ok output →
    left = scaffolder.generator.leaves (invocation request plan) made →
    after.invocations = before.invocations ++ [invocation request plan] →
    request.kind.generatedFiles request.name = filled ++ failed :: later → failed.token = some token →
    after.files.CannotFill (plan.target.child failed.fileName) token.startMarker token.endMarker
      (token.select plan.namespaces) failure →
    (left.Distinct plan.target (request.kind.generatedFiles request.name) →
      left.StopsBefore plan.target plan.namespaces filled (failed :: later) after.files) →
    Residue scaffolder request before after failure

/-- **A plan that could not be carried out** leaves what it came to. -/
theorem residue_of_carryOut {scaffolder : Scaffolder} {request : Request} {plan : Plan} {session after : Session}
    {records : List Record} {failure : Failure} (hfs : session.files.WellFormed)
    (hgenerator : scaffolder.generator.KeepsForm)
    (hplan : scaffolder.planned request session.files = .ok plan)
    (h : (scaffolder.carryOut request plan).perform { session with records := records } =
      (.error failure, after)) : Residue scaffolder request session after failure := by
  obtain ⟨htarget, -, -, -⟩ := isAbsolute_of_planned hfs hplan
  have hway := FileSystem.makeDirectories_gainsWay hfs htarget
  have hmadeForm := (FileSystem.makeDirectories_makes hfs htarget).wellFormed hfs
  cases carriesOut_of_carryOut h with
  | noFolder hmake =>
    rw [hmake] at hway
    exact .noFolder hplan hmake rfl hway rfl
  | notGenerated hgenerates =>
    rw [hgenerates.makes] at hway
    exact .notGenerated hplan hgenerates.makes hway hgenerates.answers hgenerates.leaves hgenerates.asked
  | @unfilled made output left _ _ hgenerates hset =>
    rw [hgenerates.makes] at hway hmadeForm
    have hform : left.files.WellFormed := hgenerates.leaves ▸ (hgenerator _ _ hmadeForm).standing _
    -- the generator has left its files, and only their namespaces stop what follows
    obtain ⟨filled, failed, later, token, updated, hgenerated, htoken, hfilled, hcannot⟩ := setNamespaces_error hset
    have hasked := (setNamespaces_moves htarget plan.namespaces filled left).2
    rw [hfilled] at hasked
    refine .unfilled hplan hgenerates.makes hway hgenerates.answers hgenerates.leaves
      (hasked.trans hgenerates.asked) hgenerated htoken hcannot fun hdistinct => ?_
    rw [hgenerated] at hdistinct
    have hsteps : ∀ file ∈ filled, Path.IsStep file.fileName := fun file hfile =>
      isStep_of_mem_generatedFiles (planned_ok hplan).1 (hgenerated ▸ List.mem_append_left _ hfile)
    exact (setNamespaces_getsNamespaces hform htarget hsteps hdistinct.of_append hfilled).stopsBefore hform htarget
      hdistinct

/-- **What a failure leaves behind**: scaffolding that fails has come to one of these ends. -/
theorem scaffold_failed {scaffolder : Scaffolder} {request : Request} {session after : Session}
    {failure : Failure} (hfs : session.files.WellFormed) (hgenerator : scaffolder.generator.KeepsForm)
    (h : (scaffolder.scaffold request).perform session = (.error failure, after)) :
    Residue scaffolder request session after failure := by
  rcases scaffolder.perform_scaffold request session with
    ⟨_, _, _, _, report, _, -, hscaffold, -⟩ | ⟨failure', settled, hcomponent, hscaffold⟩
  case inl =>
    rw [h] at hscaffold
    cases (Prod.mk.inj hscaffold).1
  rw [h, Prod.mk.injEq, Except.error.injEq] at hscaffold
  obtain ⟨rfl, rfl⟩ := hscaffold
  obtain ⟨records, hplan⟩ := scaffolder.plan_computes request session
  rcases perform_bind_error hcomponent with hplanned | ⟨plan, planned, hplanned, hrest⟩
  · rw [hplan, Prod.mk.injEq] at hplanned
    obtain ⟨hplanned, rfl⟩ := hplanned
    exact .unplanned hplanned rfl rfl
  rw [hplan, Prod.mk.injEq] at hplanned
  obtain ⟨hplanned, rfl⟩ := hplanned
  rcases perform_bind_error hrest with hcarry | ⟨_, _, -, hdone⟩
  · exact residue_of_carryOut hfs hgenerator hplanned hcarry
  · cases (Prod.mk.inj hdone).1

/-! ## A code file without a namespace -/

namespace Notes

/-- A generator whose code file declares no namespace. -/
def unmarked : Generator where
  describe := Generator.plainDescription
  perform invocation fs :=
    let write (fs : FileSystem) (ending text : String) : FileSystem :=
      let file := invocation.directory.child (invocation.name ++ ending)
      if file.isAbsolute then (fs.writeBytes file text.toUTF8).toOption.getD fs else fs
    ⟨.ok ⟨"", "", false⟩, write (write fs ".axaml" "x:Class=\"T.Main\"") ".axaml.cs" "class Main;\n", []⟩

theorem unmarked_keepsForm : unmarked.KeepsForm :=
  fun _ _ hfs => wellFormed_written (wellFormed_written hfs _ _) _ _

theorem unmarked_outcome (invocation : Invocation) (fs : FileSystem) :
    (unmarked.perform invocation fs).outcome = .ok ⟨"", "", false⟩ := rfl

/-- What scaffolds with it. -/
def halfway : Scaffolder := ⟨Config.standard, unmarked⟩

/-- What it leaves. -/
def leftUnmarked : FileSystem :=
  unmarked.leaves ⟨ComponentKind.window.template, "Main", ⟨"/proj/Views"⟩⟩
    (files.makeDirectories ⟨"/proj/Views"⟩).1

/-- The plan for a window whose view-model is planned as usual. -/
def usual : Plan :=
  halfway.planOf (request true) root ⟨"/proj/Views"⟩ (.ofFull "App.Views.Main") (some
    ⟨"MainViewModel", ⟨"/proj/ViewModels/MainViewModel.cs"⟩, .ofFull "App.ViewModels.MainViewModel",
      ⟨"/proj/ViewModels"⟩⟩)

/-- **What is found there.** -/
structure FoundUnmarked : Prop where
  /-- This is the plan. -/
  planned : halfway.planned (request true) files = .ok usual
  /-- The folder is there. -/
  made : (files.makeDirectories ⟨"/proj/Views"⟩).2 = .ok ()
  /-- The namespace of the code file is not found. -/
  outcome : ((halfway.carryOut (request true) usual).perform ⟨files, [], []⟩).1 =
    .error (.markerNotFound "namespace ")
  /-- These are the files. -/
  files : ComponentKind.window.generatedFiles "Main" =
    [⟨"Main.axaml", some .markupClass⟩, ⟨"Main.axaml.cs", some .codeNamespace⟩]
  /-- The generated files are there. -/
  generated : ∀ file ∈ ComponentKind.window.generatedFiles "Main", ∃ bytes,
    leftUnmarked.resolve ((⟨"/proj/Views"⟩ : Path).child file.fileName) .name =
      .ok (.entry (place file) (.file bytes))
  /-- They are two. -/
  apart : (ComponentKind.window.generatedFiles "Main").Pairwise fun file other =>
    leftUnmarked.numberAt (place file) ≠ leftUnmarked.numberAt (place other)
  /-- The code file holds this. -/
  code : leftUnmarked.lookup ["proj", "Views", "Main.axaml.cs"] = some (.file "class Main;\n".toUTF8)
  /-- There is no view-model. -/
  noViewModel : leftUnmarked.lookup ["proj", "ViewModels", "MainViewModel.cs"] = none

/-- All of this is found. -/
theorem foundUnmarked : FoundUnmarked where
  planned := planned_of_markers rfl (by decide +kernel)
  made := by decide +kernel
  outcome := by decide +kernel
  files := by decide +kernel
  generated file hfile := by
    simp only [ComponentKind.generatedFiles, List.mem_cons, List.not_mem_nil, or_false] at hfile
    rcases hfile with rfl | rfl
    · exact ⟨"x:Class=\"T.Main\"".toUTF8, rfl⟩
    · exact ⟨"class Main;\n".toUTF8, rfl⟩
  apart := by decide +kernel
  code := by decide +kernel
  noViewModel := by decide +kernel

end Notes

/-- A code file without a namespace is left as it was generated, and there is no view-model. -/
theorem scaffold_failed_unmarked :
    Notes.files.WellFormed ∧ Notes.unmarked.KeepsForm ∧
      ∃ after, (Notes.halfway.scaffold (Notes.request true)).perform ⟨Notes.files, [], []⟩ =
          (.error (.markerNotFound "namespace "), after) ∧
        after.invocations = [⟨ComponentKind.window.template, "Main", ⟨"/proj/Views"⟩⟩] ∧
        after.files.lookup ["proj", "Views", "Main.axaml.cs"] = some (.file "class Main;\n".toUTF8) ∧
        after.files.lookup ["proj", "ViewModels", "MainViewModel.cs"] = none := by
  have hfound := Notes.foundUnmarked
  obtain ⟨after, hrun⟩ := @scaffold_of_carryOut_error Notes.halfway (Notes.request true) ⟨Notes.files, [], []⟩
    _ _ hfound.planned hfound.outcome
  refine ⟨Notes.found.wellFormed, Notes.unmarked_keepsForm, after, hrun, ?_⟩
  have hplan {plan : Plan} (h : Notes.halfway.planned (Notes.request true) Notes.files = .ok plan) :
      Notes.usual = plan := Except.ok.inj (hfound.planned.symm.trans h)
  cases scaffold_failed Notes.found.wellFormed Notes.unmarked_keepsForm hrun with
  | unplanned hplanned => cases hfound.planned.symm.trans hplanned
  | noFolder hplanned hmake =>
    obtain rfl := hplan hplanned
    cases (congrArg Prod.snd hmake).symm.trans hfound.made
  | @notGenerated plan made _ _ _ houtcome =>
    cases (Notes.unmarked_outcome (invocation (Notes.request true) plan) made).symm.trans houtcome
  | @unfilled plan made left _ filled later failed _ hplanned hmake _ _ hleft hinvocations hgenerated _ _ hstops =>
    obtain rfl := hplan hplanned
    obtain rfl : (Notes.files.makeDirectories ⟨"/proj/Views"⟩).1 = made := congrArg Prod.fst hmake
    obtain rfl : left = Notes.leftUnmarked := hleft
    have hstops := hstops (.of_places hfound.generated hfound.apart)
    refine ⟨hinvocations, ?_, hstops.nothingNew _ hfound.noViewModel⟩
    -- the code file is the last one, so it is not before the one that failed
    have hcode : (⟨"Main.axaml.cs", some .codeNamespace⟩ : GeneratedFile) ∈ failed :: later := by
      refine List.mem_of_getLast? ?_
      calc (failed :: later).getLast?
        _ = (filled ++ failed :: later).getLast? := by rw [List.getLast?_append, List.getLast?_cons]; rfl
        _ = _ := by rw [← hfound.files.symm.trans hgenerated]; rfl
    obtain ⟨bytes, hbytes⟩ := hfound.generated _ (hgenerated ▸ List.mem_append_right filled hcode)
    exact (hstops.untouched _ hcode _ _ hbytes).trans hfound.code

end Scaffolder

end ComponentScaffold
