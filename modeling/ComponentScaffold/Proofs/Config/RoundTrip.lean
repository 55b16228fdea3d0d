import ComponentScaffold.Config.Document
import ComponentScaffold.Proofs.Files.ReadBack
import ComponentScaffold.Proofs.Json.Layout
import Mathlib.Data.Fintype.Basic

/-! # Configurations in files

A configuration that was saved is loaded again, and a file that holds only some fields of it is loaded as the
usual configuration with these fields. Either way what is loaded has been checked.

* **`Config.perform_load_of_isDocument`** — what a document in a file is loaded as.
* **`Config.load_save`** — what is loaded after a configuration was saved. -/

namespace ComponentScaffold.Config

/-! ## Documents of a configuration

A document may hold any of the fields of a configuration, in any order, and other texts beside them. It is read
as the configuration with these fields that is as usual everywhere else.

* **`Config.overlay`** — a configuration with some of the fields of another one.
* **`Config.Gives`** — members of an object that hold some of the fields and nothing else of meaning.
* **`Config.ofText_of_isDocument`** — what is read from a document.
* **`Config.isDocument_toText`** — what is written is a document of all fields. -/

open Json

/-- **A field of a configuration.** -/
inductive Key
  | solutionSuffix
  | projectSuffix
  | baseClassFile
  | viewsFolder
  | viewModelsFolder
  | viewModelSuffix
  | generatorCommand
  | generatorArgs
deriving DecidableEq, Repr

/-- The fields in the order in which they are written. -/
def Key.all : List Key :=
  [solutionSuffix, projectSuffix, baseClassFile, viewsFolder, viewModelsFolder, viewModelSuffix, generatorCommand,
    generatorArgs]

instance : Fintype Key where
  elems := ⟨Key.all, by decide⟩
  complete key := by cases key <;> decide

/-- The name of a field in a document. -/
def Key.name : Key → String
  | solutionSuffix => "solution_suffix"
  | projectSuffix => "project_suffix"
  | baseClassFile => "base_class_file"
  | viewsFolder => "views_folder"
  | viewModelsFolder => "view_models_folder"
  | viewModelSuffix => "view_model_suffix"
  | generatorCommand => "generator_command"
  | generatorArgs => "generator_args"

/-- The value of a field in a document. -/
def Key.value (config : Config) : Key → Json
  | solutionSuffix => .ofText config.solutionSuffix
  | projectSuffix => .ofText config.projectSuffix
  | baseClassFile => .ofText config.baseClassFile
  | viewsFolder => .ofText config.viewsFolder
  | viewModelsFolder => .ofText config.viewModelsFolder
  | viewModelSuffix => .ofText config.viewModelSuffix
  | generatorCommand => .ofText config.generatorCommand
  | generatorArgs => .array (config.generatorArgs.map Json.ofText)

/-- **A configuration with some fields of another one**, which come instead of its own. -/
def overlay (config : Config) (keys : Finset Key) (base : Config) : Config where
  solutionSuffix := if Key.solutionSuffix ∈ keys then config.solutionSuffix else base.solutionSuffix
  projectSuffix := if Key.projectSuffix ∈ keys then config.projectSuffix else base.projectSuffix
  baseClassFile := if Key.baseClassFile ∈ keys then config.baseClassFile else base.baseClassFile
  viewsFolder := if Key.viewsFolder ∈ keys then config.viewsFolder else base.viewsFolder
  viewModelsFolder := if Key.viewModelsFolder ∈ keys then config.viewModelsFolder else base.viewModelsFolder
  viewModelSuffix := if Key.viewModelSuffix ∈ keys then config.viewModelSuffix else base.viewModelSuffix
  generatorCommand := if Key.generatorCommand ∈ keys then config.generatorCommand else base.generatorCommand
  generatorArgs := if Key.generatorArgs ∈ keys then config.generatorArgs else base.generatorArgs

section

variable {config base : Config} {keys : Finset Key}

@[simp] theorem overlay_empty : config.overlay ∅ base = base := by simp [overlay]

@[simp] theorem overlay_univ : config.overlay Finset.univ base = config := by simp [overlay]

/-- One field more. -/
theorem overlay_insert (key : Key) :
    config.overlay keys (config.overlay {key} base) = config.overlay (insert key keys) base := by
  rw [Finset.insert_eq, Finset.union_comm]
  simp only [overlay, Finset.mem_union, ite_or]

/-- **Members that give some fields** of a configuration, each of them once. Among them may be texts under names
that no field has. -/
inductive Gives (config : Config) : Finset Key → List (String × Json) → Prop
  /-- No member gives a field. -/
  | nil : Gives config ∅ []
  /-- A member gives one field more. -/
  | field {key : Key} {keys : Finset Key} {members : List (String × Json)} : key ∉ keys → Gives config keys members →
    Gives config (insert key keys) ((key.name, key.value config) :: members)
  /-- A text under another name gives none. -/
  | other {name text : String} {keys : Finset Key} {members : List (String × Json)} : (∀ key : Key, key.name ≠ name) →
    Gives config keys members → Gives config keys ((name, .ofText text) :: members)

/-- **A document of some fields**: the text of an object whose members give them. -/
def IsDocument (config : Config) (keys : Finset Key) (text : String) : Prop :=
  ∃ members, Gives config keys members ∧ (Json.ofMembers members).Spells text.toList

/-! ### Reading -/

/-- No two fields have one name. -/
theorem Key.name_injective : Function.Injective Key.name := by
  unfold Function.Injective
  decide

/-- The fields are written one after the other. -/
theorem map_fields (config : Config) :
    (fields.map fun field => (field.name, field.write config)) =
      Key.all.map fun key => (key.name, key.value config) := rfl

/-- The texts of an array are read. -/
theorem texts?_array (texts : List String) : (Json.array (texts.map Json.ofText)).texts? = some texts := by
  induction texts with
  | nil => rfl
  | cons text texts ih =>
    rw [texts?] at ih
    simp [texts?, ih, text?, Json.ofText]

/-- A field is found by its name, and its value puts it in. -/
theorem exists_field (config : Config) (key : Key) :
    ∃ field, fields.find? (·.name = key.name) = some field ∧
      ∀ base, field.read? (key.value config) base = some (config.overlay {key} base) := by
  cases key
  case generatorArgs =>
    refine ⟨_, rfl, fun base => ?_⟩
    simp [ConfigField.texts, Key.value, texts?_array, overlay]
  all_goals
    refine ⟨_, rfl, fun base => ?_⟩
    simp [ConfigField.text, Key.value, Json.ofText, text?, overlay]

/-- No other names are those of fields. -/
theorem find?_fields_eq_none {name : String} (h : ∀ key : Key, key.name ≠ name) :
    fields.find? (·.name = name) = none := by
  rw [List.find?_eq_none]
  intro field hmem
  obtain ⟨key, -, hsame⟩ : ∃ key ∈ Key.all, (key.name, key.value standard) = (field.name, field.write standard) := by
    rw [← List.mem_map, ← map_fields]
    exact List.mem_map_of_mem hmem
  simpa [← (Prod.mk.inj hsame).1] using h key

/-- **Members that give fields** put them in, if none of them came before. -/
theorem putMembers_of_gives {members : List (String × Json)} (h : Gives config keys members) (seen : List String)
    (hfresh : ∀ key ∈ keys, key.name ∉ seen) (base : Config) :
    putMembers seen (members.map fun (name, value) => (some name, value)) base = some (config.overlay keys base) := by
  induction h generalizing seen base with
  | nil => simp [putMembers]
  | @field key keys members habsent _ ih =>
    obtain ⟨field, hfound, hread⟩ := exists_field config key
    have hfirst : key.name ∉ seen := hfresh key (Finset.mem_insert_self key keys)
    have hrest : ∀ other ∈ keys, other.name ∉ key.name :: seen := by
      intro other hmem
      rw [List.mem_cons, not_or]
      refine ⟨fun hsame => habsent (Key.name_injective hsame ▸ hmem), hfresh other (Finset.mem_insert_of_mem hmem)⟩
    rw [List.map_cons, putMembers]
    simp [hfound, hfirst, hread, ih _ hrest, overlay_insert]
  | other hunknown _ ih =>
    rw [List.map_cons, putMembers]
    simp [find?_fields_eq_none hunknown, ih _ hfresh]

/-- **A document is read** as the usual configuration with its fields put in. -/
theorem ofText_of_isDocument {text : String} (h : config.IsDocument keys text) :
    ofText text = .ok (config.overlay keys standard) := by
  obtain ⟨members, hgives, hspells⟩ := h
  rw [ofText, parse?_of_spells hspells]
  simp [ofMembers, ofJson?, putMembers_of_gives hgives]

/-- A surrogate pair and an escaped slash are read as what they stand for, behind a text of no meaning. -/
example : ofText "\x7b\"comment\": \"\", \"view_model_suffix\" : \"\\ud83d\\ude00\\/\"\x7d" =
    .ok { standard with viewModelSuffix := "😀/" } := by rfl

/-! ### Writing -/

/-- Fields one after the other are given. -/
theorem gives_map (config : Config) {keys : List Key} (hnodup : keys.Nodup) :
    Gives config keys.toFinset (keys.map fun key => (key.name, key.value config)) := by
  induction keys with
  | nil => exact .nil
  | cons key keys ih =>
    obtain ⟨habsent, hnodup⟩ := List.nodup_cons.mp hnodup
    rw [List.toFinset_cons]
    exact .field (by simpa using habsent) (ih hnodup)

/-- The value of a field is made of texts. -/
theorem laid_value (config : Config) (key : Key) : (key.value config).Laid := by
  cases key
  case generatorArgs =>
    refine laid_array fun item hmem => ?_
    obtain ⟨text, -, rfl⟩ := List.mem_map.mp hmem
    exact laid_ofText text
  all_goals exact laid_ofText _

/-- Members that give fields may be laid out. -/
theorem Gives.isDocument_pretty {members : List (String × Json)} (h : Gives config keys members) :
    config.IsDocument keys (Json.ofMembers members).pretty := by
  have hlaid : ∀ held ∈ members, held.2.Laid := by
    induction h with
    | nil => simp
    | @field key _ _ _ _ ih => exact List.forall_mem_cons.mpr ⟨laid_value config key, ih⟩
    | @other _ text _ _ _ _ ih => exact List.forall_mem_cons.mpr ⟨laid_ofText text, ih⟩
  refine ⟨members, h, ?_⟩
  rw [pretty, String.toList_ofList]
  exact laid_ofMembers hlaid 0

/-- **What is written** is a document of all fields. -/
theorem isDocument_toText (config : Config) : config.IsDocument Finset.univ config.toText := by
  have hnodup : Key.all.Nodup := by decide
  have hgives : Gives config Finset.univ (fields.map fun field => (field.name, field.write config)) :=
    gives_map config hnodup
  exact hgives.isDocument_pretty

end

/-! ## Files -/

open ComponentScaffold.Action

/-- **A document in a file** is loaded as the configuration that it gives, or refused if that does not pass the
check. -/
theorem perform_load_of_isDocument {config : Config} {keys : Finset Key} {text : String} {path : Path}
    {session : Session} (hdocument : config.IsDocument keys text)
    (hheld : session.files.readBytes path = .ok text.toUTF8) :
    (load path).perform session =
      match (config.overlay keys standard).validate with
      | .ok () => (.ok (config.overlay keys standard), session)
      | .error fault => (.error (.config fault), session) := by
  rw [load, perform_bind_of_ok (perform_readText_of_readBytes hheld), ofText_of_isDocument hdocument]
  cases hchecked : (config.overlay keys standard).validate <;> simp [hchecked]

/-- **Loading and saving.** Whatever fields of a configuration a document gives, it is loaded as the usual
configuration with these fields, if that passes the check, and refused otherwise. What is saved is a document of
all fields; so the configuration is loaded again exactly if it passes the check itself. -/
theorem load_save (config : Config) (path : Path) (session : Session) :
    (∀ keys text, config.IsDocument keys text → session.files.readBytes path = .ok text.toUTF8 →
      let given := config.overlay keys standard
      (given.validate = .ok () → (load path).perform session = (.ok given, session)) ∧
        ∀ fault, given.validate = .error fault → (load path).perform session = (.error (.config fault), session)) ∧
    (session.files.WellFormed → session.files.StandsInFolder → (session.files.startOf? path).isSome →
      session.files.TakesFile path →
      ∃ files text, (save config path).perform session = (.ok (), { session with files }) ∧
        files.readBytes path = .ok text.toUTF8 ∧ config.IsDocument Finset.univ text ∧
        (((load path).perform { session with files }).1 = .ok config ↔ config.validate = .ok ())) := by
  constructor
  · intro keys text hdocument hheld given
    rw [perform_load_of_isDocument hdocument hheld]
    refine ⟨fun haccepted => ?_, fun fault hrefused => ?_⟩
    · rw [haccepted]
    · rw [hrefused]
  · intro hfs hstands hstarted htakes
    obtain ⟨files, hwritten, hheld⟩ := htakes.exists_writeBytes hfs hstands hstarted config.toText.toUTF8
    have hdocument := isDocument_toText config
    refine ⟨files, config.toText, ?_, hheld, hdocument, ?_⟩
    · rw [save, perform_writeText, hwritten]
    · rw [perform_load_of_isDocument hdocument hheld, overlay_univ]
      cases config.validate <;> simp

/-! ## A file with one field -/

namespace Observable

/-- A configuration with a base class of its own, and a program that takes nothing before the template. -/
def config : Config := { standard with baseClassFile := "\"Observable\".cs", generatorArgs := [] }

/-- What a document says that gives the base class only. -/
def members : List (String × Json) :=
  [("comment", .ofText "C:\\"), (Key.baseClassFile.name, Key.baseClassFile.value config)]

/-- A project with this document. -/
def session : Session :=
  ⟨(FileSystem.empty 0 0o22).withEntries
    [(["proj", configFileName], .file (Json.ofMembers members).pretty.toUTF8), (["proj"], .directory)], [], []⟩

/-- The file of the document. -/
def path : Path := ⟨"/proj/.avalonia-scaffold.json"⟩

theorem isDocument : config.IsDocument {.baseClassFile} (Json.ofMembers members).pretty := by
  have hgives : Gives config (insert Key.baseClassFile ∅) members := .other (by decide) (.field (by simp) .nil)
  exact hgives.isDocument_pretty

theorem resolve_path :
    session.files.resolve path .file =
      .ok (.entry ["proj", configFileName] (.file (Json.ofMembers members).pretty.toUTF8)) := rfl

theorem wellFormed : session.files.WellFormed := .of_places (by decide)

theorem standsInFolder : session.files.StandsInFolder := by
  intro place hcurrent
  have hroot : session.files.current? = some [] := by decide
  obtain rfl := Option.some.inj (hcurrent.symm.trans hroot)
  exact FileSystem.lookup_root _

end Observable

/-- The document is loaded as the usual configuration with its base class; after the whole configuration was saved
in its place, that is loaded. -/
theorem load_save_observable :
    (load Observable.path).perform Observable.session =
        (.ok { standard with baseClassFile := "\"Observable\".cs" }, Observable.session) ∧
      ∃ files, (save Observable.config Observable.path).perform Observable.session =
          (.ok (), { Observable.session with files }) ∧
        ((load Observable.path).perform { Observable.session with files }).1 = .ok Observable.config := by
  obtain ⟨hloads, hsaves⟩ := load_save Observable.config Observable.path Observable.session
  obtain ⟨files, -, hsaved, -, -, hagain⟩ := hsaves Observable.wellFormed Observable.standsInFolder
    (by decide) (.file Observable.resolve_path)
  obtain ⟨haccepted, -⟩ := hloads _ _ Observable.isDocument rfl
  exact ⟨haccepted (by decide), files, hsaved, hagain.mpr (by decide +kernel)⟩

end ComponentScaffold.Config
