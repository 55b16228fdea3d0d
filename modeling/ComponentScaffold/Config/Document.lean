import ComponentScaffold.Config.Basic
import ComponentScaffold.Json.Reader
import ComponentScaffold.Json.Value
import ComponentScaffold.Session

/-! # Configuration documents

A configuration is written as a JSON object with one member for each field. Where it is read, a member
that is missing leaves its field as usual, and members of other names are passed over; an array gives
the fields in their order. Both directions go by one list of fields.

* **`Config.fields`** — the fields with their names, how they are written and how they are read.
* **`Config.ofJson?`**, **`Config.toJson`** — the two directions. -/

namespace ComponentScaffold

/-- A field of a configuration as documents hold it. -/
structure ConfigField where
  /-- The name of the member. -/
  name : String
  /-- The value of the field in a configuration. -/
  write : Config → Json
  /-- The configuration with a value for the field, if the value is of the right form. -/
  read? : Json → Config → Option Config

namespace ConfigField

/-- A field that holds a text. -/
def text (name : String) (get : Config → String) (put : String → Config → Config) :
    ConfigField where
  name := name
  write config := .ofText (get config)
  read? value config := value.text?.map (put · config)

/-- A field that holds a list of texts. -/
def texts (name : String) (get : Config → List String) (put : List String → Config → Config) :
    ConfigField where
  name := name
  write config := .array ((get config).map Json.ofText)
  read? value config := value.texts?.map (put · config)

end ConfigField

namespace Config

/-- **The fields of a configuration**, in the order in which they are written. -/
def fields : List ConfigField :=
  [.text "solution_suffix" (·.solutionSuffix) fun v c => { c with solutionSuffix := v },
    .text "project_suffix" (·.projectSuffix) fun v c => { c with projectSuffix := v },
    .text "base_class_file" (·.baseClassFile) fun v c => { c with baseClassFile := v },
    .text "views_folder" (·.viewsFolder) fun v c => { c with viewsFolder := v },
    .text "view_models_folder" (·.viewModelsFolder) fun v c => { c with viewModelsFolder := v },
    .text "view_model_suffix" (·.viewModelSuffix) fun v c => { c with viewModelSuffix := v },
    .text "generator_command" (·.generatorCommand) fun v c => { c with generatorCommand := v },
    .texts "generator_args" (·.generatorArgs) fun v c => { c with generatorArgs := v }]

/-- The document of a configuration. -/
def toJson (config : Config) : Json :=
  .ofMembers (fields.map fun field => (field.name, field.write config))

/-- A configuration with the members of an object put in. No field may come twice; `seen` are the
names of those that came. -/
def putMembers : (seen : List String) → List (Option String × Json) → Config → Option Config
  | _, [], config => some config
  | seen, (name, value) :: rest, config => do
    -- a name that is no text is refused even where it is passed over
    let name ← name
    match fields.find? (·.name = name) with
    | none => putMembers seen rest config
    | some field =>
      if seen.contains name then none
      else putMembers (name :: seen) rest (← field.read? value config)

/-- A configuration with the items of an array put in, one for each field. -/
def putItems : List ConfigField → List Json → Config → Option Config
  | _, [], config => some config
  | [], _ :: _, _ => none
  | field :: fields, value :: rest, config => do putItems fields rest (← field.read? value config)

/-- **The configuration of a document**, if it is one. -/
def ofJson? : Json → Option Config
  | .object members => putMembers [] members standard
  | .array items => putItems fields items standard
  | _ => none

/-- The text of a configuration file. -/
def toText (config : Config) : String := config.toJson.pretty

/-- The configuration in the text of a file. -/
def ofText (text : String) : Except DocumentFault Config :=
  match Json.parse? text with
  | none => .error .notJson
  | some document =>
    match ofJson? document with
    | none => .error .notConfiguration
    | some config => .ok config

end Config

/-! ## Configuration files

A configuration lies in a file of a fixed name. The file that counts for a folder is the nearest one
on the way up.

* **`Config.load`**, **`Config.save`** — one file.
* **`FileSystem.configFileAbove?`** — the nearest file.
* **`Config.discover`** — the configuration that counts for a folder. -/

/-- The name of configuration files. -/
def configFileName : String := ".avalonia-scaffold.json"

/-- A path and those that lead to it, at most the given number of levels up, nearest first. -/
def Path.ancestorsWithin : Nat → Path → List Path
  | 0, p => [p]
  | levels + 1, p =>
    match p.parent? with
    | none => [p]
    | some above => p :: ancestorsWithin levels above

/-- **A path and those that lead to it**, nearest first, as far as they are written. -/
def Path.ancestors (p : Path) : List Path := p.ancestorsWithin p.components.length

/-- **The nearest configuration file** at or above a path. -/
def FileSystem.configFileAbove? (fs : FileSystem) (start : Path) : Option Path :=
  (start.ancestors.map fun folder => folder.child configFileName).find? fs.isFile

namespace Config

/-- **Read a configuration** from a file, and check it. -/
def load (path : Path) : Action Config := do
  match ofText (← Action.readText path) with
  | .error fault => throw (.config (.unreadable path fault))
  | .ok config =>
    match config.validate with
    | .error fault => throw (.config fault)
    | .ok () => return config

/-- Write a configuration to a file. It is not checked. -/
def save (config : Config) (path : Path) : Action Unit := Action.writeText path config.toText

/-- **The configuration that counts for a folder**: the one of the nearest file, or the usual one if
there is none. -/
def discover (start : Path) : Action Config := do
  match (← Action.files).configFileAbove? start with
  | some path =>
    Action.report .debug "loading config" [("path", path.text)]
    load path
  | none =>
    Action.report .debug "no config file, using defaults" []
    return standard

end Config

end ComponentScaffold
