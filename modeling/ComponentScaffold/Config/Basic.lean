import ComponentScaffold.Failure
import ComponentScaffold.Project.Root
import ComponentScaffold.Text.Blank

/-! # Configurations

How a project wants its components: the names of its files and folders, and the program that
instantiates templates.

* **`Config.standard`** — what holds where nothing is said.
* **`Config.validate`** — refuses configurations that cannot be worked with. -/

namespace ComponentScaffold

/-- **A configuration.** -/
structure Config where
  /-- The end of the name of a solution file. -/
  solutionSuffix : String
  /-- The end of the name of a project file. -/
  projectSuffix : String
  /-- The file in a view-models folder that holds the base class. -/
  baseClassFile : String
  /-- The folder that views lie in. -/
  viewsFolder : String
  /-- The folder that view-models lie in. -/
  viewModelsFolder : String
  /-- What is added to the name of a component for its view-model. -/
  viewModelSuffix : String
  /-- The program that instantiates templates. -/
  generatorCommand : String
  /-- What the program is given before the template. -/
  generatorArgs : List String
deriving DecidableEq, Repr

namespace Config

/-- The configuration of a project that has none. -/
def standard : Config where
  solutionSuffix := ".sln"
  projectSuffix := ".csproj"
  baseClassFile := "ViewModelBase.cs"
  viewsFolder := "Views"
  viewModelsFolder := "ViewModels"
  viewModelSuffix := "ViewModel"
  generatorCommand := "dotnet"
  generatorArgs := ["new"]

/-- The names of solution and project files. -/
def markers (config : Config) : ProjectMarkers := ⟨config.solutionSuffix, config.projectSuffix⟩

/-- The fields that must hold more than blanks, with their names. -/
def neededFields (config : Config) : List (String × String) :=
  [("solution_suffix", config.solutionSuffix), ("project_suffix", config.projectSuffix),
    ("base_class_file", config.baseClassFile), ("view_models_folder", config.viewModelsFolder),
    ("generator_command", config.generatorCommand)]

/-- Whether a text holds nothing but blanks. -/
def isBlankText (text : String) : Bool := text.toList.all Text.isBlank

/-- Whether a character ends the name of a folder. -/
def isFolderSeparator (c : Char) : Bool := c == '/' || c == '\\'

/-- **Check a configuration.** The first field that is needed and blank is reported, then a folder for
view-models that is more than one folder. -/
def validate (config : Config) : Except ConfigFault Unit :=
  match config.neededFields.find? fun (_, value) => isBlankText value with
  | some (field, _) => .error (.blankField field)
  | none =>
    if config.viewModelsFolder.toList.any isFolderSeparator then .error .nestedFolder else .ok ()

/-- The usual configuration is accepted. -/
theorem validate_standard : validate standard = .ok () := by rfl

end Config

end ComponentScaffold
