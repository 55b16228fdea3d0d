import ComponentScaffold.Files.Fault
import ComponentScaffold.Path.Basic

/-! # Failures

Why an operation of this library fails, as causes. `Failure.message` words them, one heading for each
family, and `Failure.causes` lists the wordings from the failure down to what it rests on. -/

namespace ComponentScaffold

/-- Why no namespace can be made from a folder. -/
inductive NamespaceFault
  /-- The folder is not below the project root. -/
  | outsideRoot (target root : Path)
  /-- The way from the root to the folder has a step that is no name. -/
  | unnamedStep (way : Path)
  /-- Nothing is left to join. -/
  | empty (target : Path)
deriving DecidableEq, Repr

/-- The wording of a namespace fault. -/
def NamespaceFault.message : NamespaceFault → String
  | .outsideRoot target root => s!"{target} is not inside the project root {root}"
  | .unnamedStep way => s!"cannot derive a namespace from {way}"
  | .empty target => s!"empty namespace for {target}"

/-- What is wrong with the text of a configuration. -/
inductive DocumentFault
  /-- It is not written in JSON. -/
  | notJson
  /-- It is JSON and no configuration. -/
  | notConfiguration
deriving DecidableEq, Repr

/-- The wording of a document fault. -/
def DocumentFault.message : DocumentFault → String
  | .notJson => "the text is not a JSON document"
  | .notConfiguration => "the document is not a configuration"

/-- Why a configuration is refused. -/
inductive ConfigFault
  /-- The file does not hold a configuration. -/
  | unreadable (path : Path) (fault : DocumentFault)
  /-- A field that is needed is blank. -/
  | blankField (field : String)
  /-- The folder for view-models is more than one folder. -/
  | nestedFolder
deriving DecidableEq, Repr

/-- The wording of a configuration fault. -/
def ConfigFault.message : ConfigFault → String
  | .unreadable path fault => s!"Failed to parse {path}: {fault.message}"
  | .blankField field => s!"'{field}' must not be empty"
  | .nestedFolder => "'view_models_folder' must be a single folder name"

/-- Why a file could not be read or written. -/
inductive IoFault
  /-- The operating system refused. -/
  | system (fault : OsFault)
  /-- The bytes of the file are not UTF-8. -/
  | notUtf8
  /-- A file that must be new is there already. -/
  | taken (path : Path)
deriving DecidableEq, Repr

/-- The wording of an I/O fault. -/
def IoFault.message : IoFault → String
  | .system fault => fault.message
  | .notUtf8 => "stream did not contain valid UTF-8"
  | .taken path => s!"{path} already exists"

/-- Why the template generator gave nothing. -/
inductive GeneratorFault
  /-- Its program could not be started. -/
  | notStarted (program : String) (fault : StartFault)
  /-- It ran and reported a failure. -/
  | reported (report : String)
deriving DecidableEq, Repr

/-- The wording of a generator fault. -/
def GeneratorFault.message : GeneratorFault → String
  | .notStarted program fault => s!"could not start '{program}': {fault.message}"
  | .reported report => report

/-- **Why an operation fails.** -/
inductive Failure
  /-- No directory at or below the start holds a project or solution file. -/
  | rootNotFound (start : Path)
  /-- A folder has no namespace. -/
  | namespace (fault : NamespaceFault)
  /-- The name of a component is no identifier. -/
  | invalidName (name : String)
  /-- A marker does not occur where it is looked for. -/
  | markerNotFound (marker : String)
  /-- There is no class of a name with a body. -/
  | declarationNotFound (className : String)
  /-- The generator failed on a template. -/
  | generator (template : String) (fault : GeneratorFault)
  /-- A configuration is refused. -/
  | config (fault : ConfigFault)
  /-- A file could not be read or written. -/
  | io (fault : IoFault)
deriving DecidableEq, Repr

namespace Failure

/-- What namespace faults are reported under. -/
def namespaceHeading : String := "Namespace error: "

/-- What configuration faults are reported under. -/
def configHeading : String := "Configuration error: "

/-- What I/O faults are reported under. -/
def ioHeading : String := "IO error: "

/-- What a generator's failure on a template is reported under. -/
def generatorHeading (template : String) : String :=
  s!"Template generator failed for '{template}': "

/-- **The wording of a failure.** -/
def message : Failure → String
  | .rootNotFound start => s!"No project found: no solution or project file under {start}"
  | .namespace fault => namespaceHeading ++ fault.message
  | .invalidName name => s!"Invalid component name '{name}': expected a C# identifier"
  | .markerNotFound marker => s!"Marker not found: '{marker}' is missing from the generated text"
  | .declarationNotFound name => s!"Declaration not found: no 'class {name}' followed by '\x7b'"
  | .generator template fault => generatorHeading template ++ fault.message
  | .config fault => configHeading ++ fault.message
  | .io fault => ioHeading ++ fault.message

/-- The wordings of a failure and of the fault it rests on, where that has one of its own. -/
def causes : Failure → List String
  | .io fault => [message (.io fault), fault.message]
  | failure => [failure.message]

end Failure

end ComponentScaffold
