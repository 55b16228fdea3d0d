import ComponentScaffold.Session
import ComponentScaffold.Source.BaseClass
import ComponentScaffold.Source.Region

/-! # Editing source files

The edits of source texts, carried out on files. An edit is worked out from the whole text before the
file is written, so a file that cannot be edited keeps its bytes.

* **`fillRegion`** — write another content between two markers.
* **`injectBaseClass`** — let a class inherit from the base class of a folder. -/

namespace ComponentScaffold

/-- **Write another content** into the region of a file between two markers. -/
def fillRegion (file : Path) (startMarker endMarker content : String) : Action Unit := do
  let text ← Action.readText file
  let edited ← Action.lift
    (replaceRegion text.toList startMarker.toList endMarker.toList content.toList)
  Action.writeText file (String.ofList edited)
  Action.report .info "namespace rewritten" [("file", file.text), ("value", content)]

/-- What became of giving a class a base class. -/
inductive Inheritance
  /-- There is no base class in the folder. -/
  | noBaseClass
  /-- The class inherits from a base class, for which a namespace may have been imported. -/
  | inherits (base : String) (imported : Option String)
deriving DecidableEq, Repr

/-- What a file of a base class says of it. -/
structure BaseClass where
  /-- The name of the class: the first that the file declares, else the stem of the file's name. -/
  name : List Char
  /-- The namespace that the file declares, if it does. -/
  namespaceName : Option (List Char)
deriving DecidableEq, Repr

/-- The base class that the text of a file gives. -/
def BaseClass.ofText (file : Path) (text : List Char) : BaseClass where
  name := (declaredClass? text).getD (file.fileStem?.getD "").toList
  namespaceName := (NamespaceDeclaration.find? text).map (·.name)

/-- **Let the class in a file inherit** from the base class in `baseFile` of the folder `baseFolder`,
if there is such a file. -/
def injectBaseClass (file : Path) (className : String) (baseFolder : Path) (baseFile : String) :
    Action Inheritance := do
  let basePath := baseFolder.child baseFile
  if !(← Action.files).isFile basePath then
    Action.report .debug "no base class file, skipping inheritance" [("expected", basePath.text)]
    return .noBaseClass
  let base := BaseClass.ofText basePath (← Action.readText basePath).toList
  let text ← Action.readText file
  let edited ← Action.lift (inheritFrom text.toList className.toList base.name base.namespaceName)
  Action.writeText file (String.ofList edited.text)
  let baseName := String.ofList base.name
  let imported := edited.imported.map String.ofList
  Action.report .info "base class injected"
    [("file", file.text), ("class", className), ("base", baseName), ("import", imported.getD "")]
  return .inherits baseName imported

end ComponentScaffold
