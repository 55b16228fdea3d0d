import ComponentScaffold.Component.Kind
import ComponentScaffold.Config.Basic
import ComponentScaffold.Files.Operations
import ComponentScaffold.Generator.Basic
import ComponentScaffold.Namespace.Folder
import ComponentScaffold.Project.Locate

/-! # Plans

What scaffolding a component would come to: where its files go, which namespaces they get, and where
its view-model goes. Planning changes nothing and asks no generator.

* **`FileSystem.absolute`** — the absolute path of what may be missing.
* **`Request`**, **`Plan`** — what is asked for and what is planned.
* **`Scaffolder.plan`** — the plan for a request. -/

namespace ComponentScaffold

/-! ## Absolute paths

A path is made absolute as far as what it leads to is there; names that are still missing follow as
they are written. -/

namespace FileSystem

/-- The nearest part of a path that leads to something, and the names missing behind it, at most the
given number of names back. There is none where the way back is not by names. -/
def existingPart? (fs : FileSystem) : (names : Nat) → Path → List String →
    Option (Path × List String)
  | names, p, missing =>
    if fs.exists? p then some (p, missing) else
      match names, p.parent?, p.fileName? with
      | names + 1, some above, some name => fs.existingPart? names above (name :: missing)
      | _, _, _ => none

/-- **The absolute path** of a path that may lead to something that is not there yet. -/
def absolute (fs : FileSystem) (p : Path) : Except OsFault Path := do
  let full ← if p.isAbsolute then pure p else fs.currentPath.map (·.join p)
  match fs.existingPart? full.components.length full [] with
  | some (existing, missing) => return (← fs.canonical existing).descend missing
  | none => return full

end FileSystem

/-! ## Plans -/

/-- **What is asked for.** -/
structure Request where
  /-- The kind of the component. -/
  kind : ComponentKind
  /-- Its name. -/
  name : String
  /-- The folder it goes to. -/
  target : Path
  /-- The folder from which the root of the project is looked for. -/
  searchRoot : Path
  /-- Whether a view-model is wanted too. -/
  withViewModel : Bool
deriving DecidableEq, Repr

/-- What is planned for a view-model. -/
structure ViewModelPlan where
  /-- The name of its class. -/
  className : String
  /-- The file it goes to. -/
  path : Path
  /-- Its namespaces. -/
  namespaces : NamespacePair
  /-- The folder where its base class is looked for. -/
  baseFolder : Path
deriving DecidableEq, Repr

/-- **What is planned for a component.** -/
structure Plan where
  /-- The root of its project. -/
  root : ProjectRoot
  /-- The folder it goes to. -/
  target : Path
  /-- How asking the generator is shown. -/
  generatorCommand : String
  /-- Its namespaces. -/
  namespaces : NamespacePair
  /-- Its files. -/
  files : List Path
  /-- Its view-model, if it gets one. -/
  viewModel : Option ViewModelPlan
deriving DecidableEq, Repr

/-- **What scaffolds components**: a configuration and a generator. -/
structure Scaffolder where
  /-- The configuration. -/
  config : Config
  /-- The generator. -/
  generator : Generator

namespace Scaffolder

/-- What is planned for the view-model of a component. -/
def planViewModel (config : Config) (root : ProjectRoot) (target : Path) (name : String) :
    Except NamespaceFault ViewModelPlan := do
  let folders ← root.companionFolders target config.viewsFolder config.viewModelsFolder
  let className := name ++ config.viewModelSuffix
  let namespaces ← root.namespaceOf folders.viewModel className
  return ⟨className, folders.viewModel.child (className ++ ".cs"), namespaces, folders.base⟩

/-- **The plan for a request.** -/
def plan (scaffolder : Scaffolder) (request : Request) : Action Plan := do
  if !isComponentName request.name then throw (.invalidName request.name)
  let searchRoot ← Action.ask (·.absolute request.searchRoot)
  let target ← Action.ask (·.absolute request.target)
  let root ← locateRoot scaffolder.config.markers searchRoot
  let namespaces ← Action.lift ((root.namespaceOf target request.name).mapError .namespace)
  Action.report .debug "component namespace" [("full", namespaces.full), ("code", namespaces.code)]
  -- a kind without view-models is planned all the same
  let viewModel ←
    if request.withViewModel && request.kind.supportsViewModel then
      some <$> Action.lift
        ((planViewModel scaffolder.config root target request.name).mapError .namespace)
    else
      if request.withViewModel then
        Action.report .warn "component kind has no view-model, skipping"
          [("kind", request.kind.label)]
      pure none
  return {
    root := root
    target := target
    generatorCommand := scaffolder.generator.describe request.kind.template request.name
    namespaces := namespaces
    files := (request.kind.generatedFiles request.name).map fun file => target.child file.fileName
    viewModel := viewModel }

end Scaffolder

end ComponentScaffold
