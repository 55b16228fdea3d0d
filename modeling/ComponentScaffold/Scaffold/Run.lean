import ComponentScaffold.Scaffold.Plan
import ComponentScaffold.Source.Edit

/-! # Scaffolding

A component is scaffolded by its plan: the folder is made, the generator is asked, the namespaces in
the generated files are written, and last the view-model is created. A view-model that cannot be
created does not undo the component; the failure is part of the report.

* **`setNamespaces`** — the namespaces of the generated files.
* **`createViewModel`** — the view-model.
* **`Scaffolder.scaffold`** — all of it. -/

namespace ComponentScaffold

/-- What was done for a view-model. -/
structure ViewModelReport where
  /-- Its file. -/
  path : Path
  /-- Its namespaces. -/
  namespaces : NamespacePair
  /-- What became of its base class. -/
  inheritance : Inheritance
deriving DecidableEq, Repr

/-- **What was done for a component.** -/
structure ScaffoldReport where
  /-- The root of its project. -/
  root : ProjectRoot
  /-- Its namespaces. -/
  namespaces : NamespacePair
  /-- What the generator reported. -/
  output : GeneratorOutput
  /-- The files whose namespaces were written. -/
  updated : List Path
  /-- What was done for its view-model, if it has one. -/
  viewModel : Option ViewModelReport
  /-- Why it has no view-model, if one was planned and not created. -/
  viewModelFailure : Option Failure
deriving DecidableEq, Repr

/-- **Write the namespaces** of generated files in a folder. The files that hold one are returned. -/
def setNamespaces (folder : Path) (namespaces : NamespacePair) :
    List GeneratedFile → Action (List Path)
  | [] => return []
  | file :: rest => do
    let path := folder.child file.fileName
    match file.token with
    | none =>
      Action.report .debug "file carries no namespace" [("file", path.text)]
      setNamespaces folder namespaces rest
    | some token =>
      fillRegion path token.startMarker token.endMarker (token.select namespaces)
      return path :: (← setNamespaces folder namespaces rest)

/-- **Create a view-model** by its plan. A file that is there already is left alone. -/
def createViewModel (baseFile : String) (plan : ViewModelPlan) : Action ViewModelReport := do
  if (← Action.files).exists? plan.path then throw (.io (.taken plan.path))
  match plan.path.parent? with
  | some folder => Action.makeDirectories folder
  | none => pure ()
  Action.writeText plan.path (viewModelSource plan.className)
  let token := NamespaceToken.codeNamespace
  fillRegion plan.path token.startMarker token.endMarker (token.select plan.namespaces)
  let inheritance ← injectBaseClass plan.path plan.className plan.baseFolder baseFile
  return ⟨plan.path, plan.namespaces, inheritance⟩

/-- Create a view-model and report a failure to do so. -/
def tryViewModel (baseFile : String) (plan : ViewModelPlan) :
    Action (Except Failure ViewModelReport) := do
  let outcome ← Action.attempt (createViewModel baseFile plan)
  if let .error failure := outcome then
    Action.report .warn "view-model step failed" [("error", failure.message)]
  return outcome

/-- **Scaffold a component.** -/
def Scaffolder.scaffold (scaffolder : Scaffolder) (request : Request) : Action ScaffoldReport := do
  let plan ← scaffolder.plan request
  Action.makeDirectories plan.target
  let output ← scaffolder.generator.invoke ⟨request.kind.template, request.name, plan.target⟩
  let updated ←
    setNamespaces plan.target plan.namespaces (request.kind.generatedFiles request.name)
  -- the component stands; from here on nothing fails
  let (viewModel, viewModelFailure) ←
    match plan.viewModel with
    | none => pure (none, none)
    | some viewModelPlan =>
      match (← tryViewModel scaffolder.config.baseClassFile viewModelPlan) with
      | .ok report => pure (some report, none)
      | .error failure => pure (none, some failure)
  return {
    root := plan.root
    namespaces := plan.namespaces
    output := output
    updated := updated
    viewModel := viewModel
    viewModelFailure := viewModelFailure }

end ComponentScaffold
