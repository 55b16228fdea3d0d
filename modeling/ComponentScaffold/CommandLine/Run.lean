import ComponentScaffold.CommandLine.Subcommand
import ComponentScaffold.Config.Document
import ComponentScaffold.Generator.ForcedRetry
import ComponentScaffold.Json.Value
import ComponentScaffold.Scaffold.Run

/-! # Running commands

A command prints its result, and only if it succeeds. Where it fails, the failure says what the command
was about.

* **`CommandFailure.chain`** — the wordings of such a failure, from the outside to the inside.
* **`Subcommand.run`** — what a command prints. -/

namespace ComponentScaffold

/-! ## What the commands print

Plans, reports and namespaces as they are shown, line by line.

* **`Plan.display`**, **`ScaffoldReport.display`** — what scaffolding would come to, and what it came to.
* **`namespacesJson`** — namespaces as a JSON document. -/

/-- Lines, each with its end. -/
def ofLines (lines : List String) : String := String.join (lines.map (· ++ "\n"))

/-- A root in one line. -/
def ProjectRoot.describe (root : ProjectRoot) : String :=
  if root.isSolution then s!"solution at {root.path}"
  else s!"project '{root.projectName}' at {root.path}"

/-- What became of a base class, in one line. -/
def Inheritance.describe : Inheritance → String
  | .noBaseClass => "no base class found"
  | .inherits base (some imported) => s!"inherits {base} (using {imported})"
  | .inherits base none => s!"inherits {base}"

/-- A root and the namespaces counted from it. -/
def namespaceLines (root : ProjectRoot) (namespaces : NamespacePair) : List String :=
  [s!"📦 Root: {root.describe}",
    s!"   • Full namespace: {namespaces.full}",
    s!"   • Code namespace: {namespaces.code}"]

/-- A planned view-model. -/
def ViewModelPlan.lines (viewModel : ViewModelPlan) : List String :=
  ["", s!"🧩 View-model: {viewModel.path}",
    s!"   • Namespace: {viewModel.namespaces.code}",
    s!"   • Base class folder: {viewModel.baseFolder}"]

/-- **A plan as it is shown.** -/
def Plan.display (plan : Plan) : String :=
  ofLines <|
    ["🔍 Dry run, nothing was written"] ++ namespaceLines plan.root plan.namespaces ++
    ["", s!"🚀 Generator: {plan.generatorCommand}", s!"   Working directory: {plan.target}"] ++
    plan.files.map (fun file => s!"   📄 {file}") ++
    plan.viewModel.toList.flatMap ViewModelPlan.lines

/-- **A report as it is shown.** -/
def ScaffoldReport.display (report : ScaffoldReport) : String :=
  ofLines <|
    namespaceLines report.root report.namespaces ++
    (if report.output.forced then ["⚠️  Generator needed --force to complete"] else []) ++
    [""] ++ report.updated.map (fun file => s!"✅ {file}") ++
    report.viewModel.toList.map (fun viewModel =>
      s!"✅ {viewModel.path} ({viewModel.inheritance.describe})") ++
    report.viewModelFailure.toList.map (fun failure =>
      s!"⚠️  View-model not created: {failure.message}")

/-! ### As JSON -/

/-- A root as a JSON object. -/
def ProjectRoot.toJson (root : ProjectRoot) : Json :=
  .ofMembers [("is_solution_root", .bool root.isSolution), ("path", .ofText root.path.text),
    ("project_name", .ofText root.projectName)]

/-- Namespaces as a JSON object. -/
def NamespacePair.toJson (namespaces : NamespacePair) : Json :=
  .ofMembers [("code_namespace", .ofText namespaces.code),
    ("full_namespace", .ofText namespaces.full)]

/-- **Namespaces and the root they are counted from**, with the names of members in order. -/
def namespacesJson (root : ProjectRoot) (namespaces : NamespacePair) : Json :=
  .ofMembers [("namespaces", namespaces.toJson), ("project_root", root.toJson)]

/-! ## Commands -/

/-- What a command was about. -/
inductive CommandStep
  /-- It asked for the current directory. -/
  | currentDirectory
  /-- It looked for the folder from which the root is looked for. -/
  | searchRoot
  /-- It looked for the folder that a configuration goes to. -/
  | configFolder
  /-- It looked for the folder of a component. -/
  | folder (path : Path)
  /-- It read the configuration. -/
  | configuration
  /-- It planned a component. -/
  | plan (kind : ComponentKind) (name : String)
  /-- It scaffolded a component. -/
  | scaffold (kind : ComponentKind) (name : String)
  /-- It wrote a configuration. -/
  | writeConfig (path : Path)
deriving DecidableEq, Repr

/-- What a command says of a step that failed. -/
def CommandStep.message : CommandStep → String
  | .currentDirectory => "Failed to get current directory"
  | .searchRoot => "Failed to canonicalize search root"
  | .configFolder => "Failed to canonicalize project root"
  | .folder path => s!"Failed to resolve {path}"
  | .configuration => "Failed to load configuration"
  | .plan kind name => s!"Failed to plan {kind} '{name}'"
  | .scaffold kind name => s!"Failed to scaffold {kind} '{name}'"
  | .writeConfig path => s!"Failed to write config to {path}"

/-- **Why a command fails.** -/
inductive CommandFailure
  /-- A name is no name of a class. -/
  | notAClassName (name : String)
  /-- The operating system refused a step. -/
  | refused (step : CommandStep) (fault : OsFault)
  /-- An operation failed, in a step if it is part of one. -/
  | failed (step : Option CommandStep) (failure : Failure)
deriving DecidableEq, Repr

namespace CommandFailure

/-- **The wordings of a failure**, each followed by that of its cause. -/
def chain : CommandFailure → List String
  | .notAClassName name => [s!"'{name}' is not a valid class name"]
  | .refused step fault => [step.message, fault.message]
  | .failed step failure => step.toList.map CommandStep.message ++ failure.causes

/-- The causes of a failure as they are listed: a single one is not numbered. -/
def causeLines : List String → List String
  | [] => []
  | [cause] => ["", "Caused by:", s!"    {cause}"]
  | causes =>
    ["", "Caused by:"] ++ (causes.zipIdx.map fun (cause, index) => s!"    {index}: {cause}")

/-- A failure as it is shown. -/
def display (failure : CommandFailure) : String :=
  match failure.chain with
  | [] => ""
  | outermost :: causes => ofLines (s!"Error: {outermost}" :: causeLines causes)

/-- The exit status of a command that fails. -/
def exitCode : Nat := 1

end CommandFailure

/-- What a command does on a session. -/
abbrev CommandAction := ExceptT CommandFailure (StateM Session)

namespace CommandAction

/-- The outcome of a command and the session after it. -/
def perform {α : Type} (action : CommandAction α) (session : Session) :
    Except CommandFailure α × Session :=
  StateT.run (ExceptT.run action) session

/-- A step that asks the file system. -/
def ask {α : Type} (step : CommandStep) (question : FileSystem → Except OsFault α) :
    CommandAction α := do
  match question (← get).files with
  | .ok answer => return answer
  | .error fault => throw (.refused step fault)

/-- An operation, in a step if it is part of one. -/
def during {α : Type} (step : Option CommandStep) (action : Action α) : CommandAction α :=
  ExceptT.adapt (.failed step) action

/-- A folder that is given, else the current directory. -/
def folderOrCurrent : Option Path → CommandAction Path
  | some folder => return folder
  | none => ask .currentDirectory (·.currentPath)

end CommandAction

open CommandAction

/-- **Scaffold a component**, or tell what would be done. -/
def NewOptions.run (host : ProcessHost) (options : NewOptions) : CommandAction String := do
  let target ← folderOrCurrent options.directory
  let searchRoot ← folderOrCurrent options.root
  let config ← during (some .configuration) (Config.discover searchRoot)
  let scaffolder : Scaffolder := ⟨config, (CommandGenerator.ofConfig config).toGenerator host⟩
  let request : Request := ⟨options.kind, options.name, target, searchRoot, options.viewModel⟩
  if options.dryRun then
    let plan ← during (some (.plan options.kind options.name)) (scaffolder.plan request)
    return plan.display
  let report ← during (some (.scaffold options.kind options.name)) (scaffolder.scaffold request)
  return report.display

/-- **Tell the namespaces** of a component. -/
def NamespaceOptions.run (options : NamespaceOptions) : CommandAction String := do
  if !isComponentName options.name then throw (.notAClassName options.name)
  let start ← folderOrCurrent options.root
  let searchRoot ← ask .searchRoot (·.canonical start)
  let target ← ask (.folder options.folder) (·.canonical options.folder)
  let config ← during (some .configuration) (Config.discover searchRoot)
  let root ← during none (locateRoot config.markers searchRoot)
  let namespaces ←
    during none (Action.lift ((root.namespaceOf target options.name).mapError .namespace))
  if options.json then return ofLines [(namespacesJson root namespaces).pretty]
  return ofLines (namespaceLines root namespaces)

/-- **Write the usual configuration** to a folder. One that is there is left alone unless it may be
overwritten, and that is no failure. -/
def InitOptions.run (options : InitOptions) : CommandAction String := do
  let folder ← folderOrCurrent options.folder
  let folder ← ask .configFolder (·.canonical folder)
  let path := folder.child configFileName
  if (← get).files.exists? path && !options.force then
    return ofLines [s!"❌ Config already exists at: {path}", "   Use --force to overwrite"]
  during (some (.writeConfig path)) (Config.standard.save path)
  return ofLines [s!"✅ Created config: {path}", "",
    "📌 Adjust the view-model settings to match your project:",
    "   base_class_file, views_folder, view_models_folder, view_model_suffix"]

/-- **What a command prints.** -/
def Subcommand.run (host : ProcessHost) : Subcommand → CommandAction String
  | .new options => options.run host
  | .namespace options => options.run
  | .init options => options.run

end ComponentScaffold
