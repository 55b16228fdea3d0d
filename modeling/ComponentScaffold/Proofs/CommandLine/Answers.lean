import ComponentScaffold.CommandLine.Run
import ComponentScaffold.Proofs.Config.Nearest
import ComponentScaffold.Proofs.Scaffold.Planning

/-! # Commands that only ask

A dry run and the command that tells namespaces change nothing. What they print follows from the file system
alone.

* **`CommandAction.Computes`** — a command that only asks, with its answer.
* **`NewOptions.planned`**, **`NewOptions.run_computes`** — the plan that a dry run shows.
* **`NamespaceOptions.answer`**, **`NamespaceOptions.run_computes`** — the root and the namespaces that are
  told. -/

namespace ComponentScaffold

namespace CommandAction

variable {α β : Type}

/-- One step after another: the second starts from the session that the first leaves. -/
theorem perform_bind (action : CommandAction α) (next : α → CommandAction β) (session : Session) :
    (action >>= next).perform session =
      match action.perform session with
      | (.ok value, after) => (next value).perform after
      | (.error failure, after) => (.error failure, after) := by
  simp only [perform, bind, ExceptT.bind, ExceptT.mk, ExceptT.run, StateT.run, StateT.bind]
  cases h : action session with
  | mk outcome after => cases outcome <;> rfl

/-- A question leaves the session alone. -/
theorem perform_ask (step : CommandStep) (question : FileSystem → Except OsFault α) (session : Session) :
    (ask step question).perform session =
      ((question session.files).mapError (.refused step), session) := by
  have hget : (get : CommandAction Session).perform session = (.ok session, session) := rfl
  rw [ask, perform_bind, hget]
  cases h : question session.files with
  | ok answer =>
    simp only [h]
    rfl
  | error fault =>
    simp only [h]
    rfl

/-- An operation in a step does what it does, and its failure is one of the step. -/
theorem perform_during (step : Option CommandStep) (action : Action α) (session : Session) :
    (during step action).perform session =
      ((action.perform session).1.mapError (.failed step), (action.perform session).2) := rfl

/-- **A command that only asks**: its outcome is an answer that follows from the file system, and it leaves
everything as it was but what is reported. -/
def Computes (answer : FileSystem → Except CommandFailure α) (action : CommandAction α) : Prop :=
  ∀ session : Session, ∃ records,
    action.perform session = (answer session.files, { session with records := records })

namespace Computes

variable {action : CommandAction α} {answer : FileSystem → Except CommandFailure α}

theorem pure (value : α) : Computes (fun _ => .ok value) (pure value) := fun _ => ⟨_, rfl⟩

theorem throw (failure : CommandFailure) :
    Computes (fun _ => (.error failure : Except CommandFailure α)) (throw failure) := fun _ => ⟨_, rfl⟩

theorem ask (step : CommandStep) (question : FileSystem → Except OsFault α) :
    Computes (fun fs => (question fs).mapError (.refused step)) (ask step question) :=
  fun session => ⟨session.records, perform_ask step question session⟩

theorem during (step : Option CommandStep) {operation : Action α} {answer : FileSystem → Except Failure α}
    (h : Action.Computes answer operation) :
    Computes (fun fs => (answer fs).mapError (.failed step)) (during step operation) := by
  intro session
  obtain ⟨records, hrecords⟩ := h session
  exact ⟨records, by rw [perform_during, hrecords]⟩

/-- Who asks one thing after another only asks. -/
theorem bind {next : α → CommandAction β} {answer' : α → FileSystem → Except CommandFailure β}
    (h : Computes answer action) (hnext : ∀ value, Computes (answer' value) (next value)) :
    Computes (fun fs => answer fs >>= fun value => answer' value fs) (action >>= next) := by
  intro session
  obtain ⟨records, hfirst⟩ := h session
  rw [perform_bind, hfirst]
  cases hanswer : answer session.files with
  | error failure =>
    refine ⟨records, ?_⟩
    simp only [hanswer]
    rfl
  | ok value =>
    obtain ⟨records', hsecond⟩ := hnext value { session with records := records }
    refine ⟨records', ?_⟩
    simp only [hanswer]
    exact hsecond

end Computes

end CommandAction

/-! ## The folder -/

namespace FileSystem

/-- The folder that is given, else the current directory. -/
def folderOr (fs : FileSystem) : Option Path → Except CommandFailure Path
  | some folder => .ok folder
  | none => fs.currentPath.mapError (.refused .currentDirectory)

theorem folderOrCurrent_computes (folder? : Option Path) :
    CommandAction.Computes (·.folderOr folder?) (CommandAction.folderOrCurrent folder?) := by
  cases folder? with
  | some folder => exact .pure folder
  | none => exact .ask _ _

end FileSystem

/-! ## The two commands -/

/-- **The plan that a dry run shows.** -/
def NewOptions.planned (host : ProcessHost) (options : NewOptions) (fs : FileSystem) :
    Except CommandFailure Plan := do
  let target ← fs.folderOr options.directory
  let searchRoot ← fs.folderOr options.root
  let config ← (fs.configFor searchRoot).mapError (.failed (some .configuration))
  let scaffolder : Scaffolder := ⟨config, (CommandGenerator.ofConfig config).toGenerator host⟩
  (scaffolder.planned ⟨options.kind, options.name, target, searchRoot, options.viewModel⟩ fs).mapError
    (.failed (some (.plan options.kind options.name)))

/-- A dry run shows its plan. -/
theorem NewOptions.run_computes (host : ProcessHost) {options : NewOptions} (hdry : options.dryRun = true) :
    CommandAction.Computes (fun fs => options.planned host fs >>= fun plan => .ok plan.display)
      (options.run host) := by
  have hall := (FileSystem.folderOrCurrent_computes options.directory).bind fun target =>
    (FileSystem.folderOrCurrent_computes options.root).bind fun searchRoot =>
    (CommandAction.Computes.during (some .configuration) (FileSystem.discover_computes searchRoot)).bind
    fun config => (CommandAction.Computes.during (some (.plan options.kind options.name))
      (Scaffolder.plan_computes ⟨config, (CommandGenerator.ofConfig config).toGenerator host⟩
        ⟨options.kind, options.name, target, searchRoot, options.viewModel⟩)).bind
    fun plan => CommandAction.Computes.pure plan.display
  unfold run
  simp only [hdry, if_true]
  simpa only [planned, bind_assoc] using hall

/-- **The root and the namespaces that are told.** -/
def NamespaceOptions.answer (options : NamespaceOptions) (fs : FileSystem) :
    Except CommandFailure (ProjectRoot × NamespacePair) :=
  if isComponentName options.name then do
    let start ← fs.folderOr options.root
    let searchRoot ← (fs.canonical start).mapError (.refused .searchRoot)
    let target ← (fs.canonical options.folder).mapError (.refused (.folder options.folder))
    let config ← (fs.configFor searchRoot).mapError (.failed (some .configuration))
    let root ← (fs.located config.markers searchRoot).mapError (.failed none)
    let namespaces ← ((root.namespaceOf target options.name).mapError .namespace).mapError (.failed none)
    return (root, namespaces)
  else .error (.notAClassName options.name)

/-- How a root and namespaces are told. -/
def NamespaceOptions.told (options : NamespaceOptions) (root : ProjectRoot) (namespaces : NamespacePair) : String :=
  if options.json then ofLines [(namespacesJson root namespaces).pretty]
  else ofLines (namespaceLines root namespaces)

/-- The root and the namespaces are told as they are asked for. -/
theorem NamespaceOptions.run_computes (options : NamespaceOptions) :
    CommandAction.Computes
      (fun fs => options.answer fs >>= fun (root, namespaces) => .ok (options.told root namespaces))
      options.run := by
  have htold (root : ProjectRoot) (namespaces : NamespacePair) :
      CommandAction.Computes (fun _ => .ok (options.told root namespaces))
        (if options.json then return ofLines [(namespacesJson root namespaces).pretty]
          else return ofLines (namespaceLines root namespaces)) := by
    unfold NamespaceOptions.told
    split
    case isTrue => exact .pure _
    case isFalse => exact .pure _
  -- one question after the other, as they are asked
  have hall := (FileSystem.folderOrCurrent_computes options.root).bind fun start =>
    (CommandAction.Computes.ask .searchRoot (·.canonical start)).bind fun searchRoot =>
    (CommandAction.Computes.ask (.folder options.folder) (·.canonical options.folder)).bind fun target =>
    (CommandAction.Computes.during (some .configuration) (FileSystem.discover_computes searchRoot)).bind
    fun config => (CommandAction.Computes.during none
      (FileSystem.locateRoot_computes config.markers searchRoot)).bind fun root =>
    (CommandAction.Computes.during none (Action.Computes.lift
      ((root.namespaceOf target options.name).mapError .namespace))).bind fun namespaces =>
    htold root namespaces
  unfold run answer
  cases hname : isComponentName options.name with
  | false => exact .throw _
  | true =>
    simp only [Bool.not_true, Bool.false_eq_true, if_false, if_true, bind_assoc, pure_bind]
    exact hall

end ComponentScaffold
