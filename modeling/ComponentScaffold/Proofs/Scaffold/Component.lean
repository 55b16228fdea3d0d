import ComponentScaffold.Proofs.Scaffold.Planning
import ComponentScaffold.Proofs.Scaffold.ViewModel

/-! # The component and its view-model

Scaffolding comes in two parts: first all that is done for the component, then the view-model, which never
makes it fail.

* **`Scaffolder.component`** — the first part, up to the namespaces in the generated files.
* **`Scaffolder.perform_scaffold`** — the first part decides whether scaffolding succeeds.
* **`Scaffolder.CarriesOut`** — how far the first part gets, with what it comes to.
* **`Scaffolder.component_ok`** — what the first part goes through. -/

namespace ComponentScaffold

open ComponentScaffold.Action

/-- **The file system that a generator leaves**, seen from where it was asked. -/
def Generator.leaves (generator : Generator) (invocation : Invocation) (fs : FileSystem) : FileSystem :=
  { (generator.perform invocation fs).files with standing := fs.standing }

/-- A generator does not look at what was reported. -/
theorem Generator.invoke_ignoresRecords (generator : Generator) (invocation : Invocation) :
    IgnoresRecords (generator.invoke invocation) := by
  rintro ⟨files, records, invocations⟩ ⟨files', records', invocations'⟩ hfiles
  obtain rfl : files = files' := hfiles
  exact ⟨rfl, rfl⟩

namespace Scaffolder

/-- What a generator is asked for by a request. -/
def invocation (request : Request) (plan : Plan) : Invocation :=
  ⟨request.kind.template, request.name, plan.target⟩

/-- What is done for a component by its plan. -/
def carryOut (scaffolder : Scaffolder) (request : Request) (plan : Plan) :
    Action (GeneratorOutput × List Path) := do
  Action.makeDirectories plan.target
  let output ← scaffolder.generator.invoke (invocation request plan)
  let updated ←
    setNamespaces plan.target plan.namespaces (request.kind.generatedFiles request.name)
  return (output, updated)

/-- **What is done for a component**, before its view-model. -/
def component (scaffolder : Scaffolder) (request : Request) :
    Action (Plan × GeneratorOutput × List Path) := do
  let plan ← scaffolder.plan request
  let (output, updated) ← scaffolder.carryOut request plan
  return (plan, output, updated)

/-- What is done for the view-model of a component, and reported of both. -/
def finish (scaffolder : Scaffolder) (plan : Plan) (output : GeneratorOutput) (updated : List Path) :
    Action ScaffoldReport := do
  let (viewModel, viewModelFailure) ←
    match plan.viewModel with
    | none => pure (none, none)
    | some viewModelPlan =>
      match (← tryViewModel scaffolder.config.baseClassFile viewModelPlan) with
      | .ok report => pure (some report, none)
      | .error failure => pure (none, some failure)
  return ⟨plan.root, plan.namespaces, output, updated, viewModel, viewModelFailure⟩

/-- Scaffolding is the one part after the other. -/
theorem scaffold_eq (scaffolder : Scaffolder) (request : Request) :
    scaffolder.scaffold request =
      scaffolder.component request >>= fun (plan, output, updated) => scaffolder.finish plan output updated := by
  unfold scaffold component carryOut finish invocation
  simp only [bind_assoc]
  refine bind_congr fun plan => bind_congr fun _ => bind_congr fun output => bind_congr fun updated => ?_
  exact ((pure_bind _ _).trans (pure_bind _ _)).symm

/-- **What a plan does for a view-model** to the file system, however far it comes. -/
def Furnishes (plan : Plan) (before after : FileSystem) : Prop :=
  match plan.viewModel with
  | none => after = before
  | some viewModel => viewModel.Furnishes before after

/-- A view-model that is tried is one that is created, and a failure is its outcome. -/
theorem perform_tryViewModel (baseFile : String) (plan : ViewModelPlan) (session : Session) :
    ∃ after, (tryViewModel baseFile plan).perform session =
        (.ok ((createViewModel baseFile plan).perform session).1, after) ∧
      after.files = ((createViewModel baseFile plan).perform session).2.files ∧
      after.invocations = ((createViewModel baseFile plan).perform session).2.invocations := by
  cases hcreate : (createViewModel baseFile plan).perform session with
  | mk outcome created =>
    have hattempt : (Action.attempt (createViewModel baseFile plan)).perform session =
        (.ok outcome, created) := by rw [perform_attempt, hcreate]
    rw [tryViewModel, perform_bind_of_ok hattempt]
    cases outcome with
    | ok report => exact ⟨created, rfl, rfl, rfl⟩
    | error failure => exact ⟨_, rfl, rfl, rfl⟩

/-- **The view-model never fails**, and the report says of the component what was done for it. -/
theorem perform_finish (scaffolder : Scaffolder) (plan : Plan) (output : GeneratorOutput)
    (updated : List Path) (session : Session) :
    ∃ report after, (scaffolder.finish plan output updated).perform session = (.ok report, after) ∧
      (report.root = plan.root ∧ report.namespaces = plan.namespaces ∧ report.output = output ∧
        report.updated = updated) ∧
      Furnishes plan session.files after.files ∧ after.invocations = session.invocations := by
  unfold finish Furnishes
  cases plan.viewModel with
  | none => exact ⟨_, session, rfl, ⟨rfl, rfl, rfl, rfl⟩, rfl, rfl⟩
  | some viewModel =>
    obtain ⟨after, hperform, hfiles, hinvocations⟩ :=
      perform_tryViewModel scaffolder.config.baseClassFile viewModel session
    obtain ⟨hfurnishes, hcreated⟩ := createViewModel_furnishes scaffolder.config.baseClassFile viewModel session
    rw [← hfiles] at hfurnishes
    rw [← hinvocations] at hcreated
    rw [perform_bind_of_ok hperform]
    cases ((createViewModel scaffolder.config.baseClassFile viewModel).perform session).1 with
    | ok report => exact ⟨_, after, rfl, ⟨rfl, rfl, rfl, rfl⟩, hfurnishes, hcreated⟩
    | error failure => exact ⟨_, after, rfl, ⟨rfl, rfl, rfl, rfl⟩, hfurnishes, hcreated⟩

/-- **What is reported of the view-model**: nothing where none is planned, and else what creating it came to. -/
theorem finish_ok {scaffolder : Scaffolder} {plan : Plan} {output : GeneratorOutput} {updated : List Path}
    {session after : Session} {report : ScaffoldReport}
    (h : (scaffolder.finish plan output updated).perform session = (.ok report, after)) :
    (plan.viewModel = none ∧ report.viewModel = none ∧ report.viewModelFailure = none) ∨
      ∃ viewModel outcome created, plan.viewModel = some viewModel ∧
        (createViewModel scaffolder.config.baseClassFile viewModel).perform session = (outcome, created) ∧
        after.files = created.files ∧
        report.viewModel = outcome.toOption ∧
        ∀ failure, report.viewModelFailure = some failure ↔ outcome = .error failure := by
  unfold finish at h
  cases hplan : plan.viewModel with
  | none =>
    rw [hplan] at h
    obtain rfl := Except.ok.inj (Prod.mk.inj h).1
    exact .inl ⟨rfl, rfl, rfl⟩
  | some viewModel =>
    obtain ⟨tried, htry, hfiles, -⟩ := perform_tryViewModel scaffolder.config.baseClassFile viewModel session
    rw [hplan] at h
    simp only at h
    cases hcreate : (createViewModel scaffolder.config.baseClassFile viewModel).perform session with
    | mk outcome created =>
      rw [hcreate] at htry hfiles
      rw [perform_bind_of_ok htry] at h
      refine .inr ⟨viewModel, outcome, created, rfl, hcreate, ?_⟩
      cases outcome with
      | ok _ | error _ =>
        obtain ⟨hreport, rfl⟩ := Prod.mk.inj h
        obtain rfl := Except.ok.inj hreport
        exact ⟨hfiles, rfl, by simp⟩

/-- **Scaffolding succeeds exactly if the component does**, and reports it. -/
theorem perform_scaffold (scaffolder : Scaffolder) (request : Request) (session : Session) :
    (∃ plan output updated settled report after,
        (scaffolder.component request).perform session = (.ok (plan, output, updated), settled) ∧
        (scaffolder.scaffold request).perform session = (.ok report, after) ∧
        (report.root = plan.root ∧ report.namespaces = plan.namespaces ∧ report.output = output ∧
          report.updated = updated) ∧
        Furnishes plan settled.files after.files ∧ after.invocations = settled.invocations) ∨
      ∃ failure settled, (scaffolder.component request).perform session = (.error failure, settled) ∧
        (scaffolder.scaffold request).perform session = (.error failure, settled) := by
  rw [scaffold_eq, perform_bind]
  cases hcomponent : (scaffolder.component request).perform session with
  | mk outcome settled =>
    cases outcome with
    | error failure => exact .inr ⟨failure, settled, rfl, rfl⟩
    | ok result =>
      obtain ⟨plan, output, updated⟩ := result
      obtain ⟨report, after, hfinish⟩ := scaffolder.perform_finish plan output updated settled
      exact .inl ⟨plan, output, updated, settled, report, after, rfl, hfinish⟩

/-- **A scaffolding that succeeded** did the component first, as it reports it, and then the view-model. -/
theorem scaffold_ok {scaffolder : Scaffolder} {request : Request} {session after : Session} {report : ScaffoldReport}
    (h : (scaffolder.scaffold request).perform session = (.ok report, after)) :
    ∃ plan settled,
      (scaffolder.component request).perform session = (.ok (plan, report.output, report.updated), settled) ∧
      (scaffolder.finish plan report.output report.updated).perform settled = (.ok report, after) := by
  rw [scaffold_eq] at h
  obtain ⟨⟨plan, output, updated⟩, settled, hcomponent, hfinish⟩ := perform_bind_ok h
  obtain ⟨report', after', hrun, ⟨-, -, rfl, rfl⟩, -⟩ := scaffolder.perform_finish plan output updated settled
  rw [hfinish, Prod.mk.injEq, Except.ok.injEq] at hrun
  obtain ⟨rfl, -⟩ := hrun
  exact ⟨plan, settled, hcomponent, hfinish⟩

/-! ## What the component goes through -/

/-- **A generator that ran** in the folder that was made for it. -/
structure Generates (scaffolder : Scaffolder) (request : Request) (plan : Plan) (session : Session)
    (made : FileSystem) (outcome : Except Failure GeneratorOutput) (left : Session) : Prop where
  /-- The folder was made. -/
  makes : session.files.makeDirectories plan.target = (made, .ok ())
  /-- This is what came of it. -/
  answers : (scaffolder.generator.perform (invocation request plan) made).outcome = outcome
  /-- These are the files it left. -/
  leaves : left.files = scaffolder.generator.leaves (invocation request plan) made
  /-- It was asked for once. -/
  asked : left.invocations = session.invocations ++ [invocation request plan]

/-- **What carrying out a plan comes to**, by how far it gets. -/
inductive CarriesOut (scaffolder : Scaffolder) (request : Request) (plan : Plan) (session : Session) :
    Except Failure (GeneratorOutput × List Path) → Session → Prop
  /-- The folder cannot be made. -/
  | noFolder {made fault} : session.files.makeDirectories plan.target = (made, .error fault) →
    CarriesOut scaffolder request plan session (.error (.io (.system fault))) { session with files := made }
  /-- The generator fails. -/
  | notGenerated {made failure left} : scaffolder.Generates request plan session made (.error failure) left →
    CarriesOut scaffolder request plan session (.error failure) left
  /-- A namespace cannot be written into what it left. -/
  | unfilled {made output left failure after} : scaffolder.Generates request plan session made (.ok output) left →
    (setNamespaces plan.target plan.namespaces (request.kind.generatedFiles request.name)).perform left =
      (.error failure, after) →
    CarriesOut scaffolder request plan session (.error failure) after
  /-- All namespaces are written. -/
  | done {made output left updated after} : scaffolder.Generates request plan session made (.ok output) left →
    (setNamespaces plan.target plan.namespaces (request.kind.generatedFiles request.name)).perform left =
      (.ok updated, after) →
    CarriesOut scaffolder request plan session (.ok (output, updated)) after

/-- **Carrying out a plan** comes to one of these ends. -/
theorem carriesOut_of_carryOut {scaffolder : Scaffolder} {request : Request} {plan : Plan} {session after : Session}
    {outcome : Except Failure (GeneratorOutput × List Path)}
    (h : (scaffolder.carryOut request plan).perform session = (outcome, after)) :
    scaffolder.CarriesOut request plan session outcome after := by
  -- each of the three stages ends the run or hands its session to the next
  have hperform := perform_makeDirectories plan.target session
  cases hmake : session.files.makeDirectories plan.target with
  | mk made result =>
    rw [hmake] at hperform
    cases result with
    | error fault =>
      rw [carryOut, perform_bind_of_error hperform] at h
      obtain ⟨rfl, rfl⟩ := Prod.mk.inj h
      exact .noFolder hmake
    | ok =>
      rw [carryOut, perform_bind_of_ok hperform] at h
      cases hasked : (scaffolder.generator.invoke (invocation request plan)).perform
          { session with files := made } with
      | mk asked left =>
        obtain ⟨houtcome, hleft⟩ := Prod.mk.inj hasked
        have hgenerates : scaffolder.Generates request plan session made asked left :=
          ⟨hmake, houtcome, hleft ▸ rfl, hleft ▸ rfl⟩
        cases asked with
        | error failure =>
          rw [perform_bind_of_error hasked] at h
          obtain ⟨rfl, rfl⟩ := Prod.mk.inj h
          exact .notGenerated hgenerates
        | ok output =>
          rw [perform_bind_of_ok hasked] at h
          cases hset : (setNamespaces plan.target plan.namespaces
              (request.kind.generatedFiles request.name)).perform left with
          | mk written settled =>
            cases written with
            | error failure =>
              rw [perform_bind_of_error hset] at h
              obtain ⟨rfl, rfl⟩ := Prod.mk.inj h
              exact .unfilled hgenerates hset
            | ok updated =>
              rw [perform_bind_of_ok hset] at h
              obtain ⟨rfl, rfl⟩ := Prod.mk.inj h
              exact .done hgenerates hset

/-- **A component that was carried out**: the folder was made, the generator succeeded, and the namespaces
were written into what it left. -/
theorem carryOut_ok {scaffolder : Scaffolder} {request : Request} {plan : Plan} {session settled : Session}
    {output : GeneratorOutput} {updated : List Path}
    (h : (scaffolder.carryOut request plan).perform session = (.ok (output, updated), settled)) :
    ∃ left : Session,
      left.files = scaffolder.generator.leaves (invocation request plan)
        (session.files.makeDirectories plan.target).1 ∧
      left.invocations = session.invocations ++ [invocation request plan] ∧
      (setNamespaces plan.target plan.namespaces (request.kind.generatedFiles request.name)).perform left =
        (.ok updated, settled) := by
  cases carriesOut_of_carryOut h with
  | done hgenerates hset => exact ⟨_, hgenerates.makes ▸ hgenerates.leaves, hgenerates.asked, hset⟩

/-- What the component is made of is planned first. -/
theorem component_ok {scaffolder : Scaffolder} {request : Request} {session settled : Session} {plan : Plan}
    {output : GeneratorOutput} {updated : List Path}
    (h : (scaffolder.component request).perform session = (.ok (plan, output, updated), settled)) :
    scaffolder.planned request session.files = .ok plan ∧
      ∃ records, (scaffolder.carryOut request plan).perform { session with records := records } =
        (.ok (output, updated), settled) := by
  obtain ⟨records, hplan⟩ := scaffolder.plan_computes request session
  obtain ⟨plan', planned, hplanned, hrest⟩ := perform_bind_ok h
  rw [hplan, Prod.mk.injEq] at hplanned
  obtain ⟨hplanned, rfl⟩ := hplanned
  obtain ⟨⟨output', updated'⟩, settled', hcarry, hdone⟩ := perform_bind_ok hrest
  rw [perform_pure, Prod.mk.injEq, Except.ok.injEq, Prod.mk.injEq, Prod.mk.injEq] at hdone
  obtain ⟨⟨rfl, rfl, rfl⟩, rfl⟩ := hdone
  exact ⟨hplanned, records, hcarry⟩

/-- Carrying out a plan does not look at what was reported. -/
theorem carryOut_ignoresRecords (scaffolder : Scaffolder) (request : Request) (plan : Plan) :
    IgnoresRecords (scaffolder.carryOut request plan) := by
  refine (IgnoresRecords.makeDirectories _).bind fun _ => ?_
  refine (Generator.invoke_ignoresRecords _ _).bind fun output => ?_
  exact (setNamespaces_ignoresRecords _ _ _).bind fun updated => (Computes.pure _).ignoresRecords

/-- What is done for a view-model does not look at what was reported. -/
theorem finish_ignoresRecords (scaffolder : Scaffolder) (plan : Plan) (output : GeneratorOutput)
    (updated : List Path) : IgnoresRecords (scaffolder.finish plan output updated) := by
  unfold finish
  cases plan.viewModel with
  | none => exact (Computes.pure _).ignoresRecords
  | some viewModel =>
    have htry : IgnoresRecords (tryViewModel scaffolder.config.baseClassFile viewModel) := by
      refine (createViewModel_ignoresRecords _ _).attempt.bind fun outcome => ?_
      cases outcome with
      | ok report => exact (Computes.pure _).ignoresRecords
      | error failure =>
        exact (Computes.report _ _ _).ignoresRecords.bind fun _ => (Computes.pure _).ignoresRecords
    refine htry.bind fun outcome => ?_
    cases outcome <;> exact (Computes.pure _).ignoresRecords

/-- **A component is what its plan comes to**, whatever was reported before: it has the same outcome and leaves
the same files. -/
theorem component_of_planned {scaffolder : Scaffolder} {request : Request} {session : Session} {plan : Plan}
    (h : scaffolder.planned request session.files = .ok plan) :
    ∃ settled, (scaffolder.component request).perform session =
        (((scaffolder.carryOut request plan).perform session).1.map (plan, ·), settled) ∧
      settled.files = ((scaffolder.carryOut request plan).perform session).2.files := by
  obtain ⟨records, hplanned⟩ := scaffolder.plan_computes request session
  rw [h] at hplanned
  obtain ⟨houtcome, hfiles⟩ :=
    scaffolder.carryOut_ignoresRecords request plan { session with records := records } session rfl
  rw [component, perform_bind_of_ok hplanned, perform_bind, ← houtcome, ← hfiles]
  cases (scaffolder.carryOut request plan).perform { session with records := records } with
  | mk outcome settled => cases outcome <;> exact ⟨settled, rfl, rfl⟩

/-- A scaffolding whose plan is carried out succeeds, and comes to what the view-model comes to. -/
theorem scaffold_of_carryOut {scaffolder : Scaffolder} {request : Request} {session carried : Session}
    {plan : Plan} {output : GeneratorOutput} {updated : List Path}
    (h : scaffolder.planned request session.files = .ok plan)
    (hcarry : (scaffolder.carryOut request plan).perform session = (.ok (output, updated), carried)) :
    ∃ settled report after,
      (scaffolder.component request).perform session = (.ok (plan, output, updated), settled) ∧
      settled.files = carried.files ∧
      (scaffolder.scaffold request).perform session = (.ok report, after) ∧
      ((scaffolder.finish plan output updated).perform carried).1 = .ok report ∧
      after.files = ((scaffolder.finish plan output updated).perform carried).2.files := by
  obtain ⟨settled, hcomponent, hsettled⟩ := component_of_planned h
  rw [hcarry] at hcomponent hsettled
  obtain ⟨report, after, hfinish, -⟩ := scaffolder.perform_finish plan output updated settled
  obtain ⟨houtcome, hfiles⟩ := scaffolder.finish_ignoresRecords plan output updated settled carried hsettled
  rw [hfinish] at houtcome hfiles
  refine ⟨settled, report, after, hcomponent, hsettled, ?_, houtcome.symm, hfiles⟩
  rw [scaffold_eq, perform_bind_of_ok hcomponent]
  exact hfinish

/-- A scaffolding whose plan cannot be carried out fails. -/
theorem scaffold_of_carryOut_error {scaffolder : Scaffolder} {request : Request} {session : Session} {plan : Plan}
    {failure : Failure} (h : scaffolder.planned request session.files = .ok plan)
    (hcarry : ((scaffolder.carryOut request plan).perform session).1 = .error failure) :
    ∃ after, (scaffolder.scaffold request).perform session = (.error failure, after) := by
  obtain ⟨settled, hcomponent, -⟩ := component_of_planned h
  rw [hcarry] at hcomponent
  exact ⟨settled, by rw [scaffold_eq, perform_bind_of_error hcomponent]⟩

end Scaffolder

end ComponentScaffold
