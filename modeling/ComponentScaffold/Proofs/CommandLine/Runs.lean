import ComponentScaffold.Proofs.CommandLine.Answers
import ComponentScaffold.Proofs.Scaffold.Effect
import ComponentScaffold.Shell.Host

/-! # Commands that are run one after another

What is proved of scaffolding asks for a well-formed file system and for a generator that leaves it so. The program's
own host does, and so does every command that is run on it, whether or not it fails. So what is proved of one
command holds of each in a row of them.

* **`Shell.host_keepsForm`** — the host leaves file systems well-formed, whatever scripts do.
* **`Subcommand.run_keepsForm`** — a command leaves them well-formed.
* **`Subcommand.runInTurn_wellFormed`** — a row of commands does.
* **`Shell.systemFiles_wellFormed`** — the first of them finds a well-formed one. -/

namespace ComponentScaffold

open ComponentScaffold.Action

/-! ## Hosts -/

/-- **A host that leaves file systems well-formed**, whatever it runs. -/
def ProcessHost.KeepsForm (host : ProcessHost) : Prop :=
  ∀ earlier command fs, fs.WellFormed → (host earlier command fs).2.WellFormed

/-- A generator that runs a program leaves file systems well-formed if its host does. -/
theorem CommandGenerator.toGenerator_keepsForm {host : ProcessHost} (hhost : host.KeepsForm)
    (generator : CommandGenerator) : (generator.toGenerator host).KeepsForm := by
  intro invocation fs hfs
  have hfirst := hhost [] (generator.command invocation) fs hfs
  simp only [toGenerator, generate]
  split
  case h_1 => exact hfirst
  case h_2 =>
    split
    case isTrue => exact hfirst
    case isFalse => exact hhost _ _ _ hfirst

/-- **The program's host leaves file systems well-formed**, since its scripts work on disks. -/
theorem Shell.host_keepsForm : Shell.host.KeepsForm := by
  intro _ command fs hfs
  rw [host, dif_pos hfs]
  exact (runOn command ⟨fs, hfs⟩).2.wellFormed

/-! ## Commands -/

namespace CommandAction

variable {α β : Type}

/-- **A command that leaves file systems well-formed**, also where it fails. -/
def KeepsForm (action : CommandAction α) : Prop :=
  ∀ session, session.files.WellFormed → (action.perform session).2.files.WellFormed

/-- Who only asks changes no file system. -/
theorem Computes.keepsForm {answer : FileSystem → Except CommandFailure α} {action : CommandAction α}
    (h : Computes answer action) : KeepsForm action := by
  intro session hfs
  obtain ⟨records, hperform⟩ := h session
  rwa [hperform]

/-- An operation in a step leaves a file system as the operation does. -/
theorem KeepsForm.during {action : Action α} (step : Option CommandStep)
    (h : ∀ session, session.files.WellFormed → (action.perform session).2.files.WellFormed) :
    KeepsForm (CommandAction.during step action) := h

/-- One step after another keeps the form that each of them keeps. -/
theorem KeepsForm.bind {action : CommandAction α} {next : α → CommandAction β} (h : KeepsForm action)
    (hnext : ∀ value, KeepsForm (next value)) : KeepsForm (action >>= next) := by
  intro session hfs
  have hfirst := h session hfs
  rw [perform_bind]
  split
  case h_1 value after heq =>
    rw [heq] at hfirst
    exact hnext value after hfirst
  case h_2 failure after heq =>
    rw [heq] at hfirst
    exact hfirst

/-- What follows a question needs to keep the form for its answers only. -/
theorem KeepsForm.ask_bind {step : CommandStep} {question : FileSystem → Except OsFault α}
    {next : α → CommandAction β}
    (hnext : ∀ fs answer, question fs = .ok answer → KeepsForm (next answer)) :
    KeepsForm (ask step question >>= next) := by
  intro session hfs
  rw [perform_bind, perform_ask]
  cases hanswer : question session.files with
  | ok answer => exact hnext _ answer hanswer session hfs
  | error fault => exact hfs

end CommandAction

open CommandAction (KeepsForm)

/-- A component is scaffolded, or its plan is shown, in a file system that stays well-formed. -/
theorem NewOptions.run_keepsForm {host : ProcessHost} (hhost : host.KeepsForm) (options : NewOptions) :
    KeepsForm (options.run host) := by
  refine (FileSystem.folderOrCurrent_computes _).keepsForm.bind fun target =>
    (FileSystem.folderOrCurrent_computes _).keepsForm.bind fun searchRoot =>
    (CommandAction.Computes.during _ (FileSystem.discover_computes searchRoot)).keepsForm.bind fun config => ?_
  split
  case isTrue =>
    exact (CommandAction.Computes.during _ (Scaffolder.plan_computes _ _)).keepsForm.bind fun _ =>
      (CommandAction.Computes.pure _).keepsForm
  case isFalse =>
    have hgenerator := (CommandGenerator.ofConfig config).toGenerator_keepsForm hhost
    exact (KeepsForm.during _ fun _ hfs => Scaffolder.scaffold_keepsForm hfs hgenerator).bind fun _ =>
      (CommandAction.Computes.pure _).keepsForm

/-- A configuration is written in a file system that stays well-formed. -/
theorem InitOptions.run_keepsForm (options : InitOptions) : KeepsForm options.run := by
  refine (FileSystem.folderOrCurrent_computes _).keepsForm.bind fun folder =>
    .ask_bind fun fs folder hfolder => ?_
  -- the path without detours is absolute, and so is that of the file in it
  obtain ⟨-, place, -, -, rfl⟩ := FileSystem.canonical_eq_ok_iff.1 hfolder
  have habs : ((Path.ofLocation place).child configFileName).isAbsolute = true :=
    Path.isAbsolute_child (Path.isAbsolute_ofLocation place) _
  have hget : KeepsForm (get : CommandAction Session) := fun _ hfs => hfs
  refine hget.bind fun _ => ?_
  split
  case isTrue => exact (CommandAction.Computes.pure _).keepsForm
  case isFalse =>
    refine (KeepsForm.during _ fun session hfs => ?_).bind fun _ => (CommandAction.Computes.pure _).keepsForm
    exact ((Moves.writeText _ _ session).1.wellFormed_growsTo hfs habs).1

/-- **A command leaves file systems well-formed**, also where it fails. -/
theorem Subcommand.run_keepsForm {host : ProcessHost} (hhost : host.KeepsForm) (subcommand : Subcommand) :
    KeepsForm (subcommand.run host) := by
  match subcommand with
  | .new options => exact options.run_keepsForm hhost
  | .namespace options => exact options.run_computes.keepsForm
  | .init options => exact options.run_keepsForm

/-- **Run commands one after another**, each where the one before it stopped. -/
def Subcommand.runInTurn (host : ProcessHost) (subcommands : List Subcommand) (session : Session) : Session :=
  subcommands.foldl (fun session subcommand => ((subcommand.run host).perform session).2) session

/-- **A row of commands leaves a file system well-formed**, so that each of them finds one. -/
theorem Subcommand.runInTurn_wellFormed {host : ProcessHost} (hhost : host.KeepsForm)
    (subcommands : List Subcommand) {session : Session} (hfs : session.files.WellFormed) :
    (runInTurn host subcommands session).files.WellFormed := by
  induction subcommands generalizing session with
  | nil => exact hfs
  | cons subcommand rest ih => exact ih (subcommand.run_keepsForm hhost session hfs)

/-! ## The system -/

namespace Shell

/-- What is found where entries were put one after another, the last one first. -/
theorem lookup_foldr_add (entries : List (Location × Entry × Nat)) (start : FileSystem) (now : Time)
    (hplaces : ∀ held ∈ entries, held.1 ≠ []) (place : Location) :
    (entries.foldr (fun (place, entry, mode) files => files.add place ⟨entry, mode, now⟩) start).lookup place =
      ((entries.map fun held => (held.1, held.2.1)).lookup place).or (start.lookup place) := by
  induction entries with
  | nil => rfl
  | cons held rest ih =>
    rw [List.foldr_cons, FileSystem.lookup_add _ (hplaces held List.mem_cons_self),
      ih fun other hother => hplaces other (List.mem_cons_of_mem _ hother), List.map_cons, List.lookup_cons]
    by_cases hplace : place = held.1
    · simp [hplace]
    · have hne : (place == held.1) = false := by simpa using hplace
      rw [if_neg hplace, hne]

/-- What is installed is in a directory of the system or in the root, under a proper name. -/
private theorem installation_inFolders : ∀ held ∈ installation, held.1 ≠ [] ∧
    (held.1.dropLast = [] ∨ held.1.dropLast ∈ systemFolders) ∧
      ∀ name ∈ held.1.getLast?, FileSystem.IsEntryName name := by decide +kernel

/-- The directories of the system are installed. -/
private theorem lookup_systemFolders : ∀ folder ∈ systemFolders, folder ≠ [] ∧
    (installation.map fun held => (held.1, held.2.1)).lookup folder = some .directory := by decide +kernel

/-- **The file system that sessions start from is well-formed.** -/
theorem systemFiles_wellFormed (now : Time) : (systemFiles now).WellFormed := by
  have hlookup {place : Location} (hplace : place ≠ []) : (systemFiles now).lookup place =
      (installation.map fun held => (held.1, held.2.1)).lookup place := by
    have hempty : (FileSystem.empty now 0o022).lookup place = none := by simp [FileSystem.lookup, hplace]; rfl
    rw [systemFiles, lookup_foldr_add _ _ _ fun held hheld => (installation_inFolders held hheld).1, hempty,
      Option.or_none]
  have hplaces {place : Location} {name : String} {entry : Entry}
      (hentry : (systemFiles now).lookup (place ++ [name]) = some entry) :
      (systemFiles now).lookup place = some .directory ∧ FileSystem.IsEntryName name := by
    rw [hlookup (by simp)] at hentry
    obtain ⟨front, back, hinstalled, -⟩ := List.lookup_eq_some_iff.1 hentry
    obtain ⟨held, hheld, hpair⟩ := List.mem_map.1 (hinstalled ▸ List.mem_append_right front List.mem_cons_self)
    obtain ⟨-, hfolder, hname⟩ := installation_inFolders held hheld
    rw [(Prod.mk.inj hpair).1] at hfolder hname
    refine ⟨?_, hname name (by simp)⟩
    rw [List.dropLast_concat] at hfolder
    rcases hfolder with rfl | hfolder
    · exact FileSystem.lookup_root _
    · obtain ⟨hroot, hthere⟩ := lookup_systemFolders place hfolder
      rw [hlookup hroot, hthere]
  exact ⟨fun _ _ _ hentry => (hplaces hentry).1, fun _ _ _ hentry => (hplaces hentry).2⟩

/-- **Whatever commands are run** where only the system is, the file system stays well-formed. -/
theorem runInTurn_systemFiles_wellFormed (now : Time) (subcommands : List Subcommand) :
    (Subcommand.runInTurn host subcommands ⟨systemFiles now, [], []⟩).files.WellFormed :=
  Subcommand.runInTurn_wellFormed host_keepsForm subcommands (systemFiles_wellFormed now)

end Shell

end ComponentScaffold
