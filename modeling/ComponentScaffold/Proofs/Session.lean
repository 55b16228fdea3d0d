import ComponentScaffold.Proofs.Text.Bytes
import ComponentScaffold.Session

/-! # Performing actions

What an action comes to on a session, read off its parts. A failure stops an action where it stands,
and the session keeps what was done until then.

* **`Action.perform_bind`** — one action after another.
* **`Action.perform_bind_ok`** — how two actions in a row succeed.
* **`Action.perform_attempt`** — a failure held as a value.
* **`Action.Computes`** — an action that only asks, with its answer.
* **`Action.Moves`** — how an action may change the file system, whether or not it fails.
* **`Action.IgnoresRecords`** — an action that does not look at what was reported. -/

namespace ComponentScaffold

/-- Two computations in a row succeed exactly if both do. -/
theorem bind_eq_ok_iff {ε α β : Type} {first : Except ε α} {next : α → Except ε β} {result : β} :
    (first >>= next) = .ok result ↔ ∃ value, first = .ok value ∧ next value = .ok result := by
  cases first with
  | error fault => simp [bind, Except.bind]
  | ok value => simp [bind, Except.bind]

@[simp] theorem mapError_ok {ε ε' α : Type} (f : ε → ε') (value : α) :
    (Except.ok value : Except ε α).mapError f = .ok value := rfl

@[simp] theorem mapError_error {ε ε' α : Type} (f : ε → ε') (failure : ε) :
    (Except.error failure : Except ε α).mapError f = .error (f failure) := rfl

/-- A failure in other words is still one. -/
theorem mapError_eq_ok_iff {ε ε' α : Type} {f : ε → ε'} {outcome : Except ε α} {value : α} :
    outcome.mapError f = .ok value ↔ outcome = .ok value := by
  cases outcome <;> simp

instance decidableEqExcept {ε α : Type} [DecidableEq ε] [DecidableEq α] : DecidableEq (Except ε α)
  | .ok value, .ok other => decidable_of_iff (value = other) (by simp)
  | .error fault, .error other => decidable_of_iff (fault = other) (by simp)
  | .ok _, .error _ => isFalse (by simp)
  | .error _, .ok _ => isFalse (by simp)

namespace Action

variable {α β : Type}

@[simp] theorem perform_pure (value : α) (session : Session) :
    (pure value : Action α).perform session = (.ok value, session) := rfl

@[simp] theorem perform_throw (failure : Failure) (session : Session) :
    (throw failure : Action α).perform session = (.error failure, session) := rfl

/-- One action after another: the second starts from the session that the first leaves. -/
theorem perform_bind (action : Action α) (next : α → Action β) (session : Session) :
    (action >>= next).perform session =
      match action.perform session with
      | (.ok value, after) => (next value).perform after
      | (.error failure, after) => (.error failure, after) := by
  simp only [perform, bind, ExceptT.bind, ExceptT.mk, ExceptT.run, StateT.run, StateT.bind]
  cases h : action session with
  | mk outcome after => cases outcome <;> rfl

/-- An action that succeeds hands its value and its session on. -/
theorem perform_bind_of_ok {action : Action α} {session after : Session} {value : α}
    (h : action.perform session = (.ok value, after)) (next : α → Action β) :
    (action >>= next).perform session = (next value).perform after := by
  rw [perform_bind, h]

/-- An action that fails lets no other follow. -/
theorem perform_bind_of_error {action : Action α} {session after : Session} {failure : Failure}
    (h : action.perform session = (.error failure, after)) (next : α → Action β) :
    (action >>= next).perform session = (.error failure, after) := by
  rw [perform_bind, h]

/-- Two actions in a row succeed only if both do. -/
theorem perform_bind_ok {action : Action α} {next : α → Action β} {session after : Session}
    {result : β} (h : (action >>= next).perform session = (.ok result, after)) :
    ∃ value between, action.perform session = (.ok value, between) ∧
      (next value).perform between = (.ok result, after) := by
  rw [perform_bind] at h
  split at h
  · exact ⟨_, _, by assumption, h⟩
  · cases h

/-- Two actions in a row fail if one does, the second after the first. -/
theorem perform_bind_error {action : Action α} {next : α → Action β} {session after : Session}
    {failure : Failure} (h : (action >>= next).perform session = (.error failure, after)) :
    action.perform session = (.error failure, after) ∨
      ∃ value between, action.perform session = (.ok value, between) ∧
        (next value).perform between = (.error failure, after) := by
  rw [perform_bind] at h
  split at h
  case h_1 value between hfirst => exact .inr ⟨value, between, hfirst, h⟩
  case h_2 failure' between hfirst =>
    obtain ⟨hfailure, rfl⟩ := Prod.mk.inj h
    exact .inl (hfirst.trans (by rw [Except.error.inj hfailure]))

@[simp] theorem perform_map (f : α → β) (action : Action α) (session : Session) :
    (f <$> action).perform session =
      ((action.perform session).1.map f, (action.perform session).2) := by
  rw [← bind_pure_comp, perform_bind]
  cases h : action.perform session with
  | mk outcome after => cases outcome <;> rfl

@[simp] theorem perform_files (session : Session) :
    files.perform session = (.ok session.files, session) := rfl

@[simp] theorem perform_putFiles (files : FileSystem) (session : Session) :
    (putFiles files).perform session = (.ok (), { session with files }) := rfl

@[simp] theorem perform_report (level : Level) (message : String) (fields : List (String × String))
    (session : Session) :
    (report level message fields).perform session =
      (.ok (), { session with records := session.records ++ [⟨level, message, fields⟩] }) := rfl

/-- A question leaves the session alone. -/
theorem perform_ask (question : FileSystem → Except OsFault α) (session : Session) :
    (ask question).perform session =
      ((question session.files).mapError fun fault => .io (.system fault), session) := by
  rw [ask, perform_bind, perform_files]
  cases h : question session.files with
  | ok answer => simp [h]
  | error fault => simp [h]

/-- A change that is refused leaves the session alone. -/
theorem perform_change (operation : FileSystem → Except OsFault FileSystem) (session : Session) :
    (change operation).perform session =
      match operation session.files with
      | .ok changed => (.ok (), { session with files := changed })
      | .error fault => (.error (.io (.system fault)), session) := by
  rw [change, perform_bind, perform_files]
  cases h : operation session.files <;> simp [h]

@[simp] theorem perform_lift (result : Except Failure α) (session : Session) :
    (lift result).perform session = (result, session) := by
  cases result <;> rfl

/-- Reading a text leaves the session alone. -/
theorem perform_readText_snd (path : Path) (session : Session) :
    ((readText path).perform session).2 = session := by
  rw [readText, perform_bind, perform_ask]
  cases session.files.readBytes path with
  | error fault => rfl
  | ok bytes => cases h : String.fromUTF8? bytes <;> simp [h]

/-- A text that is read is what the bytes of the file stand for. -/
theorem perform_readText_ok {path : Path} {session after : Session} {text : String}
    (h : (readText path).perform session = (.ok text, after)) :
    after = session ∧ session.files.readBytes path = .ok text.toUTF8 := by
  have hafter : after = session := by simpa [h] using perform_readText_snd path session
  refine ⟨hafter, ?_⟩
  rw [readText, perform_bind, perform_ask] at h
  cases hbytes : session.files.readBytes path with
  | error fault => simp [hbytes] at h
  | ok bytes =>
    cases htext : String.fromUTF8? bytes with
    | none => simp [hbytes, htext] at h
    | some read =>
      simp only [hbytes, htext, mapError_ok, perform_pure, Prod.mk.injEq, Except.ok.injEq] at h
      rw [← h.1, ← Text.fromUTF8?_eq_some_iff.1 htext]

/-- The text of a file is read. -/
theorem perform_readText_of_readBytes {path : Path} {session : Session} {text : String}
    (h : session.files.readBytes path = .ok text.toUTF8) :
    (readText path).perform session = (.ok text, session) := by
  rw [readText, perform_bind, perform_ask, h]
  simp only [mapError_ok]
  rw [Text.fromUTF8?_toUTF8, perform_pure]

/-- A text that cannot be read is in no file, or its bytes are not those of a text. -/
theorem perform_readText_error {path : Path} {session after : Session} {failure : Failure}
    (h : (readText path).perform session = (.error failure, after)) :
    after = session ∧
      ((∃ fault, session.files.readBytes path = .error fault ∧ failure = .io (.system fault)) ∨
        ∃ bytes, session.files.readBytes path = .ok bytes ∧ String.fromUTF8? bytes = none ∧
          failure = .io .notUtf8) := by
  refine ⟨by simpa [h] using perform_readText_snd path session, ?_⟩
  rw [readText, perform_bind, perform_ask] at h
  cases hbytes : session.files.readBytes path with
  | error fault =>
    rw [hbytes] at h
    exact .inl ⟨fault, rfl, (Except.error.inj (Prod.mk.inj h).1).symm⟩
  | ok bytes =>
    cases htext : String.fromUTF8? bytes with
    | none =>
      simp only [hbytes, htext, mapError_ok, perform_throw, Prod.mk.injEq, Except.error.injEq] at h
      exact .inr ⟨bytes, rfl, htext, h.1.symm⟩
    | some text => simp [hbytes, htext] at h

/-- An attempt succeeds with the outcome of what is attempted. -/
@[simp] theorem perform_attempt (action : Action α) (session : Session) :
    (attempt action).perform session =
      (.ok (action.perform session).1, (action.perform session).2) := rfl

/-- A text is written as its bytes. -/
theorem perform_writeText (path : Path) (text : String) (session : Session) :
    (writeText path text).perform session =
      match session.files.writeBytes path text.toUTF8 with
      | .ok changed => (.ok (), { session with files := changed })
      | .error fault => (.error (.io (.system fault)), session) := perform_change _ session

/-- A text that was written is all that changed. -/
theorem perform_writeText_ok {path : Path} {text : String} {session after : Session}
    (h : (writeText path text).perform session = (.ok (), after)) :
    session.files.writeBytes path text.toUTF8 = .ok after.files ∧ after.invocations = session.invocations := by
  rw [perform_writeText] at h
  split at h
  case h_1 changed hchanged =>
    obtain ⟨-, rfl⟩ := Prod.mk.inj h
    exact ⟨hchanged, rfl⟩
  case h_2 => cases (Prod.mk.inj h).1

/-- Directories that were made stay, whether or not all could be. -/
theorem perform_makeDirectories (path : Path) (session : Session) :
    (makeDirectories path).perform session =
      ((session.files.makeDirectories path).2.mapError fun fault => .io (.system fault),
        { session with files := (session.files.makeDirectories path).1 }) := by
  rw [makeDirectories, perform_bind_of_ok (perform_files session)]
  cases h : session.files.makeDirectories path with
  | mk made outcome =>
    rw [perform_bind_of_ok (perform_putFiles made session)]
    cases outcome <;> rfl

/-! ## Actions that only ask -/

/-- **An action that only asks**: its outcome is an answer that follows from the file system, and it leaves
everything as it was but what is reported. -/
def Computes (answer : FileSystem → Except Failure α) (action : Action α) : Prop :=
  ∀ session : Session, ∃ records,
    action.perform session = (answer session.files, { session with records := records })

namespace Computes

variable {action : Action α} {answer : FileSystem → Except Failure α}

theorem pure (value : α) : Computes (fun _ => .ok value) (pure value) := fun _ => ⟨_, rfl⟩

theorem throw (failure : Failure) :
    Computes (fun _ => (.error failure : Except Failure α)) (throw failure) := fun _ => ⟨_, rfl⟩

theorem files : Computes .ok files := fun _ => ⟨_, rfl⟩

theorem report (level : Level) (message : String) (fields : List (String × String)) :
    Computes (fun _ => .ok ()) (report level message fields) := fun _ => ⟨_, rfl⟩

theorem ask (question : FileSystem → Except OsFault α) :
    Computes (fun fs => (question fs).mapError fun fault => .io (.system fault)) (ask question) :=
  fun session => ⟨session.records, perform_ask question session⟩

theorem lift (result : Except Failure α) : Computes (fun _ => result) (lift result) :=
  fun session => ⟨session.records, perform_lift result session⟩

/-- Who asks one thing after another only asks. -/
theorem bind {next : α → Action β} {answer' : α → FileSystem → Except Failure β}
    (h : Computes answer action) (hnext : ∀ value, Computes (answer' value) (next value)) :
    Computes (fun fs => answer fs >>= fun value => answer' value fs) (action >>= next) := by
  intro session
  obtain ⟨records, hfirst⟩ := h session
  rw [perform_bind, hfirst]
  cases hanswer : answer session.files with
  | error failure =>
    refine ⟨records, ?_⟩
    simp only [hanswer]
    rfl
  | ok value =>
    obtain ⟨records', hsecond⟩ := hnext value { session with records := records }
    refine ⟨records', ?_⟩
    simp only [hanswer]
    exact hsecond

theorem map {f : α → β} (h : Computes answer action) : Computes (fun fs => (answer fs).map f) (f <$> action) := by
  intro session
  obtain ⟨records, hperform⟩ := h session
  exact ⟨records, by rw [perform_map, hperform]⟩

end Computes

/-- **The text of the file** that a path leads to. -/
def textIn (fs : FileSystem) (path : Path) : Except Failure String :=
  ((fs.readBytes path).mapError fun fault => Failure.io (.system fault)) >>= fun bytes =>
    (String.fromUTF8? bytes).elim (.error (.io .notUtf8)) .ok

/-- It is there if the file is read with its bytes. -/
theorem textIn_eq_ok_iff {fs : FileSystem} {path : Path} {text : String} :
    textIn fs path = .ok text ↔ fs.readBytes path = .ok text.toUTF8 := by
  simp only [textIn, bind_eq_ok_iff, mapError_eq_ok_iff]
  constructor
  · rintro ⟨bytes, hread, hfound⟩
    cases hdecoded : String.fromUTF8? bytes with
    | none => simp [hdecoded] at hfound
    | some text' =>
      simp only [hdecoded, Option.elim_some, Except.ok.injEq] at hfound
      rw [hread, Text.fromUTF8?_eq_some_iff.mp hdecoded, hfound]
  · intro hread
    refine ⟨_, hread, ?_⟩
    rw [Text.fromUTF8?_toUTF8, Option.elim_some]

/-- A text is read from the file system alone. -/
theorem readText_computes (path : Path) : Computes (textIn · path) (readText path) := by
  refine (Computes.ask _).bind fun bytes => ?_
  cases String.fromUTF8? bytes with
  | none => exact Computes.throw _
  | some text => exact Computes.pure text

/-! ## How an action changes the file system -/

/-- **An action that moves the file system** along a relation only, whether or not it fails, and asks no
generator. -/
def Moves (relation : FileSystem → FileSystem → Prop) (action : Action α) : Prop :=
  ∀ session, relation session.files (action.perform session).2.files ∧
    (action.perform session).2.invocations = session.invocations

/-- Who only asks moves nothing. -/
theorem Computes.moves {relation : FileSystem → FileSystem → Prop} [Std.Refl relation] {action : Action α}
    {answer : FileSystem → Except Failure α} (h : Computes answer action) : Moves relation action := by
  intro session
  obtain ⟨records, hperform⟩ := h session
  rw [hperform]
  exact ⟨Std.Refl.refl _, rfl⟩

namespace Moves

variable {relation : FileSystem → FileSystem → Prop} {action : Action α}

/-- One move after another is a move. -/
theorem bind [Trans relation relation relation] {next : α → Action β} (h : Moves relation action)
    (hnext : ∀ value, Moves relation (next value)) : Moves relation (action >>= next) := by
  intro session
  rw [perform_bind]
  have hfirst := h session
  split
  case h_1 value after heq =>
    rw [heq] at hfirst
    obtain ⟨hmove, hinvocations⟩ := hnext value after
    exact ⟨Trans.trans hfirst.1 hmove, hinvocations.trans hfirst.2⟩
  case h_2 failure after heq =>
    rw [heq] at hfirst
    exact hfirst

/-- A move along a relation is one along every wider relation. -/
theorem mono {wider : FileSystem → FileSystem → Prop} (h : Moves relation action)
    (hwider : ∀ ⦃before after⦄, relation before after → wider before after) : Moves wider action :=
  fun session => ⟨hwider (h session).1, (h session).2⟩

/-- An attempt moves what is attempted. -/
theorem attempt (h : Moves relation action) : Moves relation (attempt action) := h

end Moves

/-! ## What an action does not look at -/

/-- **An action that does not look at what was reported or asked**: from the same file system it has the same
outcome and leaves the same file system. -/
def IgnoresRecords (action : Action α) : Prop :=
  ∀ session other : Session, session.files = other.files →
    (action.perform session).1 = (action.perform other).1 ∧
      (action.perform session).2.files = (action.perform other).2.files

/-- Who only asks does not look at what was reported. -/
theorem Computes.ignoresRecords {action : Action α} {answer : FileSystem → Except Failure α}
    (h : Computes answer action) : IgnoresRecords action := by
  intro session other hfiles
  obtain ⟨records, hsession⟩ := h session
  obtain ⟨records', hother⟩ := h other
  rw [hsession, hother, hfiles]
  exact ⟨rfl, rfl⟩

namespace IgnoresRecords

variable {action : Action α}

/-- Two actions that do not look at what was reported do not do so in a row. -/
theorem bind {next : α → Action β} (h : IgnoresRecords action)
    (hnext : ∀ value, IgnoresRecords (next value)) : IgnoresRecords (action >>= next) := by
  intro session other hfiles
  obtain ⟨houtcome, hafter⟩ := h session other hfiles
  rw [perform_bind, perform_bind]
  cases hsession : action.perform session with
  | mk outcome after =>
    cases hother : action.perform other with
    | mk outcome' after' =>
      rw [hsession, hother] at houtcome hafter
      obtain rfl : outcome = outcome' := houtcome
      cases outcome with
      | ok value => exact hnext value after after' hafter
      | error failure => exact ⟨rfl, hafter⟩

theorem change (operation : FileSystem → Except OsFault FileSystem) :
    IgnoresRecords (change operation) := by
  intro session other h
  rw [perform_change, perform_change, h]
  cases operation other.files with
  | ok changed => exact ⟨rfl, rfl⟩
  | error fault => exact ⟨rfl, h⟩

theorem writeText (path : Path) (text : String) : IgnoresRecords (writeText path text) := change _

theorem attempt (h : IgnoresRecords action) : IgnoresRecords (attempt action) := by
  intro session other hfiles
  obtain ⟨houtcome, hafter⟩ := h session other hfiles
  exact ⟨congrArg Except.ok houtcome, hafter⟩

theorem makeDirectories (path : Path) : IgnoresRecords (makeDirectories path) := by
  intro session other h
  rw [perform_makeDirectories, perform_makeDirectories, h]
  exact ⟨rfl, rfl⟩

end IgnoresRecords

end Action

end ComponentScaffold
