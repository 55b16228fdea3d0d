import ComponentScaffold.Shell.Program.Paths

/-! # Sources and targets

Programs that copy, move and link files take the same operands: sources, and a target, which is a directory
for all of them or the one file that comes out. What is there already can be kept under another name.

* **`Program.Backup`** — how what is there already is kept.
* **`Program.targetsOf`** — finds the sources and targets of operands. -/

namespace ComponentScaffold

namespace Shell

namespace Program

/-! ## Keeping what is there -/

/-- How what is there already is kept. -/
inductive BackupKind
  /-- Under its name with an ending. -/
  | simple
  /-- Under its name with a number, if that was done before, and else with an ending. -/
  | existing
  /-- Under its name with a number. -/
  | numbered
deriving DecidableEq, Repr

/-- **How what is there already is kept**, with the ending of names. -/
structure Backup where
  /-- The kind of names. -/
  kind : BackupKind
  /-- The ending. -/
  suffix : Octets

/-- The kind that a word names: none at all for some of them. -/
def backupKindOf? (word : Octets) : Option (Option BackupKind) :=
  match String.ofList word with
  | "none" | "off" => some none
  | "simple" | "never" => some (some .simple)
  | "existing" | "nil" => some (some .existing)
  | "numbered" | "t" => some (some .numbered)
  | _ => none

/-- The options by which it is told how what is there already is kept. -/
def backupForms : List OptionForm :=
  [.short 'b' .none, ⟨'B', false, ["backup"], .optional⟩, ⟨'S', true, ["suffix"], .required⟩]

/-- How the options tell to keep what is there already, or which word tells nothing. -/
def backupOfOptions (context : Context) (chosen : Chosen) : Except (Octets × Octets) (Option Backup) :=
  let isAsked := chosen.has 'b' || chosen.has 'B' || chosen.has 'S'
  let given := (chosen.value? 'B').filter fun word => !word.isEmpty
  let told := value? context (octets "VERSION_CONTROL")
  let isPlain (suffix : Octets) : Bool := !suffix.isEmpty && !suffix.contains '/'
  let suffix := (((chosen.value? 'S').orElse fun _ =>
    value? context (octets "SIMPLE_BACKUP_SUFFIX")).filter isPlain).getD ['~']
  let kind : Except (Octets × Octets) (Option BackupKind) := match given, told with
    | some word, _ =>
      match backupKindOf? word with
      | some kind => .ok kind
      | none => .error (word, octets "backup type")
    | none, some word =>
      match backupKindOf? word with
      | some kind => .ok kind
      | none => .error (word, octets "$VERSION_CONTROL")
    | none, none => .ok (some .existing)
  if isAsked then kind.map fun kind? => kind?.map fun kind => ⟨kind, suffix⟩ else .ok none

/-- Complain about a word that tells no way to keep anything. -/
def refuseBackup (name : Octets) (word origin : Octets) : Exec Nat := do
  tell name (octets "invalid argument " ++ quotedAlways word ++ octets " for " ++ quotedAlways origin)
  complain (octets ("Valid arguments are:\n  - 'none', 'off'\n  - 'simple', 'never'\n" ++
    "  - 'existing', 'nil'\n  - 'numbered', 't'\n"))
  complain (hint name)
  return 1

/-- The number under which a name in a directory keeps what another name had, if it does. -/
def backupNumber? (name held : Octets) : Option Nat :=
  let start := name ++ octets ".~"
  if start.isPrefixOf held && held.getLast? = some '~' && start.length < held.length then
    natOf? ((held.drop start.length).dropLast)
  else none

/-- The path under which what is at a path is kept. -/
def Backup.path (backup : Backup) (files : FileSystem) (path : Octets) : Octets :=
  let path := withoutSlashes path
  let last := lastName path
  let folder := path.take (path.length - last.length)
  let numbers := (namesAt files folder).filterMap (backupNumber? last)
  let numbered := path ++ octets ".~" ++ natText (numbers.foldl max 0 + 1) ++ ['~']
  match backup.kind with
  | .simple => path ++ backup.suffix
  | .numbered => numbered
  | .existing => if numbers.isEmpty then path ++ backup.suffix else numbered

/-- Whether two paths name the same place. -/
def areSamePlace (files : FileSystem) (a b : Octets) : Bool :=
  match placeNamed? files a, placeNamed? files b with
  | some one, some other => one == other
  | _, _ => false

/-- Keep what is at a path under another name, which is returned. -/
def putAside (backup : Backup) (path : Octets) : Exec Octets := do
  let aside := backup.path (← files) path
  moveFile path aside
  return aside

/-- What is told about a source and its target, and the name under which what was there is kept. -/
def arrowText (source target : Octets) (aside? : Option Octets) : Octets :=
  quotedAlways source ++ octets " -> " ++ quotedAlways target ++
    match aside? with
    | some aside => octets " (backup: " ++ quotedAlways aside ++ [')']
    | none => []

/-! ## Finding sources and targets -/

/-- What is done with each source and its target. -/
abbrev Transfer (m : Type → Type) := (source target : Octets) → m Nat

/-- The options of targets. -/
def targetForms : List OptionForm :=
  [⟨'t', true, ["target-directory"], .required⟩, ⟨'T', true, ["no-target-directory"], .none⟩,
    ⟨'/', false, ["strip-trailing-slashes"], .none⟩]

/-- The targets of operands. -/
inductive Targets
  /-- One source and its target. -/
  | one (source target : Octets)
  /-- Sources, and the directory that they go to. -/
  | into (folder : Octets) (sources : List Octets)

/-- Why a path is no directory. -/
def folderFault (files : FileSystem) (path : Octets) : OsFault :=
  match files.directoryAt (pathOf path) with
  | .error fault => fault
  | .ok _ => .notDirectory

/-- **The sources and targets of operands**, or a status after a complaint. A link to a directory is not
followed unless `follows`. -/
def targetsOf (name : Octets) (chosen : Chosen) (follows : Bool) : Exec (Except Nat Targets) := do
  let fs ← files
  let trim (path : Octets) : Octets :=
    if chosen.has '/' then (if (withoutSlashes path).isEmpty then path else withoutSlashes path)
    else path
  let operands := chosen.operands.map trim
  let isFolder (path : Octets) : Bool := fs.isDirectory (pathOf path) &&
    (follows || !(factsNamed fs path).toOption.any Facts.isLink)
  match chosen.value? 't', chosen.has 'T', operands.reverse with
  | _, _, [] => return .error (← refuseUse name (octets "missing file operand") 1)
  | none, _, [one] =>
    return .error (← refuseUse name
      (octets "missing destination file operand after " ++ quotedAlways one) 1)
  | some _, true, _ =>
    return .error (← refuse name (octets "cannot combine --target-directory (-t) and " ++
      octets "--no-target-directory (-T)") 1)
  | some folder, false, _ =>
    if fs.isDirectory (pathOf folder) then return .ok (.into folder operands)
    let text := octets "target directory " ++ quotedAlways folder
    return .error (← refuse name (faultText text (folderFault fs folder)) 1)
  | none, true, [target, source] => return .ok (.one source target)
  | none, true, _ =>
    return .error (← refuseUse name
      (octets "extra operand " ++ quotedAlways ((operands[2]?).getD [])) 1)
  | none, false, [target, source] =>
    if isFolder target then return .ok (.into target [source])
    return .ok (.one source target)
  | none, false, target :: sources =>
    if isFolder target then return .ok (.into target sources.reverse)
    return .error (← refuse name (faultText (octets "target " ++ quotedAlways target)
      (folderFault fs target)) 1)

/-- The path of a source in a directory that it goes to. -/
def targetIn (folder source : Octets) : Octets :=
  let last := lastName source
  below folder (if last = ['.', '.'] then ['.'] else last)

/-- Whether what is at a path is kept, because the options or an answer say so. -/
def isKept (name : Octets) (choice : Option Char) (target : Octets) : Exec Bool := do
  match choice with
  | some 'n' => return true
  | some 'i' => return !(← agrees (name ++ octets ": overwrite " ++ quotedAlways target ++ octets "? "))
  | _ => return false

end Program

end Shell

end ComponentScaffold
