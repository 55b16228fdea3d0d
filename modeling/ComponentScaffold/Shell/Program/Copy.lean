import ComponentScaffold.Shell.Program.Transfer

/-! # Copying files

* **`Program.CopyManner`** — how files are copied.
* **`Program.cp`** — copies files. -/

namespace ComponentScaffold

namespace Shell

namespace Program

/-! ## Manners -/

/-- Which links are followed. -/
inductive Following
  /-- None. -/
  | none
  /-- Those that are operands. -/
  | operands
  /-- All. -/
  | all
deriving DecidableEq, Repr

/-- **How files are copied.** -/
structure CopyManner where
  /-- Whether directories are copied with what is in them. -/
  recursive : Bool
  /-- Which links are followed. -/
  following : Following
  /-- Whether all that is no directory and no link is copied as a regular file. -/
  asRegular : Bool
  /-- Whether links are made instead. -/
  symbolic : Bool
  /-- Whether the files get other places instead. -/
  hard : Bool
  /-- Whether what cannot be written is removed. -/
  forced : Bool
  /-- Whether what is there is always removed. -/
  clears : Bool
  /-- Whether what is there is replaced, by the last option about it. -/
  choice : Option Char
  /-- Whether only what is older is replaced. -/
  updates : Bool
  /-- How what is there is kept. -/
  backup? : Option Backup
  /-- Whether copies have the modes of their sources. -/
  keepsModes : Bool
  /-- Whether modes are what they would be for new files. -/
  newModes : Bool
  /-- Whether copies have the times of their sources. -/
  keepsTimes : Bool
  /-- Whether two places of a source are two places of its copy. -/
  keepsLinks : Bool
  /-- Whether nothing but what is known of files is copied. -/
  onlyFacts : Bool
  /-- Whether it is told what is copied. -/
  verbose : Bool

/-- What is known of what was copied before. -/
structure Copied where
  /-- The sources that were operands. -/
  sources : List Nat
  /-- The files that came out of them. -/
  targets : List Nat
  /-- The paths of copies, by the numbers of their sources. -/
  paths : List (Nat × Octets)
  /-- Whether a directory was made for the present operand. -/
  hasFolder : Bool

/-- What copies files. -/
abbrev Copying := StateT Copied Exec

/-- Complain, with a status. -/
def refuseCopy (name message : Octets) : Copying Nat := StateT.lift (refuse name message 1)

/-- Complain about a fault. -/
def refuseCopyFault (name : Octets) (what : String) (path : Octets) (fault : OsFault) : Copying Nat :=
  refuseCopy name (faultText (octets what ++ quotedAlways path) fault)

/-- The file system. -/
def copyFiles : Copying Disk := StateT.lift files

/-- Whether links at an operand or below one are followed. -/
def CopyManner.follows (manner : CopyManner) (isOperand : Bool) : Bool :=
  match manner.following with
  | .none => false
  | .operands => isOperand
  | .all => true

/-! ## Whether a file may be replaced -/

/-- What may be done with a target that is there. -/
inductive Permit
  /-- It is replaced. -/
  | replace
  /-- It is the source, so nothing is left to do. -/
  | done
  /-- It is the source, which would be lost. -/
  | refuse

/-- What may be done with a target that is there, given what is known of both. -/
def CopyManner.permit (manner : CopyManner) (fs : FileSystem) (source target : Octets)
    (held there : Facts) : Permit :=
  let isSame := held.number = there.number
  if isSame && manner.hard then .done
  else
    let named (path : Octets) (facts : Facts) : Facts := ((factsNamed fs path).toOption).getD facts
    let (held', there') := if manner.following = .none then (held, there)
      else (named source held, named target there)
    if manner.following = .none && held.isLink && there.isLink then
      let isPlace := areSamePlace fs source target
      if !isPlace && manner.backup?.isNone && isSame then .done
      else if isPlace then .refuse else .replace
    else if manner.following ≠ .none && !isSame then .replace
    else if manner.following ≠ .none && held'.isLink && there'.isLink && manner.clears then .replace
    else if manner.backup?.isSome then
      if held'.number ≠ there'.number then
        if manner.following ≠ .none && held'.isLink && !there'.isLink then .refuse else .replace
      else if areSamePlace fs source target then .refuse else .replace
    else if manner.clears && there'.isLink then .replace
    else if manner.clears && held'.number = there'.number && 1 < there'.links fs &&
        !areSamePlace fs source target then .replace
    else if !held'.isLink && !there'.isLink && held'.number ≠ there'.number then .replace
    else if manner.symbolic && there'.isLink then .replace
    else if manner.following = .none then
      match factsFound fs source, factsFound fs target with
      | .ok one, .ok other =>
        if one.number ≠ other.number then .replace
        else if manner.hard && !there'.isLink then .done
        else if manner.hard then .replace else .refuse
      | _, _ => .replace
    else .refuse

/-! ## Single files -/

/-- The mode of a copy of a file. -/
def CopyManner.modeOf (manner : CopyManner) (fs : FileSystem) (facts : Facts) : Nat :=
  if manner.keepsModes then facts.node.mode
  else
    let wanted := if manner.newModes then facts.entry.newMode else facts.node.mode &&& directoryMode
    maskedMode fs.standing.mask wanted

/-- Give a copy what is kept of its source. -/
def keepFacts (manner : CopyManner) (isNew : Bool) (facts : Facts) (target : Octets) : Copying Unit := do
  let fs ← copyFiles
  match factsNamed fs target with
  | .error _ => return ()
  | .ok copy =>
    let fs := if (isNew || manner.keepsModes) && !copy.isLink then
        fs.setMode copy.number (manner.modeOf fs facts)
      else fs
    let fs := if manner.keepsTimes then fs.setModified copy.number facts.node.modified else fs
    StateT.lift (putFiles fs)

/-- The bytes of a file, as far as they are copied. -/
def copiedBytes (fs : FileSystem) (facts : Facts) : ByteArray := heldBytes fs facts.number

/-- Copy the bytes of a file to a path. -/
def copyBytes (name : Octets) (manner : CopyManner) (isNew : Bool) (facts : Facts) (target : Octets) :
    Copying Nat := do
  let fs ← copyFiles
  let bytes := if manner.onlyFacts then ByteArray.empty else copiedBytes fs facts
  let isDangling := isNew && (factsNamed fs target).toOption.any Facts.isLink &&
    target.getLast? ≠ some '/'
  if isDangling then
    return ← refuseCopy name (octets "not writing through dangling symlink " ++ quotedAlways target)
  if !isNew && manner.onlyFacts then
    keepFacts manner false facts target
    return 0
  match fs.writeBytes (pathOf target) bytes with
  | .ok changed =>
    StateT.lift (putFiles changed)
    -- what is written through a link is what it leads to
    match factsFound changed target with
    | .ok copy =>
      let changed := if isNew || manner.keepsModes then
          changed.setMode copy.number (manner.modeOf changed facts)
        else changed
      StateT.lift (putFiles (if manner.keepsTimes then
        changed.setModified copy.number facts.node.modified else changed))
      return 0
    | .error _ => return 0
  | .error .noSpace => refuseCopyFault name "error writing " target .noSpace
  | .error fault =>
    let fault := if fault = .isDirectory && target.getLast? = some '/' then .notDirectory else fault
    refuseCopyFault name "cannot create regular file " target fault

/-- Make a link at a path, in the place of what is there if `forced`. -/
def linkAt (fs : Disk) (forced : Bool) (path : Octets) (target : Path) :
    Except OsFault Disk :=
  match fs.makeLink (pathOf path) target with
  | .error .exists =>
    if forced then
      match fs.findName (pathOf path) with
      | .ok (place, entry) =>
        if entry = .directory then .error .exists else (fs.drop place).makeLink (pathOf path) target
      | .error fault => .error fault
    else .error .exists
  | made => made

/-- Give another place to the file that a path names, in the place of what is there if `forced`. -/
def shareAt (fs : Disk) (forced : Bool) (follows : Bool) (source path : Octets) :
    Except OsFault Disk := do
  let (place, _) ← if follows then fs.find (pathOf source) else fs.findName (pathOf source)
  match fs.share (pathOf path) place with
  | .error .exists =>
    if forced then
      match fs.findName (pathOf path) with
      | .ok (there, entry) =>
        if entry = .directory then .error .exists else (fs.drop there).share (pathOf path) place
      | .error fault => .error fault
    else .error .exists
  | made => made

/-- Give another place to a file. -/
def copyAsLink (name : Octets) (forced follows : Bool) (source target : Octets) : Copying Nat := do
  match shareAt (← copyFiles) forced follows source target with
  | .ok changed =>
    StateT.lift (putFiles changed)
    return 0
  | .error fault =>
    let text := octets "cannot create hard link " ++ quotedAlways target ++ octets " to " ++
      quotedAlways source
    refuseCopy name (faultText text fault)

/-- Make a link to a file. A relative one is made only in the current directory. -/
def copyAsSymbolic (name : Octets) (manner : CopyManner) (source target : Octets) : Copying Nat := do
  let fs ← copyFiles
  if source.head? ≠ some '/' && !areSame fs (folderOf target) ['.'] then
    return ← refuseCopy name (quotedIfNeeded target ++
      octets ": can make relative symbolic links only in current directory")
  match linkAt fs manner.forced target (pathOf source) with
  | .ok changed =>
    StateT.lift (putFiles changed)
    return 0
  | .error fault =>
    let text := octets "cannot create symbolic link " ++ quotedAlways target ++ octets " to " ++
      quotedAlways source
    refuseCopy name (faultText text fault)

/-- Make an entry of the kind of a file that holds no bytes of its own. -/
def copySpecial (name : Octets) (manner : CopyManner) (facts : Facts) (target : Octets) :
    Copying Nat := do
  let fs ← copyFiles
  match facts.entry with
  | .link path =>
    match linkAt fs manner.forced target path with
    | .ok changed =>
      StateT.lift (putFiles changed)
      keepFacts manner true facts target
      return 0
    | .error fault => refuseCopyFault name "cannot create symbolic link " target fault
  | entry =>
    let entry : Entry := match entry with
      | .queue _ => .queue ByteArray.empty
      | other => other
    match fs.makeEntry (pathOf target) entry with
    | .ok changed =>
      StateT.lift (putFiles changed)
      keepFacts manner true facts target
      return 0
    | .error fault =>
      refuseCopyFault name (if entry matches .queue _ then "cannot create fifo "
        else "cannot create special file ") target fault

/-- Copy a file that is no directory. -/
def copyFile (name : Octets) (manner : CopyManner) (isOperand isNew : Bool) (facts : Facts)
    (source target : Octets) : Copying Nat :=
  if manner.symbolic then copyAsSymbolic name manner source target
  else if manner.hard then
    copyAsLink name (manner.forced || manner.choice = some 'i') (manner.follows isOperand) source target
  else if (facts.entry matches .file _) || (manner.asRegular && !facts.isLink) then
    copyBytes name manner isNew facts target
  else copySpecial name manner facts target

/-! ## Targets that are there -/

/-- What is to be done with a source. -/
inductive Onset
  /-- Nothing more, with a status. -/
  | finished (status : Nat)
  /-- It is copied: to a new file or to one that is there, the old one of which is kept under a name. -/
  | copies (isNew : Bool) (aside? : Option Octets)

/-- Whether what is there is replaced only by what is newer, and the source is not. -/
def CopyManner.isFresh (manner : CopyManner) (held there : Facts) : Bool :=
  manner.updates && !held.isFolder && decide (held.node.modified ≤ there.node.modified)

/-- Remove the file at a path, and say so if asked. -/
def clearTarget (name : Octets) (manner : CopyManner) (target : Octets) : Copying Onset := do
  match (← copyFiles).remove (pathOf target) with
  | .ok changed =>
    StateT.lift (putFiles changed)
    StateT.lift (report name manner.verbose (octets "removed " ++ quotedAlways target))
    return .copies true none
  | .error fault => return .finished (← refuseCopyFault name "cannot remove " target fault)

/-- What is to be done with a source whose target is there. -/
def meetTarget (name : Octets) (manner : CopyManner) (isOperand : Bool) (source target : Octets)
    (held there : Facts) : Copying Onset := do
  let fs ← copyFiles
  let refusal (message : Octets) : Copying Onset := return .finished (← refuseCopy name message)
  let permit := if manner.choice = some 'n' then .replace
    else manner.permit fs source target held there
  if permit matches .refuse then
    return ← refusal (quotedAlways source ++ octets " and " ++ quotedAlways target ++
      octets " are the same file")
  if manner.isFresh held there then return .finished 0
  if !held.isFolder then
    if ← StateT.lift (isKept name manner.choice target) then return .finished 0
  if permit matches .done then return .finished 0
  if held.isFolder && !there.isFolder then
    return ← refusal (octets "cannot overwrite non-directory " ++ quotedAlways target ++
      octets " with directory " ++ quotedAlways source)
  let isNumbered := manner.backup?.any fun backup => backup.kind = .numbered
  if !there.isFolder && isOperand && !isNumbered && (← get).targets.contains there.number then
    return ← refusal (octets "will not overwrite just-created " ++ quotedAlways target ++
      octets " with " ++ quotedAlways source)
  if !held.isFolder && there.isFolder then
    return ← refusal (octets "cannot overwrite directory " ++ quotedAlways target ++
      octets " with non-directory")
  match manner.backup? with
  | some backup =>
    if !isDots (lastName source) && !there.isFolder then
      let aside := backup.path fs target
      if !isNumbered && areSamePlace fs source aside then
        return ← refusal (octets "backing up " ++ quotedAlways target ++
          octets " might destroy source;  " ++ quotedAlways source ++ octets " not copied")
      return .copies true (some (← StateT.lift (putAside backup target)))
    return .copies false none
  | none =>
    let isShared := manner.keepsLinks && 1 < there.links fs
    let isOther := manner.following = .none && !(held.entry matches .file _)
    if !there.isFolder && (manner.clears || isShared || isOther) then
      return ← clearTarget name manner target
    return .copies false none

/-- What is to be done with a source, given what is known of it. -/
def meet (name : Octets) (manner : CopyManner) (isOperand : Bool) (source target : Octets)
    (held : Facts) : Copying Onset := do
  let fs ← copyFiles
  let isRegular := held.entry matches .file _
  let namesOnly := (!isRegular && (!manner.asRegular || held.isFolder || held.isLink)) ||
    manner.symbolic || manner.hard || manner.backup?.isSome || manner.clears
  match factsOf fs (if namesOnly then .name else .target) target with
  | .ok there => meetTarget name manner isOperand source target held there
  | .error .noEntry => return .copies true none
  | .error .tooManyLinks =>
    if manner.forced then clearTarget name { manner with verbose := false } target
    else return .finished (← refuseCopyFault name "cannot stat " target .tooManyLinks)
  | .error fault => return .finished (← refuseCopyFault name "cannot stat " target fault)

/-! ## Directories -/

/-- The operand that is copied, and its target. -/
structure TopLevel where
  /-- The operand. -/
  source : Octets
  /-- Its target. -/
  target : Octets

/-- The path at which a source has been copied already, which is known for directories, and for files if it
is asked for. -/
def knownCopy? (manner : CopyManner) (held : Facts) (isOperand : Bool) (target : Octets) :
    Copying (Option Octets) := do
  let fs ← copyFiles
  let copied ← get
  let isRemembered := if held.isFolder then manner.recursive && isOperand
    else manner.keepsLinks && !manner.hard && (1 < held.links fs || manner.follows isOperand)
  let isAsked := isRemembered || (held.isFolder && manner.recursive)
  if !isAsked then return none
  match copied.paths.lookup held.number with
  | some path => return some path
  | none =>
    if isRemembered then set { copied with paths := (held.number, target) :: copied.paths }
    return none

/-- Refuse to copy a directory for a second time. -/
def refuseAgain (name : Octets) (manner : CopyManner) (isOperand : Bool) (top : TopLevel)
    (source target earlier : Octets) : Copying (Option Nat) := do
  let fs ← copyFiles
  if areSamePlace fs source earlier then
    return some (← refuseCopy name (octets "cannot copy a directory, " ++ quotedAlways top.source ++
      octets ", into itself, " ++ quotedAlways top.target))
  if areSamePlace fs target earlier then
    StateT.lift (tell name (octets "warning: source directory " ++ quotedAlways top.source ++
      octets " specified more than once"))
    return some 0
  if manner.follows isOperand then return none
  return some (← refuseCopy name (octets "will not create hard link " ++ quotedAlways target ++
    octets " to directory " ++ quotedAlways earlier))

/-- Make the directory that a directory is copied to. -/
def makeCopyFolder (name : Octets) (manner : CopyManner) (source target : Octets) :
    Copying (Option Nat) := do
  let path := withoutSlashes target
  match (← copyFiles).makeDirectory (pathOf (if path.isEmpty then target else path)) with
  | .error fault => return some (← refuseCopyFault name "cannot create directory " target fault)
  | .ok made =>
    StateT.lift (putFiles made)
    if !(← get).hasFolder then
      if let .ok facts := factsNamed made target then
        modify fun copied =>
          { copied with hasFolder := true, paths := (facts.number, target) :: copied.paths }
    StateT.lift (report name manner.verbose (arrowText source target none))
    return none

/-- Remember what came out of an operand. -/
def rememberTarget (isOperand : Bool) (target : Octets) : Copying Unit := do
  if isOperand then
    if let .ok facts := factsNamed (← copyFiles) target then
      modify fun copied => { copied with targets := facts.number :: copied.targets }

/-- Copy a directory with what is in it, by a way to copy that; `above` are the directories that are being
copied. -/
def copyFolder (name : Octets) (manner : CopyManner) (isOperand : Bool) (above : List Nat) (held : Facts)
    (isNew : Bool) (copyInside : Transfer Copying) : Transfer Copying := fun source target => do
  if above.contains held.number then
    return ← refuseCopy name (octets "cannot copy cyclic symbolic link " ++ quotedAlways source)
  let failed? ← if isNew then makeCopyFolder name manner source target else pure none
  if let some status := failed? then return status
  rememberTarget isOperand target
  let names := namesAt (← copyFiles) source
  let status ← names.foldlM (fun status inside => do
    let other ← copyInside (below source inside) (below target inside)
    return worse status other) 0
  keepFacts manner isNew held target
  return status

/-- Copy what has a target for itself, by a way to copy directories. -/
def copyOver (name : Octets) (manner : CopyManner) (top : TopLevel) (isOperand : Bool) (held : Facts)
    (isNew : Bool) (into : Transfer Copying) : Transfer Copying := fun source target => do
  let earlier? ← knownCopy? manner held isOperand target
  match earlier?, held.isFolder with
  | some earlier, false => copyAsLink name true false earlier target
  | some earlier, true =>
    match ← refuseAgain name manner isOperand top source target earlier with
    | some status => return status
    | none => into source target
  | none, true => into source target
  | none, false =>
    let status ← copyFile name manner isOperand isNew held source target
    rememberTarget isOperand target
    return status

/-- Copy a source to a target, by a way to copy directories of which some are new. -/
def copyEntry (name : Octets) (manner : CopyManner) (top : TopLevel) (isOperand : Bool) (held : Facts)
    (into : (isNew : Bool) → Transfer Copying) : Transfer Copying := fun source target => do
  if held.isFolder && !manner.recursive then
    return ← refuseCopy name (octets "-r not specified; omitting directory " ++ quotedAlways source)
  if isOperand then
    if !held.isFolder && manner.backup?.isNone && (← get).sources.contains held.number then
      StateT.lift (tell name (octets "warning: source file " ++ quotedAlways source ++
        octets " specified more than once"))
      return 0
    modify fun copied => { copied with sources := held.number :: copied.sources }
  match ← meet name manner isOperand source target held with
  | .finished status => return status
  | .copies isNew aside? =>
    let isMade := manner.backup?.isNone && isOperand &&
      (factsNamed (← copyFiles) target).toOption.any Facts.isLink
    if isMade then
      if let .ok link := factsNamed (← copyFiles) target then
        if (← get).targets.contains link.number then
          return ← refuseCopy name (octets "will not copy " ++ quotedAlways source ++
            octets " through just-created symlink " ++ quotedAlways target)
    if !held.isFolder then
      StateT.lift (report name manner.verbose (arrowText source target aside?))
    copyOver name manner top isOperand held isNew (into isNew) source target

/-- **Copy a source to a target**, with what is in it, at most so many levels deep; `above` are the
directories that are being copied. -/
def copyTree (name : Octets) (manner : CopyManner) (top : TopLevel) : (levels : Nat) →
    (isOperand : Bool) → (above : List Nat) → Transfer Copying
  | 0, _, _, _, _ => return 1
  | levels + 1, isOperand, above, source, target => do
    match factsOf (← copyFiles) (if manner.follows isOperand then .target else .name) source with
    | .error fault => refuseCopyFault name "cannot stat " source fault
    | .ok held =>
      copyEntry name manner top isOperand held (fun isNew =>
        copyFolder name manner isOperand above held isNew fun inside =>
          copyTree name manner top levels false (held.number :: above) inside) source target

/-! ## The program -/

/-- The options of `cp`. -/
def cpForms : List OptionForm :=
  [⟨'r', true, ["recursive"], .none⟩, .short 'R' .none, ⟨'a', true, ["archive"], .none⟩,
    ⟨'f', true, ["force"], .none⟩, ⟨'n', true, ["no-clobber"], .none⟩, .short 'p' .none,
    ⟨'v', true, ["verbose"], .none⟩, ⟨'P', true, ["no-dereference"], .none⟩,
    ⟨'L', true, ["dereference"], .none⟩, .short 'H' .none, .short 'd' .none,
    ⟨'u', true, ["update"], .none⟩, ⟨'i', true, ["interactive"], .none⟩,
    ⟨'q', false, ["preserve"], .optional⟩, ⟨'Q', false, ["no-preserve"], .required⟩,
    ⟨'l', true, ["link"], .none⟩, ⟨'s', true, ["symbolic-link"], .none⟩,
    ⟨'A', false, ["attributes-only"], .none⟩, ⟨'c', false, ["copy-contents"], .none⟩,
    ⟨'D', false, ["remove-destination"], .none⟩, ⟨'x', true, ["one-file-system"], .none⟩,
    ⟨'Y', false, ["parents"], .none⟩, ⟨'K', false, ["sparse"], .required⟩,
    ⟨'W', false, ["reflink"], .optional⟩, .short 'Z' .none] ++ backupForms ++ targetForms

/-- What can be kept of files. -/
def keepWords : List String :=
  ["mode", "timestamps", "ownership", "links", "context", "xattr", "all"]

/-- The words of an option that tell what is kept, where `usual` are those meant by none. -/
def keptBy (usual : List String) (value : Octets) : List String :=
  let words := if value.isEmpty then usual else (value.splitOn ',').map String.ofList
  if words.contains "all" then keepWords else words

/-- What the options tell to keep of files. -/
def keptOfOptions (chosen : Chosen) : List String :=
  chosen.options.foldl (fun kept (key, value) =>
    match key with
    | 'p' => ["mode", "ownership", "timestamps"] ++ kept
    | 'q' => keptBy ["mode", "ownership", "timestamps"] value ++ kept
    | 'a' => keepWords ++ kept
    | 'd' => "links" :: kept
    | 'Q' => let lost := keptBy [] value
      kept.filter fun word => !lost.contains word
    | _ => kept) []

/-- Which links the options tell to follow. -/
def followingOfOptions (recursive : Bool) (chosen : Chosen) : Following :=
  match chosen.last? ['P', 'L', 'H', 'd', 'a'] with
  | some 'L' => .all
  | some 'H' => .operands
  | some _ => .none
  | none => if recursive && !chosen.has 'l' then .none else .all

/-- **The manner that the options ask for.** -/
def copyMannerOf (chosen : Chosen) (backup? : Option Backup) : CopyManner :=
  let recursive := chosen.has 'r' || chosen.has 'R' || chosen.has 'a'
  let kept := keptOfOptions chosen
  let lost := (chosen.options.filter fun option => option.1 = 'Q').flatMap fun option =>
    keptBy [] option.2
  let choice := chosen.last? ['n', 'i']
  { recursive := recursive, following := followingOfOptions recursive chosen
    asRegular := !recursive || chosen.has 'c', symbolic := chosen.has 's', hard := chosen.has 'l'
    forced := chosen.has 'f', clears := chosen.has 'D', choice := choice
    updates := chosen.has 'u' && choice ≠ some 'n', backup? := backup?
    keepsModes := kept.contains "mode", newModes := lost.contains "mode"
    keepsTimes := kept.contains "timestamps", keepsLinks := kept.contains "links"
    onlyFacts := chosen.has 'A', verbose := chosen.has 'v' }

/-- Make the directories of a source in the one that it goes to, each with the mode of its own. -/
def makeParents (name : Octets) (manner : CopyManner) (folder source : Octets) : Copying (Option Nat) := do
  let steps := (stepsTo (withoutSlashes source)).dropLast
  steps.foldlM (fun failed? step => do
    if failed?.isSome then return failed?
    let fs ← copyFiles
    let target := below folder (step.dropWhile (· = '/'))
    match factsFound fs step with
    | .error fault => return some (← refuseCopyFault name "failed to get attributes of " step fault)
    | .ok held =>
      if fs.isDirectory (pathOf target) then return none
      match fs.makeDirectory (pathOf target) with
      | .error .exists =>
        return some (← refuseCopy name (quotedAlways target ++ octets " exists but is not a directory"))
      | .error fault => return some (← refuseCopyFault name "cannot make directory " target fault)
      | .ok made =>
        StateT.lift (putFiles made)
        keepFacts manner true held target
        StateT.lift (report name manner.verbose (step ++ octets " -> " ++ target))
        return none) none

/-- Copy an operand to a target. -/
def copyOperand (name : Octets) (manner : CopyManner) : Transfer Copying := fun source target => do
  modify fun copied => { copied with hasFolder := false }
  let levels := (← copyFiles).depth + (← copyFiles).depth + 3
  copyTree name manner ⟨source, target⟩ levels true [] source target

/-- Copy sources to their targets. -/
def copyTargets (name : Octets) (chosen : Chosen) (manner : CopyManner) : Targets → Copying Nat
  | .one source target => do
    if chosen.has 'Y' then
      return ← StateT.lift (refuseUse name
        (octets "with --parents, the destination must be a directory") 1)
    let fs ← copyFiles
    match manner.backup? with
    | some backup =>
      if chosen.has 'f' && source = target && fs.isFile (pathOf source) then
        copyOperand name { manner with backup? := none } source (backup.path fs target)
      else copyOperand name manner source target
    | none => copyOperand name manner source target
  | .into folder sources =>
    sources.foldlM (fun status source => do
      if chosen.has 'Y' then
        let failed? ← makeParents name manner folder source
        if let some failure := failed? then return worse status failure
        let target := below folder ((withoutSlashes source).dropWhile (· = '/'))
        return worse status (← copyOperand name manner source target)
      return worse status (← copyOperand name manner source (targetIn folder source))) 0

/-- Complain about a word that names nothing that can be kept. -/
def refuseKeeping (name word : Octets) (option : String) : Exec Nat := do
  tell name (octets "invalid argument " ++ quotedAlways word ++ octets s!" for '{option}'")
  complain (octets "Valid arguments are:\n")
  keepWords.forM fun word => complain (octets s!"  - '{word}'\n")
  complain (hint name)
  return 1

/-- **Copy files.** -/
def cp : Program := withOptions cpForms false 1 fun _ name chosen => do
  let wrong? := chosen.options.findSome? fun (key, value) =>
    if key = 'q' || key = 'Q' then
      ((keptBy ["mode"] value).find? fun word => !keepWords.contains word).map fun word =>
        (octets word, if key = 'q' then "--preserve" else "--no-preserve")
    else none
  if let some (word, option) := wrong? then return ← refuseKeeping name word option
  match backupOfOptions (← context) chosen with
  | .error (word, origin) => refuseBackup name word origin
  | .ok backup? =>
    let manner := copyMannerOf chosen backup?
    if manner.hard && manner.symbolic then
      return ← refuseUse name (octets "cannot make both hard and symbolic links") 1
    if backup?.isSome && manner.choice = some 'n' then
      return ← refuseUse name (octets "options --backup and --no-clobber are mutually exclusive") 1
    match ← targetsOf name chosen true with
    | .error status => return status
    | .ok targets =>
      let (status, _) ← (copyTargets name chosen manner targets).run ⟨[], [], [], false⟩
      return status

end Program

end Shell

end ComponentScaffold
