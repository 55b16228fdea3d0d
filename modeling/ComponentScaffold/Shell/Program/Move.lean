import ComponentScaffold.Shell.Program.Transfer

/-! # Moving files

* **`Program.mv`** — moves files. -/

namespace ComponentScaffold

namespace Shell

namespace Program

/-- How files are moved. -/
structure MoveManner where
  /-- Whether what is there is replaced, by the last option about it. -/
  choice : Option Char
  /-- Whether only what is older is replaced. -/
  updates : Bool
  /-- How what is there is kept. -/
  backup? : Option Backup
  /-- Whether it is told what is moved. -/
  verbose : Bool

/-- What moves files, and knows those that were moved before. -/
abbrev Moving := StateT (List Nat) Exec

/-- Complain that a file cannot be moved. -/
def refuseMove (name source target : Octets) (fault : OsFault) : Exec Nat :=
  refuse name (faultText (octets "cannot move " ++ quotedAlways source ++ octets " to " ++
    quotedAlways target) fault) 1

/-- Complain that a directory would come to be in itself. -/
def refuseInside (name source target : Octets) : Exec Nat :=
  refuse name (octets "cannot move " ++ quotedAlways source ++
    octets " to a subdirectory of itself, " ++ quotedAlways target) 1

/-- Why the file that a path names cannot be moved, whatever its target is. -/
def fixedFault? (files : FileSystem) (path : Octets) : Option OsFault :=
  if isDots (lastName path) || (placeNamed? files path).any List.isEmpty then some .busy
  else if isSlashedLink files path then some .notDirectory
  else none

/-- Move a file to a place. -/
def moveTo (name : Octets) (manner : MoveManner) (source target : Octets) (held : Facts)
    (place there : Location) (aside? : Option Octets) : Moving Nat := do
  StateT.lift do
    putFiles ((← files).move place there)
    report name manner.verbose (octets "renamed " ++ arrowText source target aside?)
  modify fun moved => held.number :: moved
  return 0

/-- Move a file to a target that is there. -/
def moveOnto (name : Octets) (manner : MoveManner) (source target : Octets) (held there : Facts)
    (place placeThere : Location) : Moving Nat := do
  let fs ← StateT.lift files
  let refusal (message : Octets) : Moving Nat := StateT.lift (refuse name message 1)
  if held.number = there.number && manner.choice ≠ some 'n' &&
      (manner.backup?.isNone || place = placeThere) then
    return ← refusal (quotedAlways source ++ octets " and " ++ quotedAlways target ++
      octets " are the same file")
  if manner.updates && !held.isFolder && decide (held.node.modified ≤ there.node.modified) then return 0
  if ← StateT.lift (isKept name manner.choice target) then return 0
  if held.isFolder && !there.isFolder && manner.backup?.isNone then
    return ← refusal (octets "cannot overwrite non-directory " ++ quotedAlways target ++
      octets " with directory " ++ quotedAlways source)
  let isNumbered := manner.backup?.any fun backup => backup.kind = .numbered
  if !there.isFolder && !isNumbered && (← get).contains there.number then
    return ← refusal (octets "will not overwrite just-created " ++ quotedAlways target ++
      octets " with " ++ quotedAlways source)
  if !held.isFolder && there.isFolder && manner.backup?.isNone then
    return ← refusal (octets "cannot overwrite directory " ++ quotedAlways target ++
      octets " with non-directory")
  if held.isFolder && place.isPrefixOf placeThere then
    return ← StateT.lift (refuseInside name source target)
  match manner.backup? with
  | some backup =>
    if !isNumbered && areSamePlace fs source (backup.path fs target) then
      return ← refusal (octets "backing up " ++ quotedAlways target ++
        octets " might destroy source;  " ++ quotedAlways source ++ octets " not moved")
    let aside ← StateT.lift (putAside backup target)
    moveTo name manner source target held place placeThere (some aside)
  | none =>
    if there.isFolder && !(fs.childNames placeThere).isEmpty then
      return ← StateT.lift (refuseMove name source target .notEmpty)
    moveTo name manner source target held place placeThere none

/-- Move a source to a target. -/
def moveOne (name : Octets) (manner : MoveManner) : Transfer Moving := fun source target => do
  let fs ← StateT.lift files
  let cannotStat (path : Octets) (fault : OsFault) : Moving Nat :=
    StateT.lift (refuse name (faultText (octets "cannot stat " ++ quotedAlways path) fault) 1)
  match factsNamed fs source, placeNamed? fs (withoutSlashes source) with
  | .error fault, _ => cannotStat source fault
  | .ok _, none => StateT.lift (refuseMove name source target .busy)
  | .ok held, some place =>
    if let some fault := fixedFault? fs source then
      return ← StateT.lift (refuseMove name source target fault)
    match factsNamed fs target, fs.resolveName (pathOf target) with
    | .ok there, .ok (.entry placeThere _) =>
      moveOnto name manner source target held there place placeThere
    | .ok _, _ => StateT.lift (refuseMove name source target .busy)
    | .error .noEntry, .ok (.vacant folder file _) =>
      if place.isPrefixOf folder && held.isFolder then StateT.lift (refuseInside name source target)
      else if target.getLast? = some '/' && !held.isFolder then
        StateT.lift (refuseMove name source target .notDirectory)
      else moveTo name manner source target held place (folder ++ [file]) none
    | .error .noEntry, _ => StateT.lift (refuseMove name source target .noEntry)
    | .error fault, _ => cannotStat target fault

/-- The options of `mv`. -/
def mvForms : List OptionForm :=
  [⟨'f', true, ["force"], .none⟩, ⟨'n', true, ["no-clobber"], .none⟩, ⟨'v', true, ["verbose"], .none⟩,
    ⟨'u', true, ["update"], .none⟩, ⟨'i', true, ["interactive"], .none⟩, .short 'Z' .none] ++
    backupForms ++ targetForms

/-- **Move files.** -/
def mv : Program := withOptions mvForms false 1 fun _ name chosen => do
  match backupOfOptions (← context) chosen with
  | .error (word, origin) => refuseBackup name word origin
  | .ok backup? =>
    let choice := chosen.last? ['f', 'n', 'i']
    if backup?.isSome && choice = some 'n' then
      return ← refuseUse name (octets "options --backup and --no-clobber are mutually exclusive") 1
    let manner : MoveManner :=
      { choice := choice, updates := chosen.has 'u' && choice ≠ some 'n', backup? := backup?
        verbose := chosen.has 'v' }
    match ← targetsOf name chosen true with
    | .error status => return status
    | .ok (.one source target) => return (← (moveOne name manner source target).run []).1
    | .ok (.into folder sources) =>
      let work : Moving Nat := sources.foldlM (fun status source => do
        let last := withoutSlashes (lastName source)
        return worse status (← moveOne name manner source (below folder last))) 0
      return (← work.run []).1

end Program

end Shell

end ComponentScaffold
