import ComponentScaffold.Shell.Program.Transfer

/-! # Linking files

* **`Program.ln`** — gives files other places, or makes links to them.
* **`Program.link`** — gives one file another place. -/

namespace ComponentScaffold

namespace Shell

namespace Program

/-- How files are linked. -/
structure LinkManner where
  /-- Whether links are made that hold a path. -/
  symbolic : Bool
  /-- Whether they are called from where they are. -/
  relative : Bool
  /-- Whether what is there is replaced. -/
  forced : Bool
  /-- Whether it is asked before that. -/
  asks : Bool
  /-- Whether what a link leads to gets the place. -/
  follows : Bool
  /-- Whether it is tried to give directories other places. -/
  folders : Bool
  /-- How what is there is kept. -/
  backup? : Option Backup
  /-- Whether it is told what is linked. -/
  verbose : Bool

/-- What links files, and knows those that were linked before. -/
abbrev Linking := StateT (List Nat) Exec

/-- Complain, with a status. -/
def refuseLink (name message : Octets) : Linking Nat := StateT.lift (refuse name message 1)

/-- The disk with another place for a source, or with a link to it. -/
def linked (fs : Disk) (manner : LinkManner) (source target : Octets) :
    Except OsFault Disk := do
  if manner.symbolic then fs.makeLink (pathOf target) (pathOf source)
  else
    let (place, entry) ← if manner.follows then fs.find (pathOf source) else fs.findName (pathOf source)
    if entry = .directory then .error .notPermitted else fs.share (pathOf target) place

/-- Complain that a link cannot be made. -/
def refuseMaking (name : Octets) (manner : LinkManner) (source target : Octets) (fault : OsFault) :
    Linking Nat :=
  let what := if manner.symbolic then "failed to create symbolic link "
    else "failed to create hard link "
  let isLong := if manner.symbolic then source.isEmpty || fault = .nameTooLong
    else !(fault = .exists || fault = .noSpace)
  let arrow := octets (if manner.symbolic then " -> " else " => ")
  let shown := if isLong then quotedAlways target ++ arrow ++ quotedAlways source
    else quotedAlways target
  refuseLink name (faultText (octets what ++ shown) fault)

/-- Make a link in the place of what may be there. -/
def makeLinkAt (name : Octets) (manner : LinkManner) (source target : Octets) (aside? : Option Octets) :
    Linking Nat := do
  match linked (← StateT.lift files) manner source target with
  | .error fault => refuseMaking name manner source target fault
  | .ok made =>
    StateT.lift (putFiles made)
    if !manner.symbolic then
      if let .ok facts := factsNamed made target then modify fun before => facts.number :: before
    let before := match aside? with
      | some aside => quotedAlways aside ++ octets " ~ "
      | none => []
    StateT.lift (report name manner.verbose (before ++ quotedAlways target ++
      octets (if manner.symbolic then " -> " else " => ") ++ quotedAlways source))
    return 0

/-- Make a link in the place of what is there. -/
def replaceByLink (name : Octets) (manner : LinkManner) (source target : Octets) (there : Facts) :
    Linking Nat := do
  let fs ← StateT.lift files
  if there.isFolder then
    return ← refuseLink name (quotedIfNeeded target ++ octets ": cannot overwrite directory")
  if (← get).contains there.number then
    return ← refuseLink name (octets "will not overwrite just-created " ++ quotedAlways target ++
      octets " with " ++ quotedAlways source)
  let held? := (factsOf fs (if manner.symbolic || manner.follows then .target else .name) source).toOption
  let isSame := (manner.backup?.isNone || !manner.symbolic) && held?.any fun held =>
    held.number = there.number && (held.links fs = 1 || areSamePlace fs source target)
  if isSame then
    return ← refuseLink name (quotedAlways source ++ octets " and " ++ quotedAlways target ++
      octets " are the same file")
  if manner.asks then
    let question := name ++ octets ": replace " ++ quotedAlways target ++ octets "? "
    if !(← StateT.lift (agrees question)) then return 0
  match manner.backup? with
  | some backup =>
    let aside ← StateT.lift (putAside backup target)
    makeLinkAt name manner source target (some aside)
  | none =>
    match fs.remove (pathOf target) with
    | .error fault => refuseMaking name manner source target fault
    | .ok cleared =>
      -- nothing is removed if the link cannot be made
      match linked cleared manner source target with
      | .error fault => refuseMaking name manner source target fault
      | .ok _ =>
        StateT.lift (putFiles cleared)
        makeLinkAt name manner source target none

/-- Link a source and a target. -/
def linkOne (name : Octets) (manner : LinkManner) : Transfer Linking := fun source target => do
  let fs ← StateT.lift files
  let relative : Octets := match canonicalPlace fs .none true source,
      canonicalPlace fs .none true (folderOf target) with
    | .ok place, .ok base => relativeTo base place
    | _, _ => source
  let source' := if manner.relative then relative else source
  let missing? : Option OsFault := if manner.symbolic then none
    else match factsOf fs (if manner.follows then .target else .name) source with
      | .error fault => some fault
      | .ok _ => none
  let isFolder := !manner.symbolic && !manner.folders &&
    (factsOf fs (if manner.follows then .target else .name) source).toOption.any Facts.isFolder
  match missing?, factsNamed fs target with
  | some fault, _ =>
    refuseLink name (faultText (octets "failed to access " ++ quotedAlways source) fault)
  | none, there? =>
    if isFolder then
      return ← refuseLink name (quotedIfNeeded source ++ octets ": hard link not allowed for directory")
    match there? with
    | .ok there =>
      if manner.forced || manner.asks || manner.backup?.isSome then
        replaceByLink name manner source' target there
      else refuseMaking name manner source' target .exists
    | .error _ => makeLinkAt name manner source' target none

/-- The options of `ln`. -/
def lnForms : List OptionForm :=
  [⟨'s', true, ["symbolic"], .none⟩, ⟨'f', true, ["force"], .none⟩,
    ⟨'n', true, ["no-dereference"], .none⟩, ⟨'v', true, ["verbose"], .none⟩,
    ⟨'r', true, ["relative"], .none⟩, ⟨'L', true, ["logical"], .none⟩,
    ⟨'P', true, ["physical"], .none⟩, ⟨'i', true, ["interactive"], .none⟩,
    ⟨'d', true, ["directory"], .none⟩, ⟨'F', true, [], .none⟩] ++ backupForms ++
    targetForms.filter fun form => form.key ≠ '/'

/-- Link sources and targets. -/
def linkTargets (name : Octets) (manner : LinkManner) : Targets → Linking Nat
  | .one source target => linkOne name manner source target
  | .into folder sources =>
    sources.foldlM (fun status source => do
      let last := withoutSlashes (lastName source)
      return worse status (← linkOne name manner source (below folder last))) 0

/-- **Link files.** -/
def ln : Program := withOptions lnForms false 1 fun _ name chosen => do
  match backupOfOptions (← context) chosen with
  | .error (word, origin) => refuseBackup name word origin
  | .ok backup? =>
    let choice := chosen.last? ['f', 'i']
    let manner : LinkManner :=
      { symbolic := chosen.has 's', relative := chosen.has 'r', forced := choice = some 'f'
        asks := choice = some 'i', follows := chosen.last? ['L', 'P'] = some 'L'
        folders := chosen.has 'd' || chosen.has 'F', backup? := backup?, verbose := chosen.has 'v' }
    if manner.relative && !manner.symbolic then
      return ← refuse name (octets "cannot do --relative without --symbolic") 1
    match chosen.operands, chosen.value? 't', chosen.has 'T' with
    | [source], none, false =>
      return (← (linkTargets name manner (.into ['.'] [source])).run []).1
    | _, _, _ =>
      match ← targetsOf name chosen (!chosen.has 'n') with
      | .error status => return status
      | .ok targets => return (← (linkTargets name manner targets).run []).1

/-- **Give one file another place.** -/
def link : Program := withOptions [] false 1 fun _ name chosen => do
  match chosen.operands with
  | [] => refuseUse name (octets "missing operand") 1
  | [one] => refuseUse name (octets "missing operand after " ++ quotedPlainly one) 1
  | _ :: _ :: extra :: _ => refuseUse name (octets "extra operand " ++ quotedPlainly extra) 1
  | [source, target] =>
    let manner : LinkManner := ⟨false, false, false, false, false, true, none, false⟩
    match linked (← files) manner source target with
    | .ok made =>
      putFiles made
      return 0
    | .error fault =>
      let text := octets "cannot create link " ++ quotedAlways target ++ octets " to " ++
        quotedAlways source
      refuse name (faultText text fault) 1

end Program

end Shell

end ComponentScaffold
