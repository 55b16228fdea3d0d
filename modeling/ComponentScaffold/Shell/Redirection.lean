import ComponentScaffold.Shell.Extended.Assign
import ComponentScaffold.Shell.Trace
import ComponentScaffold.Shell.Utility.Control

/-! # Redirections

A command can run with other channels for its descriptors. First all targets are expanded, then the
descriptors are opened one after the other.

* **`Shell.Opening`** — a redirection whose target is known.
* **`Shell.expandRedirects`** — the openings of redirections.
* **`Shell.openAll`** — opens descriptors.
* **`Shell.keepingDescriptors`** — something done, after which the descriptors are what they were. -/

namespace ComponentScaffold

namespace Shell

/-- **A redirection whose target is known.** -/
inductive Opening
  /-- A descriptor is opened on a file. -/
  | file (descriptor : Nat) (mode : OpenMode) (path : Octets)
  /-- A descriptor goes where another one goes, or is closed. -/
  | duplicate (descriptor : Nat) (source : Option Nat)
  /-- A descriptor gives a text. -/
  | text (descriptor : Nat) (text : Octets)

/-- The descriptor that a text names, or none if it stands for a closed one. -/
def sourceOf (text : Octets) : Exec (Option Nat) := do
  let extended := (← context).isExtended
  match text with
  | ['-'] => return none
  | text =>
    match natOf? text with
    | some descriptor => if text.length = 1 || extended then return some descriptor else fail badNumber
    | none => if extended then fail (text ++ octets ": ambiguous redirect") else fail badNumber
where
  /-- What is said about a text that names no descriptor. -/
  badNumber : Octets := octets "Syntax error: Bad fd number"

/-- The path of a file that a redirection goes to. -/
def targetOf (engine : Engine) (target : Word) : Exec Octets := do
  if !(← context).isExtended then return ← expandText engine target
  match ← expandWord engine target with
  | [path] => return path
  | _ => fail (target.flatMap Piece.shown ++ octets ": ambiguous redirect")

/-- The opening of a redirection. -/
def expandRedirect (engine : Engine) : Redirect → Exec Opening
  | .file descriptor mode target => return .file descriptor mode (← targetOf engine target)
  | .duplicate descriptor target => do
    return .duplicate descriptor (← sourceOf (← expandText engine target))
  | .document descriptor index => do
    return .text descriptor (← expandText engine (((← get).documents[index]?).getD []))
  | .text descriptor word => return .text descriptor ((← expandText engine word) ++ ['\n'])

/-- **The openings of redirections.** In the extended dialect there are none if something is wrong with one of
them, which does not end the script. -/
def expandRedirects (engine : Engine) (redirects : List Redirect) : Exec (Option (List Opening)) := do
  if !(← context).isExtended then return some (← redirects.mapM (expandRedirect engine))
  match ← attempt (redirects.mapM (expandRedirect engine)) with
  | .ok openings => return some openings
  | .error .failure => return none
  | .error stop => throw stop

/-- Let a descriptor go to a channel, or close it. -/
def setDescriptor (descriptor : Nat) (channel : Option Nat) : Exec Unit :=
  changeContext fun c =>
    let others := c.descriptors.filter fun held => held.1 ≠ descriptor
    { c with descriptors := match channel with
        | some channel => (descriptor, channel) :: others
        | none => others }

/-- Why a file cannot be made, as the shell words it. -/
def cannotCreate (context : Context) (path : Octets) (fault : OsFault) : Octets :=
  let reason := match fault with
    | .noEntry | .notDirectory => "Directory nonexistent"
    | fault => fault.description
  if !context.isExtended then octets "cannot create " ++ path ++ octets s!": {reason}"
  else if fault = .exists then path ++ octets ": cannot overwrite existing file"
  else path ++ octets s!": {fault.description}"

/-- Whether a file must not be overwritten. -/
def isProtected (mode : OpenMode) (path : Octets) : Exec Bool := do
  return mode = .write false && (← context).has 'C' && (← files).isFile (pathOf path)

/-- Open a descriptor. -/
def openOne : Opening → Exec Unit
  | .file descriptor mode path => do
    let context ← context
    if ← isProtected mode path then fail (cannotCreate context path .exists)
    match ← openPath path mode with
    | .ok channel => setDescriptor descriptor (some channel)
    | .error fault =>
      fail (if mode = .read && !context.isExtended then Utility.cannotOpen path fault
        else cannotCreate context path fault)
  | .duplicate descriptor none => setDescriptor descriptor none
  | .duplicate descriptor (some source) => do
    if descriptor = source then return ()
    match (← context).descriptors.lookup source with
    | some channel => setDescriptor descriptor (some channel)
    | none => fail (octets s!"{source}: {OsFault.badDescriptor.description}")
  | .text descriptor text => do
    setDescriptor descriptor (some (← newPipe (bytesOf text)))

/-- Whether a path leads to a queue in which nothing is. -/
def isEmptyQueue (files : FileSystem) (path : Octets) : Bool :=
  match files.findNode (pathOf path) .target with
  | .ok (_, ⟨.queue bytes, _, _⟩) => bytes.isEmpty
  | _ => false

/-- **Let the processes in the background run** before something is read from paths, if one of those leads to a
queue that is empty: what is read there is what they write. -/
def awaitWriters (engine : Engine) (paths : List Octets) : Exec Unit := do
  let state ← get
  if state.delayed.isEmpty then return ()
  if paths.any (isEmptyQueue state.files) then runDelayed engine 0 maxDelayed

/-- The paths from which openings read. -/
def pathsRead (openings : List Opening) : List Octets :=
  openings.filterMap fun opening =>
    match opening with
    | .file _ .read path => some path
    | _ => none

/-- **Open descriptors** one after the other. If one cannot be opened, the others are not tried; the
answer says whether all went well. -/
def openAll (openings : List Opening) : Exec Bool := do
  match ← attempt (openings.forM openOne) with
  | .ok () => return true
  | .error .failure => return false
  | .error stop => throw stop

/-- **Do something**, after which the descriptors are what they were before. -/
def keepingDescriptors {α : Type} (action : Exec α) : Exec α := do
  let before := (← context).descriptors
  ensuring action (changeContext fun c => { c with descriptors := before })

end Shell

end ComponentScaffold
