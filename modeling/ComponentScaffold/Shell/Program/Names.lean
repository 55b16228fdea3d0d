import ComponentScaffold.Shell.Program.Paths

/-! # Programs for paths

* **`Program.basename`**, **`Program.dirname`** — the parts of a path.
* **`Program.readlink`**, **`Program.realpath`** — where a path leads.
* **`Program.which`** — tells where programs are.
* **`Program.pwd`** — the path of the current directory. -/

namespace ComponentScaffold

namespace Shell

namespace Program

/-- The options of `basename`. -/
def basenameForms : List OptionForm :=
  [⟨'a', true, ["multiple"], .none⟩, ⟨'s', true, ["suffix"], .required⟩, ⟨'z', true, ["zero"], .none⟩]

/-- A name without an ending, unless it is all of the name. -/
def withoutSuffix (suffix name : Octets) : Octets :=
  if suffix.isSuffixOf name && suffix.length < name.length then
    name.take (name.length - suffix.length)
  else name

/-- **Tell the last names of paths.** -/
def basename : Program := withOptions basenameForms true 1 fun _ name chosen => do
  let ending : Octets := if chosen.has 'z' then ['\x00'] else ['\n']
  if chosen.operands.isEmpty then return ← refuseUse name (octets "missing operand") 1
  if chosen.has 'a' || chosen.has 's' then
    let suffix := (chosen.value? 's').getD []
    emit name (chosen.operands.flatMap fun path => withoutSuffix suffix (lastName path) ++ ending)
  else match chosen.operands with
    | _ :: _ :: extra :: _ => refuseUse name (octets "extra operand " ++ quotedPlainly extra) 1
    | operands =>
      emit name (withoutSuffix ((operands[1]?).getD []) (lastName (operands.headD [])) ++ ending)

/-- **Tell paths without their last names.** -/
def dirname : Program := withOptions [⟨'z', true, ["zero"], .none⟩] false 1 fun _ name chosen => do
  if chosen.operands.isEmpty then return ← refuseUse name (octets "missing operand") 1
  let ending : Octets := if chosen.has 'z' then ['\x00'] else ['\n']
  emit name (chosen.operands.flatMap fun path => folderOf path ++ ending)

/-- The options of `readlink`. -/
def readlinkForms : List OptionForm :=
  [⟨'f', true, ["canonicalize"], .none⟩, ⟨'e', true, ["canonicalize-existing"], .none⟩,
    ⟨'m', true, ["canonicalize-missing"], .none⟩, ⟨'n', true, ["no-newline"], .none⟩,
    ⟨'q', true, ["quiet"], .none⟩, ⟨'s', true, ["silent"], .none⟩, ⟨'v', true, ["verbose"], .none⟩,
    ⟨'z', true, ["zero"], .none⟩]

/-- Which names have to be there by a letter that tells it. -/
def presenceOf : Char → Presence
  | 'e' => .all
  | 'm' => .none
  | _ => .allButLast

/-- **Tell where links lead.** -/
def readlink : Program := withOptions readlinkForms false 1 fun _ name chosen => do
  if chosen.operands.isEmpty then return ← refuseUse name (octets "missing operand") 1
  let fs ← files
  let isSingle := chosen.operands.length = 1
  if chosen.has 'n' && !isSingle then
    tell name (octets "ignoring --no-newline with multiple arguments")
  let ending : Octets := if chosen.has 'n' && isSingle then []
    else if chosen.has 'z' then ['\x00'] else ['\n']
  forAll chosen.operands fun operand => do
    let found : Except OsFault Octets := match chosen.last? ['f', 'e', 'm'] with
      | some key => canonicalPath fs (presenceOf key) true operand
      | none =>
        match fs.findName (pathOf operand) with
        | .ok (_, .link target) => .ok (octets target.text)
        | .ok _ => .error .invalid
        | .error fault => .error fault
    match found with
    | .ok text => emit name (text ++ ending)
    | .error fault =>
      if chosen.last? ['v', 'q', 's'] = some 'v' then refuseFile name operand fault else return 1

/-- The options of `realpath`. -/
def realpathForms : List OptionForm :=
  [⟨'e', true, ["canonicalize-existing"], .none⟩, ⟨'m', true, ["canonicalize-missing"], .none⟩,
    ⟨'q', true, ["quiet"], .none⟩, ⟨'s', true, ["strip", "no-symlinks"], .none⟩,
    ⟨'L', true, ["logical"], .none⟩, ⟨'P', true, ["physical"], .none⟩, ⟨'z', true, ["zero"], .none⟩,
    ⟨'@', false, ["relative-to"], .required⟩, ⟨'#', false, ["relative-base"], .required⟩]

/-- How a path is looked up. -/
structure Lookup where
  /-- Which names have to be there. -/
  presence : Presence
  /-- Whether links are followed. -/
  follows : Bool
  /-- Whether parts above a name are taken away by it before links are followed. -/
  logical : Bool

/-- The place that a path leads to. -/
def Lookup.place (lookup : Lookup) (fs : FileSystem) (path : Octets) : Except OsFault Location :=
  let path := if lookup.logical && !path.isEmpty then logicalPath fs path else path
  canonicalPlace fs lookup.presence lookup.follows path

/-- The place of a directory that an option names, if it does. -/
def folderOption (name : Octets) (lookup : Lookup) (value? : Option Octets) :
    Exec (Except Nat (Option Location)) := do
  match value? with
  | none => return .ok none
  | some path =>
    let fs ← files
    match lookup.place fs path with
    | .error fault => return .error (← refuseFile name path fault)
    | .ok place =>
      if lookup.presence = .all && fs.lookup place ≠ some .directory then
        return .error (← refuseFile name path .notDirectory)
      return .ok (some place)

/-- **Tell the paths from the root to where paths lead.** -/
def realpath : Program := withOptions realpathForms false 1 fun _ name chosen => do
  if chosen.operands.isEmpty then return ← refuseUse name (octets "missing operand") 1
  let fs ← files
  let lookup : Lookup :=
    { presence := ((chosen.last? ['e', 'm']).map presenceOf).getD .allButLast
      follows := chosen.last? ['s', 'L', 'P'] ≠ some 's'
      logical := chosen.last? ['s', 'L', 'P'] = some 'L' || chosen.last? ['s', 'L', 'P'] = some 's' }
  match ← folderOption name lookup (chosen.value? '@'), ← folderOption name lookup (chosen.value? '#') with
  | .error status, _ => return status
  | _, .error status => return status
  | .ok to?, .ok base? =>
    let isBelow (base place : Location) : Bool := base.isPrefixOf place
    -- where paths are told from, if they are below the base
    let origin? : Option Location := match to?, base? with
      | some start, some base => if isBelow base start then some start else none
      | some start, none => some start
      | none, base? => base?
    let ending : Octets := if chosen.has 'z' then ['\x00'] else ['\n']
    forAll chosen.operands fun operand => do
      match lookup.place fs operand with
      | .ok place =>
        let isTold := base?.all fun base => isBelow base place
        let text := match origin? with
          | some origin => if isTold then relativeTo origin place
              else octets (Path.ofLocation place).text
          | none => octets (Path.ofLocation place).text
        emit name (text ++ ending)
      | .error fault => if chosen.has 'q' then return 1 else refuseFile name operand fault

/-- **Tell the path of the current directory.** -/
def pwd : Program :=
  withOptions [⟨'L', true, ["logical"], .none⟩, ⟨'P', true, ["physical"], .none⟩] false 1
    fun _ name chosen => do
      let physical := Utility.currentFolder (← files)
      let held := (value? (← context) Utility.folderName).getD []
      let isSame := held.head? = some '/' && areSame (← files) held ['.']
      if physical.isEmpty then
        refuse name (octets "couldn't find directory entry in '..' with matching i-node") 1
      else emit name ((if chosen.has 'L' && isSame then held else physical) ++ ['\n'])

/-- Whether a path leads to a file that may be run. -/
def isRunnablePath (files : FileSystem) (path : Octets) : Bool :=
  match factsFound files path with
  | .ok facts => (facts.entry matches .file _) && isRunMode facts.node.mode
  | .error _ => false

/-- **Tell where programs are.** -/
def which : Program := withOptions [.short 'a' .none, .short 's' .none] true 2 fun _ name chosen => do
  let fs ← files
  let folders := commandFolders (← context)
  if chosen.operands.isEmpty then return 1
  forAll chosen.operands fun operand => do
    let paths := if operand.contains '/' then [operand]
      else folders.map fun folder => inFolder folder operand
    let found := paths.filter (isRunnablePath fs)
    if found.isEmpty then return 1
    if chosen.has 's' then return 0
    emit name ((if chosen.has 'a' then found else found.take 1).flatMap (· ++ ['\n']))

end Program

end Shell

end ComponentScaffold
