import ComponentScaffold.Files.Resolve

/-! # File operations

What a program can ask of a file system. Questions answer from the state they are given; an operation
that changes something returns the state after it, and one that is refused leaves the state alone.
Nothing is refused for the mode of a node: whoever asks may read and write everything.
Only `makeDirectories` takes several steps, and keeps those that succeeded. -/

namespace ComponentScaffold

namespace FileSystem

/-! ## Questions -/

/-- The entry that a destination is, with its place. A removed directory has none. -/
def entryAt : Destination → Except OsFault (Location × Entry)
  | .entry place entry => .ok (place, entry)
  | .vacant _ _ _ => .error .noEntry
  | .removed _ => .error .noEntry

/-- The entry that a path leads to through all links, with its place. -/
def find (fs : FileSystem) (p : Path) : Except OsFault (Location × Entry) :=
  (fs.resolve p .target).bind entryAt

/-- The entry that a path names, which may be a link, with its place. -/
def findName (fs : FileSystem) (p : Path) : Except OsFault (Location × Entry) :=
  (fs.resolve p .name).bind entryAt

/-- The node of the root. -/
def rootNode : Node := ⟨.directory, 0o755, 0⟩

/-- The node of a number, which may be the root's. -/
def nodeOf? (fs : FileSystem) (number : Nat) : Option Node :=
  if number = rootNumber then some rootNode else fs.node? number

/-- The number of the node that a path is followed to, with the node. -/
def findNode (fs : FileSystem) (p : Path) (purpose : Purpose) : Except OsFault (Nat × Node) := do
  let number? ← match ← fs.resolve p purpose with
    | .entry place _ => pure (fs.numberAt place)
    | .removed number => pure (some number)
    | .vacant _ _ _ => pure none
  match number? with
  | none => .error .noEntry
  | some number =>
    match fs.nodeOf? number with
    | some node => .ok (number, node)
    | none => .error .noEntry

/-- Whether a path leads to something. -/
def exists? (fs : FileSystem) (p : Path) : Bool :=
  match fs.resolve p .target with
  | .ok (.entry _ _) => true
  | .ok (.removed _) => true
  | _ => false

/-- Whether a path leads to a regular file. -/
def isFile (fs : FileSystem) (p : Path) : Bool :=
  match fs.resolve p .target with
  | .ok (.entry _ (.file _)) => true
  | _ => false

/-- Whether a path leads to a directory. -/
def isDirectory (fs : FileSystem) (p : Path) : Bool :=
  match fs.resolve p .target with
  | .ok (.entry _ .directory) => true
  | .ok (.removed _) => true
  | _ => false

/-- The place of the current directory, if it was not removed. -/
def current? (fs : FileSystem) : Option Location := fs.placeOf? fs.standing.directory

/-- The path of the current directory. -/
def currentPath (fs : FileSystem) : Except OsFault Path :=
  match fs.current? with
  | some place => .ok (Path.ofLocation place)
  | none => .error .noEntry

/-- **The path without detours** to what a path leads to: absolute, through no link. A relative path
has one only if the current directory has a path. It may be written as long as one likes. -/
def canonical (fs : FileSystem) (p : Path) : Except OsFault Path := do
  if !p.isAbsolute then let _ ← fs.currentPath
  let (place, _) ← (fs.resolveWhole p .target p.isSlashed).bind entryAt
  return Path.ofLocation place

/-- The place of the directory that a path leads to, or none if that was removed. -/
def directoryAt (fs : FileSystem) (p : Path) : Except OsFault (Option Location) :=
  match fs.resolve p .target with
  | .ok (.entry place .directory) => .ok (some place)
  | .ok (.removed _) => .ok none
  | .ok (.entry _ _) => .error .notDirectory
  | .ok (.vacant _ _ _) => .error .noEntry
  | .error fault => .error fault

/-- The names in the directory at a place. A removed directory has none. -/
def namesIn (fs : FileSystem) : Option Location → List String
  | some place => fs.childNames place
  | none => []

/-- The bytes that are read from an entry, as far as they are known before. -/
def entryBytes : Entry → Except OsFault ByteArray
  | .file bytes => .ok bytes
  | .queue bytes => .ok bytes
  | .directory => .error .isDirectory
  | .device .terminal => .error .noDevice
  | .device _ => .ok ByteArray.empty
  -- not reached: every link is followed
  | .link _ => .error .tooManyLinks

/-- The bytes of the file that a path leads to. -/
def readBytes (fs : FileSystem) (p : Path) : Except OsFault ByteArray :=
  match fs.resolve p .target with
  | .ok (.entry _ entry) => entryBytes entry
  | .ok (.removed _) => .error .isDirectory
  | .ok (.vacant _ _ _) => .error .noEntry
  | .error fault => .error fault

/-! ## Changes -/

/-- Put a new entry into a directory. -/
def create (fs : FileSystem) (directory : Location) (name : String) (entry : Entry) : FileSystem :=
  (fs.withEntry (directory ++ [name]) entry).stamp directory

/-- Remove what is at a place from the directory it is in. -/
def drop (fs : FileSystem) (place : Location) : FileSystem :=
  (fs.eraseBelow place).stamp place.dropLast

/-- Take another entry for the one at a place, and for all places of the same node. -/
def rewrite (fs : FileSystem) (place : Location) (entry : Entry) : FileSystem :=
  match fs.places.lookup place with
  | none => fs
  | some number =>
    match fs.node? number with
    | none => fs
    | some node => fs.update number { node with entry := entry, modified := fs.now }

/-- **Write a file**, in the place of its old bytes or as a new entry. A path that ends in a slash never
names a file. What a device takes is lost. -/
def writeBytes (fs : FileSystem) (p : Path) (bytes : ByteArray) : Except OsFault FileSystem :=
  match fs.resolve p .file with
  | .ok (.entry place (.file _)) => .ok (fs.rewrite place (.file bytes))
  | .ok (.entry place (.queue held)) => .ok (fs.rewrite place (.queue (held ++ bytes)))
  | .ok (.entry _ .directory) => .error .isDirectory
  | .ok (.removed _) => .error .isDirectory
  | .ok (.entry _ (.device .full)) => if bytes.isEmpty then .ok fs else .error .noSpace
  | .ok (.entry _ (.device .terminal)) => .error .noDevice
  | .ok (.entry _ (.device _)) => .ok fs
  | .ok (.entry _ (.link _)) => .error .tooManyLinks
  | .ok (.vacant directory name _) => .ok (fs.create directory name (.file bytes))
  | .error fault => .error fault

/-- Make a new entry at a name that is not taken. -/
def makeEntry (fs : FileSystem) (p : Path) (entry : Entry) : Except OsFault FileSystem :=
  match fs.resolveName p with
  | .ok (.entry _ _) => .error .exists
  | .ok (.removed _) => .error .exists
  | .ok (.vacant directory name _) => .ok (fs.create directory name entry)
  | .error fault => .error fault

/-- Make a directory. -/
def makeDirectory (fs : FileSystem) (p : Path) : Except OsFault FileSystem :=
  fs.makeEntry p .directory

/-- Make a link, which has to lead somewhere. -/
def makeLink (fs : FileSystem) (p target : Path) : Except OsFault FileSystem :=
  if target.text.isEmpty then .error .noEntry else fs.makeEntry p (.link target)

/-- The place of an entry after what is at one place was moved to another. -/
def movedPlace (source target place : Location) : Location :=
  if source.isPrefixOf place then target ++ place.drop source.length else place

/-- **Move what is at a place** to another one, with everything below it, instead of whatever is there. -/
def move (fs : FileSystem) (source target : Location) : FileSystem :=
  let cleared := fs.eraseBelow target
  let moved := cleared.places.map fun (place, number) => (movedPlace source target place, number)
  ({ cleared with places := moved }.stamp source.dropLast).stamp target.dropLast

/-- Make a directory that may be there already. -/
def ensureDirectory (fs : FileSystem) (p : Path) : FileSystem × Except OsFault Unit :=
  match fs.makeDirectory p with
  | .ok made => (made, .ok ())
  | .error fault => (fs, if fs.isDirectory p then .ok () else .error fault)

/-- Make a directory and those on the way to it, at most `steps` levels up. -/
def makeDirectoriesWithin : (steps : Nat) → FileSystem → Path → FileSystem × Except OsFault Unit
  | 0, fs, _ => (fs, .error .noEntry)
  | steps + 1, fs, p =>
    if p.components.isEmpty then (fs, .ok ()) else
      match fs.ensureDirectory p with
      | (same, .error .noEntry) =>
        match p.parent? with
        | none => (same, .error .noEntry)
        | some above =>
          match makeDirectoriesWithin steps same above with
          | (made, .ok ()) => made.ensureDirectory p
          | refused => refused
      | done => done

/-- **Make a directory and those on the way to it** that are missing. -/
def makeDirectories (fs : FileSystem) (p : Path) : FileSystem × Except OsFault Unit :=
  fs.makeDirectoriesWithin (p.components.length + 1) p

/-- Remove the entry that a path names, with everything below it. A link is removed itself. -/
def remove (fs : FileSystem) (p : Path) : Except OsFault FileSystem :=
  (fs.findName p).map fun (place, _) => fs.drop place

/-- Move to the directory that a path leads to. -/
def changeDirectory (fs : FileSystem) (p : Path) : Except OsFault FileSystem :=
  match fs.resolve p .target with
  | .ok (.entry place .directory) => .ok (fs.seenFrom place)
  | .ok (.removed number) => .ok { fs with standing := { fs.standing with directory := number } }
  | .ok (.entry _ _) => .error .notDirectory
  | .ok (.vacant _ _ _) => .error .noEntry
  | .error fault => .error fault

end FileSystem

end ComponentScaffold
