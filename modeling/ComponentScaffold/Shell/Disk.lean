import ComponentScaffold.Proofs.Files.Paths

/-! # Disks

Scripts work on a file system that stays well-formed, whatever they do. It is a `Disk`, and what changes it is
an operation on disks; where one has a counterpart that programs use, the two do the same.

* **`Shell.Disk`** — a well-formed file system.
* **`Shell.Disk.putNode`**, **`Shell.Disk.putNumber`** — a new entry, and another place for an old one.
* **`Shell.Disk.makeEntry_eq`**, **`Shell.Disk.writeBytes_eq`** — what is done for an absolute path is what the
  file system does. -/

namespace ComponentScaffold

namespace Shell

/-- **A disk**: a well-formed file system. -/
structure Disk extends FileSystem where
  /-- Everything lies in a directory, under a proper name. -/
  wellFormed : toFileSystem.WellFormed

namespace Disk

open FileSystem

instance : Coe Disk FileSystem := ⟨Disk.toFileSystem⟩

/-! ## Standing -/

/-- The disk seen as a process stands in it. -/
def standAs (disk : Disk) (standing : Standing) : Disk :=
  ⟨{ disk.toFileSystem with standing := standing }, disk.wellFormed.standing standing⟩

/-- The disk with other bits held back from new files. -/
def setMask (disk : Disk) (mask : Nat) : Disk := disk.standAs { disk.standing with mask := mask }

/-- Move to the directory that a path leads to. -/
def changeDirectory (disk : Disk) (p : Path) : Except OsFault Disk :=
  (disk.toFileSystem.changeDirectory p).map fun moved => disk.standAs moved.standing

/-! ## Nodes -/

/-- Change the node of a number in whatever is not its kind. -/
def changeNode (disk : Disk) (number : Nat) (change : Node → Node)
    (halike : ∀ node : Node, node.entry.Alike (change node).entry) : Disk :=
  match hnode : disk.node? number with
  | some node => ⟨disk.update number (change node), disk.wellFormed.update hnode (halike node)⟩
  | none => disk

/-- Change the mode of the node of a number. -/
def setMode (disk : Disk) (number mode : Nat) : Disk :=
  disk.changeNode number (fun node => { node with mode := mode }) fun _ => .same _

/-- Change the time at which the node of a number was changed. -/
def setModified (disk : Disk) (number : Nat) (modified : Time) : Disk :=
  disk.changeNode number (fun node => { node with modified := modified }) fun _ => .same _

/-- An entry with other bytes, if it holds bytes. -/
def holding (bytes : ByteArray) : Entry → Entry
  | .file _ => .file bytes
  | .queue _ => .queue bytes
  | other => other

/-- An entry with other bytes stands for the old one. -/
theorem alike_holding (bytes : ByteArray) (entry : Entry) : entry.Alike (holding bytes entry) := by
  cases entry with
  | file old => exact .file old bytes
  | queue old => exact .queue old bytes
  | _ => exact .same _

/-- Let the file or queue of a number hold other bytes. -/
def holdBytes (disk : Disk) (number : Nat) (bytes : ByteArray) : Disk :=
  disk.changeNode number (fun node => { node with entry := holding bytes node.entry, modified := disk.now })
    fun _ => alike_holding bytes _

/-- Let the file or queue at a place hold other bytes. -/
def holdBytesAt (disk : Disk) (place : Location) (bytes : ByteArray) : Disk :=
  match disk.places.lookup place with
  | some number => disk.holdBytes number bytes
  | none => disk

/-! ## Places -/

/-- Put a new node at a name in a directory, if an entry may be put there. -/
def putNode (disk : Disk) (directory : Location) (name : String) (node : Node) : Disk :=
  if h : disk.CanHold directory name then
    ⟨(disk.add (directory ++ [name]) node).stamp directory, disk.wellFormed.add h node⟩
  else disk

/-- Give the node of a number another place, at a name in a directory where an entry may be put. -/
def putNumber (disk : Disk) (directory : Location) (name : String) (number : Nat) : Disk :=
  if h : disk.CanHold directory name then
    ⟨(disk.bind (directory ++ [name]) number).stamp directory, disk.wellFormed.bind h number⟩
  else disk

/-- Put a new entry into a directory. -/
def create (disk : Disk) (directory : Location) (name : String) (entry : Entry) : Disk :=
  disk.putNode directory name (disk.newNode entry)

/-- Remove what is at a place from the directory it is in. -/
def drop (disk : Disk) (place : Location) : Disk := ⟨disk.toFileSystem.drop place, disk.wellFormed.drop place⟩

/-- Move what is at a place to another one, if it may be moved there. -/
def move (disk : Disk) (source target : Location) : Disk :=
  match target.getLast? with
  | none => disk
  | some name =>
    if h : disk.CanMove source target.dropLast name then
      ⟨disk.toFileSystem.move source (target.dropLast ++ [name]), disk.wellFormed.move h⟩
    else disk

/-! ## Paths -/

/-- Make a new entry at a name that is not taken. -/
def makeEntry (disk : Disk) (p : Path) (entry : Entry) : Except OsFault Disk :=
  match disk.resolveName p with
  | .ok (.vacant directory name _) => .ok (disk.create directory name entry)
  | .ok _ => .error .exists
  | .error fault => .error fault

/-- Make a directory. -/
def makeDirectory (disk : Disk) (p : Path) : Except OsFault Disk := disk.makeEntry p .directory

/-- Make a link, which has to lead somewhere. -/
def makeLink (disk : Disk) (p target : Path) : Except OsFault Disk :=
  if target.text.isEmpty then .error .noEntry else disk.makeEntry p (.link target)

/-- Give another place to what is at a place. -/
def share (disk : Disk) (p : Path) (place : Location) : Except OsFault Disk :=
  match disk.resolveName p, disk.places.lookup place with
  | .ok (.vacant directory name false), some number => .ok (disk.putNumber directory name number)
  | .ok (.vacant _ _ true), _ => .error .noEntry
  | .ok _, _ => .error .exists
  | .error fault, _ => .error fault

/-- Write a file, in the place of its old bytes or as a new entry. -/
def writeBytes (disk : Disk) (p : Path) (bytes : ByteArray) : Except OsFault Disk :=
  match disk.resolve p .file with
  | .ok (.entry place (.file _)) => .ok (disk.holdBytesAt place bytes)
  | .ok (.entry place (.queue held)) => .ok (disk.holdBytesAt place (held ++ bytes))
  | .ok (.vacant directory name _) => .ok (disk.create directory name (.file bytes))
  -- what a device takes is lost, and nothing else takes bytes
  | _ => (disk.toFileSystem.writeBytes p bytes).map fun _ => disk

/-- Remove the entry that a path names, with everything below it. -/
def remove (disk : Disk) (p : Path) : Except OsFault Disk := (disk.findName p).map fun (place, _) => disk.drop place

/-! ## The same on file systems -/

variable {disk : Disk} {p : Path}

/-- Moving changes nothing but how the process stands. -/
theorem changeDirectory_eq (disk : Disk) (p : Path) :
    (disk.changeDirectory p).map toFileSystem = disk.toFileSystem.changeDirectory p := by
  unfold changeDirectory FileSystem.changeDirectory
  split
  case h_1 place _ =>
    simp only [Except.map, standAs, seenFrom]
    split <;> rfl
  all_goals rfl

/-- What is removed is removed from the file system. -/
theorem remove_eq (disk : Disk) (p : Path) :
    (disk.remove p).map toFileSystem = disk.toFileSystem.remove p := by
  unfold remove FileSystem.remove
  cases disk.findName p <;> rfl

/-- A new entry is put where the file system puts it. -/
theorem toFileSystem_create {directory : Location} {name : String} {slashed : Bool}
    (hholds : disk.Holds (.vacant directory name slashed)) (entry : Entry) :
    (disk.create directory name entry).toFileSystem = disk.toFileSystem.create directory name entry := by
  obtain _ | ⟨hdirectory, hname, hnone⟩ := hholds
  rw [create, putNode, dif_pos ⟨hdirectory, hname, by simp [hnone]⟩]
  rfl

/-- Other bytes are held where the file system takes them for an entry. -/
theorem toFileSystem_holdBytesAt {place : Location} {entry : Entry} (hplace : disk.lookup place = some entry)
    (hentry : entry ≠ .directory) (bytes : ByteArray) :
    (disk.holdBytesAt place bytes).toFileSystem = disk.toFileSystem.rewrite place (holding bytes entry) := by
  obtain ⟨number, node, hnumber, hnode, rfl⟩ :=
    (lookup_eq_some_iff (ne_nil_of_lookup hplace hentry)).1 hplace
  simp only [holdBytesAt, rewrite, hnumber, hnode, holdBytes, changeNode]
  split <;> simp_all

/-- **A new entry at an absolute path** is made as the file system makes it. -/
theorem makeEntry_eq (habs : p.isAbsolute = true) (entry : Entry) :
    (disk.makeEntry p entry).map toFileSystem = disk.toFileSystem.makeEntry p entry := by
  unfold makeEntry FileSystem.makeEntry
  cases hresolve : disk.resolveName p with
  | error fault => rfl
  | ok destination =>
    have hholds := resolveAs_holds disk.wellFormed habs hresolve
    cases destination with
    | vacant directory name slashed => exact congrArg Except.ok (toFileSystem_create hholds entry)
    | entry place other => rfl
    | removed number => rfl

/-- So is a link. -/
theorem makeLink_eq (habs : p.isAbsolute = true) (target : Path) :
    (disk.makeLink p target).map toFileSystem = disk.toFileSystem.makeLink p target := by
  unfold makeLink FileSystem.makeLink
  split
  · rfl
  · exact makeEntry_eq habs _

/-- **A file at an absolute path** is written as the file system writes it. -/
theorem writeBytes_eq (habs : p.isAbsolute = true) (bytes : ByteArray) :
    (disk.writeBytes p bytes).map toFileSystem = disk.toFileSystem.writeBytes p bytes := by
  unfold writeBytes FileSystem.writeBytes
  cases hresolve : disk.resolve p .file with
  | error fault => rfl
  | ok destination =>
    have hholds := resolve_holds disk.wellFormed habs hresolve
    cases destination with
    | vacant directory name slashed => exact congrArg Except.ok (toFileSystem_create hholds _)
    | removed number => rfl
    | entry place other =>
      obtain hplace | _ := hholds
      cases other with
      | file old => exact congrArg Except.ok (toFileSystem_holdBytesAt hplace (by simp) bytes)
      | queue held => exact congrArg Except.ok (toFileSystem_holdBytesAt hplace (by simp) (held ++ bytes))
      | directory => rfl
      | link target => rfl
      | device device => cases device <;> first | rfl | (dsimp only; split <;> rfl)

end Disk

end Shell

end ComponentScaffold
