import ComponentScaffold.Path.Basic

/-! # Nodes of a file system

What a file system holds are nodes: directories, files, links, and what only looks like a file.

* **`Entry`** — what a node is.
* **`Node`** — an entry, who may use it, and when it was changed. -/

namespace ComponentScaffold

/-- A place in a file system: the names that lead to it from the root. -/
abbrev Location := List String

/-- The path that names a place from the root. -/
def Path.ofLocation (place : Location) : Path := ⟨"/" ++ "/".intercalate place⟩

/-- Bytes are compared as one value. -/
instance decidableEqBytes : DecidableEq ByteArray := ByteArray.decEq

/-- A device, which is read and written like a file. -/
inductive Device
  /-- It takes everything and gives nothing. -/
  | null
  /-- It takes everything, and gives bytes that are zero without end. -/
  | zero
  /-- It gives what `zero` gives, and has no space for what is written to it. -/
  | full
  /-- It gives bytes that nobody can foresee. -/
  | random
  /-- It is the terminal, of which there is none. -/
  | terminal
deriving DecidableEq, Repr

/-- **What a node is.** -/
inductive Entry
  /-- A directory. What it holds are entries of their own. -/
  | directory
  /-- A regular file with its bytes. -/
  | file (bytes : ByteArray)
  /-- A symbolic link and the path it leads along. -/
  | link (target : Path)
  /-- A device. -/
  | device (device : Device)
  /-- A queue with the bytes that were written to it and not yet read. -/
  | queue (bytes : ByteArray)
deriving DecidableEq

/-- A time, in nanoseconds. -/
abbrev Time := Int

/-- **A node.** -/
structure Node where
  /-- What it is. -/
  entry : Entry
  /-- Who may do what with it, as twelve bits. What may be run is asked of it, but reading and writing are
  never refused for it. -/
  mode : Nat
  /-- When its bytes or the names in it changed last. -/
  modified : Time

/-- The bits of a mode by which somebody may run a file. -/
def runBits : Nat := 0o111

/-- Whether a mode lets somebody run a file. -/
def isRunMode (mode : Nat) : Bool := mode &&& runBits != 0

/-- The mode that a new directory gets if nothing is held back. -/
def directoryMode : Nat := 0o777

/-- The mode that a new file gets if nothing is held back. -/
def fileMode : Nat := 0o666

/-- The mode that a new entry gets if nothing is held back. -/
def Entry.newMode : Entry → Nat
  | .directory => directoryMode
  | .link _ => directoryMode
  | _ => fileMode

/-- A mode without what is held back by a mask. -/
def maskedMode (mask mode : Nat) : Nat := mode - (mode &&& mask)

end ComponentScaffold
