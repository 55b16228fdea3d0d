import ComponentScaffold.Files.Basic
import ComponentScaffold.Files.Fault

/-! # Where a path leads

A path is followed name by name. `..` goes to the directory above the place reached so far, not above
the place as written, and a link is followed from the directory it stands in.

* **`Destination`** — an entry, or a vacant name in a directory.
* **`FileSystem.follow`** — one walk along names, handing over at each link.
* **`FileSystem.resolve`** — the destination of a path. -/

namespace ComponentScaffold

/-- Where a path leads. -/
inductive Destination
  /-- To an entry and its place. -/
  | entry (place : Location) (entry : Entry)
  /-- To a name that is not taken in a directory that exists. A directory is asked for if
  `slashed`. -/
  | vacant (directory : Location) (name : String) (slashed : Bool)
  /-- To a directory of a number that was removed, but is still the current one or on the way up
  from it. -/
  | removed (number : Nat)

/-- What a path is followed for. -/
inductive Purpose
  /-- For the entry it names. A link at its end is not followed, unless a directory is asked for. -/
  | name
  /-- For the entry it leads to through all links. -/
  | target
  /-- For the file it leads to, which is made if it is not there; no directory may be asked for. -/
  | file
deriving DecidableEq, Repr

/-- The names of a path, `.` and `..` among them. -/
def Path.names (p : Path) : List String := p.pieces.filter (· ≠ "")

/-- Whether a path ends in a slash and so asks for a directory. -/
def Path.isSlashed (p : Path) : Bool := p.text.toList.getLast? == some '/'

namespace FileSystem

/-- The greatest number of bytes in a name. -/
def maxNameBytes : Nat := 255

/-- The greatest number of bytes in a path. -/
def maxPathBytes : Nat := 4095

/-- The greatest number of links followed on one way. -/
def maxLinks : Nat := 40

/-- How a walk goes on from a directory: along names, to a directory if `slashed`. -/
abbrev Onward := (place : Location) → (names : List String) → (slashed : Bool) →
  Except OsFault Destination

/-- **Follow names from a directory** up to the first link that has to be followed; `jump` goes on
from there. -/
def follow (fs : FileSystem) (purpose : Purpose) (jump : Onward) (place : Location) :
    (names : List String) → (slashed : Bool) → Except OsFault Destination
  | [], _ => .ok (.entry place .directory)
  | name :: rest, slashed =>
    if name = "." then fs.follow purpose jump place rest slashed
    else if name = ".." then fs.follow purpose jump place.dropLast rest slashed
    -- refused before it is looked whether anything is there
    else if purpose = .file && rest.isEmpty && slashed then .error .isDirectory
    else if maxNameBytes < name.utf8ByteSize then .error .nameTooLong
    else
      let here := place ++ [name]
      let isEnd := rest.isEmpty && !slashed
      match fs.lookup here with
      | none => if rest.isEmpty then .ok (.vacant place name slashed) else .error .noEntry
      | some .directory => fs.follow purpose jump here rest slashed
      | some (.link target) =>
        if isEnd && purpose = .name then .ok (.entry here (.link target))
        else if target.text.isEmpty then .error .noEntry
        -- a relative target leads on from the directory that the link stands in
        else jump (if target.isAbsolute then [] else place) (target.names ++ rest)
          (slashed || rest.isEmpty && target.isSlashed)
      | some entry => if isEnd then .ok (.entry here entry) else .error .notDirectory

/-- Follow names through at most the given number of links. -/
def followLinks (fs : FileSystem) (purpose : Purpose) : (links : Nat) → Onward
  | 0 => fs.follow purpose fun _ _ _ => .error .tooManyLinks
  | links + 1 => fs.follow purpose (fs.followLinks purpose links)

/-- Follow names from the directory of a number. Out of a removed one only a way up leads. -/
def followFrom (fs : FileSystem) (purpose : Purpose) :
    (names : List String) → (slashed : Bool) → (number : Nat) → Except OsFault Destination
  | [], slashed, number =>
    match fs.placeOf? number with
    | some place => fs.followLinks purpose maxLinks place [] slashed
    | none => .ok (.removed number)
  | name :: rest, slashed, number =>
    match fs.placeOf? number with
    | some place => fs.followLinks purpose maxLinks place (name :: rest) slashed
    | none =>
      if name = "." then fs.followFrom purpose rest slashed number
      else if name = ".." then
        match fs.removed.lookup number with
        | some above => fs.followFrom purpose rest slashed above
        | none => .error .noEntry
      else .error .noEntry

/-- Where a path leads, however long it is, given whether it is taken to end in a slash. -/
def resolveWhole (fs : FileSystem) (p : Path) (purpose : Purpose) (slashed : Bool) :
    Except OsFault Destination :=
  if p.text.isEmpty then .error .noEntry
  else if p.isAbsolute then fs.followLinks purpose maxLinks [] p.names slashed
  else fs.followFrom purpose p.names slashed fs.standing.directory

/-- Where a path leads, given whether it is taken to end in a slash. -/
def resolveAs (fs : FileSystem) (p : Path) (purpose : Purpose) (slashed : Bool) :
    Except OsFault Destination :=
  if maxPathBytes < p.text.utf8ByteSize then .error .nameTooLong
  else fs.resolveWhole p purpose slashed

/-- **Where a path leads** when it is followed for a purpose. -/
def resolve (fs : FileSystem) (p : Path) (purpose : Purpose) : Except OsFault Destination :=
  fs.resolveAs p purpose p.isSlashed

/-- Where a new entry would go: links before the last name are followed, one at the last name is
not, and a slash at the end is passed over. -/
def resolveName (fs : FileSystem) (p : Path) : Except OsFault Destination :=
  fs.resolveAs p .name false

end FileSystem

end ComponentScaffold
