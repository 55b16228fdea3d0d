/-! # Paths

A path is kept as it was written. `Path.view` takes it apart into what it starts from and the pieces
between its slashes, and `Path.View.path` puts them together again; every other operation is said on
these parts. Empty pieces and pieces `.` carry no meaning, but they stay in the text until an
operation cuts them off at an end.
-/

namespace ComponentScaffold

/-- A path as it is written. -/
structure Path where
  /-- The written form. -/
  text : String
deriving DecidableEq, Repr, Inhabited

namespace Path

instance : ToString Path := ⟨Path.text⟩

/-- A path that starts with a slash names its place from the root. -/
def isAbsolute (p : Path) : Bool := "/".toList.isPrefixOf p.text.toList

/-- The pieces between the slashes of a path. -/
def pieces (p : Path) : List String := (p.text.toList.splitOn '/').map String.ofList

/-- What a path starts from, where that is written out. -/
inductive Start
  /-- The root, written as a slash. -/
  | root
  /-- The current directory, written as a leading `.` piece. -/
  | current
deriving DecidableEq, Repr

/-- A path taken apart. -/
structure View where
  /-- What the path starts from, if that is written out. -/
  start : Option Start
  /-- The pieces that follow. -/
  body : List String
deriving DecidableEq, Repr

/-- The parts of a path. -/
def view (p : Path) : View :=
  match p.pieces with
  | [] => ⟨none, []⟩
  | first :: rest =>
    if p.isAbsolute then ⟨some .root, rest⟩
    else if first = "." then ⟨some .current, rest⟩
    else ⟨none, first :: rest⟩

/-- The pieces of a path, joined by slashes. -/
def ofPieces (pieces : List String) : Path := ⟨"/".intercalate pieces⟩

/-- The path that has the given parts. -/
def View.path (v : View) : Path :=
  match v.start with
  | none => ofPieces v.body
  | some .current => ofPieces ("." :: v.body)
  | some .root => ⟨"/" ++ "/".intercalate v.body⟩

/-- Whether a piece carries no meaning of its own. -/
def isIdle (piece : String) : Bool := piece == "" || piece == "."

/-- The pieces without the idle ones at the end. -/
def dropIdleEnd (pieces : List String) : List String :=
  (pieces.reverse.dropWhile isIdle).reverse

/-- A step of a path. -/
inductive Component
  /-- To the root. -/
  | root
  /-- To the current directory. -/
  | current
  /-- To the directory above. -/
  | parent
  /-- To the entry of a name. -/
  | name (name : String)
deriving DecidableEq, Repr

/-- The step that a piece makes, if it makes one. -/
def Component.ofPiece? (piece : String) : Option Component :=
  if isIdle piece then none
  else if piece = ".." then some .parent
  else some (.name piece)

/-- The step that a written start makes. -/
def Start.component : Start → Component
  | .root => .root
  | .current => .current

/-- The steps of a path. -/
def View.components (v : View) : List Component :=
  v.start.toList.map Start.component ++ v.body.filterMap Component.ofPiece?

/-- The steps of a path. -/
def components (p : Path) : List Component := p.view.components

/-- The last step of a path after its start. -/
def View.lastPiece? (v : View) : Option String := (dropIdleEnd v.body).getLast?

/-- The path one step up, or nothing where no step is left to take back. -/
def parent? (p : Path) : Option Path :=
  let v := p.view
  match dropIdleEnd v.body with
  | [] => match v.start with
    | some .current => some ⟨""⟩
    | _ => none
  | steps => some (View.path ⟨v.start, dropIdleEnd steps.dropLast⟩)

/-- The name that a path ends in. -/
def fileName? (p : Path) : Option String :=
  match p.view.lastPiece? with
  | some piece => if piece = ".." then none else some piece
  | none => none

/-- The name that a path ends in, up to its last dot. A dot in front does not count. -/
def fileStem? (p : Path) : Option String :=
  p.fileName?.map fun name =>
    match name.toList.reverse.span (· != '.') with
    | (_, []) => name
    -- the only dot stands in front
    | (_, [_]) => name
    | (_, _ :: stem) => String.ofList stem.reverse

/-- The path that leads on from `p` along `q`. An absolute `q` stands for itself. -/
def join (p q : Path) : Path :=
  if q.isAbsolute then q
  else if p.text.isEmpty || p.text.toList.getLast? == some '/' then ⟨p.text ++ q.text⟩
  else ⟨p.text ++ "/" ++ q.text⟩

/-- The path that leads on from `p` to an entry of the given name. -/
def child (p : Path) (name : String) : Path := p.join ⟨name⟩

/-- The path that leads on from `p` through the given names, one after the other. -/
def descend (p : Path) (names : List String) : Path := names.foldl child p

/-- The pieces left after the given number of steps. -/
def dropSteps : Nat → List String → List String
  | 0, pieces => pieces
  | _ + 1, [] => []
  | n + 1, piece :: rest => if isIdle piece then dropSteps (n + 1) rest else dropSteps n rest

/-- What is left of a path below `base`, as it is written, without idle pieces at its ends. -/
def relativeTo? (p base : Path) : Option Path :=
  let steps := base.components
  if steps.isPrefixOf p.components then
    let v := p.view
    match steps with
    -- below nothing, the whole path is left
    | [] => some (View.path ⟨v.start, dropIdleEnd v.body⟩)
    | _ :: _ =>
      let taken := steps.length - v.start.toList.length
      some (ofPieces (dropIdleEnd ((dropSteps taken v.body).dropWhile isIdle)))
  else none

end Path

end ComponentScaffold
