import ComponentScaffold.Failure
import ComponentScaffold.Project.Root

/-! # Namespaces of folders

A component lies in a folder below the root of its project. Its namespace is the way from the root to
that folder, written with dots.

* **`NamespacePair`** — the two namespaces that the files of a component need.
* **`Path.segmentsBelow`** — the names on the way from one folder down to another.
* **`ProjectRoot.namespaceOf`** — the two namespaces of a component in a folder.
* **`ProjectRoot.companionFolders`** — the folder for the view-model of a component in a folder. -/

namespace ComponentScaffold

/-! ## The two namespaces of a component

Markup names a component in full; code declares the namespace it lies in. The second is the first up to
its last dot. -/

/-- **The two namespaces** that the files of a component need. -/
structure NamespacePair where
  /-- The namespace that ends in the name of the component. -/
  full : String
  /-- The namespace that the component lies in. -/
  code : String
deriving DecidableEq, Repr

/-- A text up to its last dot, or all of it if there is none. -/
def beforeLastDot (text : List Char) : List Char :=
  match text.reverse.dropWhile (· != '.') with
  | [] => text
  | _ :: before => before.reverse

/-- The pair with the given full namespace. -/
def NamespacePair.ofFull (full : String) : NamespacePair :=
  ⟨full, String.ofList (beforeLastDot full.toList)⟩

/-- What follows the last dot is cut off together with the dot. -/
theorem beforeLastDot_append (before after : List Char) (h : '.' ∉ after) :
    beforeLastDot (before ++ '.' :: after) = before := by
  have : ∀ c ∈ after.reverse, (c != '.') = true := by
    intro c hc
    simpa using fun heq : c = '.' => h (heq ▸ List.mem_reverse.1 hc)
  simp [beforeLastDot, List.dropWhile_append_of_pos this]

/-- A text without a dot is taken whole. -/
theorem beforeLastDot_of_not_mem {text : List Char} (h : '.' ∉ text) :
    beforeLastDot text = text := by
  have hall : ∀ c ∈ text.reverse, (c != '.') = true := by
    intro c hc
    simpa using fun heq : c = '.' => h (heq ▸ List.mem_reverse.1 hc)
  have : (text.reverse ++ []).dropWhile (· != '.') = [].dropWhile (· != '.') :=
    List.dropWhile_append_of_pos hall
  simp only [List.append_nil, List.dropWhile_nil] at this
  simp [beforeLastDot, this]

/-! ## Folders -/

/-- The names that a list of steps goes through. A step to the current directory goes nowhere; a step
up or to the root has no name. -/
def Path.stepNames? : List Path.Component → Option (List String)
  | [] => some []
  | .current :: rest => Path.stepNames? rest
  | .name name :: rest => (Path.stepNames? rest).map (name :: ·)
  | .root :: _ => none
  | .parent :: _ => none

/-- **The names on the way** from `base` down to a folder. -/
def Path.segmentsBelow (target base : Path) : Except NamespaceFault (List String) :=
  match target.relativeTo? base with
  | none => .error (.outsideRoot target base)
  | some way =>
    match Path.stepNames? way.components with
    | some names => .ok names
    | none => .error (.unnamedStep way)

/-- What comes before all folders in the namespaces below a root: the project's name, except below a
solution, where the first folder is the project's. -/
def ProjectRoot.leadingSegments (root : ProjectRoot) : List String :=
  if root.isSolution || root.projectName.isEmpty then [] else [root.projectName]

/-- **The namespaces** of an entity of the given name in a folder below a root. -/
def ProjectRoot.namespaceOf (root : ProjectRoot) (target : Path) (entity : String) :
    Except NamespaceFault NamespacePair := do
  let below ← target.segmentsBelow root.path
  let segments := (root.leadingSegments ++ below ++ [entity]).filter (· ≠ "")
  if segments.isEmpty then throw (.empty target)
  return .ofFull (".".intercalate segments)

/-- The folders that go with a component's folder. -/
structure CompanionFolders where
  /-- Where the view-model goes. -/
  viewModel : Path
  /-- Where the base class of view-models is looked for. -/
  base : Path
deriving DecidableEq, Repr

/-- The segments before the first one of a name and those after it; if there is none, all come after. -/
def splitAtFolder (folder : String) (segments : List String) : List String × List String :=
  match segments.dropWhile (· ≠ folder) with
  | [] => ([], segments)
  | _ :: after => (segments.takeWhile (· ≠ folder), after)

/-- **The folder of the view-model** for a component in a folder: the folder `viewModels` stands in for
the first folder `views` on the way down from the root, or comes first if there is none. -/
def ProjectRoot.companionFolders (root : ProjectRoot) (target : Path) (views viewModels : String) :
    Except NamespaceFault CompanionFolders := do
  let (above, below) := splitAtFolder views (← target.segmentsBelow root.path)
  let base := (root.path.descend above).child viewModels
  return ⟨base.descend below, base⟩

end ComponentScaffold
