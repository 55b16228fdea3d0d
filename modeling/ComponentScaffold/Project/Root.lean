import ComponentScaffold.Path.Basic

/-! # Project roots

The directory that namespaces are counted from, and the file names by which it is recognised. -/

namespace ComponentScaffold

/-- How solution and project files are named. -/
structure ProjectMarkers where
  /-- The end of the name of a solution file. -/
  solutionSuffix : String
  /-- The end of the name of a project file. -/
  projectSuffix : String
deriving DecidableEq, Repr

/-- The usual names of solution and project files. -/
def ProjectMarkers.standard : ProjectMarkers := ⟨".sln", ".csproj"⟩

/-- **The root of a project** or of a solution. -/
structure ProjectRoot where
  /-- The directory. -/
  path : Path
  /-- Whether it is the root of a solution, which holds several projects. -/
  isSolution : Bool
  /-- The name of the project, empty for a solution. -/
  projectName : String
deriving DecidableEq, Repr

namespace ProjectMarkers

/-- A name without the given end, if it ends so. -/
def withoutSuffix? (suffix name : String) : Option String :=
  let reversed := suffix.toList.reverse
  if reversed.isPrefixOf name.toList.reverse then
    some (String.ofList (name.toList.reverse.drop reversed.length).reverse)
  else none

/-- What a directory is by the names of its files: the root of a solution if there is a solution file,
else the root of the project of its first project file, else nothing. -/
def rootOf? (markers : ProjectMarkers) (directory : Path) (fileNames : List String) :
    Option ProjectRoot :=
  if fileNames.any fun name => (withoutSuffix? markers.solutionSuffix name).isSome then
    some ⟨directory, true, ""⟩
  else
    (fileNames.findSome? (withoutSuffix? markers.projectSuffix)).map fun name =>
      ⟨directory, false, name⟩

/-- A name is split into what is left and the end exactly when it is those two together. -/
theorem withoutSuffix?_eq_some_iff {suffix name rest : String} :
    withoutSuffix? suffix name = some rest ↔ name = rest ++ suffix := by
  unfold withoutSuffix?
  simp only
  split
  case isTrue h =>
    obtain ⟨tail, htail⟩ := List.isPrefixOf_iff_prefix.1 h
    have hname : name.toList = tail.reverse ++ suffix.toList := by
      have := congrArg List.reverse htail
      simpa using this.symm
    constructor
    · intro heq
      have : String.ofList tail.reverse = rest := by simpa [← htail] using heq
      rw [← this]
      apply String.toList_injective
      simpa using hname
    · rintro rfl
      simp
  case isFalse h =>
    simp only [reduceCtorEq, false_iff]
    rintro rfl
    exact h (List.isPrefixOf_iff_prefix.2 (by simp))

end ProjectMarkers

end ComponentScaffold
