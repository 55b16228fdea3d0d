import ComponentScaffold.Failure
import ComponentScaffold.Text.Identifier
import ComponentScaffold.Text.Letter
import ComponentScaffold.Text.Word

/-! # Base classes

A class gets a base class by two edits of its source: a `using` line in front of the namespace
declaration, where the base class lies in another namespace, and a base list in the head of the class.

* **`NamespaceDeclaration.find?`**, **`declaredClass?`** — what a text declares.
* **`addImport`** — the first edit.
* **`ClassHead.find?`** — the head of a class, from its keyword to its opening brace.
* **`inheritFrom`** — both edits. -/

namespace ComponentScaffold

/-! ## Declarations in source text

Where a source text declares a namespace, and which class it declares first. Declarations are
recognised by their words alone, wherever they stand.

* **`NamespaceDeclaration.find?`** — the first namespace declaration, as a cut of the text.
* **`declaredClass?`** — the name in the first line that opens with a class declaration. -/

open Text

/-! ### Namespaces -/

/-- The keyword of namespace declarations. -/
def namespaceKeyword : List Char := "namespace".toList

/-- **A text cut at a namespace declaration.** -/
structure NamespaceDeclaration where
  /-- The text before the keyword. -/
  before : List Char
  /-- The text from the keyword on. -/
  rest : List Char
  /-- The namespace that is declared. -/
  name : List Char
deriving DecidableEq, Repr

namespace NamespaceDeclaration

/-- The number of bytes before the keyword. -/
def offset (declaration : NamespaceDeclaration) : Nat := utf8Size declaration.before

/-- The namespace declared right at the start of a text: the keyword, blanks and a dotted name. -/
def nameAt? (text : List Char) : Option (List Char) := do
  readDottedName? (← dropBlanks? (← after? namespaceKeyword text))

/-- The first declaration in a text that follows the given character. The keyword has to start a
word. -/
def findAfter? (previous : Option Char) : List Char → Option NamespaceDeclaration
  | [] => none
  | c :: rest =>
    match if previous.any isWordChar then none else nameAt? (c :: rest) with
    | some name => some ⟨[], c :: rest, name⟩
    | none => (findAfter? (some c) rest).map fun found => { found with before := c :: found.before }

/-- **The first namespace declaration** in a text. -/
def find? (text : List Char) : Option NamespaceDeclaration := findAfter? none text

/-- The two parts of a found declaration make up the text that was searched. -/
theorem append_of_findAfter? {previous : Option Char} {text : List Char}
    {found : NamespaceDeclaration} (h : findAfter? previous text = some found) :
    found.before ++ found.rest = text := by
  induction text generalizing previous found with
  | nil => simp [findAfter?] at h
  | cons c rest ih =>
    simp only [findAfter?] at h
    split at h
    case h_1 =>
      obtain rfl := Option.some.inj h
      rfl
    case h_2 =>
      obtain ⟨inner, hinner, rfl⟩ := Option.map_eq_some_iff.1 h
      simp [ih hinner]

end NamespaceDeclaration

/-! ### Classes -/

/-- The keyword of class declarations. -/
def classKeyword : List Char := "class".toList

/-- The words that may stand before the keyword of a class. -/
def classModifiers : List (List Char) :=
  ["public", "internal", "protected", "private", "abstract", "partial", "sealed", "static"].map
    String.toList

/-- The text after a modifier and the blanks behind it. -/
def dropModifier? (text : List Char) : Option (List Char) :=
  classModifiers.findSome? fun modifier => (after? modifier text).bind dropBlanks?

/-- Dropping a modifier shortens the text. -/
theorem length_lt_of_dropModifier? {text rest : List Char} (h : dropModifier? text = some rest) :
    rest.length < text.length := by
  obtain ⟨modifier, -, hdrop⟩ := List.exists_of_findSome?_eq_some h
  obtain ⟨tail, hafter, hblanks⟩ := Option.bind_eq_some_iff.1 hdrop
  have := length_lt_of_dropBlanks? hblanks
  rw [after?_eq_some_iff.1 hafter, List.length_append]
  omega

/-- The text after all modifiers at its start. -/
def dropModifiers (text : List Char) : List Char :=
  match h : dropModifier? text with
  | some rest =>
    have : rest.length < text.length := length_lt_of_dropModifier? h
    dropModifiers rest
  | none => text
termination_by text.length

/-- Whether a character indents a line. -/
def isIndent (c : Char) : Bool := c == ' ' || c == '\t'

/-- The class declared at the start of a line: indentation, modifiers, the keyword, blanks and a name.
Blanks may run over the ends of lines. -/
def declaredClassAt? (line : List Char) : Option (List Char) := do
  let declaration := dropModifiers (line.dropWhile isIndent)
  let (name, _) ← readIdentifier? (← dropBlanks? (← after? classKeyword declaration))
  return name

/-- The first class declared in a text, given whether the text stands at the start of a line. -/
def declaredClassFrom? (atLineStart : Bool) : List Char → Option (List Char)
  | [] => none
  | c :: rest =>
    match if atLineStart then declaredClassAt? (c :: rest) else none with
    | some name => some name
    | none => declaredClassFrom? (c == '\n') rest

/-- **The first class that a text declares** at the start of a line. -/
def declaredClass? (text : List Char) : Option (List Char) := declaredClassFrom? true text

/-! ## Imports -/

/-- The line that imports a namespace. -/
def importLine (base : List Char) : List Char := "using ".toList ++ base ++ ";".toList

/-- The text with an import of a base class's namespace, and the namespace if an import was added. It
is added in front of the namespace declaration if that declares another namespace and the text has no
such line yet. -/
def addImport (text : List Char) (base : Option (List Char)) : List Char × Option (List Char) :=
  match base, NamespaceDeclaration.find? text with
  | some base, some declaration =>
    -- the line counts wherever it stands in the text
    if declaration.name ≠ base && !occursIn (importLine base) text then
      (declaration.before ++ importLine base ++ "\n\n".toList ++ declaration.rest, some base)
    else (text, none)
  | _, _ => (text, none)

/-! ## Class heads -/

/-- Whether the name of a class stands at the start of a text and ends there. -/
def startsWithName (name text : List Char) : Bool :=
  match after? name text with
  | none => false
  | some [] => true
  | some (c :: _) => !(isAlphanumeric c || c == '_')

/-- Whether `class` between two texts, the first of them given last character first, is the keyword of the
declaration of a class of a name. -/
def declaresBetween (name before after : List Char) : Bool :=
  before.head?.all isBlank &&
    match dropBlanks? after with
    | none => false
    | some rest => startsWithName name rest

/-- The text before the declaration of a class, last character first, and the text from its keyword on.
Occurrences of the keyword are tried one after the other; `seen` is the text before those that are left, last
character first. -/
def findClassAfter? (name seen text : List Char) : Option (List Char × List Char) :=
  match h : splitFirst? classKeyword text with
  | none => none
  | some (before, after) =>
    let seen := before.reverse ++ seen
    if declaresBetween name seen after then some (seen, classKeyword ++ after)
    else
      have : after.length < text.length := length_lt_of_splitFirst? (by decide) h
      findClassAfter? name (classKeyword.reverse ++ seen) after
termination_by text.length

/-- **A text cut at the head of a class.** -/
structure ClassHead where
  /-- The text before the keyword. -/
  before : List Char
  /-- The text from the keyword up to the opening brace. -/
  head : List Char
  /-- The text from the opening brace on. -/
  body : List Char
deriving DecidableEq, Repr

namespace ClassHead

/-- The head of the first declaration of a class of the given name. -/
def find? (name text : List Char) : Option ClassHead := do
  let (before, declaration) ← findClassAfter? name [] text
  let (head, inside) ← splitFirst? ['{'] declaration
  return ⟨before.reverse, head, '{' :: inside⟩

/-- The text with another head. The blanks before the brace stay. -/
def replace (head : ClassHead) (newHead : List Char) : List Char :=
  head.before ++ newHead ++ trailingBlanks head.head ++ head.body

end ClassHead

/-- The head of a class with a base class. -/
def inheritingHead (name base : List Char) : List Char :=
  "class ".toList ++ name ++ " : ".toList ++ base

/-- A source text after an edit. -/
structure EditedSource where
  /-- The text. -/
  text : List Char
  /-- The namespace for which an import was added. -/
  imported : Option (List Char)
deriving DecidableEq, Repr

/-- **Let a class inherit** from a base class, which may lie in a namespace. -/
def inheritFrom (text name base : List Char) (baseNamespace : Option (List Char)) :
    Except Failure EditedSource :=
  let (text, imported) := addImport text baseNamespace
  match ClassHead.find? name text with
  | some head => .ok ⟨head.replace (inheritingHead name base), imported⟩
  | none => .error (.declarationNotFound (String.ofList name))

/-! ## View-models -/

/-- The namespace in the source of a new view-model, to be replaced by its own. -/
def placeholderNamespace : String := "ViewModels"

/-- **The source of a new view-model.** -/
def viewModelSource (name : String) : String :=
  s!"namespace {placeholderNamespace};\n\npublic partial class {name}\n\x7b\n\x7d\n"

end ComponentScaffold
