import ComponentScaffold.Source.Token
import ComponentScaffold.Text.Letter

/-! # Components

What can be scaffolded: the template of a kind, the files the template writes, how a kind is read from
text, and what a component can be named.

* **`ComponentKind`** — the kinds.
* **`isComponentName`** — the names. -/

namespace ComponentScaffold

/-- **A kind of component.** -/
inductive ComponentKind
  /-- A window. -/
  | window
  /-- A control composed of others. -/
  | userControl
  /-- A control whose looks are given by a template. -/
  | templatedControl
  /-- A collection of styles. -/
  | styles
  /-- A dictionary of resources. -/
  | resource
deriving DecidableEq, Repr

/-- A file that a template writes. -/
structure GeneratedFile where
  /-- The name of the file. -/
  fileName : String
  /-- The token in it that holds a namespace, if it has one. -/
  token : Option NamespaceToken
deriving DecidableEq, Repr

namespace ComponentKind

/-- All kinds, in the order in which they are listed. -/
def all : List ComponentKind := [.window, .userControl, .templatedControl, .styles, .resource]

/-- The name of a kind. -/
def label : ComponentKind → String
  | .window => "window"
  | .userControl => "user-control"
  | .templatedControl => "templated-control"
  | .styles => "styles"
  | .resource => "resource"

instance : ToString ComponentKind := ⟨label⟩

/-- The template that makes a component of a kind. -/
def template : ComponentKind → String
  | .window => "avalonia.window"
  | .userControl => "avalonia.usercontrol"
  | .templatedControl => "avalonia.templatedcontrol"
  | .styles => "avalonia.styles"
  | .resource => "avalonia.resource"

/-- The files that the template writes for a component of the given name. -/
def generatedFiles (kind : ComponentKind) (name : String) : List GeneratedFile :=
  match kind with
  | .window | .userControl =>
    [⟨name ++ ".axaml", some .markupClass⟩, ⟨name ++ ".axaml.cs", some .codeNamespace⟩]
  | .templatedControl =>
    [⟨name ++ ".axaml", some .controlsXmlns⟩, ⟨name ++ ".cs", some .codeNamespace⟩]
  | .styles | .resource => [⟨name ++ ".axaml", none⟩]

/-- Whether components of a kind come with a view-model. -/
def supportsViewModel : ComponentKind → Bool
  | .window | .userControl => true
  | _ => false

/-! ## Reading kinds -/

/-- The kind whose name is exactly the given one. -/
def ofLabel? (label : String) : Option ComponentKind := all.find? (·.label = label)

/-- The names that stand for a kind besides its own. -/
def aliases : List (String × ComponentKind) :=
  [("usercontrol", .userControl), ("templatedcontrol", .templatedControl), ("style", .styles),
    ("resource-dictionary", .resource), ("resources", .resource)]

/-- A character of a name as it is compared: small, with a hyphen for underscores and spaces. -/
def foldNameChar (c : Char) : Char :=
  if c = '_' || c = ' ' then '-' else c.toLower

/-- The kind that a text names, in any case and with any of the usual separators. -/
def parse? (text : String) : Option ComponentKind :=
  let folded := String.ofList (text.toList.map foldNameChar)
  (ofLabel? folded).or (aliases.lookup folded)

/-- What is said of a text that names no kind. -/
def unknownMessage (text : String) : String :=
  let expected := ", ".intercalate (all.map label)
  s!"unknown component kind '{text}' (expected one of: {expected})"

/-- Every kind is found by its own name. -/
@[simp] theorem ofLabel?_label (kind : ComponentKind) : ofLabel? kind.label = some kind := by
  cases kind <;> decide

end ComponentKind

/-! ## Names

A component is named by an identifier: a letter or an underscore, followed by letters, numbers and
underscores of any script. -/

/-- Whether a character can start the name of a component. -/
def isNameStart (c : Char) : Bool := Text.isAlphabetic c || c == '_'

/-- Whether a character can stand in the name of a component. -/
def isNamePart (c : Char) : Bool := Text.isAlphanumeric c || c == '_'

/-- **Whether a text can name a component.** -/
def isComponentName (name : String) : Bool :=
  match name.toList with
  | [] => false
  | c :: rest => isNameStart c && rest.all isNamePart

/-- The characters of a name are all such as can stand in one. -/
theorem isNamePart_of_mem {name : String} (h : isComponentName name = true) {c : Char}
    (hc : c ∈ name.toList) : isNamePart c = true := by
  unfold isComponentName at h
  split at h
  case h_1 => simp at h
  case h_2 first rest heq =>
    rw [heq] at hc
    simp only [Bool.and_eq_true, List.all_eq_true] at h
    rcases List.mem_cons.1 hc with rfl | hmem
    · have := h.1
      simp only [isNameStart, isNamePart, Text.isAlphanumeric, Bool.or_eq_true] at this ⊢
      exact this.imp_left Or.inl
    · exact h.2 c hmem

end ComponentScaffold
