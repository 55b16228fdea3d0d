import ComponentScaffold.Text.Blank
import ComponentScaffold.Text.Search

/-! # Reading identifiers

Readers for the pieces that declarations consist of: runs of blanks, ASCII identifiers, and chains of
identifiers joined by single dots. A reader takes as much as it can and returns it with the rest.
-/

namespace ComponentScaffold.Text

/-- Whether a character can start an ASCII identifier. -/
def isIdentifierStart (c : Char) : Bool := c.isAlpha || c == '_'

/-- Whether a character can stand in an ASCII identifier. -/
def isIdentifierPart (c : Char) : Bool := c.isAlphanum || c == '_'

/-- The text after a run of at least one blank. -/
def dropBlanks? : List Char → Option (List Char)
  | [] => none
  | c :: rest => if isBlank c then some (rest.dropWhile isBlank) else none

/-- Dropping blanks shortens the text. -/
theorem length_lt_of_dropBlanks? {text rest : List Char} (h : dropBlanks? text = some rest) :
    rest.length < text.length := by
  cases text with
  | nil => simp [dropBlanks?] at h
  | cons c more =>
    simp only [dropBlanks?] at h
    split at h
    case isTrue =>
      obtain rfl := Option.some.inj h
      have := (List.dropWhile_sublist (l := more) isBlank).length_le
      simp only [List.length_cons]
      omega
    case isFalse => simp at h

/-- The longest identifier at the start of a text, and the rest. -/
def readIdentifier? : List Char → Option (List Char × List Char)
  | [] => none
  | c :: rest =>
    if isIdentifierStart c then
      some (c :: rest.takeWhile isIdentifierPart, rest.dropWhile isIdentifierPart)
    else none

/-- Reading an identifier shortens the text. -/
theorem length_lt_of_readIdentifier? {text name rest : List Char}
    (h : readIdentifier? text = some (name, rest)) : rest.length < text.length := by
  cases text with
  | nil => simp [readIdentifier?] at h
  | cons c more =>
    simp only [readIdentifier?] at h
    split at h
    case isTrue =>
      obtain ⟨-, rfl⟩ := Prod.mk.inj (Option.some.inj h)
      have := (List.dropWhile_sublist (l := more) isIdentifierPart).length_le
      simp only [List.length_cons]
      omega
    case isFalse => simp at h

/-- The longest run of `.name` pieces at the start of a text. -/
def readDottedTail : List Char → List Char
  | '.' :: text =>
    match h : readIdentifier? text with
    | some (name, rest) =>
      have : rest.length < text.length := length_lt_of_readIdentifier? h
      '.' :: name ++ readDottedTail rest
    | none => []
  | _ => []
termination_by text => text.length
decreasing_by simp only [List.length_cons]; omega

/-- The longest chain of identifiers joined by single dots at the start of a text. -/
def readDottedName? (text : List Char) : Option (List Char) :=
  (readIdentifier? text).map fun (name, rest) => name ++ readDottedTail rest

end ComponentScaffold.Text
