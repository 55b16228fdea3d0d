/-! # JSON values

A document as it is written: numbers keep their digits, objects keep the order of their members and
all of them, and a string that stands for no text is told apart from every text.

* **`Json`** — the values.
* **`Json.pretty`** — the text that a value is written as. -/

namespace ComponentScaffold

/-- **A JSON value.** The text of a string is missing where its escapes leave half of a surrogate pair
alone, which no text can hold. -/
inductive Json
  /-- The value `null`. -/
  | null
  /-- A truth value. -/
  | bool (value : Bool)
  /-- A number, as its digits are written. -/
  | number (digits : String)
  /-- A string. -/
  | string (text : Option String)
  /-- An array. -/
  | array (items : List Json)
  /-- An object. -/
  | object (members : List (Option String × Json))
deriving Inhabited

namespace Json

/-- The string of a text. -/
def ofText (text : String) : Json := .string (some text)

/-- The object with members of the given names. -/
def ofMembers (members : List (String × Json)) : Json :=
  .object (members.map fun (name, value) => (some name, value))

/-- The text of a string. -/
def text? : Json → Option String
  | .string text => text
  | _ => none

/-- The texts of an array of strings. -/
def texts? : Json → Option (List String)
  | .array items => items.mapM text?
  | _ => none

/-- The value of the first member of a name. -/
def member? (name : String) : Json → Option Json
  | .object members => members.lookup (some name)
  | _ => none

/-! ## Writing

Values are laid out with two blanks for each level: every item and every member on a line of its own,
and what holds nothing on one line. In strings the quote, the backslash and control characters are
escaped and all else is written as it is. -/

/-- The digit for a number below sixteen. -/
def hexChar (n : Nat) : Char := Char.ofNat (if n < 10 then '0'.toNat + n else 'a'.toNat + (n - 10))

/-- A character as it stands in a string. -/
def escapeChar (c : Char) : List Char :=
  if c = '"' then ['\\', '"']
  else if c = '\\' then ['\\', '\\']
  else if c = '\x08' then ['\\', 'b']
  else if c = '\x0c' then ['\\', 'f']
  else if c = '\n' then ['\\', 'n']
  else if c = '\r' then ['\\', 'r']
  else if c = '\t' then ['\\', 't']
  else if c.toNat < 0x20 then
    ['\\', 'u', '0', '0', hexChar (c.toNat / 16), hexChar (c.toNat % 16)]
  else [c]

/-- A string between its quotes. One that stands for no text is written as half of a surrogate pair. -/
def quoted : Option String → List Char
  | some text => '"' :: text.toList.flatMap escapeChar ++ ['"']
  | none => "\"\\ud800\"".toList

/-- A new line with the blanks of a level. -/
def newLine (level : Nat) : List Char := '\n' :: List.replicate (2 * level) ' '

mutual

/-- A value as it stands at a level. -/
def layout (level : Nat) : Json → List Char
  | .null => "null".toList
  | .bool true => "true".toList
  | .bool false => "false".toList
  | .number digits => digits.toList
  | .string text => quoted text
  | .array [] => ['[', ']']
  | .array (item :: items) =>
    '[' :: newLine (level + 1) ++ layout (level + 1) item ++ layoutItems (level + 1) items ++
      newLine level ++ [']']
  | .object [] => ['{', '}']
  | .object ((name, value) :: members) =>
    '{' :: newLine (level + 1) ++ quoted name ++ [':', ' '] ++ layout (level + 1) value ++
      layoutMembers (level + 1) members ++ newLine level ++ ['}']

/-- The further items of an array. -/
def layoutItems (level : Nat) : List Json → List Char
  | [] => []
  | item :: items => ',' :: newLine level ++ layout level item ++ layoutItems level items

/-- The further members of an object. -/
def layoutMembers (level : Nat) : List (Option String × Json) → List Char
  | [] => []
  | (name, value) :: members =>
    ',' :: newLine level ++ quoted name ++ [':', ' '] ++ layout level value ++
      layoutMembers level members

end

/-- **A value laid out** over lines. -/
def pretty (value : Json) : String := String.ofList (layout 0 value)

end Json

end ComponentScaffold
