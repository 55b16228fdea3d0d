import ComponentScaffold.Shell.Syntax

/-! # Reading scripts

A script is read from left to right, a character at a time. A token that is not wanted yet can be put
back; a here-document is announced by a redirection and read when its line is over.

* **`Shell.Token`** — the tokens of scripts.
* **`Shell.Read`** — what reads a part of a script. -/

namespace ComponentScaffold

namespace Shell

/-- What is wrong with a text that is no script. -/
inductive SyntaxReason
  /-- It is said as it is. -/
  | told (message : Octets)
  /-- A token stands where it cannot stand. -/
  | token (text : Octets)
  /-- A line cannot stand where it stands, which is told in some lines before it. -/
  | line (messages : List Octets)
  /-- The text ends too early. -/
  | finish
  /-- Something is not closed by a mark, and its line is known if `isPlaced`. -/
  | unclosed (mark : Char) (isPlaced : Bool)
deriving DecidableEq, Repr

/-- Why a text is no script. -/
structure SyntaxFault where
  /-- The line at which reading stopped. -/
  line : Nat
  /-- What is wrong. -/
  reason : SyntaxReason
deriving DecidableEq, Repr

/-- What a redirection operator asks for. -/
inductive RedirectKind
  /-- A file. -/
  | file (mode : OpenMode)
  /-- Another descriptor. -/
  | duplicate
  /-- A here-document, whose lines lose the tabs before them if `indented`. -/
  | document (indented : Bool)
  /-- A word, as a line. -/
  | text
  /-- A file, for the standard error as well. -/
  | both (appends : Bool)
deriving DecidableEq, Repr

/-- **A token** of a script. -/
inductive Token
  /-- The end of the text. -/
  | eof
  /-- The end of a line. -/
  | newline
  /-- An operator. -/
  | operator (text : String)
  /-- A word that has a meaning where a command could start. -/
  | reserved (text : String)
  /-- The start of a redirection of a descriptor. -/
  | redirect (descriptor : Nat) (kind : RedirectKind)
  /-- A word, which may have quotes in it. -/
  | word (word : Word) (quoted : Bool)

/-- What a token is called. -/
def Token.name : Token → String
  | .eof => "end of file"
  | .newline => "newline"
  | .operator text => s!"\"{text}\""
  | .reserved text => s!"\"{text}\""
  | .redirect _ _ => "redirection"
  | .word _ _ => "word"

/-- Whether a token is a given operator. -/
def Token.isOperator (token : Token) (text : String) : Bool :=
  match token with
  | .operator found => found == text
  | _ => false

/-- Whether a token is a given reserved word. -/
def Token.isReserved (token : Token) (text : String) : Bool :=
  match token with
  | .reserved found => found == text
  | _ => false

/-- The words that have a meaning where a command could start. -/
def reservedWords : List String :=
  ["!", "case", "do", "done", "elif", "else", "esac", "fi", "for", "if", "in", "then", "until",
    "while", "\x7b", "\x7d"]

/-- The words that have a meaning where a command could start, in a dialect. -/
def Dialect.reservedWords : Dialect → List String
  | .common => Shell.reservedWords
  | .extended => Shell.reservedWords ++ ["function", "[["]

/-- Whether a token ends the scripts that stand inside others. -/
def Token.endsList : Token → Bool
  | .eof => true
  | .operator text => [")", ";;", ";&", ";;&"].contains text
  | .reserved text =>
    ["do", "done", "elif", "else", "esac", "fi", "then", "\x7d"].contains text
  | _ => false

/-- A here-document that was announced. -/
structure Announced where
  /-- The line that ends it. -/
  mark : Octets
  /-- Whether its lines lose the tabs before them. -/
  indented : Bool
  /-- Whether nothing is put in place of parameters in it. -/
  verbatim : Bool
  /-- Its number. -/
  index : Nat

/-- How far a script has been read. -/
structure Reading where
  /-- The dialect. -/
  dialect : Dialect
  /-- What is left. -/
  rest : Octets
  /-- The line that has been reached. -/
  line : Nat
  /-- The last token. -/
  last : Token
  /-- The text of the last token, in the extended dialect. -/
  lastText : Octets
  /-- Whether the last token was put back. -/
  isBack : Bool
  /-- Whether the next word can assign something to an entry, or entries. -/
  mayAssign : Bool
  /-- Whether patterns can have parentheses. -/
  hasGroups : Bool
  /-- The here-documents that are to be read when the line is over. -/
  announced : List Announced
  /-- The here-documents read so far, by their numbers. -/
  documents : Array Word
  /-- Other words for commands. -/
  aliases : List (Octets × Octets)
  /-- Those whose words are being read, each with the number of characters behind them. -/
  replacing : List (Octets × Nat)

/-- **What reads a part of a script.** -/
abbrev Read := StateT Reading (Except SyntaxFault)

/-- Stop reading. -/
def stop {α : Type} (reason : SyntaxReason) : Read α := do
  throw ⟨(← get).line, reason⟩

/-- Stop reading. -/
def refuse {α : Type} (message : String) : Read α := stop (.told (octets message))

/-- Whether the dialect is the extended one. -/
def isExtended : Read Bool := return (← get).dialect = .extended

/-- Stop reading where something is not closed by a mark. -/
def refuseUnclosed {α : Type} (message : String) (mark : Char) : Read α := do
  if ← isExtended then stop (.unclosed mark false) else refuse message

/-- Read something that starts here: if it is not closed, it is here that this is found. -/
def fromHere {α : Type} (action : Read α) : Read α := do
  let line := (← get).line
  tryCatch action fun fault =>
    match fault.reason with
    | .unclosed mark false => throw ⟨line, .unclosed mark true⟩
    | _ => throw fault

/-- Stop reading at the last token, where another one is expected or not. -/
def unexpected {α : Type} (expected : Option Token) : Read α := do
  let reading ← get
  if ← isExtended then
    match reading.last with
    | .eof => stop .finish
    | .newline => throw ⟨reading.line - 1, .token (octets "newline")⟩
    | _ => stop (.token reading.lastText)
  let found := reading.last.name
  match expected with
  | some token => refuse s!"{found} unexpected (expecting {token.name})"
  | none => refuse s!"{found} unexpected"

/-- Put the last token back. -/
def putBack : Read Unit := modify fun reading => { reading with isBack := true }

/-- The characters after joined lines, and how many lines were joined. -/
def skipJoints : Octets → Octets × Nat
  | '\\' :: '\n' :: rest =>
    let (rest, joints) := skipJoints rest
    (rest, joints + 1)
  | text => (text, 0)

/-- The next character, as it stands. -/
def rawChar : Read (Option Char) := do
  match (← get).rest with
  | [] => return none
  | c :: rest =>
    modify fun reading => { reading with rest := rest }
    return some c

/-- The next character, which stays there. Lines that end in a backslash are joined. -/
def peekChar : Read (Option Char) := do
  let (rest, joints) := skipJoints (← get).rest
  if joints > 0 then
    modify fun reading => { reading with rest := rest, line := reading.line + joints }
  return rest.head?

/-- Pass over the next character. -/
def dropChar : Read Unit := modify fun reading => { reading with rest := reading.rest.tail }

/-- The next character. Lines that end in a backslash are joined. -/
def nextChar : Read (Option Char) := do
  let next ← peekChar
  dropChar
  return next

/-- Note that a line is over. -/
def countLine : Read Unit := modify fun reading => { reading with line := reading.line + 1 }

/-- Pass over the next character if it is the given one, and say whether it was. -/
def dropIf (c : Char) : Read Bool := do
  if (← peekChar) = some c then
    dropChar
    return true
  return false

/-- The next characters as long as they fit, at most the given number of them. -/
def charsWhile (fits : Char → Bool) : (bound : Nat) → Read Octets
  | 0 => return []
  | bound + 1 => do
    match ← peekChar with
    | some c =>
      if fits c then
        dropChar
        return c :: (← charsWhile fits bound)
      return []
    | none => return []

/-- The number of characters that are left. -/
def left : Read Nat := return (← get).rest.length

end Shell

end ComponentScaffold
