import ComponentScaffold.Shell.Reading

/-! # Reading parameters between braces

What stands between braces names a parameter, and tells what is made of its value. In the extended dialect it can
name an entry of a variable or all of them, and more can be made of values.

* **`Shell.Inside`** — what a part of a word stands in.
* **`Shell.readBraces`** — the piece of a parameter between braces. -/

namespace ComponentScaffold

namespace Shell

/-- **What a part of a word stands in.** -/
inductive Inside
  /-- In no quotes. -/
  | word
  /-- In no quotes, where nothing is put in place of parameters. -/
  | mark
  /-- Between double quotes. -/
  | double
  /-- In a here-document. -/
  | document
  /-- Between the braces of a parameter in no quotes. -/
  | braces
  /-- Between the braces of a parameter in quotes, after as many double quotes as say whether
  others are open. -/
  | quotedBraces (isOpen : Bool)
  /-- In a pattern between the braces of a parameter in quotes. -/
  | pattern
  /-- In an expression, between the given number of parentheses. -/
  | expression (depth : Nat)
  /-- In the key of an entry, between the given number of brackets. -/
  | key (depth : Nat)
  /-- In a regular expression, between the given number of parentheses. -/
  | regex (depth : Nat)
  /-- In the parentheses of a pattern. -/
  | group
deriving DecidableEq, Repr

namespace Inside

/-- Whether the characters in it are quoted. -/
def isQuoted : Inside → Bool
  | .double | .document | .quotedBraces _ | .expression _ => true
  | _ => false

/-- Whether it is read up to a closing brace. -/
def isBraced : Inside → Bool
  | .braces | .quotedBraces _ | .pattern => true
  | _ => false

/-- Whether a word ends in it at a blank or an operator. -/
def isOpenWord : Inside → Bool
  | .word | .mark => true
  | _ => false

/-- Whether a backslash in it takes the meaning of a character away. -/
def isEscapable (inside : Inside) (c : Char) : Bool :=
  if inside.isQuoted then
    c == '\\' || c == '\x60' || c == '$' || (c == '"' && inside != .document) ||
      (c == '\x7d' && inside.isBraced)
  else true

/-- What is wrong if the text ends in it, and the mark that would close it. -/
def unended? : Inside → Option (String × Char)
  | .word | .mark | .document | .regex _ => none
  | .double | .quotedBraces _ => some ("Unterminated quoted string", '"')
  | .braces | .pattern => some ("Missing '\x7d'", '\x7d')
  | .expression _ => some ("Missing '))'", ')')
  | .key _ => some ("Missing ']'", ']')
  | .group => some ("Missing ')'", ')')

end Inside

/-- Whether a character ends a word that nothing quotes. -/
def endsWord (c : Char) : Bool := " \t\n;&|()<>".toList.contains c

/-- The parameter that a single character names. -/
def specialParameter? (c : Char) : Option Parameter :=
  if c.isDigit then some (.argument (c.toNat - '0'.toNat))
  else if c = '@' then some (.arguments false)
  else if c = '*' then some (.arguments true)
  else if c = '#' then some .count
  else if c = '?' then some .status
  else if c = '-' then some .options
  else if c = '$' then some .process
  else if c = '!' then some .background
  else none

/-- How the word after the name of a parameter is used. -/
inductive BraceForm
  /-- There is none. -/
  | plain
  /-- It is for a parameter without a value. -/
  | fallback (what : Fallback) (orEmpty : Bool)
  /-- It is a pattern for a part of the value. -/
  | trimmed (atEnd longest : Bool)
  /-- It is there in vain. -/
  | broken

/-- The fallback that a character asks for. -/
def fallback? (c : Char) : Option Fallback :=
  if c = '-' then some .other
  else if c = '=' then some .assign
  else if c = '?' then some .complain
  else if c = '+' then some .instead
  else none

/-- What follows the name of a parameter between braces. -/
def readForm : Read BraceForm := do
  match ← nextChar with
  | some '\x7d' => return .plain
  | some ':' =>
    match (← peekChar).bind fallback? with
    | some what =>
      dropChar
      return .fallback what true
    | none => return .broken
  | some '%' => return .trimmed true (← dropIf '%')
  | some '#' => return .trimmed false (← dropIf '#')
  | some c =>
    match fallback? c with
    | some what => return .fallback what false
    | none =>
      modify fun reading => { reading with rest := c :: reading.rest }
      return .broken
  | none => return .broken

/-- The name of a parameter between braces, if one stands there. -/
def readBracedName : Read (Option Parameter) := do
  match ← peekChar with
  | none => return none
  | some c =>
    if isNameStart c then return some (.variable (← charsWhile isNamePart (← left)))
    else if c.isDigit then
      return some (.argument (digitsValue (← charsWhile Char.isDigit (← left))))
    else match specialParameter? c with
      | some parameter =>
        dropChar
        return some parameter
      | none => return none

/-- Whether a number sign after the opening brace asks for a length, given what follows it. -/
def asksForLength (rest : Octets) : Bool :=
  match rest with
  | c :: next :: _ => isNamePart c || (c != '\x7d' && next == '\x7d')
  | _ => false

/-- The piece of a parameter after its opening brace, in the common dialect. -/
def readCommonBraces (inside : Inside) (further : Inside → Read (List Piece)) : Read Piece := do
  let quoted := inside.isQuoted
  let within : Inside := if quoted then .quotedBraces false else .braces
  let isLength := (← peekChar) = some '#' && asksForLength (← get).rest.tail
  if isLength then
    dropChar
    let name ← readBracedName
    match name, ← nextChar with
    | some parameter, some '\x7d' => return .length parameter quoted
    | _, none => refuse "Missing '\x7d'"
    | _, some _ =>
      let _ ← further within
      return .broken []
  match ← readBracedName with
  | none =>
    if !(← dropIf '\x7d') then let _ ← further within
    return .broken []
  | some parameter =>
    match ← readForm with
    | .plain => return .parameter parameter quoted
    | .fallback what orEmpty => return .fallback parameter what orEmpty (← further within) quoted
    | .trimmed atEnd longest =>
      let pattern ← further (if quoted then .pattern else .braces)
      return .trimmed parameter atEnd longest pattern quoted
    | .broken =>
      let _ ← further within
      return .broken []

/-! ## The extended dialect -/

/-- The pieces before an unquoted character, and those behind it if it is there. -/
def cutPieces (mark : Char) : List Piece → List Piece × Option (List Piece)
  | [] => ([], none)
  | .char c false :: rest =>
    if c = mark then ([], some rest)
    else
      let (before, behind) := cutPieces mark rest
      (.char c false :: before, behind)
  | piece :: rest =>
    let (before, behind) := cutPieces mark rest
    (piece :: before, behind)

/-- The key behind an opening bracket that asks for all entries: whether they are joined. -/
def allEntries? (rest : Octets) : Option Bool :=
  match rest with
  | '@' :: ']' :: _ => some false
  | '*' :: ']' :: _ => some true
  | _ => none

/-- What a form is about. -/
def readSubject (further : Inside → Read (List Piece)) : Read (Option Subject) := do
  match ← readBracedName with
  | some (.variable name) =>
    if !(← dropIf '[') then return some (.parameter (.variable name))
    match allEntries? (← get).rest with
    | some joined =>
      dropChar
      dropChar
      return some (.entries name joined)
    | none => return some (.entry name (← further (.key 0)))
  | other => return other.map .parameter

/-- Pass over the last one of some characters and the closing brace behind it, if they stand there. -/
def dropLast? (marks : String) : Read (Option Char) := do
  match (← get).rest with
  | c :: '\x7d' :: _ =>
    if !marks.toList.contains c then return none
    dropChar
    dropChar
    return some c
  | _ => return none

/-- What a form asks for by its marks, up to the closing brace. -/
def readExtendedForm (quoted : Bool) (further : Inside → Read (List Piece)) : Read (Option Form) := do
  let within : Inside := if quoted then .quotedBraces false else .braces
  let inPattern : Inside := if quoted then .pattern else .braces
  match ← nextChar with
  | some '\x7d' => return some .value
  | some ':' =>
    match (← peekChar).bind fallback? with
    | some what =>
      dropChar
      return some (.fallback what true (← further within))
    | none =>
      let (start, length) := cutPieces ':' (← further inPattern)
      return some (.part start length)
  | some '%' => do
    let longest ← dropIf '%'
    return some (.trimmed true longest (← further inPattern))
  | some '#' => do
    let longest ← dropIf '#'
    return some (.trimmed false longest (← further inPattern))
  | some '/' => do
    let place : ReplacePlace ←
      if ← dropIf '/' then pure .all
      else if ← dropIf '#' then pure .start
      else if ← dropIf '%' then pure .finish
      else pure .first
    let (part, other) := cutPieces '/' (← further inPattern)
    return some (.replaced place part (other.getD []))
  | some '^' => do
    let all ← dropIf '^'
    return some (.lettered true all (← further inPattern))
  | some ',' => do
    let all ← dropIf ','
    return some (.lettered false all (← further inPattern))
  | some '@' =>
    match ← dropLast? "UuLQEPAKak" with
    | some manner => return some (.shown manner)
    | none =>
      let _ ← further within
      return none
  | some c =>
    match fallback? c with
    | some what => return some (.fallback what false (← further within))
    | none =>
      modify fun reading => { reading with rest := c :: reading.rest }
      let _ ← further within
      return none
  | none => refuseUnclosed "Missing '\x7d'" '\x7d'

/-- The subject and the form between braces, of which one stands there. -/
def readExtendedParts (quoted : Bool) (further : Inside → Read (List Piece)) :
    Read (Option (Subject × Form)) := do
  let rest := (← get).rest
  let isOther (c : Char) : Bool := isNamePart c || c == '@' || c == '*' || c == '#' || c == '!'
  if rest.head? = some '#' && asksForLength rest.tail then
    dropChar
    match ← readSubject further, ← nextChar with
    | some subject, some '\x7d' => return some (subject, .length)
    | _, none => refuseUnclosed "Missing '\x7d'" '\x7d'
    | _, some _ =>
      let _ ← further .braces
      return none
  else if rest.head? = some '!' && rest.tail.head?.any isOther then
    dropChar
    let reading ← get
    match ← readBracedName with
    | some (.variable name) =>
      if let some c ← dropLast? "*@" then return some (.names name (c = '*'), .value)
      match (← get).rest with
      | '[' :: key =>
        match allEntries? key with
        | some joined =>
          modify fun reading => { reading with rest := reading.rest.drop 3 }
          return (← readExtendedForm quoted further).map fun form => (.keys name joined, form)
        | none => pure ()
      | _ => pure ()
      set reading
    | _ => set reading
    match ← readSubject further with
    | some subject => return (← readExtendedForm quoted further).map fun form => (.named subject, form)
    | none =>
      let _ ← further .braces
      return none
  else
    match ← readSubject further with
    | some subject => return (← readExtendedForm quoted further).map fun form => (subject, form)
    | none =>
      if !(← dropIf '\x7d') then let _ ← further .braces
      return none

/-- **The piece of a parameter** after its opening brace. The word in it is read by `further`. -/
def readBraces (inside : Inside) (further : Inside → Read (List Piece)) : Read Piece := do
  if !(← isExtended) then return ← readCommonBraces inside further
  let before := (← get).rest
  let found ← fromHere (readExtendedParts inside.isQuoted further)
  let text := octets "$\x7b" ++ before.take (before.length - (← left))
  match found with
  | some (subject, form) => return .formed subject form text inside.isQuoted
  | none => return .broken text

end Shell

end ComponentScaffold
