import ComponentScaffold.Shell.Brace
import ComponentScaffold.Shell.Extended.Quoted

/-! # Reading words

A word ends where nothing quotes its end. What stands between quotes or braces is read with rules of its
own, and a command that stands in a word is read as a script.

* **`Shell.readPieces`** — the pieces of a word up to the end of what they stand in.
* **`Shell.readAnyToken`** — the next token. -/

namespace ComponentScaffold

namespace Shell

/-- The characters up to a single quote, which is passed over. -/
def readSingle : (bound : Nat) → Read (List Piece)
  | 0 => refuseUnclosed "Unterminated quoted string" '\x27'
  | bound + 1 => do
    match ← rawChar with
    | none => refuseUnclosed "Unterminated quoted string" '\x27'
    | some '\x27' => return []
    | some c =>
      if c = '\n' then countLine
      return .char c true :: (← readSingle bound)

/-- The text up to a backquote, which is passed over. A backslash takes the meaning of a few characters
away. -/
def readBackquoted (quoted : Bool) : (bound : Nat) → Read Octets
  | 0 => refuseUnclosed "EOF in backquote substitution" '\x60'
  | bound + 1 => do
    match ← nextChar with
    | none => refuseUnclosed "EOF in backquote substitution" '\x60'
    | some '\x60' => return []
    | some '\\' =>
      match ← rawChar with
      | none => refuseUnclosed "EOF in backquote substitution" '\x60'
      | some c =>
        if c = '\\' || c = '\x60' || c = '$' || (quoted && c = '"') then
          return c :: (← readBackquoted quoted bound)
        return '\\' :: c :: (← readBackquoted quoted bound)
    | some c =>
      if c = '\n' then countLine
      return c :: (← readBackquoted quoted bound)

/-- The script of a text of its own, whose lines are counted from its start, and of which an unread end is
passed over. -/
def readApart (script : Read Script) (text : Octets) : Read Script := do
  let outer ← get
  set { outer with rest := text, line := 1, isBack := false, announced := [] }
  let found ← script
  modify fun reading => { outer with documents := reading.documents }
  return found

/-- The script up to a closing parenthesis, which is passed over. -/
def readEnclosed (script : Read Script) (token : Read Token) : Read Script := do
  let outer ← get
  set { outer with isBack := false, announced := [] }
  let found ← script
  if !(← token).isOperator ")" then unexpected (some (.operator ")"))
  modify fun reading =>
    { reading with last := outer.last, isBack := outer.isBack, announced := outer.announced }
  return found

/-- What reads the scripts that stand in words, and their tokens. -/
structure Nested where
  /-- Reads a script. -/
  script : Read Script
  /-- Reads a token where a command could start. -/
  token : Read Token

/-- The piece after a dollar sign, or the sign itself. -/
def readDollar (nested : Nested) (inside : Inside) (further : Inside → Read (List Piece)) :
    Read Piece := do
  let quoted := inside.isQuoted
  match ← peekChar with
  | some '(' =>
    dropChar
    let before ← get
    if ← dropIf '(' then
      if before.dialect = .common then return .arithmetic (← further (.expression 0)) quoted
      let expression? ← tryCatch (return some (← further (.expression 0))) fun _ => return none
      if let some expression := expression? then return .arithmetic expression quoted
      set before
    return .command (← readEnclosed nested.script nested.token) quoted
  | some '\x7b' =>
    dropChar
    readBraces inside further
  | some c =>
    if isNameStart c then return .parameter (.variable (← charsWhile isNamePart (← left))) quoted
    match specialParameter? c with
    | some parameter =>
      dropChar
      return .parameter parameter quoted
    | none => return .char '$' quoted
  | none => return .char '$' quoted

/-- The text up to a single quote, which is passed over, where a backslash takes the meaning of the next character
away and stays. -/
def readEscaped : (bound : Nat) → Read Octets
  | 0 => stop (.unclosed '\x27' false)
  | bound + 1 => do
    match ← rawChar with
    | none => stop (.unclosed '\x27' false)
    | some '\x27' => return []
    | some '\\' =>
      match ← rawChar with
      | none => stop (.unclosed '\x27' false)
      | some c =>
        if c = '\n' then countLine
        return '\\' :: c :: (← readEscaped bound)
    | some c =>
      if c = '\n' then countLine
      return c :: (← readEscaped bound)

/-- The pieces of quotes behind a dollar sign, if the dialect and the place have such. -/
def readDollarQuotes (inside : Inside) : Read (Option (List Piece)) := do
  if !(← isExtended) || inside.isQuoted then return none
  match (← get).rest with
  | '\x27' :: _ =>
    dropChar
    let text ← fromHere (readEscaped (← left).succ)
    return some (.quotes :: (escapedText text).map (Piece.char · true) ++ [.quotes])
  | '"' :: _ => return some []
  | _ => return none

/-- The piece of a script whose output is read like a file, if one starts here. -/
def readChannel (nested : Nested) (inside : Inside) : Read (Option Piece) := do
  if !(← isExtended) || inside ≠ .word then return none
  match (← get).rest with
  | '<' :: '(' :: _ =>
    dropChar
    dropChar
    return some (.channel (← readEnclosed nested.script nested.token))
  | _ => return none

/-- Whether double quotes stand around all arguments and nothing else. -/
def areArguments : List Piece → Bool
  | [.parameter (.arguments false) _] => true
  | [.formed (.parameter (.arguments false)) form _ _] => !(form matches .length)
  | [.formed (.entries _ false) form _ _] => !(form matches .length)
  | [.formed (.keys _ false) _ _ _] => true
  | _ => false

/-- Pieces between double quotes. Around all arguments alone they leave no trace, so that there is no
word where there are no arguments. -/
def quotedPieces (pieces : List Piece) : List Piece :=
  if areArguments pieces then pieces else .quotes :: pieces ++ [.quotes]

/-- Whether the parentheses of a pattern start here. -/
def beginsGroup : Read Bool := do
  let reading ← get
  return reading.hasGroups && reading.rest.head? = some '('

/-- **The pieces of a word** up to the end of what they stand in, of which at most `bound` are read. A
closing mark is passed over, the end of an unquoted word is not. -/
def readPieces (nested : Nested) : (bound : Nat) → Inside → Read (List Piece)
  | 0, _ => refuse "word too long"
  | bound + 1, inside => do
    let further := readPieces nested bound
    let quoted := inside.isQuoted
    match ← peekChar with
    | none =>
      match inside.unended? with
      | some (message, mark) => refuseUnclosed message mark
      | none => return []
    | some c =>
      if inside.isOpenWord && endsWord c then
        match ← readChannel nested inside with
        | some piece => return piece :: (← further inside)
        | none => return []
      if inside = .regex 0 && " \t\n;&<>)".toList.contains c then return []
      dropChar
      match c with
      | '\\' =>
        match ← rawChar with
        | none => return .char '\\' true :: (← further inside)
        | some escaped =>
          if inside.isEscapable escaped then
            return .char escaped true :: (← further inside)
          if escaped = '\n' then countLine
          return .char '\\' quoted :: .char escaped quoted :: (← further inside)
      | '\x27' =>
        if quoted then return .char c true :: (← further inside)
        let single ← fromHere (readSingle (← left).succ)
        return .quotes :: single ++ (← further inside)
      | '"' =>
        match inside with
        | .double => return []
        | .document => return .char c true :: (← further inside)
        | .quotedBraces isOpen => further (.quotedBraces !isOpen)
        | .expression _ => return .char c true :: (← further inside)
        | _ =>
          let double ← fromHere (further .double)
          return quotedPieces double ++ (← further inside)
      | '\x60' =>
        let text ← fromHere (readBackquoted quoted (← left).succ)
        let script ← readApart nested.script text
        return .command script quoted :: (← further inside)
      | '$' =>
        if inside = .mark then return .char c false :: (← further inside)
        if let some pieces ← readDollarQuotes inside then return pieces ++ (← further inside)
        let piece ← readDollar nested inside further
        return piece :: (← further inside)
      | '\x7d' =>
        if inside.isBraced && inside != .quotedBraces true then return []
        return .char c quoted :: (← further inside)
      | _ =>
        if c = '\n' then countLine
        if "?*+@!".toList.contains c && !quoted && (← beginsGroup) then
          dropChar
          let group ← further .group
          let marked := .char c false :: .char '(' false :: group ++ [.char ')' false]
          return marked ++ (← further inside)
        match inside with
        | .expression depth =>
          if c = '(' then return .char c true :: (← further (.expression (depth + 1)))
          if c = ')' then
            match depth with
            | depth + 1 => return .char c true :: (← further (.expression depth))
            | 0 =>
              if ← dropIf ')' then return []
              if ← isExtended then stop (.unclosed ')' false)
          return .char c true :: (← further inside)
        | .key depth =>
          if c = '[' then return .char c false :: (← further (.key (depth + 1)))
          if c = ']' then
            match depth with
            | depth + 1 => return .char c false :: (← further (.key depth))
            | 0 => return []
          return .char c false :: (← further inside)
        | .group =>
          if c = ')' then return []
          return .char c false :: (← further inside)
        | .regex depth =>
          if c = '(' then return .char c false :: (← further (.regex (depth + 1)))
          if c = ')' then return .char c false :: (← further (.regex (depth - 1)))
          return .char c false :: (← further inside)
        | _ => return .char c quoted :: (← further inside)

/-! ## Words as tokens -/

/-- The text of a piece that is an unquoted character. -/
def Piece.plain? : Piece → Option Char
  | .char c false => some c
  | _ => none

/-- The text of a word in which nothing is quoted and no parameter stands. -/
def Word.plainText? (word : Word) : Option Octets := word.mapM Piece.plain?

/-- The text of a word without its quotes, in which no parameter stands. -/
def Word.markText (word : Word) : Octets :=
  word.filterMap fun piece =>
    match piece with
    | .char c _ => some c
    | _ => none

/-- Whether a piece comes from quotes. -/
def Piece.isQuotes : Piece → Bool
  | .quotes => true
  | .char _ quoted => quoted
  | .parameter _ quoted => quoted
  | .length _ quoted => quoted
  | .fallback _ _ _ _ quoted => quoted
  | .trimmed _ _ _ _ quoted => quoted
  | .broken _ => false
  | .formed _ _ _ quoted => quoted
  | .channel _ => false
  | .assigned _ => false
  | .command _ quoted => quoted
  | .arithmetic _ quoted => quoted

/-- What a word assigns, if it does. -/
def Word.assignment? (word : Word) : Option Assignment :=
  let isPart (piece : Piece) : Bool := piece.plain?.any isNamePart
  match word with
  | [.assigned assignment] => some assignment
  | word =>
    match word.dropWhile isPart, Word.plainText? (word.takeWhile isPart) with
    | .char '=' false :: value, some name =>
      if isName name then some (.text name none false value) else none
    | _, _ => none

/-- What the operator after an angle bracket asks for, and the descriptor that it is about if none is
written. -/
def readRedirectKind (c : Char) : Read (Nat × RedirectKind) := do
  if c = '>' then
    if ← dropIf '>' then return (1, .file .append)
    if ← dropIf '|' then return (1, .file (.write true))
    if ← dropIf '&' then return (1, .duplicate)
    return (1, .file (.write false))
  if ← dropIf '<' then
    if ← isExtended then
      if ← dropIf '<' then return (0, .text)
    return (0, .document (← dropIf '-'))
  if ← dropIf '&' then return (0, .duplicate)
  if ← dropIf '>' then return (0, .file .readWrite)
  return (0, .file .read)

/-- The descriptor that a word before an angle bracket tells: none where there is no word, and one of a digit, or
in the extended dialect of more. -/
def descriptorOf? (dialect : Dialect) (word : Word) : Option (Option Nat) :=
  match word, word.plainText? with
  | [], _ => some none
  | _, some text =>
    if text.length = 1 || dialect = .extended then (natOf? text).map some else none
  | _, none => none

/-! ### Assignments of the extended dialect -/

/-- The text behind the key of an entry, which stands behind an opening bracket, if that is closed in the same
line. Quotes are passed over. -/
def behindKey? : (depth : Nat) → (quote : Option Char) → Octets → Option Octets
  | _, _, [] => none
  | depth, some mark, c :: rest => behindKey? depth (if c = mark then none else some mark) rest
  | depth, none, c :: rest =>
    if c = '\n' then none
    else if c = '"' || c = '\x27' then behindKey? depth (some c) rest
    else if c = '[' then behindKey? (depth + 1) none rest
    else if c = ']' then
      match depth with
      | 0 => some rest
      | depth + 1 => behindKey? depth none rest
    else behindKey? depth none rest

/-- Whether a key in brackets stands before an equals sign, with a plus sign between them perhaps. -/
def isKeyed (text : Octets) : Bool :=
  match text with
  | '[' :: key =>
    match behindKey? 0 none key with
    | some ('=' :: _) => true
    | some ('+' :: '=' :: _) => true
    | _ => false
  | _ => false

/-- What reads the pieces of a word. -/
abbrev PieceReader := Inside → Read (List Piece)

/-- The key in brackets and the value behind it, and whether that is to be appended. -/
def readKeyed (pieces : PieceReader) : Read (Word × Bool × Word) := do
  dropChar
  let key ← pieces (.key 0)
  let appends ← dropIf '+'
  dropChar
  return (key, appends, ← pieces .word)

/-- Pass over blanks, ends of lines and comments. -/
def dropLines : (bound : Nat) → Read Unit
  | 0 => return ()
  | bound + 1 => do
    match ← peekChar with
    | some ' ' | some '\t' =>
      dropChar
      dropLines bound
    | some '\n' =>
      dropChar
      countLine
      dropLines bound
    | some '#' =>
      modify fun reading => { reading with rest := reading.rest.dropWhile (· ≠ '\n') }
      dropLines bound
    | _ => return ()

/-- The entries up to a closing parenthesis, which is passed over. -/
def readEntries (pieces : PieceReader) : (bound : Nat) → Read (List (Option Word × Word))
  | 0 => stop (.unclosed ')' false)
  | bound + 1 => do
    dropLines ((← left) + 1)
    match ← peekChar with
    | none => stop (.unclosed ')' false)
    | some ')' =>
      dropChar
      return []
    | some c =>
      if endsWord c && c ≠ '<' then stop (.token [c])
      if isKeyed (← get).rest then
        let (key, _, value) ← readKeyed pieces
        return (some key, value) :: (← readEntries pieces bound)
      let value ← pieces .word
      return (none, value) :: (← readEntries pieces bound)

/-- The assignment that starts here, if it is one of those that the extended dialect has on top. -/
def readAssigned? (pieces : PieceReader) : Read (Option Assignment) := do
  let reading ← get
  let name := reading.rest.takeWhile isNamePart
  if reading.dialect = .common || !reading.mayAssign || !isName name then return none
  let behind := reading.rest.drop name.length
  let pass (count : Nat) : Read Unit := modify fun reading =>
    { reading with rest := behind.drop count }
  match behind with
  | '=' :: '(' :: _ =>
    pass 2
    return some (.entries name false (← fromHere (readEntries pieces ((← left) + 1))))
  | '+' :: '=' :: '(' :: _ =>
    pass 3
    return some (.entries name true (← fromHere (readEntries pieces ((← left) + 1))))
  | '+' :: '=' :: _ =>
    pass 2
    return some (.text name none true (← pieces .word))
  | '[' :: _ =>
    if !isKeyed behind then return none
    pass 0
    let (key, appends, value) ← readKeyed pieces
    return some (.text name (some key) appends value)
  | _ => return none

/-- The word at a character, or the redirection that a word of a single digit or none begins. -/
def readWordToken (nested : Nested) (isMark : Bool) : Read Token := do
  let pieces (inside : Inside) : Read (List Piece) := do
    readPieces nested (2 * (← left) + 2) inside
  if let some assignment ← readAssigned? pieces then return .word [.assigned assignment] true
  let word ← pieces (if isMark then .mark else .word)
  match descriptorOf? (← get).dialect word, ← peekChar with
  | some descriptor, some c =>
    if c = '<' || c = '>' then
      dropChar
      let (usual, kind) ← readRedirectKind c
      return .redirect (descriptor.getD usual) kind
    return .word word (word.any Piece.isQuotes)
  | _, _ => return .word word (word.any Piece.isQuotes)

/-! ## Tokens -/

/-- Pass over a comment up to the end of its line. -/
def dropComment : Read Unit :=
  modify fun reading => { reading with rest := reading.rest.dropWhile (· ≠ '\n') }

/-- Pass over blanks and a comment before a token. -/
def dropBlanks : (bound : Nat) → Read Unit
  | 0 => return ()
  | bound + 1 => do
    match ← peekChar with
    | some ' ' | some '\t' => dropChar; dropBlanks bound
    | some '#' => dropComment
    | _ => return ()

/-- The first of some operators that starts here, which is passed over, if one does. -/
def dropOperator? (operators : List String) : Read (Option String) := do
  let rest := (← get).rest
  match operators.find? fun operator => operator.toList.isPrefixOf rest with
  | some operator =>
    modify fun reading => { reading with rest := rest.drop operator.length }
    return some operator
  | none => return none

/-- The token of an operator that the extended dialect has on top, if one starts here. -/
def readExtendedOperator : Read (Option Token) := do
  if !(← isExtended) then return none
  match ← dropOperator? ["&>>", "&>", "|&", ";;&", ";&"] with
  | some "&>>" => return some (.redirect 1 (.both true))
  | some "&>" => return some (.redirect 1 (.both false))
  | some operator => return some (.operator operator)
  | none => return none

/-- The token at the next character, by the letter of which a word is not asked whether it is reserved. -/
def readTokenHere (nested : Nested) (isMark : Bool) : Read Token := do
  if let some token ← readExtendedOperator then return token
  match ← peekChar with
  | none => return .eof
  | some '\n' => dropChar; countLine; return .newline
  | some '&' => dropChar; return .operator (if ← dropIf '&' then "&&" else "&")
  | some '|' => dropChar; return .operator (if ← dropIf '|' then "||" else "|")
  | some ';' => dropChar; return .operator (if ← dropIf ';' then ";;" else ";")
  | some '(' => dropChar; return .operator "("
  | some ')' => dropChar; return .operator ")"
  | some _ => readWordToken nested isMark

/-- The next token of the text. -/
def readFreshToken (nested : Nested) (isMark : Bool) : Read Token := do
  dropBlanks ((← left) + 1)
  if !(← isExtended) then return ← readTokenHere nested isMark
  let before := (← get).rest
  let token ← readTokenHere nested isMark
  modify fun reading =>
    { reading with lastText := before.take (before.length - reading.rest.length) }
  return token

/-- The last token if it was put back, else a fresh one. -/
def readAnyToken (nested : Nested) (isMark : Bool) : Read Token := do
  if (← get).isBack then
    modify fun reading => { reading with isBack := false }
    return (← get).last
  let token ← readFreshToken nested isMark
  modify fun reading => { reading with last := token }
  return token

end Shell

end ComponentScaffold
