import ComponentScaffold.Shell.Records.Syntax

/-! # Tokens of scripts over records

A slash starts a pattern where a value can stand, and divides behind one. A line ends a statement unless a backslash
stands at its end.

* **`Records.Token`** — a token.
* **`Records.tokens`** — the tokens of a text, with their lines. -/

namespace ComponentScaffold

namespace Shell

namespace Records

/-- **A token.** -/
inductive Token
  /-- A number, as it is written. -/
  | number (text : Octets)
  /-- A text between quotes, as it is meant. -/
  | text (text : Octets)
  /-- A pattern, as it is written. -/
  | regex (text : Octets)
  /-- The name of a variable. -/
  | name (name : Octets)
  /-- The name of a function of the script, behind which a parenthesis opens. -/
  | callee (name : Octets)
  /-- The name of a function of the language. -/
  | builtin (name : String)
  /-- A word with a meaning. -/
  | keyword (word : String)
  /-- A mark. -/
  | mark (text : String)
  /-- The end of a line. -/
  | newline
  /-- The end of the text. -/
  | finish
  /-- Something that is no token. -/
  | wrong (message : Octets)
deriving DecidableEq, Repr

/-- What is said to stand where a token does not fit. -/
def Token.shown : Token → Octets
  | .number held => held
  | .text held => held
  | .regex held => '/' :: held ++ ['/']
  | .name held => held
  | .callee held => held
  | .builtin held => octets held
  | .keyword held => octets held
  | .mark held => octets held
  | .newline => octets "end of line"
  | .finish => octets "end of file"
  | .wrong message => message

/-- The words with a meaning. -/
def keywords : List String :=
  ["BEGIN", "END", "break", "continue", "delete", "do", "else", "exit", "for", "function", "getline", "if",
    "in", "next", "nextfile", "print", "printf", "return", "while"]

/-- The functions of the language, with the least and the greatest number of arguments. -/
def builtins : List (String × Nat × Nat) :=
  [("atan2", 2, 2), ("close", 1, 1), ("cos", 1, 1), ("exp", 1, 1), ("fflush", 0, 1), ("gsub", 2, 3),
    ("index", 2, 2), ("int", 1, 1), ("length", 0, 1), ("log", 1, 1), ("match", 2, 2), ("mktime", 1, 1),
    ("rand", 0, 0), ("sin", 1, 1), ("split", 2, 3), ("sprintf", 1, 255), ("sqrt", 1, 1), ("srand", 0, 1),
    ("strftime", 0, 3), ("sub", 2, 3), ("substr", 2, 3), ("system", 1, 1), ("systime", 0, 0),
    ("tolower", 1, 1), ("toupper", 1, 1)]

/-- The marks, the longer ones first. -/
def marks : List String :=
  ["&&", "||", "++", "--", "+=", "-=", "*=", "/=", "%=", "^=", "==", "!=", "<=", ">=", ">>", "!~",
    "\x7b", "\x7d", "(", ")", "[", "]", ";", ",", "+", "-", "*", "/", "%", "^", "!", "<", ">", "|", "?", ":",
    "~", "$", "="]

/-- Whether a slash behind a token divides. -/
def Token.isValue : Token → Bool
  | .number _ | .text _ | .regex _ | .name _ => true
  | .builtin held => held = "length"
  | .mark held => [")", "]", "$", "++", "--"].contains held
  | _ => false

/-- What the escapes of a text between quotes stand for. -/
def unescaped : (bound : Nat) → Octets → Octets
  | 0, _ => []
  | _ + 1, [] => []
  | bound + 1, '\\' :: '\n' :: rest => unescaped bound rest
  | bound + 1, '\\' :: c :: rest =>
    if (octalDigit? c).isSome then
      let (byte, count) := byteDigits 8 3 (c :: rest)
      byte :: unescaped bound ((c :: rest).drop count)
    else if c = 'x' && rest.head?.any fun c => (Arithmetic.digitValue? c).any (· < 16) then
      let (byte, count) := byteDigits 16 2 rest
      byte :: unescaped bound (rest.drop count)
    else
      let meant := [('n', '\n'), ('t', '\t'), ('f', '\x0c'), ('b', '\x08'), ('r', '\x0d'), ('a', '\x07'),
        ('v', '\x0b'), ('\\', '\\'), ('"', '"')]
      match meant.lookup c with
      | some byte => byte :: unescaped bound rest
      | none => '\\' :: c :: unescaped bound rest
  | bound + 1, c :: rest => c :: unescaped bound rest

/-- A text in which escapes stand for other bytes. -/
def plainText (text : Octets) : Octets := unescaped (text.length + 1) text

/-- The text up to the quote that closes it, with its escapes, and what stands behind the quote, if it is closed
in its line. -/
def cutText : Octets → Option (Octets × Octets)
  | [] => none
  | '"' :: rest => some ([], rest)
  | '\n' :: _ => none
  | '\\' :: c :: rest => (cutText rest).map fun (text, behind) => ('\\' :: c :: text, behind)
  | c :: rest => (cutText rest).map fun (text, behind) => (c :: text, behind)

/-- Where a character of a pattern stands. -/
inductive Box
  /-- Outside of brackets. -/
  | outside
  /-- Right behind an opening bracket, where a closing one stands for itself. -/
  | first
  /-- Between brackets. -/
  | inside
  /-- In the name of a class between brackets. -/
  | kind

/-- Where the next character stands. -/
def Box.next (box : Box) (c : Char) (rest : Octets) : Box :=
  match box, c with
  | .outside, '[' => .first
  | .outside, _ => .outside
  | .first, '^' => .first
  | .first, '[' | .inside, '[' => if rest.head? = some ':' then .kind else .inside
  | .first, _ => .inside
  | .inside, ']' => .outside
  | .inside, _ => .inside
  | .kind, ']' => .inside
  | .kind, _ => .kind

/-- Whether a character stands outside of brackets. -/
def Box.isOutside : Box → Bool
  | .outside => true
  | _ => false

/-- The pattern up to the slash that closes it, and what stands behind the slash, if it is closed in its line;
between brackets a slash stands for itself. -/
def cutRegex : Box → Octets → Option (Octets × Octets)
  | _, [] => none
  | _, '\n' :: _ => none
  | box, '\\' :: c :: rest =>
    (cutRegex (box.next '\\' rest) rest).map fun (text, behind) =>
      (if c = '/' then c :: text else '\\' :: c :: text, behind)
  | box, c :: rest =>
    if c = '/' && box.isOutside then some ([], rest)
    else (cutRegex (box.next c rest) rest).map fun (text, behind) => (c :: text, behind)

/-- The number at the start of a text, as it is written. -/
def cutNumber (text : Octets) : Octets :=
  let whole := text.takeWhile Char.isDigit
  let behind := text.drop whole.length
  let places := match behind with
    | '.' :: rest => '.' :: rest.takeWhile Char.isDigit
    | _ => []
  let behind := behind.drop places.length
  let sign := (behind.drop 1).takeWhile fun c => c = '+' || c = '-'
  let power := (behind.drop (1 + sign.length)).takeWhile Char.isDigit
  let hasPower := behind.head?.any (fun c => c = 'e' || c = 'E') && sign.length ≤ 1 && !power.isEmpty
  whole ++ places ++ (if hasPower then behind.take (1 + sign.length + power.length) else [])

/-- The word that a text begins with. -/
def wordToken (word rest : Octets) : Token :=
  let name := String.ofList word
  if keywords.contains name then .keyword name
  else if builtins.any fun builtin => builtin.1 = name then .builtin name
  else if rest.head? = some '(' then .callee word
  else .name word

/-- The line that a text stands in, up to its end. -/
def lineRest (text : Octets) : Octets := text.takeWhile (· ≠ '\n')

/-- The token that a text begins with, which is no blank, and the rest; `divides` tells what a slash does. -/
def tokenOf (line : Nat) (divides : Bool) : Octets → Token × Octets
  | [] => (.finish, [])
  | '\n' :: rest => (.newline, rest)
  | '"' :: rest =>
    match cutText rest with
    | some (text, behind) => (.text (plainText text), behind)
    | none => (.wrong (octets "runaway string constant \"" ++ (lineRest rest).take 10 ++ octets " ..."), [])
  | c :: rest =>
    let all := c :: rest
    if c.isDigit || (c = '.' && rest.head?.any Char.isDigit) then
      let number := cutNumber all
      (.number number, all.drop number.length)
    else if isNameStart c then
      let word := all.takeWhile isNamePart
      let behind := all.drop word.length
      (wordToken word behind, behind)
    else if c = '/' && !divides then
      match cutRegex .outside rest with
      | some (text, behind) => (.regex text, behind)
      | none => (.wrong (octets "runaway regular expression /" ++ (lineRest rest).take 10 ++ octets " ..."), [])
    else match marks.find? fun mark => (octets mark).isPrefixOf all with
      | some mark => (.mark mark, all.drop mark.length)
      | none => (.wrong (octets s!"{line}: unexpected character '" ++ c :: ['\x27']), rest)

/-- How many ends of lines there are in a text. -/
def countLines (text : Octets) : Nat := text.count '\n'

/-- The tokens of a text from a line on, behind a token, at most so many of them. -/
def tokensWithin : (bound : Nat) → (line : Nat) → (before : Token) → Octets → List (Token × Nat)
  | 0, line, _, _ => [(.finish, line)]
  | _ + 1, line, _, [] => [(.finish, line)]
  | bound + 1, line, before, c :: rest =>
    if c = ' ' || c = '\t' || c = '\x0d' then tokensWithin bound line before rest
    else if c = '#' then tokensWithin bound line before (rest.dropWhile (· ≠ '\n'))
    else if c = '\\' && rest.head? = some '\n' then tokensWithin bound (line + 1) before rest.tail
    else
      let (token, behind) := tokenOf line before.isValue (c :: rest)
      let passed := (c :: rest).take (rest.length + 1 - behind.length)
      (token, line) :: tokensWithin bound (line + countLines passed) token behind

/-- **The tokens of a text**, each with its line. -/
def tokens (text : Octets) : List (Token × Nat) := tokensWithin (text.length + 1) 1 .newline text

end Records

end Shell

end ComponentScaffold
