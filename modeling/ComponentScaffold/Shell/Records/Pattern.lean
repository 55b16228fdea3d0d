import ComponentScaffold.Shell.Regex.Basic
import ComponentScaffold.Shell.Records.Token

/-! # Patterns of scripts over records

* **`Records.patternOf`** — the pattern that a text writes, or what is wrong with it. -/

namespace ComponentScaffold

namespace Shell

namespace Records

/-- Why a text writes no pattern. -/
inductive PatternFault
  /-- There is nothing that is repeated, or one of the choices is empty. -/
  | noOperand
  /-- A parenthesis is not closed. -/
  | openGroup
  /-- A bracket is not closed, or there is no class of a name. -/
  | badClass
  /-- The start is repeated. -/
  | repeatedStart
deriving DecidableEq, Repr

/-- The wording of a pattern fault. -/
def PatternFault.message : PatternFault → String
  | .noOperand => "missing operand"
  | .openGroup => "missing ')'"
  | .badClass => "bad class -- [], [^] or ["
  | .repeatedStart => "syntax error ^* or ^+"

/-- What reads a part of a pattern. -/
abbrev ReadPattern := StateT Octets (Except PatternFault)

/-- The byte that an escape stands for, and the text behind it. The text begins behind the backslash. -/
def escapeOf (text : Octets) : Char × Octets :=
  match text with
  | [] => ('\\', [])
  | c :: rest =>
    if (octalDigit? c).isSome then
      let (byte, count) := byteDigits 8 3 text
      (byte, text.drop count)
    else
      let meant := [('n', '\n'), ('t', '\t'), ('f', '\x0c'), ('b', '\x08'), ('r', '\x0d'), ('a', '\x07'),
        ('v', '\x0b')]
      ((meant.lookup c).getD c, rest)

/-- The characters between brackets with their escapes read; what came from one is quoted. -/
def bracketLetters : (bound : Nat) → Octets → List Lettered
  | 0, _ => []
  | _ + 1, [] => []
  | bound + 1, '\\' :: c :: rest =>
    let (byte, behind) := escapeOf (c :: rest)
    (byte, true) :: bracketLetters bound behind
  | bound + 1, c :: rest => (c, false) :: bracketLetters bound rest

/-- The end of a text that makes up so many letters. -/
def lettersLeft (text : Octets) (left : Nat) : Octets :=
  let count := (bracketLetters text.length text).length - left
  go count text
where
  /-- The text behind so many letters. -/
  go : (count : Nat) → Octets → Octets
    | 0, text => text
    | _ + 1, [] => []
    | count + 1, '\\' :: c :: rest => go count (escapeOf (c :: rest)).2
    | count + 1, _ :: rest => go count rest

/-- The classes of characters. -/
def classNames : List String :=
  ["alnum", "alpha", "blank", "cntrl", "digit", "graph", "lower", "print", "punct", "space", "upper",
    "xdigit"]

/-- Whether a choice is of a class that is there. -/
def isKnownChoice : Choice → Bool
  | .kind name => classNames.any fun known => octets known = name
  | .range _ _ => true

/-- The choices of a bracket that was opened. -/
def readBracket : ReadPattern Regex := do
  let text ← get
  let (negated, inside) := match text with
    | '^' :: rest => (true, rest)
    | rest => (false, rest)
  let letters := bracketLetters inside.length inside
  match choicesOf? (letters.length + 1) true letters with
  | none => throw .badClass
  | some (choices, rest) =>
    if !choices.all isKnownChoice then throw .badClass
    set (lettersLeft inside rest.length)
    return .choice negated choices

/-- The marks behind an expression that repeat it, at most so many of them. -/
def readRepeats : (bound : Nat) → Regex → ReadPattern Regex
  | 0, inner => return inner
  | bound + 1, inner => do
    match ← get with
    | '*' :: rest =>
      set rest
      readRepeats bound (.repeated inner 0 none)
    | '+' :: rest =>
      set rest
      readRepeats bound (.repeated inner 1 none)
    | '?' :: rest =>
      set rest
      readRepeats bound (.repeated inner 0 (some 1))
    | _ => return inner

/-- Whether an expression ends before a text, which may stand in parentheses. -/
def endsAt (text : Octets) : Bool := text.head?.all fun c => c = ')' || c = '|'

/-- The part that begins with a character, which was passed over. -/
def readPart (inner : ReadPattern Regex) (c : Char) : ReadPattern Regex := do
  let rest ← get
  match c with
  | '.' => return .any
  | '^' =>
    if rest.head?.any fun c => c = '*' || c = '+' then throw .repeatedStart
    return .start
  | '$' => return if endsAt rest then .finish else .char '$'
  | '[' => readBracket
  | '\\' =>
    let (byte, behind) := escapeOf rest
    set behind
    return .char byte
  | '(' =>
    let body ← inner
    match ← get with
    | ')' :: behind =>
      set behind
      return body
    | _ => throw .openGroup
  | '*' | '+' | '?' => throw .noOperand
  | c => return .char c

/-- The parts behind each other up to what ends them, at most so many. -/
def readParts (inner : ReadPattern Regex) (isNested : Bool) : (bound : Nat) → ReadPattern Regex
  | 0 => return .empty
  | bound + 1 => do
    match ← get with
    | [] => return .empty
    | c :: rest =>
      if c = '|' || (c = ')' && isNested) then return .empty
      set rest
      let part ← readPart inner c
      let part ← readRepeats (rest.length + 1) part
      return .sequence part (← readParts inner isNested bound)

/-- The expressions of which one has to fit, at most so many. -/
def readChoice (inner : ReadPattern Regex) (isNested : Bool) : (bound : Nat) → ReadPattern Regex
  | 0 => throw .noOperand
  | bound + 1 => do
    let text ← get
    if endsAt text && (text.head? ≠ some ')' || isNested) then
      throw (if text.isEmpty && isNested then .openGroup else .noOperand)
    let first ← readParts inner isNested (text.length + 1)
    match ← get with
    | '|' :: rest =>
      set rest
      return .either first (← readChoice inner isNested bound)
    | _ => return first

/-- An expression with parentheses at most so many levels deep. -/
def readNested (isNested : Bool) : (levels : Nat) → ReadPattern Regex
  | 0 => throw .openGroup
  | levels + 1 => do
    readChoice (readNested true levels) isNested ((← get).length + 1)

/-- **The pattern that a text writes**, or what is wrong with it. -/
def patternOf (text : Octets) : Except PatternFault Regex :=
  if text.isEmpty then .ok .empty
  else ((readNested false (text.length + 1)).run text).map Prod.fst

end Records

end Shell

end ComponentScaffold
