import ComponentScaffold.Shell.Regex.Basic

/-! # Reading regular expressions

There are two ways of writing them: in the basic one most operators are escaped, in the extended one they
are not.

* **`Regex.ofText`** — the expression that a text writes, or what is wrong with it. -/

namespace ComponentScaffold

namespace Shell

namespace Regex

/-- What is left of a text, and how many parts in it are remembered so far. -/
structure Progress where
  /-- The text that is left. -/
  rest : Octets
  /-- How many parts have been opened. -/
  groups : Nat
  /-- How many parts have been closed. -/
  closed : Nat

/-- What reads a part of an expression. -/
abbrev Parse := StateT Progress (Except String)

/-- The tokens of expressions. -/
inductive Token
  /-- A character that stands for itself. -/
  | char (c : Char)
  /-- An operator, by its character in the extended way. -/
  | operator (c : Char)
  /-- An escape for a set or a place. -/
  | escape (c : Char)
  /-- A bracket, behind which there are choices. -/
  | bracket
deriving DecidableEq, Repr

/-- Whether a character is an operator that is escaped in the basic way. -/
def isSwitched (c : Char) : Bool := "(){}|+?".toList.contains c

/-- The token at the start of a text, and the rest. A backslash at the end stands alone. -/
def tokenOf? (extended : Bool) (text : Octets) : Option (Token × Octets) :=
  match text with
  | [] => none
  | ['\\'] => none
  | '\\' :: c :: rest =>
    if isSwitched c then some (if extended then .char c else .operator c, rest)
    else if c.isDigit && c ≠ '0' || "wWsSbB<>\x60\x27".toList.contains c then some (.escape c, rest)
    else if c = 'n' then some (.char '\n', rest)
    else some (.char c, rest)
  | c :: rest =>
    if isSwitched c then some (if extended then .operator c else .char c, rest)
    else if "*.^$".toList.contains c then some (.operator c, rest)
    else if c = '[' then some (.bracket, rest)
    else some (.char c, rest)

/-- The next token, which stays there. -/
def peek (extended : Bool) : Parse (Option Token) := do
  match tokenOf? extended (← get).rest with
  | some (token, _) => return some token
  | none => if (← get).rest.isEmpty then return none else throw "Trailing backslash"

/-- Pass over the next token. -/
def advance (extended : Bool) : Parse Unit := do
  match tokenOf? extended (← get).rest with
  | some (_, rest) => modify fun progress => { progress with rest := rest }
  | none => return ()

/-- The choices of a bracket. -/
def readChoices : Parse Regex := do
  let letters := (← get).rest.map fun c => (c, false)
  let negated := letters.head? = some ('^', false)
  let letters := if negated then letters.tail else letters
  match choicesOf? (letters.length + 1) true letters with
  | none => throw "Unmatched [, [^, [:, [., or [="
  | some (choices, rest) =>
    modify fun progress => { progress with rest := rest.map Prod.fst }
    return .choice negated choices

/-- The choice of the letters of words. -/
def wordChoices : List Choice := [.kind (octets "alnum"), .range '_' '_']

/-- The expression of an escape. -/
def escaped (c : Char) : Parse Regex := do
  match c with
  | 'w' => return .choice false wordChoices
  | 'W' => return .choice true wordChoices
  | 's' => return .choice false [.kind (octets "space")]
  | 'S' => return .choice true [.kind (octets "space")]
  | 'b' => return .edge fun before behind => before != behind
  | 'B' => return .edge fun before behind => before == behind
  | '<' => return .edge fun before behind => !before && behind
  | '>' => return .edge fun before behind => before && !behind
  | '\x60' => return .start
  | '\x27' => return .finish
  | digit =>
    let number := digit.toNat - '0'.toNat
    if (← get).closed < number then throw "Invalid back reference"
    return .again number

/-- The bounds between braces, behind the opening one, if they are well written. -/
def boundsOf? (extended : Bool) (text : Octets) : Option ((Nat × Option Nat) × Octets) :=
  let first := text.takeWhile Char.isDigit
  let behind := text.drop first.length
  let (last, rest) : Option Octets × Octets := match behind with
    | ',' :: rest => (some (rest.takeWhile Char.isDigit), rest.dropWhile Char.isDigit)
    | rest => (none, rest)
  let closed? : Option Octets := match extended, rest with
    | true, '\x7d' :: rest => some rest
    | false, '\\' :: '\x7d' :: rest => some rest
    | _, _ => none
  let least := digitsValue first
  match closed?, last with
  | some rest, none => if first.isEmpty then none else some ((least, some least), rest)
  | some rest, some digits =>
    some ((least, if digits.isEmpty then none else some (digitsValue digits)), rest)
  | none, _ => none

/-- The repetitions behind an expression. -/
def readRepetitions (extended : Bool) : (bound : Nat) → Regex → Parse Regex
  | 0, inner => return inner
  | bound + 1, inner => do
    match ← peek extended with
    | some (.operator '*') =>
      advance extended
      readRepetitions extended bound (.repeated inner 0 none)
    | some (.operator '+') =>
      advance extended
      readRepetitions extended bound (.repeated inner 1 none)
    | some (.operator '?') =>
      advance extended
      readRepetitions extended bound (.repeated inner 0 (some 1))
    | some (.operator '\x7b') =>
      let before ← get
      advance extended
      match boundsOf? extended (← get).rest with
      | some ((least, most), rest) =>
        if most.any (· < least) then throw "Invalid content of \\\x7b\\\x7d"
        modify fun progress => { progress with rest := rest }
        readRepetitions extended bound (.repeated inner least most)
      | none =>
        if extended then
          set before
          return inner
        throw "Unmatched \\\x7b"
    | _ => return inner

/-- Whether a dollar sign stands for the end: in the basic way, only where an expression ends. -/
def endsHere (extended : Bool) (rest : Octets) : Bool :=
  extended || rest.isEmpty ||
    match tokenOf? false rest with
    | some (.operator c, _) => c = ')' || c = '|'
    | _ => false

/-- An expression without alternatives up to what ends it, of which at most the given number of parts is
read; `isFirst` says whether nothing comes before, and `isNested` whether it stands in parentheses. -/
def readSequence (extended : Bool) (inner : Parse Regex) (isNested : Bool) : (bound : Nat) →
    (isFirst : Bool) → Parse Regex
  | 0, _ => return .empty
  | bound + 1, isFirst => do
    let before ← get
    match ← peek extended with
    | none => return .empty
    | some token =>
      if token = .operator '|' || (token = .operator ')' && isNested) then return .empty
      advance extended
      let rest := (← get).rest
      let part ← match token with
        | .char c => pure (Regex.char c)
        | .escape c => escaped c
        | .bracket => readChoices
        | .operator c =>
          if c = '.' then pure Regex.any
          else if c = '^' then pure (if extended || isFirst then Regex.start else .char '^')
          else if c = '$' then pure (if endsHere extended rest then Regex.finish else .char '$')
          else if c = '(' then do
            let number := before.groups + 1
            modify fun progress => { progress with groups := number }
            let body ← inner
            if (← peek extended) ≠ some (.operator ')') then throw "Unmatched ( or \\("
            advance extended
            modify fun progress => { progress with closed := progress.closed + 1 }
            pure (Regex.group number body)
          else if c = ')' then
            if extended then pure (Regex.char ')') else throw "Unmatched ) or \\)"
          else if (c = '\x7b' && !extended) || (extended && isFirst) then
            throw "Invalid preceding regular expression"
          else pure (Regex.char c)
      let isAnchor := (token = .operator '^' && isFirst) && !extended
      let part ← if isAnchor then pure part else readRepetitions extended (rest.length + 1) part
      return .sequence part (← readSequence extended inner isNested bound isAnchor)

/-- Expressions of which one has to fit. -/
def readAlternatives (extended : Bool) (inner : Parse Regex) (isNested : Bool) : (bound : Nat) →
    Parse Regex
  | 0 => return .empty
  | bound + 1 => do
    let first ← readSequence extended inner isNested ((← get).rest.length + 1) true
    if (← peek extended) = some (.operator '|') then
      advance extended
      return .either first (← readAlternatives extended inner isNested bound)
    return first

/-- A whole expression, with parentheses at most the given number of levels deep. -/
def readWhole (extended isNested : Bool) : (levels : Nat) → Parse Regex
  | 0 => throw "Regular expression too big"
  | levels + 1 => do
    readAlternatives extended (readWhole extended true levels) isNested ((← get).rest.length + 1)

/-- **The expression that a text writes**, or what is wrong with it. -/
def ofText (extended : Bool) (text : Octets) : Except String Regex := do
  let (regex, rest) ← (readWhole extended false (text.length + 1)).run ⟨text, 0, 0⟩
  if rest.rest.isEmpty then return regex else .error "Unmatched ) or \\)"

end Regex

end Shell

end ComponentScaffold
