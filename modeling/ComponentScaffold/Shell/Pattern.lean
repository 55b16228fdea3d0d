import ComponentScaffold.Shell.Octets

/-! # Patterns

A pattern stands for the texts that fit it: a star for any text, a question mark for any character, and
brackets for one of some characters. A quoted character stands for itself. Where patterns can have groups, a mark before
parentheses tells how often one of the patterns in them is to fit.

* **`Shell.patternOf`** — the pattern that characters write.
* **`Shell.fits`** — whether a text fits a pattern.
* **`Shell.dropFitting`** — a text without a part at one of its ends that fits a pattern. -/

namespace ComponentScaffold

namespace Shell

/-- One of the choices between brackets. -/
inductive Choice
  /-- The characters from one to another. -/
  | range (first last : Char)
  /-- The characters of a class. -/
  | kind (name : Octets)
deriving DecidableEq, Repr

/-- A part of a pattern. -/
inductive PatternPart
  /-- A character. -/
  | char (c : Char)
  /-- Any character. -/
  | any
  /-- Any text. -/
  | many
  /-- One of some characters, or none of them if `negated`. -/
  | choice (negated : Bool) (choices : List Choice)
  /-- Some patterns, of which one fits as often as a mark says. -/
  | group (mark : Char) (patterns : List (List PatternPart))
deriving Repr

/-- How patterns are written. -/
structure PatternStyle where
  /-- The characters behind an opening bracket by which the others are chosen. -/
  negations : List Char
  /-- Whether there are groups. -/
  hasGroups : Bool

/-- How patterns are written in the common dialect. -/
def PatternStyle.common : PatternStyle := ⟨['!'], false⟩

/-- How programs take patterns. -/
def PatternStyle.program : PatternStyle := ⟨['!', '^'], false⟩

/-- A character, which may be quoted. -/
abbrev Lettered := Char × Bool

/-- Whether a character is in a class. -/
def isOfKind (name : Octets) (c : Char) : Bool :=
  match String.ofList name with
  | "alpha" => c.isAlpha
  | "digit" => c.isDigit
  | "alnum" => c.isAlphanum
  | "upper" => c.isUpper
  | "lower" => c.isLower
  | "space" => isSpace c
  | "blank" => c == ' ' || c == '\t'
  | "punct" => '!' ≤ c && c ≤ '~' && !c.isAlphanum
  | "print" => ' ' ≤ c && c ≤ '~'
  | "graph" => '!' ≤ c && c ≤ '~'
  | "cntrl" => c < ' ' || c == '\x7f'
  | "xdigit" => c.isDigit || ('a' ≤ c && c ≤ 'f') || ('A' ≤ c && c ≤ 'F')
  | _ => false

/-- Whether a character is one of a choice. -/
def Choice.contains (c : Char) : Choice → Bool
  | .range first last => first ≤ c && c ≤ last
  | .kind name => isOfKind name c

/-- The class that is named at the start of a text, after its opening bracket, and the rest. -/
def classOf? (text : List Lettered) : Option (Octets × List Lettered) :=
  match text with
  | (':', false) :: rest =>
    let name := rest.takeWhile fun letter => letter.1.isLower
    match rest.drop name.length with
    | (':', false) :: (']', _) :: rest => some (name.map Prod.fst, rest)
    | _ => none
  | _ => none

/-- The choices up to the closing bracket, and the rest, if there is one. A closing bracket that stands
first is a choice. -/
def choicesOf? : (bound : Nat) → (isFirst : Bool) → List Lettered →
    Option (List Choice × List Lettered)
  | 0, _, _ => none
  | _ + 1, _, [] => none
  | bound + 1, isFirst, (c, quoted) :: rest =>
    if c = ']' && !quoted && !isFirst then some ([], rest)
    else match if c = '[' && !quoted then classOf? rest else none with
      | some (name, rest) =>
        (choicesOf? bound false rest).map fun (choices, rest) => (.kind name :: choices, rest)
      | none =>
        match rest with
        | ('-', false) :: (last, lastQuoted) :: others =>
          if last = ']' && !lastQuoted then
            (choicesOf? bound false rest).map fun (choices, rest) => (.range c c :: choices, rest)
          else
            (choicesOf? bound false others).map fun (choices, rest) =>
              (.range c last :: choices, rest)
        | _ => (choicesOf? bound false rest).map fun (choices, rest) => (.range c c :: choices, rest)

/-- The part that starts with an opening bracket, and the rest, if the bracket is closed. -/
def bracketsOf? (style : PatternStyle) (text : List Lettered) : Option (PatternPart × List Lettered) :=
  let (negated, choices) : Bool × List Lettered :=
    match text with
    | (c, false) :: rest => if style.negations.contains c then (true, rest) else (false, text)
    | _ => (false, text)
  (choicesOf? (choices.length + 1) true choices).map fun (choices, rest) =>
    (.choice negated choices, rest)

/-- The texts of the patterns in parentheses, which stand behind the opening one, between so many others, and the
rest, if they are closed. -/
def cutGroup : (depth : Nat) → List Lettered → Option (List (List Lettered) × List Lettered)
  | _, [] => none
  | depth, (c, quoted) :: rest =>
    let goesOn (depth : Nat) : Option (List (List Lettered) × List Lettered) :=
      (cutGroup depth rest).map fun (parts, rest) =>
        (((c, quoted) :: parts.headD []) :: parts.tail, rest)
    if quoted then goesOn depth
    else if c = '(' then goesOn (depth + 1)
    else if c = ')' then
      match depth with
      | 0 => some ([[]], rest)
      | depth + 1 => goesOn depth
    else if c = '|' && depth = 0 then (cutGroup depth rest).map fun (parts, rest) => ([] :: parts, rest)
    else goesOn depth

/-- The pattern of characters, of which at most the given number are read. -/
def patternWithin (style : PatternStyle) : (bound : Nat) → List Lettered → List PatternPart
  | 0, _ => []
  | _ + 1, [] => []
  | bound + 1, (c, quoted) :: rest =>
    if quoted then .char c :: patternWithin style bound rest
    else
      let group? := match rest with
        | ('(', false) :: behind =>
          if style.hasGroups && "?*+@!".toList.contains c then cutGroup 0 behind else none
        | _ => none
      match group? with
      | some (parts, behind) => .group c (parts.map (patternWithin style bound)) :: patternWithin style bound behind
      | none =>
        if c = '*' then .many :: patternWithin style bound rest
        else if c = '?' then .any :: patternWithin style bound rest
        else if c = '[' then
          match bracketsOf? style rest with
          | some (part, rest) => part :: patternWithin style bound rest
          | none => .char c :: patternWithin style bound rest
        else if c = '\\' then
          -- a backslash that comes from a value takes the meaning of the next character away
          match rest with
          | (next, _) :: rest => .char next :: patternWithin style bound rest
          | [] => [.char c]
        else .char c :: patternWithin style bound rest

/-- **The pattern that characters write**, in a style. -/
def patternIn (style : PatternStyle) (text : List Lettered) : List PatternPart :=
  patternWithin style text.length text

/-- The pattern that characters write for a program. -/
def patternOf (text : List Lettered) : List PatternPart := patternIn .program text

mutual

/-- The number of parts of a part, with those inside it. -/
def PatternPart.size : PatternPart → Nat
  | .group _ patterns => sizeOfAll patterns + 1
  | _ => 1

/-- The number of parts of a pattern, with those inside them. -/
def sizeOfParts : List PatternPart → Nat
  | [] => 0
  | part :: rest => part.size + sizeOfParts rest

/-- The number of parts of patterns, with those inside them. -/
def sizeOfAll : List (List PatternPart) → Nat
  | [] => 0
  | parts :: rest => sizeOfParts parts + sizeOfAll rest

end

/-- Whether a text fits a pattern, where parts are taken at most so many levels deep. -/
def fitsWithin : (bound : Nat) → List PatternPart → Octets → Bool
  | 0, _, _ => false
  | _ + 1, [], text => text.isEmpty
  | bound + 1, part :: pattern, text =>
    match part with
    | .char c => text.head? == some c && fitsWithin bound pattern text.tail
    | .any => !text.isEmpty && fitsWithin bound pattern text.tail
    | .choice negated choices =>
      text.head?.any (fun c => choices.any (·.contains c) != negated) && fitsWithin bound pattern text.tail
    | .many => (List.range (text.length + 1)).any fun taken => fitsWithin bound pattern (text.drop taken)
    | .group mark patterns =>
      let isOne (taken : Nat) : Bool := patterns.any fun inner => fitsWithin bound inner (text.take taken)
      let isRest (taken : Nat) : Bool := fitsWithin bound pattern (text.drop taken)
      let repeats : Bool := (List.range text.length).any fun taken =>
        isOne (taken + 1) && fitsWithin bound (.group '*' patterns :: pattern) (text.drop (taken + 1))
      match mark with
      | '?' => isRest 0 || (List.range (text.length + 1)).any fun taken => isOne taken && isRest taken
      | '*' => isRest 0 || repeats
      | '+' => (isOne 0 && isRest 0) || repeats
      | '!' => (List.range (text.length + 1)).any fun taken => !isOne taken && isRest taken
      | _ => (List.range (text.length + 1)).any fun taken => isOne taken && isRest taken

/-- **Whether a text fits a pattern.** -/
def fits (pattern : List PatternPart) (text : Octets) : Bool :=
  fitsWithin (sizeOfParts pattern + text.length + 1) pattern text

/-- **A text without a part at its start or its end** that fits a pattern, the longest or the shortest such
part. -/
def dropFitting (pattern : List PatternPart) (atEnd longest : Bool) (text : Octets) : Octets :=
  let lengths := List.range (text.length + 1)
  let lengths := if longest then lengths.reverse else lengths
  let part (length : Nat) : Octets :=
    if atEnd then text.drop (text.length - length) else text.take length
  match lengths.find? fun length => fits pattern (part length) with
  | some length => if atEnd then text.take (text.length - length) else text.drop length
  | none => text

/-- Texts without the shortest part at the end of one of them that fits a pattern. The last such text
counts, and those behind it are left out. -/
def dropFittingLast (pattern : List PatternPart) : List Octets → List Octets
  | [] => []
  | text :: rest =>
    if rest.any fitsAtEnd then text :: dropFittingLast pattern rest
    else if fitsAtEnd text then [dropFitting pattern true false text]
    else text :: rest
where
  /-- Whether a part at the end of a text fits. -/
  fitsAtEnd (text : Octets) : Bool :=
    (List.range (text.length + 1)).any fun taken => fits pattern (text.drop taken)

/-- **Texts without a part at their start or their end** that fits a pattern. They are taken as one text
with marks between them, and beyond the first mark only the shortest part at an end is looked for. -/
def dropFittingAmong (pattern : List PatternPart) (atEnd longest : Bool) : List Octets → List Octets
  | [] => []
  | first :: rest =>
    let trimmed := dropFitting pattern atEnd longest first
    if atEnd && !longest then dropFittingLast pattern (first :: rest)
    else if atEnd then
      if dropFittingLast.fitsAtEnd pattern first then [trimmed] else first :: rest
    else if longest && !rest.isEmpty && fits pattern first then [[]]
    else trimmed :: rest

/-- Whether characters write more than themselves. -/
def hasPattern : List Lettered → Bool
  | [] => false
  | [(c, quoted)] => !quoted && (c == '*' || c == '?' || c == '[')
  | (c, quoted) :: next :: rest =>
    if !quoted && c == '\\' then hasPattern rest
    else (!quoted && (c == '*' || c == '?' || c == '[')) || hasPattern (next :: rest)

end Shell

end ComponentScaffold
