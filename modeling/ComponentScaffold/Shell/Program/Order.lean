import ComponentScaffold.Shell.Program.Basic

/-! # Orders of texts

Lines can be put in order byte by byte, or by what they write: a number, a month, a version.

* **`Program.SortKind`** — what texts are taken for.
* **`Program.SortKind.compare`** — the order of two texts.
* **`Program.SortManner`** — what of a text is compared, and how. -/

namespace ComponentScaffold

namespace Shell

namespace Program

/-- **What texts are taken for** that are put in order. -/
inductive SortKind
  /-- Texts. -/
  | text
  /-- Numbers in digits. -/
  | number
  /-- Numbers of any form. -/
  | anyNumber
  /-- Numbers with a letter for their units. -/
  | scaled
  /-- Names of months. -/
  | month
  /-- Versions. -/
  | version
deriving DecidableEq, Repr

/-- Whether a byte is a blank between fields. -/
def isFieldBlank (c : Char) : Bool := c == ' ' || c == '\t' || c == '\n'

/-- The order of two texts, byte by byte. -/
def compareTexts (a b : Octets) : Ordering :=
  if a < b then .lt else if a = b then .eq else .gt

/-! ## Numbers -/

/-- The number at the start of a text: whether it is negative, its digits before and behind the point, and
what follows. -/
def leadingNumber (text : Octets) : Bool × Octets × Octets × Octets :=
  let start := text.dropWhile isFieldBlank
  let negative := start.head? = some '-'
  let start := if negative then start.tail else start
  let whole := start.takeWhile Char.isDigit
  match start.drop whole.length with
  | '.' :: rest =>
    let places := rest.takeWhile Char.isDigit
    (negative, whole, places, rest.drop places.length)
  | rest => (negative, whole, [], rest)

/-- The order of two texts by the numbers at their start. -/
def compareNumbers (a b : Octets) : Ordering :=
  let (negativeA, wholeA, placesA, _) := leadingNumber a
  let (negativeB, wholeB, placesB, _) := leadingNumber b
  let places := max placesA.length placesB.length
  let value (negative : Bool) (whole part : Octets) : Int :=
    let n : Int := (digitsValue (whole ++ part ++ List.replicate (places - part.length) '0') : Nat)
    if negative then -n else n
  compare (value negativeA wholeA placesA) (value negativeB wholeB placesB)

/-- The rank of the unit of a number, which is negative for negative numbers. Zero has none. -/
def unitRank (text : Octets) : Int :=
  let (negative, whole, places, rest) := leadingNumber text
  if (whole ++ places).all (· = '0') then 0
  else
    let rank : Int := match rest.head? with
      | some 'k' => 1
      | some c => ("KMGTPEZY".toList.idxOf? c).elim 0 fun index => (index : Int) + 1
      | none => 0
    if negative then -rank else rank

/-- What the start of a text writes as a number of any form. -/
inductive AnyNumber
  /-- No number. -/
  | none
  /-- What is no number by name. -/
  | invalid
  /-- The least one. -/
  | below
  /-- A number in units of a power of ten. -/
  | value (units : Int) (exponent : Int)
  /-- The greatest one. -/
  | above

/-- The greatest exponent that is told apart from a greater one. -/
def maxExponent : Nat := 5000

/-- The number of any form at the start of a text. -/
def leadingAnyNumber (text : Octets) : AnyNumber :=
  let start := dropSpace text
  let negative := start.head? = some '-'
  let start := if negative || start.head? = some '+' then start.tail else start
  let lower := start.map Char.toLower
  let signed (n : Nat) : Int := if negative then -n else n
  if (octets "inf").isPrefixOf lower then if negative then .below else .above
  else if (octets "nan").isPrefixOf lower then .invalid
  else match lower with
    | '0' :: 'x' :: c :: rest =>
      match numberIn 16 (c :: rest) with
      | some n => .value (signed n) 0
      | none => .value 0 0
    | _ =>
      let (_, whole, places, rest) := leadingNumber lower
      if (whole ++ places).isEmpty || lower.head? = some '-' then .none
      else
        let exponent : Int := match rest with
          | 'e' :: rest =>
            let sign := rest.takeWhile fun c => c = '-' || c = '+'
            let digits := (rest.drop sign.length).takeWhile Char.isDigit
            let n : Int := (min maxExponent (digitsValue digits) : Nat)
            if sign.length > 1 then 0 else if sign = ['-'] then -n else n
          | _ => 0
        .value (signed (digitsValue (whole ++ places))) (exponent - places.length)
where
  /-- The number that digits of a base write at the start of a text. -/
  numberIn (base : Nat) (text : Octets) : Option Nat :=
    let value? (c : Char) : Option Nat :=
      if c.isDigit then some (c.toNat - '0'.toNat)
      else if 'a' ≤ c && c ≤ 'f' then some (c.toNat - 'a'.toNat + 10) else none
    match (text.takeWhile fun c => (value? c).isSome).filterMap value? with
    | [] => none
    | digits => some (digits.foldl (fun value digit => base * value + digit) 0)

/-- The order of two numbers of any form. -/
def AnyNumber.compare : AnyNumber → AnyNumber → Ordering
  | .value a exponentA, .value b exponentB =>
    let least := min exponentA exponentB
    Ord.compare (a * Int.pow 10 (exponentA - least).toNat) (b * Int.pow 10 (exponentB - least).toNat)
  | a, b => Ord.compare (rank a) (rank b)
where
  /-- Where the numbers of a kind come. -/
  rank : AnyNumber → Nat
    | .none => 0
    | .invalid => 1
    | .below => 2
    | .value _ _ => 3
    | .above => 4

/-! ## Months and versions -/

/-- The number of the month that a text starts with, or zero. -/
def monthOf (text : Octets) : Nat :=
  let name := ((text.dropWhile isFieldBlank).take 3).map Char.toUpper
  let months := ["JAN", "FEB", "MAR", "APR", "MAY", "JUN", "JUL", "AUG", "SEP", "OCT", "NOV", "DEC"]
  ((months.map octets).idxOf? name).elim 0 (· + 1)

/-- Where a character of a version comes that is no digit. -/
def versionRank (c : Option Char) : Int :=
  match c with
  | none => -1
  | some c =>
    if c.isDigit then 0 else if c.isAlpha then c.toNat else if c = '~' then -2 else c.toNat + 256

/-- The order of two versions, of which parts that are no numbers and numbers are compared in turn. -/
def compareVersionParts : (bound : Nat) → Octets → Octets → Ordering
  | 0, _, _ => .eq
  | bound + 1, a, b =>
    if a.isEmpty && b.isEmpty then .eq
    else
      let isLetter (text : Octets) : Bool := text.head?.any fun c => !c.isDigit
      if isLetter a || isLetter b then
        match compare (versionRank a.head?) (versionRank b.head?) with
        | .eq => compareVersionParts bound a.tail b.tail
        | order => order
      else
        let digitsA := a.takeWhile Char.isDigit
        let digitsB := b.takeWhile Char.isDigit
        (compare (digitsValue digitsA) (digitsValue digitsB)).then
          (if digitsA.isEmpty && digitsB.isEmpty then .eq
            else compareVersionParts bound (a.drop digitsA.length) (b.drop digitsB.length))

/-- A name without the endings that tell what kind of file it is. -/
def withoutEndings : (bound : Nat) → Octets → Octets
  | 0, text => text
  | bound + 1, text =>
    let ending := (text.reverse.takeWhile fun c => c.isAlphanum || c = '~').reverse
    let before := text.take (text.length - ending.length)
    let isEnding := before.getLast? = some '.' && before.length > 1 &&
      ending.head?.any fun c => c.isAlpha || c = '~'
    if isEnding then withoutEndings bound before.dropLast else text

/-- The order of two versions. -/
def compareVersions (a b : Octets) : Ordering :=
  let place (text : Octets) : Nat :=
    if text.isEmpty then 0 else if text = ['.'] then 1 else if text = ['.', '.'] then 2
    else if text.head? = some '.' then 3 else 4
  let bound := a.length + b.length + 1
  (compare (place a) (place b)).then
    ((compareVersionParts bound (withoutEndings bound a) (withoutEndings bound b)).then
      (compareVersionParts bound a b))

/-! ## Manners -/

/-- **The order of two texts.** -/
def SortKind.compare (kind : SortKind) (a b : Octets) : Ordering :=
  match kind with
  | .text => compareTexts a b
  | .number => compareNumbers a b
  | .anyNumber => (leadingAnyNumber a).compare (leadingAnyNumber b)
  | .scaled => (Ord.compare (unitRank a) (unitRank b)).then (compareNumbers a b)
  | .month => Ord.compare (monthOf a) (monthOf b)
  | .version => compareVersions a b

/-- **How texts are compared.** -/
structure SortManner where
  /-- What they are taken for. -/
  kind : SortKind
  /-- The other way around. -/
  reverse : Bool
  /-- As if small letters were capitals. -/
  folds : Bool
  /-- By letters, digits and blanks alone. -/
  dictionary : Bool
  /-- By the bytes that can be printed. -/
  printable : Bool
  /-- Without the blanks before them. -/
  skipsBlanks : Bool
deriving DecidableEq, Repr

/-- What of a text is compared. -/
def SortManner.view (manner : SortManner) (text : Octets) : Octets :=
  let kept := text.filter fun c =>
    (!manner.dictionary || c.isAlphanum || isFieldBlank c) && (!manner.printable || isPrintable c)
  if manner.folds then kept.map Char.toUpper else kept

/-- The order of two texts. -/
def SortManner.compare (manner : SortManner) (a b : Octets) : Ordering :=
  let order :=
    if manner.kind = .text || manner.kind = .version then
      manner.kind.compare (manner.view a) (manner.view b)
    else manner.kind.compare a b
  if manner.reverse then order.swap else order

/-- The letters of the options for the order. -/
def orderLetters : Octets := "bdfghiMnRrV".toList

/-- The manner that letters ask for, or what is wrong with them. -/
def mannerOf (letters : Octets) : Except Octets SortManner :=
  let kinds := "ghMn".toList.filter letters.contains
  let others := "diRV".toList.filter letters.contains
  if kinds.length + (if others.isEmpty then 0 else 1) > 1 then
    .error (octets "options '-" ++ "dghiMnRV".toList.filter letters.contains ++
      octets "' are incompatible")
  else .ok
    { kind :=
        if letters.contains 'n' then .number else if letters.contains 'g' then .anyNumber
        else if letters.contains 'h' then .scaled else if letters.contains 'M' then .month
        else if letters.contains 'V' then .version else .text
      reverse := letters.contains 'r', folds := letters.contains 'f'
      dictionary := letters.contains 'd', printable := letters.contains 'i'
      skipsBlanks := letters.contains 'b' }

end Program

end Shell

end ComponentScaffold
