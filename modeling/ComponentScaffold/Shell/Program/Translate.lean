import ComponentScaffold.Shell.Format
import ComponentScaffold.Shell.Pattern
import ComponentScaffold.Shell.Program.Basic

/-! # Translating bytes

* **`Program.tr`** — puts bytes in the place of others, leaves bytes out, or squeezes runs of them. -/

namespace ComponentScaffold

namespace Shell

namespace Program

/-- A part of a set of bytes. -/
inductive SetPart
  /-- Bytes in order. -/
  | bytes (bytes : Octets)
  /-- The bytes of a class. -/
  | kind (name : Octets)
  /-- A byte as often as told, or for zero as often as needed. -/
  | repeated (c : Char) (count : Nat)
deriving DecidableEq, Repr

/-- The bytes of a set as they are written, each with whether it was escaped. -/
def setLetters : (skipped : Nat) → Octets → List Lettered
  | _, [] => []
  | skipped + 1, _ :: rest => setLetters skipped rest
  | 0, '\\' :: c :: rest =>
    if (octalDigit? c).isSome then
      let (byte, count) := byteDigits 8 3 (c :: rest)
      (byte, true) :: setLetters count (c :: rest)
    else
      let byte := if c = 'e' then c else (Shell.escapedByte? c).getD c
      (byte, true) :: setLetters 1 (c :: rest)
  | 0, c :: rest => (c, false) :: setLetters 0 rest

/-- All bytes. -/
def allBytes : Octets := (List.range 256).map Char.ofNat

/-- The bytes from one to another. -/
def bytesBetween (first last : Char) : Octets :=
  (List.range (last.toNat + 1 - first.toNat)).map fun i => Char.ofNat (first.toNat + i)

/-- A range as it is shown. -/
def rangeText (first last : Char) : Octets :=
  '\x27' :: first :: '-' :: last :: ['\x27']

/-- A class or a repeated byte at the start of a set, behind its opening bracket, and the rest. -/
def bracketPart? (letters : List Lettered) : Option (SetPart × List Lettered) :=
  match letters with
  | (':', false) :: rest =>
    let name := rest.takeWhile fun letter => letter.1.isLower
    match rest.drop name.length with
    | (':', false) :: (']', false) :: rest => some (.kind (name.map Prod.fst), rest)
    | _ => none
  | ('=', false) :: (c, _) :: ('=', false) :: (']', false) :: rest => some (.bytes [c], rest)
  | (c, _) :: ('*', false) :: rest =>
    let digits := rest.takeWhile fun letter => letter.1.isDigit && !letter.2
    match rest.drop digits.length with
    | (']', false) :: rest => some (.repeated c (digitsValue (digits.map Prod.fst)), rest)
    | _ => none
  | _ => none

/-- The parts of a set, of which at most the given number are read. -/
def setParts : (bound : Nat) → List Lettered → Except Octets (List SetPart)
  | 0, _ => .ok []
  | _ + 1, [] => .ok []
  | bound + 1, (c, quoted) :: rest =>
    match if c = '[' && !quoted then bracketPart? rest else none with
    | some (part, rest) => do
      if let SetPart.kind name := part then
        if !(["alpha", "digit", "alnum", "upper", "lower", "space", "blank", "punct", "print",
            "graph", "cntrl", "xdigit"].contains (String.ofList name)) then
          .error (octets "invalid character class " ++ quotedPlainly name)
      return part :: (← setParts bound rest)
    | none =>
      match rest with
      | ('-', false) :: (last, _) :: rest =>
        if last < c then
          .error (octets "range-endpoints of " ++ rangeText c last ++
            octets " are in reverse collating sequence order")
        else do return SetPart.bytes (bytesBetween c last) :: (← setParts bound rest)
      | _ => do return SetPart.bytes [c] :: (← setParts bound rest)

/-- The bytes of a part, which are as many as needed to reach a length. -/
def SetPart.members (needed : Nat) : SetPart → Octets
  | .bytes members => members
  | .kind name => allBytes.filter (isOfKind name)
  | .repeated c 0 => List.replicate needed c
  | .repeated c count => List.replicate count c

/-- The bytes of a set, which is filled up to a length where it can be. -/
def setBytes (parts : List SetPart) (length : Nat) : Octets :=
  let bare := (parts.map (SetPart.members 0)).flatten.length
  (parts.map (SetPart.members (length - bare))).flatten

/-- The set that a text writes. -/
def setOf (text : Octets) : Except Octets (List SetPart) :=
  let letters := setLetters 0 text
  setParts (letters.length + 1) letters

/-- A text without all but the first of equal bytes of a set that follow each other. -/
def squeeze (set : Octets) : Octets → Octets
  | [] => []
  | c :: rest =>
    match squeeze set rest with
    | next :: others =>
      if c = next && set.contains c then next :: others else c :: next :: others
    | [] => [c]

/-- What stands in the place of bytes: those of the second set at the same place, or its last one. -/
def translation (first second : Octets) (c : Char) : Char :=
  -- of several places the last one counts
  match first.reverse.idxOf? c with
  | none => c
  | some index =>
    let place := first.length - 1 - index
    (second[place]?).getD (second.getLast?.getD c)

/-- The options of `tr`. -/
def trForms : List OptionForm :=
  [⟨'d', true, ["delete"], .none⟩, ⟨'s', true, ["squeeze-repeats"], .none⟩,
    ⟨'c', true, ["complement"], .none⟩, .short 'C' .none, ⟨'t', true, ["truncate-set1"], .none⟩]

/-- What is wrong with the number of sets, if something is. -/
def setCountFault? (chosen : Chosen) : Option (Octets × Option String) :=
  let deletes := chosen.has 'd'
  let squeezes := chosen.has 's'
  let least := if deletes == squeezes then 2 else 1
  let most := if deletes && !squeezes then 1 else 2
  let operands := chosen.operands
  if operands.isEmpty then some (octets "missing operand", none)
  else if operands.length < least then
    some (octets "missing operand after " ++ quotedPlainly (operands.headD []),
      some (if squeezes then "Two strings must be given when both deleting and squeezing repeats."
        else "Two strings must be given when translating."))
  else if most < operands.length then
    some (octets "extra operand " ++ quotedPlainly ((operands[most]?).getD []),
      if operands.length = 2 then
        some "Only one string may be given when deleting without squeezing repeats."
      else none)
  else none

/-- The text that comes out, or what is wrong with the sets. -/
def translated (chosen : Chosen) (text : Octets) : Except Octets Octets := do
  let parts ← setOf (chosen.operands.headD [])
  let plain := setBytes parts 0
  let first := if chosen.has 'c' || chosen.has 'C' then allBytes.filter fun c => !plain.contains c
    else plain
  let second ← match chosen.operands[1]? with
    | none => pure none
    | some text => do
      let parts ← setOf text
      pure (some (setBytes parts first.length))
  let deletes := chosen.has 'd'
  let squeezes := chosen.has 's'
  if deletes then
    let kept := text.filter fun c => !first.contains c
    return if squeezes then squeeze (second.getD []) kept else kept
  match second with
  | none => return squeeze first text
  | some second =>
    let first := if chosen.has 't' then first.take second.length else first
    if second.isEmpty && !first.isEmpty then
      .error (octets "when not truncating set1, string2 must be non-empty")
    let table := allBytes.map fun c => translation first second c
    let changed := text.map fun c => (table[c.toNat]?).getD c
    return if squeezes then squeeze second changed else changed

/-- **Translate, leave out or squeeze bytes** of the standard input. -/
def tr : Program := withOptions trForms true 1 fun _ name chosen => do
  match setCountFault? chosen with
  | some (message, explanation) =>
    tell name message
    if let some explanation := explanation then complain (octets (explanation ++ "\n"))
    complain (hint name)
    return 1
  | none =>
    let text ← match ← readAll 0 with
      | .ok bytes => pure (octetsOf bytes)
      | .error _ => pure []
    match translated chosen text with
    | .error message => refuse name message 1
    | .ok text => emit name text

end Program

end Shell

end ComponentScaffold
