import ComponentScaffold.Files.Operations
import ComponentScaffold.Shell.Octets

/-! # Modes

The mode of a file says who may do what with it: for its owner, its group and all others whether they may
read, write and run it, and above that three bits of other use.

* **`Shell.modeText`** — a mode by its letters.
* **`Shell.ModeChange.parse?`** — what a text asks to be changed in modes.
* **`Shell.ModeChange.apply`** — a mode after a change. -/

namespace ComponentScaffold

namespace Shell

/-- All bits of a mode. -/
def allBits : Nat := 0o7777

/-- Bits without some others. -/
def withoutBits (bits others : Nat) : Nat := bits - (bits &&& others)

/-! ## Letters -/

/-- The letter of the kind of an entry. -/
def entryLetter : Entry → Char
  | .directory => 'd'
  | .link _ => 'l'
  | .file _ => '-'
  | .device _ => 'c'
  | .queue _ => 'p'

/-- The three letters of three bits, the last of which stands for an extra bit as well. -/
def threeLetters (bits : Nat) (extra : Bool) (both alone : Char) : Octets :=
  let runs := bits &&& 1 != 0
  [if bits &&& 4 != 0 then 'r' else '-', if bits &&& 2 != 0 then 'w' else '-',
    if extra then (if runs then both else alone) else if runs then 'x' else '-']

/-- **A mode by its letters**, without that of the kind. -/
def modeText (mode : Nat) : Octets :=
  threeLetters (mode >>> 6) (mode &&& 0o4000 != 0) 's' 'S' ++
    threeLetters (mode >>> 3) (mode &&& 0o2000 != 0) 's' 'S' ++
    threeLetters mode (mode &&& 0o1000 != 0) 't' 'T'

/-- The digits of a mode. -/
def modeDigits (mode : Nat) : Octets := Nat.toDigits 8 mode

/-! ## Changes -/

/-- What a step does with bits. -/
inductive ModeOperator
  /-- They are added. -/
  | add
  /-- They are taken away. -/
  | remove
  /-- They are there and no others. -/
  | set
deriving DecidableEq, Repr

/-- Where the bits of a step come from. -/
inductive ModeSource
  /-- They are given. -/
  | given
  /-- They are given, and the ones to run as well if somebody may run the file, or it is a directory. -/
  | runIfAny
  /-- What is held of them counts for all. -/
  | held
deriving DecidableEq, Repr

/-- One step of a change. -/
structure ModeStep where
  /-- What is done. -/
  operator : ModeOperator
  /-- Where the bits come from. -/
  source : ModeSource
  /-- The bits of those whom it is about, or none for all whom no mask holds back. -/
  affected : Nat
  /-- The bits. -/
  bits : Nat
  /-- The bits that are changed even where they are usually left alone. -/
  mentioned : Nat
deriving DecidableEq, Repr

/-- **A change of modes**, step by step. -/
abbrev ModeChange := List ModeStep

namespace ModeChange

/-- The number that octal digits write. -/
def octalValue (digits : Octets) : Nat :=
  digits.foldl (fun value c => 8 * value + (c.toNat - '0'.toNat)) 0

/-- Whether a byte is an octal digit. -/
def isOctal (c : Char) : Bool := '0' ≤ c && c ≤ '7'

/-- The change that octal digits write. -/
def ofDigits? (operator : ModeOperator) (digits : Octets) : Option ModeChange :=
  let value := octalValue digits
  if digits.isEmpty || !digits.all isOctal || allBits < value then none
  else
    let mentioned := if digits.length < 5 && operator = .set then (value &&& 0o6000) ||| 0o1777
      else allBits
    some [⟨operator, .given, allBits, value, mentioned⟩]

/-- The bits of a letter for whom a change is. -/
def whoBits? : Char → Option Nat
  | 'u' => some 0o4700
  | 'g' => some 0o2070
  | 'o' => some 0o1007
  | 'a' => some allBits
  | _ => none

/-- The bits of a letter for what may be done. -/
def letterBits? : Char → Option Nat
  | 'r' => some 0o444
  | 'w' => some 0o222
  | 'x' => some 0o111
  | 'X' => some 0
  | 's' => some 0o6000
  | 't' => some 0o1000
  | _ => none

/-- The operator that a character writes. -/
def operator? : Char → Option ModeOperator
  | '+' => some .add
  | '-' => some .remove
  | '=' => some .set
  | _ => none

/-- The bits of a letter for one whose bits count for all. -/
def heldBits? : Char → Option Nat
  | 'u' => some 0o700
  | 'g' => some 0o070
  | 'o' => some 0o007
  | _ => none

/-- The step that letters write behind an operator, and what is left behind them. -/
def stepOf? (affected : Nat) (operator : ModeOperator) : Octets → Option (ModeChange × Octets)
  | [] => some ([⟨operator, .given, affected, 0, 0⟩], [])
  | c :: rest =>
    if isOctal c then
      let digits := (c :: rest).takeWhile isOctal
      let left := (c :: rest).drop digits.length
      if affected ≠ 0 || !left.isEmpty then none
      else (ofDigits? operator digits).map fun steps =>
        (steps.map fun step => { step with mentioned := allBits }, [])
    else match heldBits? c with
      | some bits => some ([⟨operator, .held, affected, bits, bits⟩], rest)
      | none =>
        let letters := (c :: rest).takeWhile fun c => (letterBits? c).isSome
        let bits := (letters.filterMap letterBits?).foldl (· ||| ·) 0
        let mentioned := if affected = 0 then bits else affected &&& bits
        let source : ModeSource := if letters.contains 'X' then .runIfAny else .given
        some ([⟨operator, source, affected, bits, mentioned⟩], (c :: rest).drop letters.length)

/-- The steps that operators and letters write, of which at most so many are read. -/
def stepsOf? (affected : Nat) : (bound : Nat) → Octets → Option ModeChange
  | 0, _ => none
  | _ + 1, [] => some []
  | bound + 1, c :: rest => do
    let operator ← operator? c
    let (steps, left) ← stepOf? affected operator rest
    return steps ++ (← stepsOf? affected bound left)

/-- The steps of a clause. -/
def ofClause? (clause : Octets) : Option ModeChange :=
  let who := clause.takeWhile fun c => (whoBits? c).isSome
  let affected := (who.filterMap whoBits?).foldl (· ||| ·) 0
  let steps := clause.drop who.length
  if steps.isEmpty then none else stepsOf? affected (steps.length + 1) steps

/-- **The change that a text asks for**, if it asks for one. -/
def parse? (text : Octets) : Option ModeChange :=
  if text.head?.any isOctal then ofDigits? .set text
  else ((text.splitOn ',').mapM ofClause?).map List.flatten

/-- The bits of three that count for all. -/
def spread (bits : Nat) : Nat :=
  [0o444, 0o222, 0o111].foldl (fun all mask => if bits &&& mask = 0 then all else all ||| mask) 0

/-- A mode after a step. -/
def applyStep (mask : Nat) (isFolder : Bool) (mode : Nat) (step : ModeStep) : Nat :=
  let left := withoutBits (if isFolder then 0o6000 else 0) step.mentioned
  let bits := match step.source with
    | .given => step.bits
    | .runIfAny => if isFolder || isRunMode mode then step.bits ||| runBits else step.bits
    | .held => spread (step.bits &&& mode)
  let reach := if step.affected = 0 then withoutBits allBits mask else step.affected
  let bits := withoutBits (bits &&& reach) left
  match step.operator with
  | .add => mode ||| bits
  | .remove => withoutBits mode bits
  | .set =>
    let kept := (if step.affected = 0 then 0 else withoutBits allBits step.affected) ||| left
    (mode &&& kept) ||| bits

/-- **A mode after a change**, where bits that a mask holds back are changed only for those named. -/
def apply (change : ModeChange) (mask : Nat) (isFolder : Bool) (mode : Nat) : Nat :=
  change.foldl (applyStep mask isFolder) mode

end ModeChange

end Shell

end ComponentScaffold
