import ComponentScaffold.Shell.Program.Basic
import ComponentScaffold.Shell.Utility.Output

/-! # Programs that write or answer

Programs of the names of utilities, with other words for what is wrong.

* **`Program.echo`**, **`Program.printf`** — write their arguments.
* **`Program.test`** — answers a question.
* **`Program.seq`** — counts. -/

namespace ComponentScaffold

namespace Shell

namespace Program

/-- Do nothing, with success. -/
def succeed : Program := fun _ _ _ => return 0

/-- Do nothing, without success. -/
def deny : Program := fun _ _ _ => return 1

/-- The options before what `echo` writes: whether the line is open, whether escapes are read, and the
rest. -/
def echoOptions (isOpen escapes : Bool) : List Octets → Bool × Bool × List Octets
  | ('-' :: letters) :: rest =>
    if !letters.isEmpty && letters.all fun c => "neE".toList.contains c then
      echoOptions (isOpen || letters.contains 'n')
        (letters.foldl (fun on c => if c = 'e' then true else if c = 'E' then false else on) escapes)
        rest
    else (isOpen, escapes, ('-' :: letters) :: rest)
  | arguments => (isOpen, escapes, arguments)

/-- What `echo` writes, with escapes, and whether the output goes on behind it. -/
def echoText : List Octets → Octets × Bool
  | [] => ([], true)
  | argument :: rest =>
    let (text, stop) := unescape .lineText 0 argument
    if stop.isSome || rest.isEmpty then (text, stop.isNone)
    else
      let (more, goesOn) := echoText rest
      (text ++ ' ' :: more, goesOn)

/-- **Write arguments in a line.** -/
def echo : Program := fun _ name arguments => do
  let (isOpen, escapes, words) := echoOptions false false arguments
  let (text, goesOn) := if escapes then echoText words else (joinWith [' '] words, true)
  emit name (if isOpen || !goesOn then text else text ++ ['\n'])

/-- The wording of the programs. -/
def formatWording : Format.Wording where
  format := .programFormat
  argument := .programText
  notNumber text := quotedPlainly text ++ octets ": expected a numeric value"
  notWhole text := quotedPlainly text ++ octets ": value not completely converted"
  outOfRange text := quotedPlainly text ++ octets ": Numerical result out of range"
  unknownPlace text := text ++ octets ": invalid conversion specification"
  unendedPlace text := text ++ octets ": invalid conversion specification"
  quote? := some quotedIfNeeded
  sizes := "hlLjtz".toList
  following? := some fun text =>
    octets "warning: " ++ text ++ octets ": character(s) following character constant have been ignored"
  forgives := false
  wide := true
  time _ _ := []

/-- **Write arguments by a format.** -/
def printf : Program := fun _ name arguments => do
  match if arguments.head? = some ['-', '-'] then arguments.tail else arguments with
  | [] => refuseUse name (octets "missing operand") 1
  | format :: arguments =>
    let work := Format.fill formatWording format arguments
    work.complaints.forM (tell name)
    if !work.isOver && !work.arguments.isEmpty then
      tell name (octets "warning: ignoring excess arguments, starting with " ++
        quotedPlainly (work.arguments.headD []))
    let status ← emit name work.text
    return if work.isWrong || work.isRefused then 1 else status

/-- The status of a question that makes no sense. -/
def questionFailure : Nat := 2

/-- **Answer a question.** -/
def test : Program := fun _ name words => do
  match Condition.programHolds (← files) words with
  | .ok answer => return if answer then 0 else 1
  | .error message => refuse name message questionFailure

/-- Answer a question between brackets. -/
def bracket : Program := fun engine name words =>
  if words.getLast? = some [']'] then test engine name words.dropLast
  else refuse name (octets "missing " ++ quotedPlainly [']']) questionFailure

/-! ## Counting -/

/-- The options of `seq`. -/
def seqForms : List OptionForm :=
  [⟨'s', true, ["separator"], .required⟩, ⟨'w', true, ["equal-width"], .none⟩,
    ⟨'f', true, ["format"], .required⟩]

/-- A decimal number that is written out, with the number of its places, or none. -/
def decimalOf? (text : Octets) : Option (Format.Decimal × Nat) :=
  let (value, rest) := Format.fractionOf text
  if text.isEmpty || !rest.isEmpty then none
  else
    let unsigned := text.takeWhile fun c => c ≠ 'e' && c ≠ 'E'
    let places := ((unsigned.dropWhile (· ≠ '.')).drop 1).length
    some (value, places)

/-- A decimal number as a whole number of a power of ten. -/
def scaled (value : Format.Decimal) (places : Nat) : Int :=
  let n : Int :=
    if value.scale ≤ places then (value.digits * Nat.pow 10 ((places : Int) - value.scale).toNat : Nat)
    else (value.digits / Nat.pow 10 (value.scale - places).toNat : Nat)
  if value.negative then -n else n

/-- A whole number of a power of ten as a decimal number. -/
def decimalText (n : Int) (places : Nat) : Octets :=
  let digits := Format.fixedDigits ⟨false, n.natAbs, places⟩ places
  if n < 0 then '-' :: digits else digits

/-- The greatest number of steps that are counted. -/
def maxSteps : Nat := 1000000

/-- The numbers from one to another in steps. -/
def stepsFrom (first step last : Int) : List Int :=
  let count : Nat := if step > 0 then ((last - first) / step + 1).toNat
    else if step < 0 then ((first - last) / -step + 1).toNat else 0
  (List.range (min count maxSteps)).map fun i => first + step * (i : Nat)

/-- Arguments in which a negative number is not taken for an option. -/
def protectNumbers (arguments : List Octets) : List Octets :=
  let isNegative (argument : Octets) : Bool := match argument with
    | '-' :: c :: _ => c.isDigit || c = '.'
    | _ => false
  let options := arguments.takeWhile fun argument => argument.head? = some '-' && !isNegative argument
  match arguments.drop options.length with
  | [] => arguments
  | rest => if rest.head?.any isNegative then options ++ octets "--" :: rest else arguments

/-- The letters behind the percent signs of a format, apart from those that stand for themselves. -/
def formatLetters : (isPlace : Bool) → Octets → Octets
  | _, [] => []
  | false, '%' :: '%' :: rest => formatLetters false rest
  | false, c :: rest => formatLetters (c = '%') rest
  | true, c :: rest =>
    if "-+#0 '.".toList.contains c || c.isDigit then formatLetters true rest
    else c :: formatLetters false rest

/-- What is wrong with the format of a number. -/
def numberFormatFault? (format : Octets) : Option Octets :=
  let shown := octets "format " ++ quotedPlainly format
  match formatLetters false format with
  | [] => some (shown ++ octets " has no % directive")
  | letter :: others =>
    if !"aAeEfFgG".toList.contains letter then
      some (shown ++ octets " has unknown %" ++ [letter] ++ octets " directive")
    else if others.isEmpty then none
    else some (shown ++ octets " has too many % directives")

/-- **Count** from one number to another. -/
def seq : Program := fun engine name arguments =>
  withOptions seqForms true 1 (fun _ name chosen => do
    if let some message := (chosen.value? 'f').bind numberFormatFault? then
      return ← refuse name message 1
    match chosen.operands with
    | [] => refuseUse name (octets "missing operand") 1
    | _ :: _ :: _ :: extra :: _ => refuseUse name (octets "extra operand " ++ quotedPlainly extra) 1
    | operands =>
      match operands.find? fun operand => (decimalOf? operand).isNone with
      | some operand =>
        refuseUse name (octets "invalid floating point argument: " ++ quotedPlainly operand) 1
      | none =>
        let numbers := operands.filterMap decimalOf?
        let one : Format.Decimal × Nat := (⟨false, 1, 0⟩, 0)
        let (first, step, last) := match numbers with
          | [last] => (one, one, last)
          | [first, last] => (first, one, last)
          | first :: step :: last :: _ => (first, step, last)
          | [] => (one, one, one)
        let places := max first.2 step.2
        let inner := max places last.2
        let unit (value : Format.Decimal) : Int := scaled value inner
        if unit step.1 = 0 then
          return ← refuseUse name (octets "invalid Zero increment value: " ++
            quotedPlainly ((operands[1]?).getD [])) 1
        let values := stepsFrom (unit first.1) (unit step.1) (unit last.1)
        let text (n : Int) : Octets := decimalText (n / Int.pow 10 (inner - places)) places
        let width := if chosen.has 'w' then
          ([text (unit first.1), text (unit last.1)].map List.length).foldl max 0 else 0
        let shown (n : Int) : Octets :=
          match chosen.value? 'f' with
          | some format => (Format.fill formatWording format [text n]).text
          | none =>
            let digits := text n
            let gap := List.replicate (width - digits.length) '0'
            if n < 0 then '-' :: gap ++ digits.tail else gap ++ digits
        if values.isEmpty then return 0
        emit name (joinWith ((chosen.value? 's').getD ['\n']) (values.map shown) ++ ['\n']))
    engine name (protectNumbers arguments)

end Program

end Shell

end ComponentScaffold
