import ComponentScaffold.Shell.Records.Machine

/-! # Functions for scripts over records

What the functions of the language do with values. Those for which more is needed than values stand with what runs
scripts.

* **`Records.substitute`** — a text with parts of it replaced.
* **`Records.valueFunction?`** — the functions of values alone. -/

namespace ComponentScaffold

namespace Shell

namespace Records

/-! ## Texts -/

/-- Where a text occurs in another one for the first time, counted from one, or zero. -/
def indexOf (part : Octets) : (before : Nat) → Octets → Nat
  | before, [] => if part.isEmpty then before + 1 else 0
  | before, c :: rest =>
    if part.isPrefixOf (c :: rest) then before + 1
    else indexOf part (before + 1) rest

/-- A part of a text: from a place on, and of a length if one is told. -/
def part (text : Octets) (start : Int) (length : Option Int) : Octets :=
  let length := length.getD (text.length + 1 + start.natAbs)
  let (start, length) := if start < 1 then (1, length + (start - 1)) else (start, length)
  if length ≤ 0 then [] else (text.drop (start - 1).toNat).take length.toNat

/-- What a replacement writes for a part of a text: an ampersand stands for it unless it is escaped. -/
def replacement (part : Octets) : Octets → Octets
  | [] => []
  | '\\' :: '&' :: rest => '&' :: replacement part rest
  | '\\' :: '\\' :: '&' :: rest => '\\' :: part ++ replacement part rest
  | '&' :: rest => part ++ replacement part rest
  | c :: rest => c :: replacement part rest

/-- A text from a point on with at most so many of the parts replaced that fit a pattern, and how many were. An empty
part right behind another one is left, which is told by where that one ends. -/
def substitute (regex : Regex) (new : Octets) : (bound most : Nat) → (behind : Option Nat) →
    Regex.Point → Octets × Nat
  | 0, _, _, point => (point.rest, 0)
  | _, 0, _, point => (point.rest, 0)
  | bound + 1, most + 1, behind, point =>
    match regex.find? false point with
    | none => (point.rest, 0)
    | some (start, reached) =>
      let before := point.rest.take (start.offset - point.offset)
      if start.offset < reached.offset then
        let (rest, count) := substitute regex new bound most (some reached.offset) reached
        let found := start.rest.take (reached.offset - start.offset)
        (before ++ replacement found new ++ rest, count + 1)
      else
        let isLeft := behind = some start.offset
        let written := if isLeft then [] else replacement [] new
        let most := if isLeft then most + 1 else most
        let counted := if isLeft then 0 else 1
        match start.rest with
        | [] => (before ++ written, counted)
        | c :: _ =>
          let (rest, count) := substitute regex new bound most none start.next
          (before ++ written ++ c :: rest, count + counted)

/-- A text with the first part replaced that fits a pattern, or all of them, and how many were. -/
def replaceIn (regex : Regex) (new : Octets) (all : Bool) (text : Octets) : Octets × Nat :=
  substitute regex new (2 * text.length + 2) (if all then text.length + 2 else 1) none (.ofText text)

/-! ## Numbers -/

/-- A number without its places behind the point. -/
def truncated (n : Float) : Float := if n < 0.0 then n.ceil else n.floor

/-- What is left of a number by another one. -/
def remainder (a b : Float) : Float :=
  if b == 0.0 || !isFinite a then 0.0 / 0.0
  else if !isFinite b then a
  else
    -- both are whole multiples of a power of two, of which the exact remainder is taken
    let (x, y) := (decimalOf a, decimalOf b)
    let scale := max x.scale y.scale
    let lift (value : Shell.Format.Decimal) : Nat := value.digits * Nat.pow 10 (scale - value.scale).toNat
    let left := lift x % lift y
    floatOf ⟨x.negative, left, scale⟩

/-- What is computed of two numbers. -/
def Operator.apply (operator : Operator) (a b : Float) : Float :=
  match operator with
  | .add => a + b
  | .subtract => a - b
  | .multiply => a * b
  | .divide => a / b
  | .modulo => remainder a b
  | .power => a.pow b

/-- Whether values ordered in a way are related. -/
def Relation.holds (relation : Relation) (order : Option Ordering) : Bool :=
  match relation, order with
  | .less, some .lt | .atMost, some .lt | .atMost, some .eq | .equal, some .eq | .greater, some .gt
  | .atLeast, some .gt | .atLeast, some .eq => true
  | .unequal, some .eq => false
  | .unequal, _ => true
  | _, _ => false

/-- The next state of the random numbers. -/
def nextRandom (state : Nat) : Nat := (6364136223846793005 * state + 1442695040888963407) % Nat.pow 2 64

/-- The number of a state, at least zero and less than one. -/
def randomFloat (state : Nat) : Float := Float.ofNat (state / Nat.pow 2 11) / 9007199254740992.0

/-! ## Times -/

/-- The numbers in a text, parted by blanks. -/
def numbersIn (text : Octets) : List Int :=
  (Separator.words text.length text).filterMap fun word => intOf? word

/-- The seconds until a date and a time that are told by numbers, or minus one. -/
def secondsUntil (text : Octets) : Int :=
  match numbersIn text with
  | year :: month :: day :: hour :: minute :: second :: _ =>
    let months := year * 12 + (month - 1)
    let days := Calendar.daysUntil (months / 12) ((months % 12).toNat + 1) 1 + (day - 1)
    days * 86400 + hour * 3600 + minute * 60 + second
  | _ => -1

/-- The usual format of a time. -/
def usualTime : Octets := octets "%c"

/-- A function of values alone: by its name, a way to write fractions, the time, and its arguments. -/
def valueFunction? (write : Float → Octets) (now : Time) (function : String) (arguments : List Value) :
    Option Value :=
  let text (index : Nat) : Octets := ((arguments[index]?).getD .none).toText write
  let number (index : Nat) : Float := ((arguments[index]?).getD .none).toNumber
  let whole (index : Nat) : Int := clampedWhole (number index)
  match function with
  | "atan2" => some (.number (Float.atan2 (number 0) (number 1)))
  | "cos" => some (.number (number 0).cos)
  | "exp" => some (.number (number 0).exp)
  | "index" => some (.number (Float.ofNat (indexOf (text 1) 0 (text 0))))
  | "int" => some (.number (truncated (number 0)))
  | "log" => some (.number (number 0).log)
  | "mktime" => some (.number (Float.ofInt (secondsUntil (text 0))))
  | "sin" => some (.number (number 0).sin)
  | "sqrt" => some (.number (number 0).sqrt)
  | "strftime" =>
    let seconds := if arguments.length < 2 then now / Calendar.second else whole 1
    let format := if arguments.isEmpty then usualTime else text 0
    some (.text (Calendar.format format (Calendar.Moment.ofTime (seconds * Calendar.second))))
  | "substr" =>
    some (.text (part (text 0) (whole 1) (if arguments.length < 3 then none else some (whole 2))))
  | "systime" => some (.number (Float.ofInt (now / Calendar.second)))
  | "tolower" => some (.text ((text 0).map Char.toLower))
  | "toupper" => some (.text ((text 0).map Char.toUpper))
  | _ => none

end Records

end Shell

end ComponentScaffold
