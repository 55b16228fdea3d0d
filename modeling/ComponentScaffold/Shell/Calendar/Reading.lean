import ComponentScaffold.Shell.Calendar.Basic

/-! # Times in words

A time can be written in many ways: as a date, as a time of day, as a weekday, as a distance from now, or as
several of these together.

* **`Calendar.read?`** — the time that a text tells.
* **`Calendar.readStamp?`** — the time that digits tell. -/

namespace ComponentScaffold

namespace Shell

namespace Calendar

/-! ## Tokens -/

/-- A part of a text that tells a time. -/
inductive Token
  /-- A number: its sign, its digits, and those behind a point. -/
  | number (sign : Option Char) (digits fraction : Octets)
  /-- A word in small letters. -/
  | word (letters : Octets)
  /-- Another character. -/
  | mark (c : Char)
deriving DecidableEq, Repr

/-- The number at the start of a text, and what follows it. -/
def numberAt (sign : Option Char) (text : Octets) : Token × Octets :=
  let digits := text.takeWhile Char.isDigit
  match text.drop digits.length with
  | c :: rest =>
    let fraction := rest.takeWhile Char.isDigit
    if (c = '.' || c = ',') && !fraction.isEmpty then
      (.number sign digits fraction, rest.drop fraction.length)
    else (.number sign digits [], c :: rest)
  | [] => (.number sign digits [], [])

/-- The tokens of a text, of which at most so many are read. -/
def tokensWithin : (bound : Nat) → Octets → List Token
  | 0, _ => []
  | _ + 1, [] => []
  | bound + 1, c :: rest =>
    if c = ' ' || c = '\t' || c = '\n' then tokensWithin bound rest
    else if c.isDigit then
      let (token, behind) := numberAt none (c :: rest)
      token :: tokensWithin bound behind
    else if c.isAlpha then
      let letters := (c :: rest).takeWhile fun c => c.isAlpha || c == '.'
      .word ((letters.filter (· ≠ '.')).map Char.toLower) :: tokensWithin bound ((c :: rest).drop letters.length)
    else if c = '+' || c = '-' then
      let behind := rest.dropWhile (· = ' ')
      if behind.head?.any Char.isDigit then
        let (token, behind) := numberAt (some c) behind
        token :: tokensWithin bound behind
      else tokensWithin bound rest
    else .mark c :: tokensWithin bound rest

/-! ## What was read -/

/-- A distance in time. -/
structure Shift where
  /-- Months, and years as twelve of them. -/
  months : Int
  /-- Days, and weeks as seven of them. -/
  days : Int
  /-- Nanoseconds. -/
  nanoseconds : Int

/-- What has been read of a time. -/
structure Told where
  /-- A date: the year if it is told, the month and the day. -/
  date : Option (Option Int × Nat × Nat)
  /-- The time of day in nanoseconds. -/
  time : Option Int
  /-- A day of the week, and how many of them away. -/
  weekday : Option (Int × Nat)
  /-- How far the clocks of the place are ahead, in seconds. -/
  zone : Option Int
  /-- The distances, if there are any. -/
  shift : Option Shift

/-- The number with a value by its name, which can be shortened to three letters or more. -/
def indexOfName? (names : List String) (word : Octets) : Option Nat :=
  names.findIdx? fun name =>
    let name := name.toList.map Char.toLower
    word.length ≥ 3 && (word = name || word = name.take 3 || (word.length = 4 && word = name.take 4))

/-- The month of a word, from one. -/
def month? (word : Octets) : Option Nat := (indexOfName? monthNames word).map (· + 1)

/-- The day of the week of a word. -/
def weekday? (word : Octets) : Option Nat := indexOfName? weekdayNames word

/-- A number of units of time as a distance. -/
def shiftOf? (unit : Octets) (count : Int) : Option Shift :=
  let unit := String.ofList unit
  let unit := if unit.endsWith "s" && unit.length > 1 then (unit.dropEnd 1).toString else unit
  match unit with
  | "year" => some ⟨12 * count, 0, 0⟩
  | "month" => some ⟨count, 0, 0⟩
  | "fortnight" => some ⟨0, 14 * count, 0⟩
  | "week" => some ⟨0, 7 * count, 0⟩
  | "day" => some ⟨0, count, 0⟩
  | "hour" => some ⟨0, 0, 3600 * second * count⟩
  | "minute" | "min" => some ⟨0, 0, 60 * second * count⟩
  | "second" | "sec" => some ⟨0, 0, second * count⟩
  | _ => none

/-- The distance to a day that is called by a word. -/
def dayShift? (word : Octets) : Option Int :=
  match String.ofList word with
  | "now" | "today" => some 0
  | "tomorrow" => some 1
  | "yesterday" => some (-1)
  | _ => none

/-- The number of a word that counts. -/
def ordinal? (word : Octets) : Option Int :=
  match String.ofList word with
  | "last" => some (-1)
  | "this" => some 0
  | "next" | "first" => some 1
  | "third" => some 3
  | "fourth" => some 4
  | "fifth" => some 5
  | "sixth" => some 6
  | "seventh" => some 7
  | "eighth" => some 8
  | "ninth" => some 9
  | "tenth" => some 10
  | "eleventh" => some 11
  | "twelfth" => some 12
  | _ => none

namespace Told

/-- With one more distance. -/
def plus (told : Told) (shift : Shift) : Told :=
  let held := told.shift.getD ⟨0, 0, 0⟩
  { told with shift := some ⟨held.months + shift.months, held.days + shift.days,
      held.nanoseconds + shift.nanoseconds⟩ }

/-- With a date, if there is none yet. -/
def withDate? (told : Told) (year : Option Int) (month day : Nat) : Option Told :=
  if told.date.isSome then none else some { told with date := some (year, month, day) }

/-- With a time of day, if there is none yet. -/
def withTime? (told : Told) (hour minute : Nat) (nanoseconds : Int) : Option Told :=
  if told.time.isSome || hour > 23 || minute > 59 || nanoseconds > 60 * second then none
  else some { told with time := some ((3600 * hour + 60 * minute : Int) * second + nanoseconds) }

/-- With the distances the other way round. -/
def ago (told : Told) : Told :=
  { told with shift := told.shift.map fun shift => ⟨-shift.months, -shift.days, -shift.nanoseconds⟩ }

end Told

/-- The year that digits mean, of which two are enough. -/
def yearOf (digits : Octets) : Int :=
  let value := digitsValue digits
  if digits.length ≤ 2 then (if value < 69 then 2000 + value else 1900 + value) else value

/-- The nanoseconds of a second that digits behind a point tell. -/
def nanosecondsOf (fraction : Octets) : Int :=
  digitsValue ((fraction ++ List.replicate 9 '0').take 9)

/-- The hour on a clock with twenty-four hours of one with twelve. -/
def hourAfter? (hour : Nat) (word : Octets) : Option Nat :=
  if hour = 0 || hour > 12 then none
  else match String.ofList word with
    | "am" => some (hour % 12)
    | "pm" => some (hour % 12 + 12)
    | _ => none

/-- The seconds that clocks are ahead of a zone that is written as a number. -/
def zoneOf (sign : Char) (digits : Octets) (minutes : Nat) : Int :=
  let value := digitsValue digits
  let seconds : Int := if digits.length ≤ 2 then 3600 * value + 60 * minutes
    else 3600 * (value / 100 : Nat) + 60 * (value % 100 : Nat)
  if sign = '-' then -seconds else seconds

/-- What is told behind a time of day: which half of the day, or a zone. -/
def behindTime? (told : Told) (hour minute : Nat) (nanoseconds : Int) :
    List Token → Option (Told × List Token)
  | .word word :: rest =>
    if word = ['a', 'm'] || word = ['p', 'm'] then do
      return (← told.withTime? (← hourAfter? hour word) minute nanoseconds, rest)
    else do return (← told.withTime? hour minute nanoseconds, .word word :: rest)
  | .number (some sign) digits [] :: .mark ':' :: .number none minutes [] :: rest => do
    let told ← told.withTime? hour minute nanoseconds
    return ({ told with zone := some (zoneOf sign digits (digitsValue minutes)) }, rest)
  | .number (some sign) digits [] :: .word word :: rest => do
    let told ← told.withTime? hour minute nanoseconds
    -- a number before a unit is a distance
    if (shiftOf? word 1).isSome then return (told, .number (some sign) digits [] :: .word word :: rest)
    return ({ told with zone := some (zoneOf sign digits 0) }, .word word :: rest)
  | .number (some sign) digits [] :: rest => do
    let told ← told.withTime? hour minute nanoseconds
    return ({ told with zone := some (zoneOf sign digits 0) }, rest)
  | rest => do return (← told.withTime? hour minute nanoseconds, rest)

/-- What a number tells that stands for itself. -/
def pureNumber? (told : Told) (digits : Octets) : Option Told :=
  let value := digitsValue digits
  match told.date with
  | some (none, month, day) =>
    if told.shift.isNone && (told.time.isSome || digits.length > 2) then
      some { told with date := some (some (yearOf digits), month, day) }
    else none
  | _ =>
    if digits.length > 4 then
      told.withDate? (some (yearOf (digits.take (digits.length - 4)))) (value / 100 % 100) (value % 100)
    else if digits.length ≤ 2 then told.withTime? value 0 0
    else told.withTime? (value / 100) (value % 100) 0

/-- What the first tokens tell, and those behind them. -/
def item? (told : Told) : List Token → Option (Told × List Token)
  | .number none hour [] :: .mark ':' :: .number none minute [] :: .mark ':' ::
      .number none seconds fraction :: rest =>
    behindTime? told (digitsValue hour) (digitsValue minute)
      (digitsValue seconds * second + nanosecondsOf fraction) rest
  | .number none hour [] :: .mark ':' :: .number none minute [] :: rest =>
    behindTime? told (digitsValue hour) (digitsValue minute) 0 rest
  | .number none year [] :: .number (some '-') month [] :: .number (some '-') day [] :: rest => do
    return (← told.withDate? (some (yearOf year)) (digitsValue month) (digitsValue day), rest)
  | .number none one [] :: .mark '/' :: .number none two [] :: .mark '/' :: .number none three [] ::
      rest => do
    if one.length ≥ 4 then
      return (← told.withDate? (some (yearOf one)) (digitsValue two) (digitsValue three), rest)
    return (← told.withDate? (some (yearOf three)) (digitsValue one) (digitsValue two), rest)
  | .number none month [] :: .mark '/' :: .number none day [] :: rest => do
    return (← told.withDate? none (digitsValue month) (digitsValue day), rest)
  | .number sign digits [] :: .word word :: rest =>
    let count : Int := if sign = some '-' then -(digitsValue digits : Int) else digitsValue digits
    match shiftOf? word count, month? word, sign with
    | some shift, _, _ => some (told.plus shift, rest)
    | none, some month, none => do
      let told ← told.withDate? none month (digitsValue digits)
      match rest with
      | .number none year [] :: .mark ':' :: rest =>
        return (told, .number none year [] :: .mark ':' :: rest)
      | .number none year [] :: rest =>
        if year.length > 2 then
          return ({ told with date := told.date.map fun date => (some (yearOf year), date.2) }, rest)
        return (told, .number none year [] :: rest)
      | rest => return (told, rest)
    | _, _, _ =>
      if (word = ['a', 'm'] || word = ['p', 'm']) && sign.isNone then do
        return (← told.withTime? (← hourAfter? (digitsValue digits) word) 0 0, rest)
      else if sign.isNone then do return (← pureNumber? told digits, .word word :: rest)
      else none
  | .number none digits [] :: rest => do return (← pureNumber? told digits, rest)
  | .word word :: rest =>
    match dayShift? word, month? word, weekday? word with
    | some days, _, _ => some (told.plus ⟨0, days, 0⟩, rest)
    | _, some month, _ =>
      match rest with
      | .number none day [] :: .mark ',' :: .number none year [] :: rest => do
        return (← told.withDate? (some (yearOf year)) month (digitsValue day), rest)
      | .number none day [] :: rest => do return (← told.withDate? none month (digitsValue day), rest)
      | _ => none
    | _, _, some day =>
      if told.weekday.isSome then none
      else
        let rest := match rest with
          | .mark ',' :: rest => rest
          | rest => rest
        some ({ told with weekday := some (0, day) }, rest)
    | _, _, _ =>
      if word = "ago".toList then if told.shift.isSome then some (told.ago, rest) else none
      else if ["utc", "gmt", "z", "ut"].any fun zone => zone.toList = word then
        if told.zone.isSome then none else some ({ told with zone := some 0 }, rest)
      else if word = ['t'] then
        if told.date.isSome && told.time.isNone then some (told, rest) else none
      else match ordinal? word, rest with
        | some count, .word unit :: rest =>
          match shiftOf? unit count, weekday? unit with
          | some shift, _ => some (told.plus shift, rest)
          | none, some day =>
            if told.weekday.isSome then none else some ({ told with weekday := some (count, day) }, rest)
          | _, _ => none
        | _, _ => (shiftOf? word 1).map fun shift => (told.plus shift, rest)
  | _ => none

/-- What tokens tell, of which at most so many parts are read. -/
def items? : (bound : Nat) → Told → List Token → Option Told
  | _, told, [] => some told
  | 0, _, _ => none
  | bound + 1, told, tokens => do
    let (told, rest) ← item? told tokens
    items? bound told rest

/-- A day a number of months later. -/
def addMonths (year : Int) (month : Nat) (months : Int) : Int × Nat :=
  let count := 12 * year + (month - 1 : Nat) + months
  (count / 12, (count % 12).toNat + 1)

/-- The time that is told, at a moment from which distances are measured. -/
def Told.time? (told : Told) (now : Moment) : Option Time :=
  let shift := told.shift.getD ⟨0, 0, 0⟩
  let (year, month, day) := match told.date with
    | some (year, month, day) => (year.getD now.year, month, day)
    | none => (now.year, now.month, now.day)
  if month = 0 || month > 12 || day = 0 || day > monthLength year month then none
  else
    let isDay := told.date.isSome || told.weekday.isSome
    let time : Int := match told.time with
      | some time => time
      | none =>
        if isDay || told.shift.isNone then 0 else now.seconds * second + now.nanoseconds
    let (year, month) := addMonths year month shift.months
    let days := daysUntil year month 1 + (day - 1 : Nat) + shift.days
    let days := match told.weekday with
      | some (count, weekday) =>
        if told.date.isSome then days
        else
          let today := (days + 4) % 7
          let ahead := ((weekday : Int) - today) % 7
          let weeks := if count > 0 && ahead ≠ 0 then count - 1 else count
          days + ahead + 7 * weeks
      | none => days
    some ((days * secondsPerDay - told.zone.getD 0) * second + time + shift.nanoseconds)

/-- **The time that a text tells**, if it tells one. -/
def read? (now : Time) (text : Octets) : Option Time :=
  match tokensWithin (text.length + 1) text with
  | [.mark '@', .number sign digits fraction] =>
    let value : Int := digitsValue digits * second + nanosecondsOf fraction
    some (if sign = some '-' then -value else value)
  | tokens =>
    (items? (tokens.length + 1) ⟨none, none, none, none, none⟩ tokens).bind
      fun told => told.time? (Moment.ofTime now)

/-- **The time that digits tell**: month, day, hour and minute, behind the year if that is told, and before
the seconds if those are. -/
def readStamp? (now : Time) (text : Octets) : Option Time :=
  let digits := text.takeWhile Char.isDigit
  let seconds? : Option Nat := match text.drop digits.length with
    | [] => some 0
    | ['.', a, b] => natOf? [a, b]
    | _ => none
  let year? : Option Int := match digits.length with
    | 8 => some (Moment.ofTime now).year
    | 10 => some (yearOf (digits.take 2))
    | 12 => some (digitsValue (digits.take 4))
    | _ => none
  match seconds?, year? with
  | some seconds, some year =>
    let rest := digits.drop (digits.length - 8)
    let part (index : Nat) : Nat := digitsValue ((rest.drop (2 * index)).take 2)
    let (month, day, hour, minute) := (part 0, part 1, part 2, part 3)
    if month = 0 || month > 12 || day = 0 || day > monthLength year month || hour > 23 || minute > 59 ||
        seconds > 60 then none
    else some ((daysUntil year month day * secondsPerDay + 3600 * hour + 60 * minute + seconds) * second)
  | _, _ => none

end Calendar

end Shell

end ComponentScaffold
