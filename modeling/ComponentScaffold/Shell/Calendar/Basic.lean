import ComponentScaffold.Files.Node
import ComponentScaffold.Shell.Octets

/-! # The calendar

Times are counted in nanoseconds from the start of 1970, and told as days and times of day.

* **`Calendar.daysUntil`**, **`Calendar.dateOf`** — a date as a number of days, and back.
* **`Calendar.Moment`** — a time as it is told.
* **`Calendar.format`** — a moment in a format. -/

namespace ComponentScaffold

namespace Shell

namespace Calendar

/-- The nanoseconds in a second. -/
def second : Int := 1000000000

/-- The seconds in a day. -/
def secondsPerDay : Int := 86400

/-- Whether a year has a day more than others. -/
def isLeap (year : Int) : Bool := year % 4 = 0 && (year % 100 ≠ 0 || year % 400 = 0)

/-- How many days a month of a year has. -/
def monthLength (year : Int) (month : Nat) : Nat :=
  match month with
  | 2 => if isLeap year then 29 else 28
  | 4 | 6 | 9 | 11 => 30
  | _ => 31

/-- How many days lie before a year, counted from the year 1. -/
def daysBeforeYear (year : Int) : Int :=
  let before := year - 1
  365 * before + before / 4 - before / 100 + before / 400

/-- How many days of a year lie before a month. -/
def daysBeforeMonth (year : Int) (month : Nat) : Nat :=
  (List.range (month - 1)).foldl (fun days index => days + monthLength year (index + 1)) 0

/-- **The days from the start of 1970** until a date. -/
def daysUntil (year : Int) (month day : Nat) : Int :=
  daysBeforeYear year - daysBeforeYear 1970 + daysBeforeMonth year month + (day - 1 : Int)

/-- The month and the day in it of a day in a year, of months from a number on. -/
def monthAndDay (year : Int) : (months : Nat) → (month day : Nat) → Nat × Nat
  | 0, month, day => (month, day + 1)
  | months + 1, month, day =>
    if day < monthLength year month then (month, day + 1)
    else monthAndDay year months (month + 1) (day - monthLength year month)

/-- **The date** of a number of days from the start of 1970. -/
def dateOf (days : Int) : Int × Nat × Nat :=
  -- a guess at the year, which is right or one too low
  let guess := (400 * (days + 719162)) / 146097 + 1
  let later := guess + 1
  let year := if daysUntil later 1 1 ≤ days then later
    else if daysUntil guess 1 1 ≤ days then guess else guess - 1
  let inYear := (days - daysUntil year 1 1).toNat
  let (month, day) := monthAndDay year 11 1 inYear
  (year, month, day)

/-- **A time as it is told.** -/
structure Moment where
  /-- The year. -/
  year : Int
  /-- The month, from one. -/
  month : Nat
  /-- The day in the month, from one. -/
  day : Nat
  /-- The seconds of the day. -/
  seconds : Nat
  /-- The nanoseconds of the second. -/
  nanoseconds : Nat
  /-- The seconds from the start of 1970. -/
  count : Int

/-- The moment of a time. -/
def Moment.ofTime (time : Time) : Moment :=
  let count := time / second
  let (year, month, day) := dateOf (count / secondsPerDay)
  ⟨year, month, day, (count % secondsPerDay).toNat, (time % second).toNat, count⟩

namespace Moment

/-- The hour. -/
def hour (moment : Moment) : Nat := moment.seconds / 3600

/-- The minute. -/
def minute (moment : Moment) : Nat := moment.seconds / 60 % 60

/-- The hour on a clock with twelve hours. -/
def hourOfTwelve (moment : Moment) : Nat :=
  if moment.hour % 12 = 0 then 12 else moment.hour % 12

/-- The day of the week, zero for Sunday. -/
def weekday (moment : Moment) : Nat := ((moment.count / secondsPerDay + 4) % 7).toNat

/-- The day of the year, from zero. -/
def yearDay (moment : Moment) : Nat :=
  daysBeforeMonth moment.year moment.month + (moment.day - 1)

end Moment

/-! ## Names -/

/-- The names of the days of the week. -/
def weekdayNames : List String :=
  ["Sunday", "Monday", "Tuesday", "Wednesday", "Thursday", "Friday", "Saturday"]

/-- The names of the months. -/
def monthNames : List String :=
  ["January", "February", "March", "April", "May", "June", "July", "August", "September", "October",
    "November", "December"]

/-- The short form of a name. -/
def shortName (name : String) : Octets := name.toList.take 3

/-! ## Weeks -/

/-- The number of the week in a year that starts with the first day of a kind, the one of the week being
so many days after it. -/
def weekNumber (yearDay sinceStart : Nat) : Nat := (yearDay + 7 - sinceStart) / 7

/-- The year and the week in it of a moment where weeks start on Monday and belong to the year of most of
their days. -/
def weekOfYear (moment : Moment) : Int × Nat :=
  let sinceMonday := (moment.weekday + 6) % 7
  let length (year : Int) : Nat := if isLeap year then 366 else 365
  -- the Thursday of a week is in its year
  let thursday : Int := (moment.yearDay : Int) - sinceMonday + 3
  if thursday < 0 then
    let year := moment.year - 1
    (year, ((thursday + length year) / 7).toNat + 1)
  else if (length moment.year : Int) ≤ thursday then (moment.year + 1, 1)
  else (moment.year, (thursday / 7).toNat + 1)

/-! ## Formats -/

/-- How a part of a moment fills its width. -/
structure Filling where
  /-- What is written before the part, or nothing if there is nothing. -/
  pad : Option Char
  /-- How wide it is at least, if that is asked for. -/
  width : Option Nat
  /-- Whether its letters are capital ones. -/
  upper : Bool
  /-- Whether its letters change their kind. -/
  swapped : Bool

/-- A number in a width, filled with a character unless another filling is asked for. -/
def Filling.number (filling : Filling) (usual : Char) (width : Nat) (n : Int) : Octets :=
  let digits := natText n.natAbs
  let sign : Octets := if n < 0 then ['-'] else []
  match filling.pad with
  | some '-' => sign ++ digits
  | pad =>
    let pad := pad.getD usual
    let width := (filling.width.getD width) - sign.length
    if pad = ' ' then List.replicate (width - digits.length) ' ' ++ sign ++ digits
    else sign ++ List.replicate (width - digits.length) pad ++ digits

/-- A text in the width that is asked for. -/
def Filling.text (filling : Filling) (text : Octets) : Octets :=
  let text := if filling.upper then text.map Char.toUpper
    else if filling.swapped then
      (if text.all Char.isUpper then text.map Char.toLower else text.map Char.toUpper)
    else text
  let pad := match filling.pad with
    | some '0' => '0'
    | _ => ' '
  List.replicate (filling.width.getD 0 - text.length) pad ++ text

/-- The name of a number in a list. -/
def nameAt (names : List String) (index : Nat) : Octets := ((names[index]?).getD "").toList

/-- A part of a moment that one letter asks for. -/
def part? (moment : Moment) (filling : Filling) (letter : Char) : Option Octets :=
  let number (usual : Char) (width : Nat) (n : Int) : Option Octets :=
    some (filling.number usual width n)
  let text (text : Octets) : Option Octets := some (filling.text text)
  let two (n : Nat) : Octets := (if n < 10 then ['0'] else []) ++ natText n
  let clock := two moment.hour ++ ':' :: two moment.minute
  let fullClock := clock ++ ':' :: two (moment.seconds % 60)
  let noon := if moment.hour < 12 then "AM" else "PM"
  match letter with
  | 'a' => text (shortName (String.ofList (nameAt weekdayNames moment.weekday)))
  | 'A' => text (nameAt weekdayNames moment.weekday)
  | 'b' | 'h' => text (shortName (String.ofList (nameAt monthNames (moment.month - 1))))
  | 'B' => text (nameAt monthNames (moment.month - 1))
  | 'c' =>
    text (shortName (String.ofList (nameAt weekdayNames moment.weekday)) ++ ' ' ::
      shortName (String.ofList (nameAt monthNames (moment.month - 1))) ++ ' ' ::
      (if moment.day < 10 then [' '] else []) ++ natText moment.day ++ ' ' :: fullClock ++ ' ' ::
      intText moment.year)
  | 'C' => number '0' 2 (moment.year / 100)
  | 'd' => number '0' 2 moment.day
  | 'D' | 'x' => text (two moment.month ++ '/' :: two moment.day ++ '/' :: two (moment.year % 100).toNat)
  | 'e' => number ' ' 2 moment.day
  | 'F' => text (intText moment.year ++ '-' :: two moment.month ++ '-' :: two moment.day)
  | 'g' => number '0' 2 ((weekOfYear moment).1 % 100)
  | 'G' => number '0' 4 (weekOfYear moment).1
  | 'H' => number '0' 2 moment.hour
  | 'I' => number '0' 2 moment.hourOfTwelve
  | 'j' => number '0' 3 (moment.yearDay + 1)
  | 'k' => number ' ' 2 moment.hour
  | 'l' => number ' ' 2 moment.hourOfTwelve
  | 'm' => number '0' 2 moment.month
  | 'M' => number '0' 2 moment.minute
  | 'n' => some ['\n']
  | 'N' =>
    let digits := natText moment.nanoseconds
    let digits := List.replicate (9 - digits.length) '0' ++ digits
    some (digits.take (filling.width.getD 9))
  | 'p' => text noon.toList
  | 'P' => text (noon.toList.map Char.toLower)
  | 'q' => number '0' 1 ((moment.month + 2) / 3)
  | 'r' => text (two moment.hourOfTwelve ++ ':' :: two moment.minute ++ ':' ::
      two (moment.seconds % 60) ++ ' ' :: noon.toList)
  | 'R' => text clock
  | 's' => number '0' 1 moment.count
  | 'S' => number '0' 2 (moment.seconds % 60)
  | 't' => some ['\t']
  | 'T' | 'X' => text fullClock
  | 'u' => number '0' 1 (if moment.weekday = 0 then 7 else moment.weekday)
  | 'U' => number '0' 2 (weekNumber moment.yearDay moment.weekday)
  | 'V' => number '0' 2 (weekOfYear moment).2
  | 'w' => number '0' 1 moment.weekday
  | 'W' => number '0' 2 (weekNumber moment.yearDay ((moment.weekday + 6) % 7))
  | 'y' => number '0' 2 (moment.year % 100)
  | 'Y' => number '0' 4 moment.year
  | 'z' => text "+0000".toList
  | 'Z' => text "UTC".toList
  | '%' => some ['%']
  | _ => none

/-- The flags of a part, its width and its letter, and the text behind them. -/
def fillingOf : Filling → Octets → Filling × Octets
  | filling, [] => (filling, [])
  | filling, c :: rest =>
    if c = '-' || c = '_' || c = '0' then
      fillingOf { filling with pad := some (if c = '_' then ' ' else c) } rest
    else if c = '^' then fillingOf { filling with upper := true } rest
    else if c = '#' then fillingOf { filling with swapped := true } rest
    else (filling, c :: rest)

/-- **A moment in a format**, of which at most so many characters are read. -/
def formatWithin (moment : Moment) : (bound : Nat) → Octets → Octets
  | 0, rest => rest
  | _ + 1, [] => []
  | bound + 1, '%' :: rest =>
    let (filling, behind) := fillingOf ⟨none, none, false, false⟩ rest
    let digits := behind.takeWhile Char.isDigit
    let filling := if digits.isEmpty then filling else { filling with width := some (digitsValue digits) }
    let behind := behind.drop digits.length
    let behind := match behind with
      | 'E' :: c :: more => c :: more
      | 'O' :: c :: more => c :: more
      | more => more
    match behind with
    | [] => ['%'] ++ rest
    | letter :: more =>
      let colons := behind.takeWhile (· = ':')
      if !colons.isEmpty && (behind.drop colons.length).head? = some 'z' then
        let zone := if colons.length = 1 then "+00:00"
          else if colons.length = 2 then "+00:00:00" else "+00"
        zone.toList ++ formatWithin moment bound (behind.drop (colons.length + 1))
      else match part? moment filling letter with
        | some text => text ++ formatWithin moment bound more
        | none => '%' :: (rest.take (rest.length - more.length)) ++ formatWithin moment bound more
  | bound + 1, c :: rest => c :: formatWithin moment bound rest

/-- **A moment in a format.** -/
def format (text : Octets) (moment : Moment) : Octets := formatWithin moment (text.length + 1) text

end Calendar

end Shell

end ComponentScaffold
