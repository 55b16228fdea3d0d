import ComponentScaffold.Shell.Calendar.Basic
import ComponentScaffold.Shell.Extended.Quoted
import ComponentScaffold.Shell.Extended.Utility.Reference
import ComponentScaffold.Shell.Utility.Output

/-! # Utilities of the extended dialect that write

* **`Extended.echo`** — writes its arguments in a line.
* **`Extended.printf`** — writes its arguments by a format, or gives the text to a variable. -/

namespace ComponentScaffold

namespace Shell

namespace Extended

open Utility

/-- The options before what `echo` writes: whether the line is open, whether escapes are read, and the rest. -/
def lineOptions (isOpen escapes : Bool) : List Octets → Bool × Bool × List Octets
  | ('-' :: letters) :: rest =>
    if !letters.isEmpty && letters.all "neE".toList.contains then
      lineOptions (isOpen || letters.contains 'n')
        (letters.foldl (fun on c => if c = 'e' then true else if c = 'E' then false else on) escapes) rest
    else (isOpen, escapes, ('-' :: letters) :: rest)
  | arguments => (isOpen, escapes, arguments)

/-- What is written for arguments with escapes, and whether that goes on behind them. -/
def lineText : List Octets → Octets × Bool
  | [] => ([], true)
  | argument :: rest =>
    let (text, stop) := unescape .extendedLine 0 argument
    if stop.isSome || rest.isEmpty then (text, stop.isNone)
    else
      let (more, goesOn) := lineText rest
      (text ++ ' ' :: more, goesOn)

/-- **Write arguments in a line.** -/
def echo : Utility := fun _ arguments => do
  let (isOpen, escapes, words) := lineOptions false ((← context).switches.contains "xpg_echo") arguments
  let (text, goesOn) := if escapes then lineText words else (joinWith [' '] words, true)
  say (if isOpen || !goesOn then text else text ++ ['\n'])

/-- What is said about an argument that is no number. -/
def invalidNumber (text : Octets) : Octets :=
  let kind := match text with
    | '0' :: 'x' :: _ => "hex number"
    | '0' :: c :: _ => if c.isDigit then "octal number" else "number"
    | _ => "number"
  text ++ octets s!": invalid {kind}"

/-- A time as a text says: the present one unless so many seconds since the start of all times are told. -/
def timeText (now : Time) (manner : Octets) (seconds : Option Int) : Octets :=
  let manner := if manner.isEmpty then octets "%X" else manner
  let moment := match seconds with
    | some seconds => if seconds < 0 && -2 ≤ seconds then now else seconds * Calendar.second
    | none => now
  Calendar.format manner (Calendar.Moment.ofTime moment)

/-- How the arguments of formats are read. -/
def formatWording (now : Time) : Format.Wording where
  format := .extendedFormat
  argument := .extendedText
  notNumber := invalidNumber
  notWhole := invalidNumber
  outOfRange text := octets "warning: " ++ text ++ octets ": Numerical result out of range"
  unknownPlace text := '\x60' :: text.drop (text.length - 1) ++ octets "': invalid format character"
  unendedPlace text := '\x60' :: text.drop (text.length - 1) ++ octets "': missing format character"
  quote? := some Quoted.escaped
  sizes := "hlLjtz(".toList
  following? := none
  forgives := true
  wide := true
  time := timeText now

/-- **Write arguments by a format**, or give the text to a variable. -/
def printf : Utility := fun _ arguments => do
  let (options, operands) ← options "" "v" arguments
  let target? := (options.getLast?).map Prod.snd
  if let some target := target? then requireReference target usageStatus
  match operands with
  | [] => failUsage
  | format :: arguments =>
    let work := Format.fill (formatWording (← files).now) format arguments
    work.complaints.forM warn
    let status ← match target? with
      | some target =>
        putNamed target work.text
        pure 0
      | none => say work.text
    return if work.isRefused || work.isWrong then 1 else status

end Extended

end Shell

end ComponentScaffold
