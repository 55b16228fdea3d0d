import ComponentScaffold.Shell.Condition
import ComponentScaffold.Shell.Format
import ComponentScaffold.Shell.Utility.Basic

/-! # Utilities that write or answer

* **`Utility.echo`**, **`Utility.printf`** — write their arguments.
* **`Utility.test`** — answers a question. -/

namespace ComponentScaffold

namespace Shell

namespace Utility

/-- Do nothing, with success. -/
def succeed : Utility := fun _ _ => return 0

/-- Do nothing, without success. -/
def refuse : Utility := fun _ _ => return 1

/-- What `echo` writes for its arguments before the end of the line, and whether that goes on behind
them. -/
def echoText : List Octets → Octets × Bool
  | [] => ([], true)
  | argument :: rest =>
    let (text, stop) := unescape .shellText 0 argument
    if stop.isSome || rest.isEmpty then (text, stop.isNone)
    else
      let (more, goesOn) := echoText rest
      (text ++ ' ' :: more, goesOn)

/-- **Write arguments**, with their escapes, in a line that is ended unless `-n` stands before them. -/
def echo : Utility := fun _ arguments => do
  let isOpen := arguments.head? = some ['-', 'n']
  let (text, goesOn) := echoText (if isOpen then arguments.tail else arguments)
  say (if isOpen || !goesOn then text else text ++ ['\n'])

/-- **Write arguments by a format.** -/
def printf : Utility := fun _ arguments => do
  match ← operands arguments with
  | [] => fail (octets "usage: printf format [arg ...]")
  | format :: arguments =>
    let work := Format.fill Format.shellWording format arguments
    work.complaints.forM warn
    let status ← say work.text
    let refused := (← context).failureStatus
    return if work.isRefused then refused else if work.isWrong then 1 else status

/-- **Answer a question.** -/
def test : Utility := fun _ words => do
  match Condition.holds (← files) (words.length + 1) words with
  | .ok answer => return if answer then 0 else 1
  | .error message => fail message

/-- Answer a question between brackets. -/
def bracket : Utility := fun engine words =>
  if words.getLast? = some [']'] then test engine words.dropLast
  else fail (octets "missing ]")

end Utility

end Shell

end ComponentScaffold
