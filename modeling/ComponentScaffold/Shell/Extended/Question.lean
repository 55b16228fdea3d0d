import ComponentScaffold.Shell.Condition
import ComponentScaffold.Shell.Extended.Assign
import ComponentScaffold.Shell.Regex.Reading
import ComponentScaffold.Shell.Trace

/-! # Questions between double brackets

Words are compared with patterns and regular expressions, numbers by the values of expressions, and files as `test`
does it.

* **`Shell.askQuestion`** — the answer to a question. -/

namespace ComponentScaffold

namespace Shell

/-- The regular expression of letters, in which quoted ones stand for themselves. -/
def regexText (letters : List Lettered) : Octets :=
  letters.flatMap fun (c, quoted) =>
    if quoted && "\\.[]()*+?^$|\x7b\x7d".toList.contains c then ['\\', c] else [c]

/-- The variable that holds what fitted a regular expression. -/
def fittedName : Octets := octets "BASH_REMATCH"

/-- Take note of the parts of a text that fitted. -/
def noteFitted (parts : List Octets) : Exec Unit :=
  let entries := Entries.ofList parts
  changeContext fun c =>
    c.withVariable fittedName (some { Variable.empty with value := entries.main?, entries := some entries })

/-- Whether a part of a text fits a regular expression; the parts are noted. -/
def askRegex (text : Octets) (letters : List Lettered) : Exec Bool := do
  match Regex.ofText true (regexText letters) with
  | .error _ =>
    setStatus 2
    throw .failure
  | .ok regex =>
    match regex.find? ((← context).switches.contains "nocasematch") (Regex.Point.ofText text) with
    | none =>
      noteFitted []
      return false
    | some (start, reached) =>
      let whole := (text.drop start.offset).take (reached.offset - start.offset)
      let parts := (List.range regex.groupCount).map fun i => (reached.groups.lookup (i + 1)).getD []
      noteFitted (whole :: parts)
      return true

/-- How `test` and the double brackets compare files. -/
def extendedAsking : Condition.Asking := ⟨true, fun _ => true⟩

/-- The answer to a question about an operand. -/
def askAbout (operator : String) (operand : Octets) : Exec Bool := do
  let context ← context
  match operator with
  | "-v" =>
    match cutReference operand with
    | (name, none) => return (variableValue? context name).isSome
    | (name, some key) =>
      if key = ['@'] || key = ['*'] then return !(listedOf context name).isEmpty
      let key ← settleKey name key
      return (entryValue? (← Shell.context) name key).isSome
  | "-o" =>
    return (optionNames.any fun entry => octets entry.2 = operand && context.has entry.1) ||
      (operand = octets "pipefail" && context.switches.contains "pipefail")
  | "-a" => return Condition.askOne (← files) "-e" operand
  | "-R" => return false
  | "-N" => return false
  | operator => return Condition.askOne (← files) operator operand

/-- An operand as it is shown. -/
def tracedOperand (text : Octets) : Octets := if text.isEmpty then ['\x27', '\x27'] else text

/-- Letters as they are shown, quoted ones behind a backslash. -/
def escapedLetters (letters : List Lettered) : Octets :=
  if letters.isEmpty then ['\x27', '\x27'] else letters.flatMap fun (c, quoted) => if quoted then ['\\', c] else [c]

/-- Show a question before it is answered, if that is asked for. -/
def traceQuestion (words : List Octets) : Exec Unit :=
  traceHere (joinWith [' '] (octets "[[" :: words ++ [octets "]]"]))

/-- The answer to a question about two words. -/
def askBoth (engine : Engine) (operator : String) (first second : Word) : Exec Bool := do
  let text ← expandText engine first
  let letters := atomsLetters (← wordAtoms engine wordLevels ⟨false, false, false⟩ second)
  let other := letters.map Prod.fst
  let isPattern := ["=", "==", "!=", "=~"].contains operator
  traceQuestion [tracedOperand text, octets operator, if isPattern then escapedLetters letters else tracedOperand other]
  match operator with
  | "=" | "==" | "!=" =>
    return fits (patternIn ⟨['!', '^'], true⟩ letters) text != (operator == "!=")
  | "=~" => askRegex text letters
  | "<" => return decide (text < other)
  | ">" => return decide (other < text)
  | "-nt" | "-ot" | "-ef" =>
    match Condition.askTwo (← files) extendedAsking operator text other with
    | .ok answer => return answer
    | .error _ => return false
  | operator =>
    let a ← evaluateExtended "[[: " text
    let b ← evaluateExtended "[[: " other
    return Condition.compare operator a b

/-- **The answer to a question.** -/
def askQuestion (engine : Engine) : Question → Exec Bool
  | .word word => do
    let text ← expandText engine word
    traceQuestion [octets "-n", tracedOperand text]
    return !text.isEmpty
  | .one operator operand => do
    let operand ← expandText engine operand
    traceQuestion [octets operator, tracedOperand operand]
    match operator with
    | "-n" => return !operand.isEmpty
    | "-z" => return operand.isEmpty
    | operator => askAbout operator operand
  | .two operator first second => askBoth engine operator first second
  | .negation question => return !(← askQuestion engine question)
  | .both first second => do
    if ← askQuestion engine first then askQuestion engine second else return false
  | .either first second => do
    if ← askQuestion engine first then return true else askQuestion engine second

end Shell

end ComponentScaffold
