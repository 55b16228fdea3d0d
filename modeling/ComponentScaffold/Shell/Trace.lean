import ComponentScaffold.Shell.Atom
import ComponentScaffold.Shell.Extended.Quoted

/-! # Commands that are shown

Commands can be shown before they run, each in a line of its own behind a mark.

* **`Shell.traceLines`** — shows lines, if that is asked for.
* **`Shell.Word.shown`** — a word as it stands in a script, as far as that can be told. -/

namespace ComponentScaffold

namespace Shell

/-- The text of a piece, as far as it can be told. -/
def Piece.shown : Piece → Octets
  | .char c _ => [c]
  | .parameter named _ => '$' :: named.label
  | .formed _ _ text _ => text
  | _ => []

/-- Whether a piece is quoted. -/
def Piece.isQuoted : Piece → Bool
  | .char _ quoted | .parameter _ quoted | .formed _ _ _ quoted | .command _ quoted | .arithmetic _ quoted => quoted
  | .quotes => true
  | _ => false

/-- **A word as it stands in a script**, as far as that can be told. -/
def Word.shown (word : Word) : Octets :=
  let text := word.flatMap Piece.shown
  if word.any Piece.isQuoted then '"' :: text ++ ['"'] else text

/-- A word as it is shown before a command runs. -/
def tracedWord (context : Context) (word : Octets) : Octets :=
  if !context.isExtended then word
  else if word.isEmpty || word.any fun c => Quoted.isHidden c || Quoted.special.contains c then Quoted.single word
  else word

/-- An assignment as it is shown before a command runs. -/
def tracedAssignment (context : Context) (text : Octets) : Octets :=
  let name := text.takeWhile (· ≠ '=')
  let value := text.drop (name.length + 1)
  if value.isEmpty || value.head? = some '(' then text else name ++ '=' :: tracedWord context value

/-- **Show lines before a command runs**, if that is asked for. -/
def traceLines (errorChannel : Option Nat) (lines : List Octets) : Exec Unit := do
  if (← context).has 'x' then
    let context ← context
    let mark := (value? context (octets "PS4")).getD []
    -- the first character tells how deep the command stands
    let mark := if context.isExtended then List.replicate context.level (mark.headD '+') ++ mark else mark
    let text := lines.flatMap fun line => mark ++ line ++ ['\n']
    match errorChannel with
    | some channel => withDescriptor 2 channel (complain text)
    | none => return ()

/-- Show a line of the extended dialect on the standard error as it is. -/
def traceHere (line : Octets) : Exec Unit := do
  if (← context).isExtended then traceLines ((← context).descriptors.lookup errorDescriptor) [line]

end Shell

end ComponentScaffold
