import ComponentScaffold.Shell.Expand
import ComponentScaffold.Shell.Utility.Basic

/-! # Utilities for variables

* **`Utility.mark`** — exports variables, or keeps them from being changed.
* **`Utility.makeLocal`** — makes variables local to a function.
* **`Utility.unset`** — takes variables and functions away.
* **`Utility.read`** — takes the values of variables from a line of the standard input. -/

namespace ComponentScaffold

namespace Shell

namespace Utility

/-- An argument that may assign a value to a name. -/
def nameAndValue (argument : Octets) : Octets × Option Octets :=
  let name := argument.takeWhile (· ≠ '=')
  (name, if argument.contains '=' then some (argument.drop (name.length + 1)) else none)

/-- Refuse a text that is no name of a variable. -/
def requireName (name : Octets) : Exec Unit :=
  if isName name then return () else fail (name ++ octets ": bad variable name")

/-- The variables for which a test holds, in order, each in a line after a text. -/
def listing (before : Octets) (isListed : Variable → Bool) (context : Context) : Octets :=
  let held := context.bindings.filter fun entry => isListed entry.2
  let sorted := held.mergeSort fun a b => isBefore a.1 b.1
  sorted.flatMap fun (name, held) =>
    before ++ name ++ (match held.value with
      | some value => '=' :: quoted value
      | none => []) ++ ['\n']

/-- What a variable can be marked as. -/
inductive Mark
  /-- Given to the programs that are started. -/
  | exported
  /-- Kept from being changed. -/
  | fixed
deriving DecidableEq, Repr

/-- The utility that marks variables. -/
def Mark.name : Mark → Octets
  | .exported => octets "export"
  | .fixed => octets "readonly"

/-- Whether a variable is marked. -/
def Mark.holds : Mark → Variable → Bool
  | .exported, held => held.exported
  | .fixed, held => held.fixed

/-- A variable with a mark. -/
def Mark.put : Mark → Variable → Variable
  | .exported, held => { held with exported := true }
  | .fixed, held => { held with fixed := true }

/-- Mark a variable, after it was given a value if there is one. -/
def markOne (mark : Mark) (argument : Octets) : Exec Unit := do
  let (name, value) := nameAndValue argument
  requireName name
  if let some value := value then assign name value false
  changeContext fun c =>
    c.withVariable name (some (mark.put ((variableOf? c name).getD .empty)))

/-- **Mark variables**, or list those that are marked. -/
def mark (mark : Mark) : Utility := fun _ arguments => do
  let (options, operands) ← options "p" "" arguments
  if options.isEmpty && !operands.isEmpty then
    operands.forM (markOne mark)
    return 0
  say (listing (mark.name ++ [' ']) mark.holds (← context))

/-- Make a variable local to the function that runs, if it is not so already. -/
def makeLocalOne (argument : Octets) : Exec Unit := do
  let (name, value) := nameAndValue argument
  requireName name
  changeContext fun c =>
    match c.locals with
    | innermost :: others =>
      if (innermost.lookup name).isSome then c
      else { c with locals := ((name, variableOf? c name) :: innermost) :: others }
    | [] => c
  if let some value := value then assign name value false

/-- **Make variables local to the function that runs.** -/
def makeLocal : Utility := fun _ arguments => do
  if (← context).locals.isEmpty then fail (octets "not in a function")
  (arguments.filter (· ≠ ['-'])).forM makeLocalOne
  return 0

/-- Take a variable away. -/
def unsetVariable (name : Octets) : Exec Unit := do
  requireName name
  if (variableOf? (← context) name).any Variable.fixed then fail (name ++ octets ": is read only")
  changeContext fun c => c.withVariable name none

/-- Take a function away, and say whether there was one. -/
def unsetFunction (name : Octets) : Exec Bool := do
  let isThere := ((← context).functions.lookup name).isSome
  changeContext fun c => { c with functions := c.functions.filter fun held => held.1 ≠ name }
  return isThere

/-- **Take variables or functions away.** -/
def unset : Utility := fun _ arguments => do
  let (options, operands) ← options "vf" "" arguments
  operands.forM fun name => do
    if (options.getLast?.map Prod.fst) = some 'f' then
      let _ ← unsetFunction name
    else unsetVariable name
  return 0

/-! ## Reading a line -/

/-- The number of bytes up to the end of a line. A line goes on behind a backslash, unless `verbatim`. -/
def lineLength (verbatim : Bool) : (escaped : Bool) → List UInt8 → Nat
  | _, [] => 0
  | escaped, byte :: rest =>
    if byte = 10 && !escaped then 1
    else lineLength verbatim (!verbatim && !escaped && byte == 92) rest + 1

/-- The letters of a line; those behind a backslash are quoted, unless `verbatim`. -/
def lineLetters (verbatim : Bool) : Octets → List Lettered
  | [] => []
  | '\\' :: c :: rest =>
    if verbatim then ('\\', false) :: lineLetters verbatim (c :: rest)
    else if c = '\n' then lineLetters verbatim rest
    else (c, true) :: lineLetters verbatim rest
  | '\\' :: [] => if verbatim then [('\\', false)] else []
  | c :: rest => (c, false) :: lineLetters verbatim rest

/-- The last field, which takes all letters that are left, after those gathered, last one first. What was
gathered since a separator is left out if nothing but blanks follows it; `behind` says whether a blank
stands before. -/
def lastField (separators : Octets) : (kept : Octets) → (loose : Option Octets) → (behind : Bool) →
    List Lettered → Octets
  | kept, _, _, [] => kept.reverse
  | kept, loose, behind, (c, quoted) :: rest =>
    let isSeparator := !quoted && separators.contains c
    let isBlank := isSeparator && (c == ' ' || c == '\t' || c == '\n')
    if isBlank then lastField separators kept (some (c :: loose.getD [])) behind rest
    else if isSeparator && behind then
      lastField separators kept (loose.map (c :: ·)) false rest
    else lastField separators (c :: loose.getD [] ++ kept) none false rest

/-- **The fields of a line**, at most a given number of them. -/
def cutFields (separators : Octets) : (most : Nat) → (field : Octets) → (behind : Bool) →
    List Lettered → List Octets
  | _, field, _, [] => if field.isEmpty then [] else [field.reverse]
  | most, field, behind, (c, quoted) :: rest =>
    let isSeparator := !quoted && separators.contains c
    let isBlank := isSeparator && (c == ' ' || c == '\t' || c == '\n')
    if !isSeparator then cutFields separators most (c :: field) false rest
    else if behind then cutFields separators most field isBlank rest
    else if isBlank && field.isEmpty then cutFields separators most field false rest
    else if most ≤ 1 then [lastField separators field (some [c]) isBlank rest]
    else field.reverse :: cutFields separators (most - 1) [] isBlank rest

/-- Give values to variables, the empty one where there are none left. -/
def assignAll : (names values : List Octets) → Exec Unit
  | [], _ => return ()
  | name :: names, values => do
    requireName name
    assign name (values.headD []) false
    assignAll names values.tail

/-- **Take the values of variables from a line** of the standard input. -/
def read : Utility := fun _ arguments => do
  let (options, names) ← options "r" "p" arguments
  let verbatim := options.any fun option => option.1 = 'r'
  if names.isEmpty then fail (octets "arg count")
  let line ← match ← readSome 0 (fun bytes => lineLength verbatim false bytes.toList) with
    | .ok bytes => pure (octetsOf bytes)
    | .error _ => pure []
  let letters := lineLetters verbatim (line.filter (· ≠ '\x00'))
  let isEnded := letters.getLast? = some ('\n', false)
  let letters := if isEnded then letters.dropLast else letters
  assignAll names (cutFields (separators (← context)) names.length [] false letters)
  return if isEnded then 0 else 1

end Utility

end Shell

end ComponentScaffold
