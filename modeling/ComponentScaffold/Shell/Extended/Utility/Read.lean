import ComponentScaffold.Shell.Extended.Utility.Reference
import ComponentScaffold.Shell.Utility.Variables

/-! # Reading values

Values are read from lines, which may end with any byte.

* **`Extended.read`** — takes the values of variables from a line.
* **`Extended.readRows`** — takes the entries of a variable from lines. -/

namespace ComponentScaffold

namespace Shell

namespace Extended

open Utility

/-! ## A line -/

/-- What is read up to the end of a line. -/
structure Line where
  /-- Its letters, quoted or not. -/
  letters : List Lettered
  /-- How many bytes were read. -/
  length : Nat
  /-- Whether it is ended. -/
  isEnded : Bool

/-- A line with a letter before it. -/
def Line.behind (line : Line) (letters : List Lettered) (length : Nat) : Line :=
  { line with letters := letters ++ line.letters, length := line.length + length }

/-- The line at the start of a text, which ends with a mark if there is one, or else with so many letters. Backslashes
quote letters and join lines unless `verbatim`. -/
def lineOf (verbatim : Bool) (mark : Option Char) : (most : Nat) → Octets → Line
  | 0, _ => ⟨[], 0, true⟩
  | _ + 1, [] => ⟨[], 0, false⟩
  | most + 1, c :: rest =>
    if some c = mark then ⟨[], 1, true⟩
    else if c = '\x00' then (lineOf verbatim mark (most + 1) rest).behind [] 1
    else if c = '\\' && !verbatim then
      match rest with
      | [] => ⟨[], 1, false⟩
      | next :: rest =>
        if next = '\n' then (lineOf verbatim mark (most + 1) rest).behind [] 2
        else (lineOf verbatim mark most rest).behind [(next, true)] 2
    else (lineOf verbatim mark most rest).behind [(c, false)] 1

/-- The descriptor that an option asks to read from. -/
def readDescriptor (value? : Option Octets) : Exec Nat := do
  match value? with
  | none => return inputDescriptor
  | some value =>
    match natOf? value with
    | none => fail (value ++ octets ": invalid file descriptor specification")
    | some descriptor =>
      if ((← context).descriptors.lookup descriptor).isNone then
        fail (value ++ octets s!": invalid file descriptor: {OsFault.badDescriptor.description}")
      return descriptor

/-- The line at which a descriptor stands, which is then passed over. -/
def takeLine (descriptor : Nat) (verbatim : Bool) (mark : Option Char) (most : Nat) : Exec Line := do
  let count (bytes : ByteArray) : Nat := (lineOf verbatim mark most (octetsOf bytes)).length
  match ← readSome descriptor count with
  | .ok bytes => return lineOf verbatim mark most (octetsOf bytes)
  | .error fault =>
    fail (octets s!"read error: {descriptor}: {fault.description}")

/-- The numbers of letters that options ask for. -/
def lettersAsked (options : Options) (letter : Char) : Exec (Option Nat) := do
  match (options.filter fun option => option.1 = letter).getLast? with
  | none => return none
  | some (_, value) =>
    match natOf? value with
    | some n => return some n
    | none => fail (value ++ octets ": invalid number")

/-- Whether a text writes a number of seconds. -/
def isDuration (text : Octets) : Bool :=
  let whole := text.takeWhile Char.isDigit
  match text.drop whole.length with
  | [] => !whole.isEmpty
  | '.' :: places => places.all Char.isDigit
  | _ => false

/-- Give variables the values of a line. -/
def putLine (names : List Octets) (letters : List Lettered) : Exec Unit := do
  let values := cutFields (separators (← context)) names.length [] false letters
  (names.zipIdx).forM fun (name, i) => do
    requireReference name 1
    putNamed name ((values[i]?).getD [])

/-- The variable for a line that is not cut. -/
def replyName : Octets := octets "REPLY"

/-- **Take the values of variables from a line.** -/
def read : Utility := fun _ arguments => do
  let (options, names) ← options "ersE" "adinNptu" arguments
  let value? (letter : Char) : Option Octets :=
    ((options.filter fun option => option.1 = letter).getLast?).map Prod.snd
  let verbatim := options.any fun option => option.1 = 'r'
  let most ← lettersAsked options 'n'
  let exactly ← lettersAsked options 'N'
  let duration := value? 't'
  if let some duration := duration then
    if !isDuration duration then fail (duration ++ octets ": invalid timeout specification")
  let descriptor ← readDescriptor (value? 'u')
  if let name :: _ := names then requireReference name 1
  if duration = some ['0'] then
    return if (← channelOf? descriptor).isSome then 0 else 1
  if exactly = some 0 || (exactly.isNone && most = some 0) then return 0
  let mark := if exactly.isSome then none else some (((value? 'd').getD ['\n']).headD '\x00')
  let limit := (exactly.orElse fun _ => most).getD (maxEndless + 1)
  let line ← takeLine descriptor verbatim mark limit
  let text := line.letters.map Prod.fst
  match value? 'a', names with
  | some name, _ =>
    requireReference name 1
    let values := cutFields (separators (← context)) (text.length + 1) [] false line.letters
    putRow name (values.zipIdx.map fun (value, i) => (i, value))
  | none, [] => putNamed replyName text
  | none, name :: others =>
    if exactly.isSome then
      putNamed name text
      others.forM fun other => putNamed other []
    else putLine names line.letters
  return if line.isEnded then 0 else 1

/-! ## Many lines -/

/-- The lines of a text, which end with a mark, each with its mark unless those are dropped: at most so many of them,
with the number of bytes they have. -/
def rowsOf (mark : Char) (drops : Bool) : (most : Nat) → Octets → List Octets × Nat
  | 0, _ => ([], 0)
  | _ + 1, [] => ([], 0)
  | most + 1, c :: rest =>
    let text := c :: rest
    let row := text.takeWhile (· ≠ mark)
    let behind := text.drop row.length
    let ends := behind.take 1
    let (rows, length) := rowsOf mark drops most behind.tail
    ((if drops then row else row ++ ends) :: rows, row.length + ends.length + length)

/-- A number that an option asks for. -/
def numberAsked (options : Options) (letter : Char) (what : String) (usual : Nat) : Exec Nat := do
  match (options.filter fun option => option.1 = letter).getLast? with
  | none => return usual
  | some (_, value) =>
    match natOf? value with
    | some n => return n
    | none => fail (value ++ octets s!": invalid {what}")

/-- What is done when so many lines have been read. -/
structure Callback where
  /-- The command. -/
  command : Octets
  /-- How many lines are read between two times. -/
  every : Nat

/-- Put lines into a variable, from an index on. -/
def putRows (engine : Engine) (name : Octets) (callback : Option Callback) : (count : Nat) → (index : Nat) →
    List Octets → Exec Unit
  | _, _, [] => return ()
  | count, index, row :: rest => do
    if let some callback := callback then
      if callback.every ≠ 0 && (count + 1) % callback.every = 0 then
        engine.text false (callback.command ++ ' ' :: natText index ++ ' ' :: Quoted.single row)
    putEntry name (natText index) row
    putRows engine name callback (count + 1) (index + 1) rest

/-- The variable for lines. -/
def rowsName : Octets := octets "MAPFILE"

/-- More lines than a file has. -/
def maxRows : Nat := maxEndless + 1

/-- The number of lines between two times at which something is done, if nothing is told. -/
def usualEvery : Nat := 5000

/-- **Take the entries of a variable from lines.** -/
def readRows : Utility := fun engine arguments => do
  let (options, names) ← options "t" "dnOsuCc" arguments
  let value? (letter : Char) : Option Octets :=
    ((options.filter fun option => option.1 = letter).getLast?).map Prod.snd
  let most ← numberAsked options 'n' "line count" 0
  let skipped ← numberAsked options 's' "line count" 0
  let origin ← numberAsked options 'O' "array origin" 0
  let every ← numberAsked options 'c' "callback quantum" usualEvery
  let descriptor ← readDescriptor (value? 'u')
  let name := names.headD rowsName
  if !isName name then fail (notIdentifier name)
  let drops := options.any fun option => option.1 = 't'
  let mark := ((value? 'd').getD ['\n']).headD '\x00'
  let limit := if most = 0 then maxRows else skipped + most
  let rows (bytes : ByteArray) : List Octets × Nat := rowsOf mark drops limit (octetsOf bytes)
  let found ← match ← readSome descriptor fun bytes => (rows bytes).2 with
    | .ok bytes => pure (rows bytes).1
    | .error _ => pure []
  if isTable (← context) name then fail (name ++ octets ": not an indexed array")
  if (value? 'O').isNone then putRow name []
  let callback := (value? 'C').map fun command => ⟨command, every⟩
  putRows engine name callback 0 origin (found.drop skipped)
  return 0

end Extended

end Shell

end ComponentScaffold
