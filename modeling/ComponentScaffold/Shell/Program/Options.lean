import ComponentScaffold.Shell.Octets

/-! # Options of programs

Programs take options of one letter, which can be written together behind a minus sign, and long ones behind
two, which can be shortened as long as they are told apart. Options can stand among the operands; what
follows two minus signs is no option.

* **`Shell.OptionForm`** — an option that a program knows.
* **`Shell.Chosen`** — the options and operands that were found in arguments.
* **`Shell.choose`** — finds them. -/

namespace ComponentScaffold

namespace Shell

/-! ## Quoted names

Programs show names in their complaints such that a shell would read them back. A name is put in single
quotes; bytes that cannot be printed are written as escapes, in quotes of their own.

* **`Shell.quotedAlways`**, **`Shell.quotedIfNeeded`** — a name as it is shown. -/

/-- Whether a byte can be printed. -/
def isPrintable (c : Char) : Bool := ' ' ≤ c && c ≤ '~'

/-- Whether a byte means something to a shell wherever it stands. -/
def isActive (c : Char) : Bool := " !\"$&'()*;<=>?[\\^\x60|".toList.contains c

/-- Whether a name has to be quoted where nothing but a colon is allowed besides it. -/
def needsQuotes (name : Octets) : Bool :=
  name.isEmpty || name.any (fun c => isActive c || c == ':' || !isPrintable c) ||
  name.head?.any (fun c => c == '#' || c == '~') || name = ['\x7b'] || name = ['\x7d']

/-- The letters of the escapes that have one. -/
def escapeLetter? (c : Char) : Option Char :=
  [('\x07', 'a'), ('\x08', 'b'), ('\t', 't'), ('\n', 'n'), ('\x0b', 'v'), ('\x0c', 'f'),
    ('\x0d', 'r')].lookup c

/-- The escape of a byte that cannot be printed. -/
def escapeOf (c : Char) : Octets :=
  match escapeLetter? c with
  | some letter => ['\\', letter]
  | none =>
    let digits := Nat.toDigits 8 c.toNat
    '\\' :: List.replicate (3 - digits.length) '0' ++ digits

/-- What stands in single quotes, before the last of them; `escaping` says whether escapes come before. -/
def quotedBody : (escaping : Bool) → Octets → Octets
  | _, [] => []
  | escaping, c :: rest =>
    if !isPrintable c then
      (if escaping then [] else ['\x27', '$', '\x27']) ++ escapeOf c ++ quotedBody true rest
    else
      (if escaping then ['\x27', '\x27'] else []) ++
        (if c = '\x27' then ['\x27', '\\', '\x27', '\x27'] else [c]) ++ quotedBody false rest

/-- Whether a name can stand in double quotes. -/
def fitsDoubleQuotes (name : Octets) : Bool :=
  name.contains '\x27' && name.all fun c => c.isAlphanum || " %+,-./:]_\x27".toList.contains c

/-- **A name in quotes.** -/
def quotedAlways (name : Octets) : Octets :=
  if fitsDoubleQuotes name then '"' :: name ++ ['"']
  else '\x27' :: quotedBody false name ++ ['\x27']

/-- **A name, in quotes if it needs them.** -/
def quotedIfNeeded (name : Octets) : Octets := if needsQuotes name then quotedAlways name else name

/-- A text in plain quotes, with escapes for what cannot stand there. -/
def quotedPlainly (text : Octets) : Octets :=
  '\x27' :: text.flatMap (fun c =>
    if c = '\x27' || c = '\\' then ['\\', c] else if isPrintable c then [c] else escapeOf c) ++
    ['\x27']

/-! ## Options -/

/-- Whether an option has a value. -/
inductive ValueNeed
  /-- It has none. -/
  | none
  /-- It has one. -/
  | required
  /-- It may have one, which is written right behind it. -/
  | optional
deriving DecidableEq, Repr

/-- **An option that a program knows.** -/
structure OptionForm where
  /-- The letter by which it is known. -/
  key : Char
  /-- Whether the letter can be written. -/
  isShort : Bool
  /-- Its long names. -/
  longs : List String
  /-- Whether it has a value. -/
  need : ValueNeed

/-- An option of a letter without a long name. -/
def OptionForm.short (key : Char) (need : ValueNeed) : OptionForm := ⟨key, true, [], need⟩

/-- **The options and operands of arguments.** -/
structure Chosen where
  /-- The options in order, by their letters, each with its value. -/
  options : List (Char × Octets)
  /-- The operands in order. -/
  operands : List Octets

namespace Chosen

/-- Whether an option was chosen. -/
def has (chosen : Chosen) (key : Char) : Bool := chosen.options.any fun option => option.1 = key

/-- The last value of an option. -/
def value? (chosen : Chosen) (key : Char) : Option Octets :=
  ((chosen.options.filter fun option => option.1 = key).getLast?).map Prod.snd

/-- The last one of some options that was chosen. -/
def last? (chosen : Chosen) (keys : List Char) : Option Char :=
  ((chosen.options.filter fun option => keys.contains option.1).getLast?).map Prod.fst

end Chosen

/-- Why no options can be found in arguments. -/
inductive OptionFault
  /-- A letter is no option. -/
  | unknownLetter (letter : Char)
  /-- A letter lacks its value. -/
  | letterWithoutValue (letter : Char)
  /-- A long name is no option. -/
  | unknownName (name : Octets)
  /-- A long name lacks its value. -/
  | nameWithoutValue (name : String)
  /-- A long name has a value that it does not take. -/
  | nameWithValue (name : String)
  /-- A long name can be more than one. -/
  | ambiguousName (name : Octets) (names : List String)

/-- The wording of an option fault. -/
def OptionFault.message : OptionFault → Octets
  | .unknownLetter letter => octets "invalid option -- '" ++ [letter, '\x27']
  | .letterWithoutValue letter => octets "option requires an argument -- '" ++ [letter, '\x27']
  | .unknownName name => octets "unrecognized option '--" ++ name ++ ['\x27']
  | .nameWithoutValue name => octets s!"option '--{name}' requires an argument"
  | .nameWithValue name => octets s!"option '--{name}' doesn't allow an argument"
  | .ambiguousName name names =>
    octets "option '--" ++ name ++ octets "' is ambiguous; possibilities:" ++
      names.flatMap fun name => octets s!" '--{name}'"

/-- The long option that a name means. -/
def longOption (forms : List OptionForm) (name : Octets) :
    Except OptionFault (OptionForm × String) :=
  let all := forms.flatMap fun form => form.longs.map fun long => (form, long)
  match all.find? fun entry => octets entry.2 = name with
  | some found => .ok found
  | none =>
    match all.filter fun entry => name.isPrefixOf (octets entry.2) with
    | [] => .error (.unknownName name)
    | found :: others =>
      if others.all fun other => other.1.key = found.1.key then .ok found
      else .error (.ambiguousName name ((found :: others).map Prod.snd))

/-- The options and operands of arguments, after `started`, the rest of an argument with letters. Where
`leading` is set the first operand ends the options. -/
def chooseWithin (forms : List OptionForm) (leading : Bool) : (bound : Nat) → (started : Octets) →
    List Octets → Except OptionFault Chosen
  | 0, _, rest => .ok ⟨[], rest⟩
  | bound + 1, letter :: more, rest =>
    match forms.find? fun form => form.isShort && form.key = letter with
    | none => .error (.unknownLetter letter)
    | some form =>
      let onward (value more : Octets) (rest : List Octets) : Except OptionFault Chosen :=
        (chooseWithin forms leading bound more rest).map fun chosen =>
          { chosen with options := (letter, value) :: chosen.options }
      match form.need, more, rest with
      | .none, _, _ => onward [] more rest
      | .optional, _, _ => onward more [] rest
      | .required, [], [] => .error (.letterWithoutValue letter)
      | .required, [], value :: rest => onward value [] rest
      | .required, value, rest => onward value [] rest
  | _ + 1, [], [] => .ok ⟨[], []⟩
  | bound + 1, [], argument :: rest =>
    match argument with
    | ['-', '-'] => .ok ⟨[], rest⟩
    | '-' :: '-' :: text => do
      let name := text.takeWhile (· ≠ '=')
      let (form, long) ← longOption forms name
      let onward (value : Octets) (rest : List Octets) : Except OptionFault Chosen :=
        (chooseWithin forms leading bound [] rest).map fun chosen =>
          { chosen with options := (form.key, value) :: chosen.options }
      if text.contains '=' then
        if form.need = .none then .error (.nameWithValue long)
        else onward (text.drop (name.length + 1)) rest
      else match form.need, rest with
        | .required, [] => .error (.nameWithoutValue long)
        | .required, value :: rest => onward value rest
        | _, rest => onward [] rest
    | '-' :: letter :: more => chooseWithin forms leading bound (letter :: more) rest
    | _ =>
      if leading then .ok ⟨[], argument :: rest⟩
      else (chooseWithin forms leading bound [] rest).map fun chosen =>
        { chosen with operands := argument :: chosen.operands }

/-- **Find the options and operands of arguments.** Where `leading` is set the first operand ends the
options. -/
def choose (forms : List OptionForm) (leading : Bool) (arguments : List Octets) :
    Except OptionFault Chosen :=
  chooseWithin forms leading (arguments.foldl (fun size argument => size + (argument.length + 1)) 0 + 1) []
    arguments

end Shell

end ComponentScaffold
