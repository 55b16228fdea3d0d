import ComponentScaffold.Shell.Atom
import ComponentScaffold.Shell.Extended.Quoted

/-! # Forms of values

What is made of the values of parameters and of entries of variables where they stand between braces: a part of them,
other letters, others in the place of parts.

* **`Shell.Found`** — what a subject stands for.
* **`Shell.formAtoms`** — the atoms of what a form makes of a subject. -/

namespace ComponentScaffold

namespace Shell

/-! ## Parts of texts -/

/-- The length of the longest part at the start of a text that fits a pattern, if one does. -/
def longestAt? (pattern : List PatternPart) (text : Octets) : Option Nat :=
  (List.range (text.length + 1)).reverse.find? fun length => fits pattern (text.take length)

/-- A text where others stand for the parts that fit a pattern, for all of them or for the first one. -/
def replaceParts (pattern : List PatternPart) (other : Octets → Octets) (all : Bool) : (bound : Nat) → Octets → Octets
  | 0, text => text
  | _ + 1, [] => []
  | bound + 1, c :: rest =>
    let text := c :: rest
    match (longestAt? pattern text).filter (· ≠ 0) with
    | none => c :: replaceParts pattern other all bound rest
    | some length =>
      let behind := text.drop length
      other (text.take length) ++ if all then replaceParts pattern other all bound behind else behind

/-- **A text with something else** for what fits a pattern at some places. -/
def replaceFitting (place : ReplacePlace) (pattern : List PatternPart) (other : Octets → Octets) (text : Octets) :
    Octets :=
  match place with
  | .start =>
    match longestAt? pattern text with
    | some length => other (text.take length) ++ text.drop length
    | none => text
  | .finish =>
    match (List.range (text.length + 1)).find? fun start => fits pattern (text.drop start) with
    | some start => text.take start ++ other (text.drop start)
    | none => text
  | place =>
    if text.isEmpty then (if !pattern.isEmpty && fits pattern [] then other [] else [])
    else replaceParts pattern other (place = .all) (text.length + 1) text

/-- The text that a replacement writes for a part: an ampersand that is not quoted stands for it. -/
def replacementText (letters : List Lettered) (part : Octets) : Octets :=
  letters.flatMap fun (c, quoted) => if c = '&' && !quoted then part else [c]

/-- A letter as a capital or a small one. -/
def lettered (capital : Bool) (c : Char) : Char := if capital then c.toUpper else c.toLower

/-- A text with capital or small letters for those that fit a pattern. -/
def reletter (capital all : Bool) (fitting : Char → Bool) : Octets → Octets
  | [] => []
  | c :: rest =>
    (if fitting c then lettered capital c else c) :: if all then reletter capital all fitting rest else rest

/-! ## Subjects -/

/-- **What a subject stands for.** -/
inductive Found
  /-- A value, if there is one. -/
  | one (value : Option Octets)
  /-- Values with their keys, as one text between quotes if `joined`. -/
  | all (values : List (Octets × Octets)) (joined : Bool)

/-- The names of the variables that start with a text. -/
def namesFrom (context : Context) (start : Octets) : List Octets :=
  let names := (context.bindings.filter fun held => held.2.value.isSome || held.2.entries.isSome).map Prod.fst
  (names.filter start.isPrefixOf).mergeSort isBefore

/-- The parameter, the entry or the entries that a text names. -/
def namedSubject? (text : Octets) : Option Subject :=
  match natOf? text, text with
  | some index, _ => some (.parameter (.argument index))
  | none, ['@'] => some (.parameter (.arguments false))
  | none, ['*'] => some (.parameter (.arguments true))
  | none, text =>
    match cutReference text with
    | (name, none) => if isName name then some (.parameter (.variable name)) else none
    | (name, some key) =>
      if !isName name || text.getLast? ≠ some ']' then none
      else if key = ['@'] then some (.entries name false)
      else if key = ['*'] then some (.entries name true)
      else some (.entry name (Word.plain key))

/-- What a subject is called in a complaint. -/
def Subject.label : Subject → Octets
  | .parameter held => held.label
  | .entry name key => name ++ '[' :: (key.filterMap plainChar?) ++ [']']
  | .entries name joined => name ++ octets (if joined then "[*]" else "[@]")
  | .keys name _ => name
  | .names start _ => start
  | .named inner => inner.label

/-- What a subject stands for, where what its value names is found `behind` it. -/
def foundWith (inner : Inner) (behind : Subject → Exec Found) (subject : Subject) : Exec Found := do
  let context ← context
  match subject with
  | .parameter (.arguments joined) =>
    return .all (context.arguments.zipIdx.map fun (value, i) => (natText (i + 1), value)) joined
  | .parameter parameter => return .one (parameterValue? context parameter)
  | .entry name key =>
    let key ← settleKey name (atomsText (← inner ⟨false, false, false⟩ key))
    return .one (entryValue? (← Shell.context) name key)
  | .entries name joined => return .all (listedOf context name) joined
  | .keys name joined => return .all ((listedOf context name).map fun entry => (entry.1, entry.1)) joined
  | .names start joined => return .all ((namesFrom context start).map fun name => (name, name)) joined
  | .named subject => behind subject

/-- What a subject stands for. -/
def foundOf (inner : Inner) (subject : Subject) : Exec Found :=
  let unknown {α : Type} (subject : Subject) : Exec α :=
    fail (subject.label ++ octets ": invalid indirect expansion")
  let direct : Subject → Exec Found := foundWith inner unknown
  let named (subject : Subject) : Exec Found := do
    if let .parameter (.variable name) := subject then
      let real := (← context).realName name
      if real ≠ name then return .one (some real)
    match ← direct subject with
    | .one (some text) =>
      match namedSubject? text with
      | some named => direct named
      | none => fail (text ++ octets ": invalid variable name")
    | _ => unknown subject
  foundWith inner named subject

/-! ## Forms -/

/-- What a found value is with something made of each text. -/
def Found.map (change : Octets → Octets) : Found → Found
  | .one value => .one (value.map change)
  | .all values joined => .all (values.map fun (key, value) => (key, change value)) joined

/-- The atoms of a found value. -/
def foundAtoms (manner : Manner) (subject : Subject) (quoted : Bool) : Found → Exec (List Atom)
  | .one value => do
    if value.isNone && (← context).has 'u' then failUnset (subject.label ++ octets ": unbound variable")
    return valueAtoms quoted (value.getD [])
  | .all values joined => return listAtoms (← context) manner joined quoted (values.map Prod.snd)

/-- The value of an expression that a word writes. -/
def evaluateWord (inner : Inner) (word : Word) : Exec (Int × Octets) := do
  let text := atomsText (← inner ⟨false, false, false⟩ word)
  return (← evaluateText text, text)

/-- The part of a text from a place on, of a length if one is told, both of which can be counted from the end. -/
def partOf (text : Octets) (start : Int) (length : Option (Int × Octets)) : Exec Octets := do
  let size : Int := text.length
  let start := if start < 0 then start + size else start
  if start < 0 || size < start then return []
  let behind := text.drop start.toNat
  match length with
  | none => return behind
  | some (length, shown) =>
    if 0 ≤ length then return behind.take length.toNat
    if size + length < start then fail (shown ++ octets ": substring expression < 0")
    return behind.take (size + length - start).toNat

/-- Some of several values: those from a place on, and so many of them. -/
def partOfAll (subject : Subject) (context : Context) (values : List (Octets × Octets)) (start : Int)
    (length : Option (Int × Octets)) : Exec (List (Octets × Octets)) := do
  let isArguments := subject matches .parameter (.arguments _)
  let values := if isArguments then (['0'], context.name) :: values else values
  let index (key : Octets) : Int := (natOf? key).getD 0
  let size : Int := if isArguments then values.length else (values.getLast?.map fun entry => index entry.1 + 1).getD 0
  let start := if start < 0 then start + size else start
  let behind := if start < 0 then [] else values.filter fun entry => decide (start ≤ index entry.1)
  match length with
  | none => return behind
  | some (length, shown) =>
    if length < 0 then fail (shown ++ octets ": substring expression < 0")
    return behind.take length.toNat

/-- How patterns are written where a context is at hand. -/
def patternStyle (context : Context) : PatternStyle :=
  if context.isExtended then ⟨['!', '^'], context.switches.contains "extglob"⟩ else .common

/-- A word as a pattern. -/
def patternWord (inner : Inner) (word : Word) : Exec (List PatternPart) := do
  let letters := atomsLetters (← inner ⟨false, false, false⟩ word)
  return patternIn (patternStyle (← context)) letters

/-- The letters that tell what a variable was declared to be. -/
def traitLetters (held : Variable) : Octets :=
  let kind : Octets := match held.entries with
    | some (.row _) => ['a']
    | some (.table _) => ['A']
    | none => if held.traits.contains 'a' then ['a'] else if held.traits.contains 'A' then ['A'] else []
  let told (letter : Char) : Octets := if held.traits.contains letter then [letter] else []
  kind ++ told 'i' ++ told 'n' ++ (if held.fixed then ['r'] else []) ++ told 't' ++
    (if held.exported then ['x'] else []) ++ told 'l' ++ told 'u'

/-- A text as a letter says. -/
def shownText (manner : Char) (text : Octets) : Octets :=
  match manner with
  | 'Q' | 'K' | 'k' => Quoted.single text
  | 'U' => text.map Char.toUpper
  | 'L' => text.map Char.toLower
  | 'u' => reletter true false (fun _ => true) text
  | 'E' => escapedText text
  | _ => text

/-- What is made of a subject to show it. -/
def shownFound (context : Context) (subject : Subject) (manner : Char) (found : Found) : Found :=
  let held := match subject with
    | .parameter (.variable name) | .entries name _ | .entry name _ => (variableOf? context name).getD .empty
    | _ => .empty
  match manner with
  | 'a' => .one (some (traitLetters held))
  | 'A' =>
    match found with
    | .one (some value) =>
      let letters := traitLetters held
      let declared := if letters.isEmpty then [] else octets "declare -" ++ letters ++ [' ']
      .one (some (declared ++ subject.label ++ '=' :: Quoted.single value))
    | found => found
  | manner => found.map (shownText manner)

/-- The value of a subject that had none. -/
def assignSubject (inner : Inner) (subject : Subject) (text : Octets) : Exec Unit := do
  match subject with
  | .parameter (.variable name) => assign name text false
  | .entry name key =>
    let key ← settleKey name (atomsText (← inner ⟨false, false, false⟩ key))
    putEntry name key text
  | .parameter parameter => fail ('$' :: parameter.label ++ octets ": cannot assign in this way")
  | subject => fail (subject.label ++ octets ": cannot assign in this way")

/-- Whether a value is there. -/
def Found.isThere (orEmpty : Bool) : Found → Bool
  | .one value => value.any fun value => !(orEmpty && value.isEmpty)
  | .all values _ => !values.isEmpty && !(orEmpty && (values.map Prod.snd).all List.isEmpty)

/-- **The atoms of what a form makes** of a subject. -/
def formAtoms (inner : Inner) (manner : Manner) (subject : Subject) (form : Form) (quoted : Bool) :
    Exec (List Atom) := do
  let found ← foundOf inner subject
  let atoms := foundAtoms manner subject quoted
  match form with
  | .value => atoms found
  | .length =>
    match found with
    | .one value =>
      if value.isNone && (← context).has 'u' then failUnset (subject.label ++ octets ": unbound variable")
      return valueAtoms quoted (natText (value.getD []).length)
    | .all values _ => return valueAtoms quoted (natText values.length)
  | .fallback what orEmpty word =>
    let isThere := found.isThere orEmpty
    let within : Manner := ⟨manner.splits, manner.splits && !quoted, false⟩
    match what with
    | .instead => if isThere then inner within word else return []
    | .other => if isThere then atoms found else inner within word
    | .assign =>
      if isThere then atoms found
      else
        let text := atomsText (← inner ⟨false, false, false⟩ word)
        assignSubject inner subject text
        return valueAtoms quoted text
    | .complain =>
      if isThere then atoms found
      else
        let text := atomsText (← inner ⟨false, false, false⟩ word)
        let usual := if orEmpty then "parameter null or not set" else "parameter not set"
        failUnset (subject.label ++ octets ": " ++ if word.isEmpty then octets usual else text)
  | .trimmed atEnd longest pattern =>
    let pattern ← patternWord inner pattern
    atoms (found.map (dropFitting pattern atEnd longest))
  | .part start length =>
    let (start, _) ← evaluateWord inner start
    let length ← length.mapM (evaluateWord inner)
    match found with
    | .one (some value) => atoms (.one (some (← partOf value start length)))
    | .one none => atoms (.one none)
    | .all values joined => atoms (.all (← partOfAll subject (← context) values start length) joined)
  | .replaced place pattern other =>
    let pattern ← patternWord inner pattern
    let letters := atomsLetters (← inner ⟨false, false, false⟩ other)
    atoms (found.map (replaceFitting place pattern (replacementText letters)))
  | .lettered capital all pattern =>
    let parts ← patternWord inner pattern
    let fitting (c : Char) : Bool := pattern.isEmpty || fits parts [c]
    atoms (found.map (reletter capital all fitting))
  | .shown shown => atoms (shownFound (← context) subject shown found)

end Shell

end ComponentScaffold
