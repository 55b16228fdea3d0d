import ComponentScaffold.Shell.Expand
import ComponentScaffold.Shell.Trace

/-! # Assignments

What is assigned is a text for a variable or for one of its entries, or all entries at once. A variable can have been
declared to hold numbers, or capital or small letters.

* **`Shell.perform`** — does what an assignment says. -/

namespace ComponentScaffold

namespace Shell

/-- A text as the traits of a variable want it. -/
def traitedText (traits : List Char) (text : Octets) : Exec Octets := do
  if traits.contains 'i' then return intText (← evaluateText text)
  if traits.contains 'l' then return text.map Char.toLower
  if traits.contains 'u' then return text.map Char.toUpper
  return text

/-- A text behind what was there, or the sum of the two where numbers are held. -/
def appended (traits : List Char) (before text : Octets) : Octets :=
  if traits.contains 'i' then before ++ octets "+(" ++ text ++ [')'] else before ++ text

/-- The texts of a word that is one of several, after its alternatives are put side by side where there are such. -/
def expandWord (engine : Engine) (word : Word) : Exec (List Octets) := do
  if (← context).isExtended then (Braces.words word).flatMapM (expandFields engine)
  else expandFields engine word

/-- The entries of words for a row, the next of which has a number. -/
def rowOf (engine : Engine) (name : Octets) (traits : List Char) : (next : Nat) → List (Nat × Octets) →
    List (Option Word × Word) → Exec (List (Nat × Octets))
  | _, held, [] => return held
  | next, held, (none, word) :: rest => do
    let texts ← (← expandWord engine word).mapM (traitedText traits)
    let held := texts.zipIdx.foldl (fun held (text, i) => putSorted (next + i) text held) held
    rowOf engine name traits (next + texts.length) held rest
  | _, held, (some key, word) :: rest => do
    let index ← evaluateText (← expandText engine key)
    if index < 0 then fail (name ++ octets ": bad array subscript")
    let text ← traitedText traits (← expandValue engine word)
    rowOf engine name traits (index.toNat + 1) (putSorted index.toNat text held) rest

/-- A table with an entry. -/
def putNamed (key value : Octets) (held : List (Octets × Octets)) : List (Octets × Octets) :=
  if held.any fun entry => entry.1 = key then
    held.map fun entry => if entry.1 = key then (key, value) else entry
  else held ++ [(key, value)]

/-- The entries of words for a table, where words without keys are keys and values by turns. -/
def tableOf (engine : Engine) (name : Octets) (traits : List Char) : List (Octets × Octets) →
    List (Option Word × Word) → Exec (List (Octets × Octets))
  | held, [] => return held
  | held, (some key, word) :: rest => do
    let key ← expandText engine key
    let text ← traitedText traits (← expandValue engine word)
    tableOf engine name traits (putNamed key text held) rest
  | held, (none, key) :: (none, word) :: rest => do
    let key ← expandText engine key
    let text ← traitedText traits (← expandValue engine word)
    tableOf engine name traits (putNamed key text held) rest
  | held, (none, key) :: rest => do
    let key ← expandText engine key
    tableOf engine name traits (putNamed key [] held) rest

/-- Give a variable entries. -/
def assignEntries (engine : Engine) (name : Octets) (appends : Bool) (entries : List (Option Word × Word)) :
    Exec Unit := do
  let name := (← context).realName name
  let held := (variableOf? (← context) name).getD .empty
  if held.fixed then failFixed name
  let isTable := held.traits.contains 'A' || held.entries.any Entries.isTable
  let before : Entries := match held.entries with
    | some entries => entries
    | none => .row ((held.value.map fun value => (0, value)).toList)
  let found : Entries ← if isTable then do
      let start := match appends, held.entries with
        | true, some (.table entries) => entries
        | _, _ => []
      pure (.table (← tableOf engine name held.traits start entries))
    else do
      let start := match appends, before with
        | true, .row entries => entries
        | _, _ => []
      pure (.row (← rowOf engine name held.traits (Entries.row start).next start entries))
  changeContext fun c =>
    let held := (variableOf? c name).getD .empty
    c.withVariable name (some { held with value := found.main?, entries := some found })

/-- **Do what an assignment says**, where a variable is exported if so told. What was assigned is returned as it is
shown. -/
def perform (engine : Engine) (exported : Bool) : Assignment → Exec Octets
  | .text name none appends word => do
    let value ← expandValue engine word
    let context ← context
    let name := context.realName name
    let traits := ((variableOf? context name).getD .empty).traits
    let value := if appends then appended traits ((variableValue? context name).getD []) value else value
    let value ← if traits.isEmpty then pure value else traitedText traits value
    assign name value exported
    return name ++ '=' :: value
  | .text name (some key) appends word => do
    let name := (← context).realName name
    let traits := ((variableOf? (← context) name).getD .empty).traits
    let shown ← expandText engine key
    let key ← settleKey name shown
    let value ← expandValue engine word
    let before := (entryValue? (← context) name key).getD []
    let value ← traitedText traits (if appends then appended traits before value else value)
    putEntry name key value
    return name ++ '[' :: shown ++ ']' :: '=' :: value
  | .entries name appends entries => do
    assignEntries engine name appends entries
    let shown (entry : Option Word × Word) : Octets :=
      (entry.1.map fun key => '[' :: key.shown ++ octets "]=").getD [] ++ entry.2.shown
    return name ++ octets (if appends then "+=(" else "=(") ++ joinWith [' '] (entries.map shown) ++ [')']

end Shell

end ComponentScaffold
