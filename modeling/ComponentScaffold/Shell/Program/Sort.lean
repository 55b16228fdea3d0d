import ComponentScaffold.Shell.Program.Order

/-! # Programs for sorted lines

* **`Program.sort`** — puts lines in order.
* **`Program.uniq`** — takes equal lines that follow each other together.
* **`Program.comm`** — compares two files with lines in order. -/

namespace ComponentScaffold

namespace Shell

namespace Program

/-! ## Keys -/

/-- A part of a line by which it is sorted. -/
structure SortKey where
  /-- How many fields come before it. -/
  field : Nat
  /-- How many bytes of its first field come before it. -/
  offset : Nat
  /-- The number of its last field and how many bytes of that belong to it, or zero for all of them. -/
  last : Option (Nat × Nat)
  /-- How it is compared. -/
  manner : SortManner
  /-- Whether blanks before its last field are not counted. -/
  skipsLastBlanks : Bool

/-- A text without its first field. -/
def dropField (separator : Option Char) (text : Octets) : Octets :=
  match separator with
  | some separator => (text.dropWhile (· ≠ separator)).tail
  | none => (text.dropWhile isFieldBlank).dropWhile fun c => !isFieldBlank c

/-- A text without some of its first fields. -/
def dropFields (separator : Option Char) : (count : Nat) → Octets → Octets
  | 0, text => text
  | count + 1, text => dropFields separator count (dropField separator text)

/-- The length of a line up to the end of the last field of a key. -/
def lastEnd (separator : Option Char) (line : Octets) (skips : Bool) (field width : Nat) : Nat :=
  if width = 0 then
    match separator with
    | some separator => (joinWith [separator] ((line.splitOn separator).take field)).length
    | none => line.length - (dropFields none field line).length
  else
    let start := dropFields separator (field - 1) line
    let start := if skips then start.dropWhile isFieldBlank else start
    min line.length (line.length - start.length + width)

/-- The part of a line that a key is. -/
def SortKey.part (key : SortKey) (separator : Option Char) (line : Octets) : Octets :=
  let start := dropFields separator key.field line
  let start := if key.manner.skipsBlanks then start.dropWhile isFieldBlank else start
  let start := start.drop key.offset
  match key.last with
  | none => start
  | some (field, width) =>
    let limit := lastEnd separator line key.skipsLastBlanks field width
    start.take (limit - (line.length - start.length))

/-- What is wrong with a key. -/
def badKey (reason shown : String) (text : Octets) : Octets :=
  octets s!"{reason}: {shown} " ++ quotedPlainly text

/-- A number in a key and what follows it. -/
def keyNumber (reason : String) (text : Octets) : Except Octets (Nat × Octets) :=
  let digits := text.takeWhile Char.isDigit
  if digits.isEmpty then .error (badKey reason "invalid count at start of" text)
  else .ok (digitsValue digits, text.drop digits.length)

/-- A field and an offset in a key, with the letters behind them, and the rest. -/
def keyPlace (whole text : Octets) (reason : String) :
    Except Octets (Nat × Option Nat × Octets × Octets) := do
  let (field, rest) ← keyNumber reason text
  if field = 0 then .error (badKey "field number is zero" "invalid field specification" whole)
  let (offset, rest) : Option Nat × Octets ← match rest with
    | '.' :: rest => do
      let (offset, rest) ← keyNumber "invalid number after '.'" rest
      pure (some offset, rest)
    | _ => pure (none, rest)
  let letters := rest.takeWhile orderLetters.contains
  return (field, offset, letters, rest.drop letters.length)

/-- The key that a text asks for, where other letters count for all keys that have none. -/
def keyOf (common : Octets) (text : Octets) : Except Octets SortKey := do
  let stray := badKey "stray character in field spec" "invalid field specification" text
  let (field, offset, letters, rest) ← keyPlace text text "invalid number at field start"
  if offset = some 0 then
    .error (badKey "character offset is zero" "invalid field specification" text)
  let key (last : Option (Nat × Nat)) (lastLetters : Octets) : Except Octets SortKey := do
    let own := letters ++ lastLetters
    let letters := if own.isEmpty then common else letters
    let manner ← mannerOf (if own.isEmpty then common else own)
    return { field := field - 1, offset := offset.getD 1 - 1, last := last
             manner := { manner with skipsBlanks := letters.contains 'b' }
             skipsLastBlanks := (if own.isEmpty then common else lastLetters).contains 'b' }
  match rest with
  | [] => key none []
  | ',' :: rest =>
    let (last, width, lastLetters, rest) ← keyPlace text rest "invalid number after ','"
    if !rest.isEmpty then .error stray
    key (some (last, width.getD 0)) lastLetters
  | _ => .error stray

/-! ## Sorting -/

/-- How lines are sorted. -/
structure SortOrder where
  /-- What parts fields, if it is not the blanks before them. -/
  separator : Option Char
  /-- The keys. -/
  keys : List SortKey
  /-- The manner for lines as a whole. -/
  whole : SortManner
  /-- Whether lines with equal keys are left as they are. -/
  isStable : Bool

/-- The order of two lines by their keys. -/
def SortOrder.compareKeys (order : SortOrder) (a b : Octets) : Ordering :=
  if order.keys.isEmpty then
    let view (line : Octets) : Octets :=
      if order.whole.skipsBlanks then line.dropWhile isFieldBlank else line
    order.whole.compare (view a) (view b)
  else order.keys.foldl (fun found key =>
    found.then (key.manner.compare (key.part order.separator a) (key.part order.separator b))) .eq

/-- The order of two lines. -/
def SortOrder.compare (order : SortOrder) (a b : Octets) : Ordering :=
  let found := order.compareKeys a b
  if order.isStable then found
  else found.then (if order.whole.reverse then compareTexts b a else compareTexts a b)

/-- Lines without those that are equal to the one before by their keys. -/
def SortOrder.distinct (order : SortOrder) : List Octets → List Octets
  | [] => []
  | first :: rest =>
    match order.distinct rest with
    | [] => [first]
    | second :: others =>
      if order.compareKeys first second = .eq then first :: others else first :: second :: others

/-- The first line that is out of order, with its number. -/
def SortOrder.disorder? (order : SortOrder) (unique : Bool) : (number : Nat) → List Octets →
    Option (Nat × Octets)
  | number, first :: second :: rest =>
    let found := if unique then order.compareKeys first second else order.compare first second
    if found = .gt || (unique && found = .eq) then some (number + 1, second)
    else order.disorder? unique (number + 1) (second :: rest)
  | _, _ => none

/-- The options of `sort`. -/
def sortForms : List OptionForm :=
  [⟨'r', true, ["reverse"], .none⟩, ⟨'n', true, ["numeric-sort"], .none⟩,
    ⟨'f', true, ["ignore-case"], .none⟩, ⟨'b', true, ["ignore-leading-blanks"], .none⟩,
    ⟨'d', true, ["dictionary-order"], .none⟩, ⟨'i', true, ["ignore-nonprinting"], .none⟩,
    ⟨'g', true, ["general-numeric-sort"], .none⟩, ⟨'h', true, ["human-numeric-sort"], .none⟩,
    ⟨'M', true, ["month-sort"], .none⟩, ⟨'R', true, ["random-sort"], .none⟩,
    ⟨'V', true, ["version-sort"], .none⟩,
    ⟨'u', true, ["unique"], .none⟩, ⟨'s', true, ["stable"], .none⟩, ⟨'m', true, ["merge"], .none⟩,
    ⟨'c', true, ["check"], .optional⟩, .short 'C' .none, ⟨'k', true, ["key"], .required⟩,
    ⟨'t', true, ["field-separator"], .required⟩, ⟨'o', true, ["output"], .required⟩,
    ⟨'z', true, ["zero-terminated"], .none⟩]

/-- The order that options ask for, or what is wrong with them. -/
def sortOrder (chosen : Chosen) : Except Octets SortOrder := do
  let common := (chosen.options.map Prod.fst).filter orderLetters.contains
  let separator ← match chosen.value? 't' with
    | none => pure none
    | some [] => .error (octets "empty tab")
    | some [c] => pure (some c)
    | some text =>
      if text = ['\\', '0'] then pure (some '\x00')
      else .error (octets "multi-character tab " ++ quotedPlainly text)
  let keys ← (chosen.options.filter fun option => option.1 = 'k').mapM fun option =>
    keyOf common option.2
  return ⟨separator, keys, ← mannerOf common, chosen.has 's' || chosen.has 'u'⟩

/-- The status of `sort` where it fails. -/
def sortFailure : Nat := 2

/-- The lines of a text that end in a mark, which the last one does not need. -/
def markedLines (mark : Char) (text : Octets) : List Octets :=
  let parts := text.splitOn mark
  if parts.getLast? = some [] then parts.dropLast else parts

/-- The lines of a text, in which the last one needs no end. -/
def plainLines (text : Octets) : List Octets := markedLines '\n' text

/-- The lines of each operand, unless one of them cannot be read. -/
def linesOfAll (name : Octets) (mark : Char) : List Octets → Exec (Option (List (List Octets)))
  | [] => return some []
  | operand :: rest => do
    match ← readOperand operand with
    | .ok text => return (← linesOfAll name mark rest).map (markedLines mark text :: ·)
    | .error fault =>
      let what := if fault = .isDirectory then "read failed: " else "cannot read: "
      tell name (octets what ++ faultText (quotedIfNeeded operand) fault)
      return none

/-- Lines as a text. -/
def ended (lines : List Octets) : Octets := lines.flatMap (· ++ ['\n'])

/-- **Put lines in order.** -/
def sort : Program := withOptions sortForms false sortFailure fun _ name chosen => do
  match sortOrder chosen with
  | .error message => refuse name message sortFailure
  | .ok order =>
    let operands := if chosen.operands.isEmpty then [['-']] else chosen.operands
    let mark := if chosen.has 'z' then '\x00' else '\n'
    match ← linesOfAll name mark operands with
    | none => return sortFailure
    | some files =>
      let lines := files.flatten
      if chosen.has 'c' || chosen.has 'C' then
        let isQuiet := chosen.has 'C' || (chosen.value? 'c').any fun value => !value.isEmpty
        match order.disorder? (chosen.has 'u') 1 lines with
        | none => return 0
        | some (number, line) =>
          if isQuiet then return 1
          refuse name (operands.headD [] ++ octets s!":{number}: disorder: " ++ line) 1
      else
        let isBefore (a b : Octets) : Bool := order.compare a b != .gt
        let sorted := if chosen.has 'm' then
            files.foldl (fun lines file => lines.merge file isBefore) []
          else lines.mergeSort isBefore
        let text := (if chosen.has 'u' then order.distinct sorted else sorted).flatMap (· ++ [mark])
        match chosen.value? 'o' with
        | none => emit name text
        | some target =>
          match ← writePath target (bytesOf text) with
          | .ok () => return 0
          | .error fault =>
            refuse name (octets "open failed: " ++ faultText (quotedIfNeeded target) fault)
              sortFailure

/-! ## Equal lines -/

/-- The options of `uniq`. -/
def uniqForms : List OptionForm :=
  [⟨'c', true, ["count"], .none⟩, ⟨'d', true, ["repeated"], .none⟩, ⟨'u', true, ["unique"], .none⟩,
    ⟨'i', true, ["ignore-case"], .none⟩, ⟨'f', true, ["skip-fields"], .required⟩,
    ⟨'s', true, ["skip-chars"], .required⟩, ⟨'w', true, ["check-chars"], .required⟩,
    .short 'D' .none]

/-- Lines in groups of those that follow each other and look the same. -/
def groupsBy (view : Octets → Octets) : List Octets → List (List Octets)
  | [] => []
  | line :: rest =>
    match groupsBy view rest with
    | (next :: group) :: others =>
      if view line = view next then (line :: next :: group) :: others
      else [line] :: (next :: group) :: others
    | others => [line] :: others

/-- **Take equal lines that follow each other together.** -/
def uniq : Program := withOptions uniqForms false 1 fun _ name chosen => do
  let number (key : Char) : Nat := ((chosen.value? key).bind natOf?).getD 0
  let view (line : Octets) : Octets :=
    let start := (dropFields none (number 'f') line).drop (number 's')
    let kept := if chosen.has 'w' then start.take (number 'w') else start
    if chosen.has 'i' then kept.map Char.toLower else kept
  let shown (group : List Octets) : List Octets :=
    let isRepeated := group.length > 1
    if chosen.has 'D' then (if isRepeated then group else [])
    else if (chosen.has 'd' && !isRepeated) || (chosen.has 'u' && isRepeated) then []
    else (group.take 1).map fun line =>
      if chosen.has 'c' then
        let digits := natText group.length
        List.replicate (7 - digits.length) ' ' ++ digits ++ ' ' :: line
      else line
  match chosen.operands with
  | _ :: _ :: extra :: _ => refuseUse name (octets "extra operand " ++ quotedPlainly extra) 1
  | operands =>
    match ← readOperand (operands.headD ['-']) with
    | .error .isDirectory =>
      refuse name (octets "error reading " ++ quotedAlways (operands.headD [])) 1
    | .error fault => refuseFile name (operands.headD []) fault
    | .ok text =>
      let text := ended ((groupsBy view (plainLines text)).flatMap shown)
      match operands[1]? with
      | none => emit name text
      | some ['-'] => emit name text
      | some target =>
        match ← writePath target (bytesOf text) with
        | .ok () => return 0
        | .error fault => refuseFile name target fault

/-! ## Two files -/

/-- The options of `comm`. -/
def commForms : List OptionForm :=
  [.short '1' .none, .short '2' .none, .short '3' .none, ⟨'n', false, ["nocheck-order"], .none⟩]

/-- The lines of two lists in order, each with the columns in which it is: the first list's, the second
one's, or both. -/
def mergeColumns : (bound : Nat) → List Octets → List Octets → List (Nat × Octets)
  | 0, _, _ => []
  | _ + 1, [], rest => rest.map fun line => (2, line)
  | _ + 1, rest, [] => rest.map fun line => (1, line)
  | bound + 1, a :: as, b :: bs =>
    match compareTexts a b with
    | .lt => (1, a) :: mergeColumns bound as (b :: bs)
    | .gt => (2, b) :: mergeColumns bound (a :: as) bs
    | .eq => (3, a) :: mergeColumns bound as bs

/-- **Compare two files** with lines in order: in three columns, what is in one, the other, or both. -/
def comm : Program := withOptions commForms false 1 fun _ name chosen => do
  match chosen.operands with
  | [] => refuseUse name (octets "missing operand") 1
  | [one] => refuseUse name (octets "missing operand after " ++ quotedPlainly one) 1
  | [first, second] =>
    match ← readOperand first, ← readOperand second with
    | .error fault, _ => refuseFile name first fault
    | _, .error fault => refuseFile name second fault
    | .ok a, .ok b =>
      let hidden : List Nat := (chosen.options.map Prod.fst).filterMap fun c => natOf? [c]
      let (a, b) := (plainLines a, plainLines b)
      let shown := (mergeColumns (a.length + b.length + 1) a b).filter fun entry =>
        !hidden.contains entry.1
      emit name (ended (shown.map fun (column, line) =>
        ((List.range column).filter fun other => other ≠ 0 && !hidden.contains other).map
          (fun _ => '\t') ++ line))
  | _ :: _ :: extra :: _ => refuseUse name (octets "extra operand " ++ quotedPlainly extra) 1

end Program

end Shell

end ComponentScaffold
