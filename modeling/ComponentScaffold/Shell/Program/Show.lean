import ComponentScaffold.Shell.Program.Basic

/-! # Programs that show files

* **`Program.cat`**, **`Program.tac`**, **`Program.rev`**, **`Program.nl`** — all of a file, in some way.
* **`Program.head`**, **`Program.tail`** — its start or its end.
* **`Program.wc`** — how much there is in it.
* **`Program.tee`** — a copy of the standard input.
* **`Program.cmp`** — where two files differ. -/

namespace ComponentScaffold

namespace Shell

namespace Program

/-! ## Whole files -/

/-- How a file is shown. -/
structure ShowStyle where
  /-- Whether lines are numbered. -/
  numbers : Bool
  /-- Whether only lines that are not empty are numbered. -/
  skipsEmpty : Bool
  /-- Whether empty lines behind an empty one are left out. -/
  squeezes : Bool
  /-- Whether the ends of lines are marked. -/
  ends : Bool
  /-- Whether tabs are marked. -/
  tabs : Bool
  /-- Whether other bytes that cannot be printed are marked. -/
  marks : Bool

/-- A byte below the ones with a mark of their own. -/
def caret (c : Char) : Octets :=
  if c = '\x7f' then ['^', '?']
  else if c < ' ' then ['^', Char.ofNat (c.toNat + 64)]
  else [c]

/-- A byte as it is marked. -/
def ShowStyle.byte (style : ShowStyle) (c : Char) : Octets :=
  if c = '\t' then if style.tabs then ['^', 'I'] else [c]
  else if !style.marks then [c]
  else if c.toNat < 128 then caret c
  else 'M' :: '-' :: caret (Char.ofNat (c.toNat - 128))

/-- The lines as they are shown, given whether the one before is empty and how many are numbered. -/
def ShowStyle.lines (style : ShowStyle) : (behindEmpty : Bool) → (count : Nat) → List Octets →
    List Octets
  | _, _, [] => []
  | behindEmpty, count, line :: rest =>
    let isEmpty := line = ['\n']
    if isEmpty && behindEmpty && style.squeezes then style.lines true count rest
    else
      let isNumbered := style.numbers && !(isEmpty && style.skipsEmpty)
      let count := if isNumbered then count + 1 else count
      let number := if isNumbered then toRight 6 (natText count) ++ ['\t'] else []
      let body := if line.getLast? = some '\n' then line.dropLast else line
      let ending := if line.getLast? ≠ some '\n' then [] else if style.ends then ['$', '\n'] else ['\n']
      (number ++ body.flatMap style.byte ++ ending) :: style.lines isEmpty count rest

/-- The options of `cat`. -/
def catForms : List OptionForm :=
  [⟨'b', true, ["number-nonblank"], .none⟩, ⟨'n', true, ["number"], .none⟩,
    ⟨'s', true, ["squeeze-blank"], .none⟩, ⟨'v', true, ["show-nonprinting"], .none⟩,
    ⟨'E', true, ["show-ends"], .none⟩, ⟨'T', true, ["show-tabs"], .none⟩,
    ⟨'A', true, ["show-all"], .none⟩, .short 'e' .none, .short 't' .none, .short 'u' .none]

/-- **Show files one after the other.** -/
def cat : Program := withOptions catForms false 1 fun _ name chosen => do
  let has (keys : List Char) : Bool := keys.any chosen.has
  let style : ShowStyle :=
    { numbers := has ['n', 'b'], skipsEmpty := has ['b'], squeezes := has ['s']
      ends := has ['E', 'A', 'e'], tabs := has ['T', 'A', 't'], marks := has ['v', 'A', 'e', 't'] }
  if chosen.options.all fun option => option.1 = 'u' then
    -- each file is written before the next one is read
    forContents name chosen.operands fun _ text => emit name text
  else
    let (text, status) ← readOperands name chosen.operands
    return worse status (← emit name (style.lines false 0 (fullLines text)).flatten)

/-- **Show files with their last lines first.** -/
def tac : Program := withOptions [] false 1 fun _ name chosen =>
  forContents name chosen.operands fun _ text => emit name (fullLines text).reverse.flatten

/-- **Show files with each line backwards.** -/
def rev : Program := withOptions [] false 1 fun _ name chosen =>
  forAll (if chosen.operands.isEmpty then [['-']] else chosen.operands) fun operand => do
    match ← readOperand operand with
    | .error fault => refuse name (octets "cannot open " ++ faultText operand fault) 1
    | .ok text =>
      let backwards (line : Octets) : Octets :=
        if line.getLast? = some '\n' then line.dropLast.reverse ++ ['\n'] else line.reverse
      emit name ((fullLines text).flatMap backwards)

/-- The options of `nl`. -/
def nlForms : List OptionForm :=
  [⟨'b', true, ["body-numbering"], .required⟩, ⟨'w', true, ["number-width"], .required⟩,
    ⟨'s', true, ["number-separator"], .required⟩, ⟨'v', true, ["starting-line-number"], .required⟩]

/-- **Show files with their lines numbered.** -/
def nl : Program := withOptions nlForms false 1 fun _ name chosen => do
  let (text, status) ← readOperands name chosen.operands
  let all := chosen.value? 'b' = some ['a']
  let noneAtAll := chosen.value? 'b' = some ['n']
  let width := ((chosen.value? 'w').bind natOf?).getD 6
  let separator := (chosen.value? 's').getD ['\t']
  let first := ((chosen.value? 'v').bind natOf?).getD 1
  let (shown, _) := (fullLines text).foldl (fun (shown, count) line =>
    let line := if line.getLast? = some '\n' then line else line ++ ['\n']
    if noneAtAll || (line = ['\n'] && !all) then
      (shown ++ List.replicate (width + separator.length) ' ' ++ line, count)
    else (shown ++ toRight width (natText count) ++ separator ++ line, count + 1))
    (([] : Octets), first)
  return worse status (← emit name shown)

/-! ## Starts and ends -/

/-- How much of a file is shown: so many lines or bytes from one end, or all but those. -/
structure Portion where
  /-- Whether bytes are counted. -/
  bytes : Bool
  /-- How many. -/
  count : Nat
  /-- Whether it is the others that are shown. -/
  others : Bool

/-- The start of a text. -/
def Portion.start (portion : Portion) (text : Octets) : Octets :=
  let units := if portion.bytes then text.map fun c => [c] else fullLines text
  (units.take (if portion.others then units.length - portion.count else portion.count)).flatten

/-- The end of a text. All but the first units are asked for by the number of the first one shown. -/
def Portion.last (portion : Portion) (text : Octets) : Octets :=
  let units := if portion.bytes then text.map fun c => [c] else fullLines text
  (units.drop (if portion.others then portion.count - 1 else units.length - portion.count)).flatten

/-- What the units of a number are worth by the letter behind it. -/
def multiplier? (letters : Octets) : Option Nat :=
  match String.ofList letters with
  | "" => some 1
  | "b" => some 512
  | "K" | "KiB" | "k" => some 1024
  | "kB" | "KB" => some 1000
  | "M" | "MiB" | "m" => some (1024 * 1024)
  | "MB" => some 1000000
  | "G" | "GiB" => some (1024 * 1024 * 1024)
  | _ => none

/-- The number that a text writes, with a letter for its units. -/
def scaledNumber? (text : Octets) : Option Nat :=
  let digits := text.takeWhile Char.isDigit
  if digits.isEmpty then none
  else (multiplier? (text.drop digits.length)).map fun unit => digitsValue digits * unit

/-- The options of `head` and `tail`. -/
def portionForms : List OptionForm :=
  [⟨'n', true, ["lines"], .required⟩, ⟨'c', true, ["bytes"], .required⟩,
    ⟨'q', true, ["quiet", "silent"], .none⟩, ⟨'v', true, ["verbose"], .none⟩, .short 'f' .none]

/-- Arguments with an old form of the first one, a number of lines behind a sign, in the new form. -/
def newForm (signs : List Char) : List Octets → List Octets
  | (sign :: digit :: more) :: rest =>
    if signs.contains sign && digit.isDigit && more.all Char.isDigit then
      octets "-n" :: (if sign = '+' then sign :: digit :: more else digit :: more) :: rest
    else (sign :: digit :: more) :: rest
  | arguments => arguments

/-- The portion that is asked for, or what is wrong with it. A sign of its own asks for the others. -/
def portionOf (chosen : Chosen) (sign : Char) : Except Octets Portion :=
  let bytes := chosen.last? ['n', 'c'] = some 'c'
  let value := (chosen.value? (if bytes then 'c' else 'n')).getD (octets "10")
  let others := value.head? = some sign
  let digits := if value.head? = some '-' || value.head? = some '+' then value.tail else value
  match scaledNumber? digits with
  | some count => .ok ⟨bytes, count, others⟩
  | none =>
    let shown := if sign = '-' || value.head? = some '-' then digits else value
    .error (octets (if bytes then "invalid number of bytes: " else "invalid number of lines: ") ++
      quotedPlainly shown)

/-- What stands above the portion of a file. -/
def portionHeading (operand : Octets) (isFirst : Bool) : Octets :=
  octets (if isFirst then "==> " else "\n==> ") ++
    (if operand = ['-'] then octets "standard input" else operand) ++ octets " <==\n"

/-- Show a portion of each file. -/
def showPortions (name : Octets) (chosen : Chosen) (cut : Octets → Octets) : Exec Nat := do
  let operands := if chosen.operands.isEmpty then [['-']] else chosen.operands
  let isHeaded := match chosen.last? ['q', 'v'] with
    | some 'q' => false
    | some _ => true
    | none => operands.length > 1
  let (status, _) ← operands.foldlM (fun (status, isFirst) operand => do
    let heading := if isHeaded then portionHeading operand isFirst else []
    match ← readOperand operand with
    | .ok text => return (worse status (← emit name (heading ++ cut text)), false)
    | .error .isDirectory =>
      let _ ← emit name heading
      let shown := octets "error reading " ++ quotedAlways operand
      return (worse status (← refuse name (faultText shown .isDirectory) 1), false)
    | .error fault =>
      let shown := octets "cannot open " ++ quotedAlways operand ++ octets " for reading"
      return (worse status (← refuse name (faultText shown fault) 1), isFirst)) (0, true)
  return status

/-- What is wrong with an old form of the first argument, a number behind a sign with something behind it. -/
def oldFormFault? : List Octets → Option Octets
  | ('-' :: digit :: more) :: _ =>
    let letters := more.dropWhile Char.isDigit
    (letters.find? fun c => !"bcklmqvz".toList.contains c).bind fun c =>
      if digit.isDigit then some (octets "invalid trailing option -- " ++ [c]) else none
  | _ => none

/-- **Show the start of files.** -/
def head : Program := fun engine name arguments =>
  if let some message := oldFormFault? arguments then refuseUse name message 1 else
  withOptions portionForms false 1 (fun _ name chosen =>
    match portionOf chosen '-' with
    | .error message => refuse name message 1
    | .ok portion => showPortions name chosen portion.start) engine name (newForm ['-'] arguments)

/-- What is wrong with an old form of the first argument before more than one file. -/
def oldContextFault? : List Octets → Option Octets
  | ('-' :: digit :: _) :: _ :: _ :: _ =>
    if digit.isDigit then some (octets "option used in invalid context -- " ++ [digit]) else none
  | _ => none

/-- **Show the end of files.** -/
def tail : Program := fun engine name arguments =>
  if let some message := oldContextFault? arguments then refuse name message 1 else
  withOptions portionForms false 1 (fun _ name chosen =>
    match portionOf chosen '+' with
    | .error message => refuse name message 1
    | .ok portion => showPortions name chosen portion.last) engine name (newForm ['-', '+'] arguments)

/-! ## Counting -/

/-- How many words a text has. -/
def wordCount (text : Octets) : Nat := (text.splitOnP isSpace).countP fun word => !word.isEmpty

/-- How wide the widest line of a text is. -/
def widest (text : Octets) : Nat :=
  ((text.splitOn '\n').map fun line =>
    line.foldl (fun width c =>
      if c = '\t' then width + (8 - width % 8) else if isPrintable c then width + 1 else width) 0).foldl
        max 0

/-- What is counted, by the letters that ask for it, in the order in which it is shown. -/
def counts (text : Octets) : List (Char × Nat) :=
  [('l', text.count '\n'), ('w', wordCount text), ('m', text.length), ('c', text.length),
    ('L', widest text)]

/-- The options of `wc`. -/
def wcForms : List OptionForm :=
  [⟨'l', true, ["lines"], .none⟩, ⟨'w', true, ["words"], .none⟩, ⟨'c', true, ["bytes"], .none⟩,
    ⟨'m', true, ["chars"], .none⟩, ⟨'L', true, ["max-line-length"], .none⟩]

/-- The counts of several texts together. -/
def addCounts (a b : List (Char × Nat)) : List (Char × Nat) :=
  List.zipWith (fun one other =>
    (one.1, if one.1 = 'L' then max one.2 other.2 else one.2 + other.2)) a b

/-- The size of a file, if it is known before the file is read. -/
def knownSize (operand : Octets) : Exec (Option Nat) := do
  if operand = ['-'] then
    match ← channelOf? 0 with
    | some (_, .file number _ _ _ _) => return some (heldBytes (← files) number).size
    | _ => return none
  match (← files).find (pathOf operand) with
  | .ok (_, .file bytes) => return some bytes.size
  | .ok _ => return none
  | .error _ => return some 0

/-- **Count what there is in files.** -/
def wc : Program := withOptions wcForms false 1 fun _ name chosen => do
  let keys := if chosen.options.isEmpty then ['l', 'w', 'c'] else chosen.options.map Prod.fst
  let operands := if chosen.operands.isEmpty then [['-']] else chosen.operands
  let sizes ← operands.mapM knownSize
  let total := sizes.foldl (fun total size => total + size.getD 0) 0
  let width :=
    if operands.length = 1 && keys.eraseDups.length = 1 then 1
    else max (natText total).length (if sizes.all Option.isSome then 1 else 7)
  let line (numbers : List (Char × Nat)) (label : Octets) : Octets :=
    joinWith [' '] ((numbers.filter fun entry => keys.contains entry.1).map fun entry =>
      toRight width (natText entry.2)) ++ (if label.isEmpty then [] else ' ' :: label) ++ ['\n']
  let (status, sum) ← operands.foldlM (fun (status, sum) operand => do
    let label := if chosen.operands.isEmpty then [] else operand
    match ← readOperand operand with
    | .ok text =>
      let numbers := counts text
      return (worse status (← emit name (line numbers label)), addCounts sum numbers)
    | .error fault =>
      let status := worse status (← refuseFile name operand fault)
      if fault = .isDirectory then
        let _ ← emit name (line (counts []) label)
      return (status, sum)) (0, counts [])
  if operands.length > 1 then
    return worse status (← emit name (line sum (octets "total")))
  return status

/-! ## Copies -/

/-- The options of `tee`. -/
def teeForms : List OptionForm :=
  [⟨'a', true, ["append"], .none⟩, ⟨'i', true, ["ignore-interrupts"], .none⟩, .short 'p' .none]

/-- **Copy the standard input** to files and to the standard output. -/
def tee : Program := withOptions teeForms false 1 fun _ name chosen => do
  let text ← match ← readAll 0 with
    | .ok bytes => pure (octetsOf bytes)
    | .error _ => pure []
  let mode : OpenMode := if chosen.has 'a' then .append else .write true
  let status ← forAll chosen.operands fun operand => do
    match ← openPath operand mode with
    | .error fault => refuseFile name operand fault
    | .ok index => withDescriptor 1 index (emit name text)
  return worse status (← emit name text)

/-! ## Comparing files -/

/-- The options of `cmp`. -/
def cmpForms : List OptionForm :=
  [⟨'s', true, ["quiet", "silent"], .none⟩, ⟨'l', true, ["verbose"], .none⟩,
    ⟨'b', true, ["print-bytes"], .none⟩, ⟨'n', true, ["bytes"], .required⟩,
    ⟨'i', true, ["ignore-initial"], .required⟩]

/-- The status of `cmp` where something goes wrong. -/
def compareFailure : Nat := 2

/-- The bytes in which two texts differ, with their numbers from one on. -/
def differences : (number : Nat) → Octets → Octets → List (Nat × Char × Char)
  | number, a :: as, b :: bs =>
    if a = b then differences (number + 1) as bs else (number, a, b) :: differences (number + 1) as bs
  | _, _, _ => []

/-- A byte in octal digits, in three places. -/
def octalText (c : Char) : Octets :=
  let digits := Nat.toDigits 8 c.toNat
  List.replicate (3 - digits.length) ' ' ++ digits

/-- Compare two texts, which have names. -/
def compareContents (name : Octets) (chosen : Chosen) (first second : Octets × Octets) : Exec Nat := do
  let found := differences 1 first.2 second.2
  let isShown := !chosen.has 's'
  if chosen.has 'l' && isShown then
    let width := (natText (max first.2.length second.2.length)).length
    let lines := found.flatMap fun (number, a, b) =>
      let digits := natText number
      List.replicate (width - digits.length) ' ' ++ digits ++ ' ' :: octalText a ++ ' ' :: octalText b ++
        ['\n']
    let _ ← emit name lines
  match found with
  | (number, a, b) :: _ =>
    let line := (first.2.take (number - 1)).count '\n' + 1
    if isShown && !chosen.has 'l' then
      let bytes := if chosen.has 'b' then
          octets " is " ++ octalText a ++ ' ' :: a :: ' ' :: octalText b ++ [' ', b]
        else []
      let what := if chosen.has 'b' then "byte" else "char"
      let _ ← emit name (first.1 ++ ' ' :: second.1 ++
        octets s!" differ: {what} {number}, line {line}" ++ bytes ++ ['\n'])
    if first.2.length = second.2.length || !chosen.has 'l' then return 1
  | [] => if first.2.length = second.2.length then return 0
  -- one of the texts goes on where the other one ends
  let (label, shorter) := if first.2.length < second.2.length then first else second
  if isShown then
    if shorter.isEmpty then tell name (octets "EOF on " ++ label ++ octets " which is empty")
    else
      let count := shorter.count '\n'
      let place := if shorter.getLast? = some '\n' then s!"line {count}" else s!"in line {count + 1}"
      let place := if chosen.has 'l' then "" else ", " ++ place
      tell name (octets "EOF on " ++ label ++ octets s!" after byte {shorter.length}{place}")
  return 1

/-- **Tell where two files differ.** -/
def cmp : Program := withOptions cmpForms false compareFailure fun _ name chosen => do
  let number (key : Char) : Option Nat := (chosen.value? key).bind scaledNumber?
  let compareOperands (first second : Octets) : Exec Nat := do
    match ← readOperand first, ← readOperand second with
    | .error fault, _ => refuse name (faultText first fault) compareFailure
    | _, .error fault => refuse name (faultText second fault) compareFailure
    | .ok a, .ok b =>
      let cut (text : Octets) : Octets :=
        let text := text.drop ((number 'i').getD 0)
        text.take ((number 'n').getD text.length)
      compareContents name chosen (first, cut a) (second, cut b)
  match chosen.operands with
  | [] => refuseUse name (octets "missing operand after " ++ quotedPlainly name) compareFailure
  | [first] => compareOperands first ['-']
  | first :: second :: _ => compareOperands first second

end Program

end Shell

end ComponentScaffold
