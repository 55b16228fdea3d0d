import ComponentScaffold.Shell.Calendar.Basic
import ComponentScaffold.Shell.Mode
import ComponentScaffold.Shell.Program.Order
import ComponentScaffold.Shell.Program.Paths

/-! # Listing directories

* **`Program.ListStyle`** — how files are listed.
* **`Program.ls`** — lists what is in directories. -/

namespace ComponentScaffold

namespace Shell

namespace Program

/-! ## Styles -/

/-- How files stand on lines. -/
inductive ListLayout
  /-- Each on a line of its own. -/
  | single
  /-- Each on a line of its own with what is known of it. -/
  | long
  /-- With commas between them. -/
  | commas
  /-- In columns, one after the other. -/
  | down
  /-- In columns, all of them line by line. -/
  | across
deriving DecidableEq, Repr

/-- In which order files are listed. -/
inductive ListOrder
  /-- By their names. -/
  | name
  /-- By their sizes. -/
  | size
  /-- By their times. -/
  | time
  /-- By their names as versions. -/
  | version
  /-- By the endings of their names. -/
  | ending
  /-- As they come. -/
  | none
deriving DecidableEq, Repr

/-- Which kinds of files are marked behind their names. -/
inductive Marking
  /-- None. -/
  | none
  /-- Directories. -/
  | folders
  /-- All but regular files. -/
  | kinds
  /-- All but regular files that may not be run. -/
  | all
deriving DecidableEq, Repr

/-- How a name is written. -/
inductive NameQuoting
  /-- As it is. -/
  | literal
  /-- With escapes. -/
  | escaped
  /-- In double quotes, with escapes. -/
  | doubled
  /-- As a shell reads it. -/
  | shell
  /-- As a shell reads it, always in quotes. -/
  | shellAlways
deriving DecidableEq, Repr

/-- How numbers of bytes are written. -/
inductive SizeForm
  /-- In a unit of so many bytes. -/
  | units (unit : Nat)
  /-- With a letter for the unit, which is a power of a base. -/
  | scaled (base : Nat)
deriving DecidableEq, Repr

/-- **How files are listed.** -/
structure ListStyle where
  /-- How they stand on lines. -/
  layout : ListLayout
  /-- In which order they come. -/
  order : ListOrder
  /-- Whether the order is turned around. -/
  reversed : Bool
  /-- Whether directories come first. -/
  foldersFirst : Bool
  /-- Whether names that start with a dot are listed. -/
  hidden : Bool
  /-- Whether the directory itself and the one above it are listed. -/
  dots : Bool
  /-- Patterns of names that are not listed. -/
  ignored : List Octets
  /-- Patterns of names that are not listed unless hidden ones are. -/
  concealed : List Octets
  /-- Whether directories are listed by their names like files. -/
  asFiles : Bool
  /-- Whether what is in directories is listed too. -/
  recursive : Bool
  /-- Which kinds are marked. -/
  marking : Marking
  /-- How names are written. -/
  quoting : NameQuoting
  /-- Whether bytes that cannot be printed are hidden. -/
  masked : Bool
  /-- Whether links are followed. -/
  follows : Bool
  /-- Whether numbers of files are shown. -/
  numbers : Bool
  /-- Whether the space that they take is shown. -/
  spaces : Bool
  /-- Whether the owner is shown. -/
  owner : Bool
  /-- Whether the group is shown. -/
  group : Bool
  /-- What the owner and the group are called. -/
  user : Octets
  /-- How sizes are written. -/
  sizes : SizeForm
  /-- How numbers of blocks are written. -/
  blocks : SizeForm
  /-- The formats of times long ago and of others. -/
  times : Octets × Octets
  /-- How wide lines are. -/
  width : Nat
  /-- What ends a line. -/
  lineEnd : Char
  /-- The time. -/
  now : Time

/-- A file that is listed. -/
structure Listed where
  /-- Its name. -/
  name : Octets
  /-- What is known of it. -/
  facts : Facts
  /-- What is known of what it leads to, if it is a link that leads somewhere. -/
  target? : Option Facts

/-! ## Parts of lines -/

/-- A number of bytes with a letter for its unit, rounded up. -/
def scaledText (base bytes : Nat) : Octets :=
  let letters := (if base = 1024 then "KMGTPEZY" else "kMGTPEZY").toList
  let rec go (unit : Nat) : List Char → Octets
    | [] => natText bytes
    | letter :: rest =>
      -- below ten a digit behind the point is shown
      let tenths := (bytes * 10 + unit - 1) / unit
      let whole := (bytes + unit - 1) / unit
      if tenths < 100 then natText (tenths / 10) ++ '.' :: natText (tenths % 10) ++ [letter]
      else if whole < base || rest.isEmpty then natText whole ++ [letter]
      else go (unit * base) rest
  if bytes < base then natText bytes else go base letters

/-- A number of bytes as it is written. -/
def SizeForm.text (form : SizeForm) (bytes : Nat) : Octets :=
  match form with
  | .units unit => natText ((bytes + unit - 1) / unit)
  | .scaled base => scaledText base bytes

/-- A name with escapes for what cannot be printed, and for some other bytes. -/
def escapedName (special : List Char) (name : Octets) : Octets :=
  name.flatMap fun c =>
    if c = '\\' || special.contains c then ['\\', c]
    else if isPrintable c then [c] else escapeOf c

/-- A name as it is written. -/
def ListStyle.nameText (style : ListStyle) (name : Octets) : Octets :=
  match style.quoting with
  | .literal => if style.masked then name.map fun c => if isPrintable c then c else '?' else name
  | .escaped => escapedName [' '] name
  | .doubled => '"' :: escapedName ['"'] name ++ ['"']
  | .shell => quotedIfNeeded name
  | .shellAlways => quotedAlways name

/-- The mark behind the name of a file. -/
def ListStyle.mark (style : ListStyle) (facts : Facts) : Octets :=
  match style.marking, facts.entry with
  | .none, _ => []
  | _, .directory => ['/']
  | .folders, _ => []
  | _, .link _ => ['@']
  | _, .queue _ => ['|']
  | .all, .file _ => if isRunMode facts.node.mode then ['*'] else []
  | _, _ => []

/-- The moment of a file. Long ago is half a year or more, and so is what is yet to come. -/
def ListStyle.timeText (style : ListStyle) (facts : Facts) : Octets :=
  let halfYear : Int := 31556952 / 2 * Calendar.second
  let modified := facts.node.modified
  let isRecent := style.now - halfYear < modified && modified ≤ style.now
  Calendar.format (if isRecent then style.times.2 else style.times.1) (.ofTime modified)

/-- The number of the blocks of a file. -/
def ListStyle.blockText (style : ListStyle) (facts : Facts) : Octets :=
  style.blocks.text (facts.space * 1024)

/-- The size of a file, or the numbers of a device in a width. -/
def ListStyle.sizeText (style : ListStyle) (widths : Nat × Nat) (facts : Facts) : Octets :=
  match facts.deviceNumbers? with
  | some (major, minor) =>
    toRight widths.1 (natText major) ++ [',', ' '] ++ toRight widths.2 (natText minor)
  | none => style.sizes.text facts.size

/-- The greatest length of some texts. -/
def widestOf (texts : List Octets) : Nat := (texts.map List.length).foldl max 0

/-- What stands before the names of files: the numbers and blocks that are asked for. -/
def ListStyle.frills (style : ListStyle) (files : List Listed) : Listed → Octets :=
  let pads := style.layout ≠ .commas
  let numberText (file : Listed) : Octets := natText file.facts.number
  let numberWidth := if pads then widestOf (files.map numberText) else 0
  let blockWidth := if pads then widestOf (files.map fun file => style.blockText file.facts) else 0
  fun file =>
    (if style.numbers then toRight numberWidth (numberText file) ++ [' '] else []) ++
      (if style.spaces then toRight blockWidth (style.blockText file.facts) ++ [' '] else [])

/-- The lines of files with what is known of them. -/
def ListStyle.longLines (style : ListStyle) (fs : FileSystem) (files : List Listed) : Octets :=
  let frills := style.frills files
  let linkText (file : Listed) : Octets := natText (file.facts.links fs)
  let linkWidth := widestOf (files.map linkText)
  let devices := files.filterMap fun file => file.facts.deviceNumbers?
  let deviceWidths := (widestOf (devices.map fun numbers => natText numbers.1),
    widestOf (devices.map fun numbers => natText numbers.2))
  let sizeText (file : Listed) : Octets := style.sizeText deviceWidths file.facts
  let sizeWidth := widestOf (files.map sizeText)
  let timeWidth := widestOf (files.map fun file => style.timeText file.facts)
  files.flatMap fun file =>
    let arrow : Octets := match file.facts.entry with
      | .link target =>
        octets " -> " ++ style.nameText (octets target.text) ++ (file.target?.map style.mark).getD []
      | _ => style.mark file.facts
    frills file ++ entryLetter file.facts.entry :: modeText file.facts.node.mode ++ ' ' ::
      toRight linkWidth (linkText file) ++ ' ' ::
      (if style.owner then style.user ++ [' '] else []) ++
      (if style.group then style.user ++ [' '] else []) ++
      toRight sizeWidth (sizeText file) ++ ' ' :: toLeft timeWidth (style.timeText file.facts) ++
      ' ' :: style.nameText file.name ++ arrow ++ [style.lineEnd]

/-! ## Columns -/

/-- The least width of a column. -/
def leastColumn : Nat := 3

/-- The column of a text among so many, where texts fill so many columns. -/
def columnOf (isDown : Bool) (count columns index : Nat) : Nat :=
  if isDown then index / ((count + columns - 1) / columns) else index % columns

/-- The widths of so many columns that hold texts of given lengths. -/
def columnWidths (isDown : Bool) (lengths : List Nat) (columns : Nat) : List Nat :=
  let placed := lengths.zipIdx.map fun (length, index) =>
    let column := columnOf isDown lengths.length columns index
    (column, if column + 1 = columns then length else length + 2)
  (List.range columns).map fun column =>
    ((placed.filter fun held => held.1 = column).map Prod.snd).foldl max leastColumn

/-- How many columns fit into a width, at most so many. -/
def columnsThatFit (isDown : Bool) (width : Nat) (lengths : List Nat) : (most : Nat) → Nat
  | 0 => 1
  | most + 1 =>
    if (columnWidths isDown lengths (most + 1)).foldl (· + ·) 0 < width then most + 1
    else columnsThatFit isDown width lengths most

/-- The blanks from one place in a line to another one. -/
def blanksTo : (bound : Nat) → (place target : Nat) → Octets
  | 0, _, _ => []
  | bound + 1, place, target =>
    if target ≤ place then []
    else if (place + 1) / 8 < target / 8 then
      '\t' :: blanksTo bound (place + (8 - place % 8)) target
    else ' ' :: blanksTo bound (place + 1) target

/-- A line of texts in columns. -/
def columnLine : (place start : Nat) → (widths : List Nat) → List Octets → Octets
  | _, _, _, [] => []
  | _, _, _, [last] => last
  | place, start, widths, text :: rest =>
    let next := start + widths.headD leastColumn
    let place := place + text.length
    text ++ blanksTo (next + 1) place next ++ columnLine next next widths.tail rest

/-- Texts in columns within a width. -/
def inColumns (isDown : Bool) (width : Nat) (lineEnd : Char) (texts : List Octets) : Octets :=
  let lengths := texts.map List.length
  let most := min texts.length (max 1 ((width + leastColumn - 1) / leastColumn))
  let columns := if width = 0 then max 1 texts.length
    else columnsThatFit isDown width lengths most
  let widths := columnWidths isDown lengths columns
  let rows := (texts.length + columns - 1) / columns
  let rowOf (index : Nat) : Nat := if isDown then index % rows else index / columns
  (List.range rows).flatMap fun row =>
    let held := (texts.zipIdx.filter fun held => rowOf held.2 = row).map Prod.fst
    columnLine 0 0 widths held ++ [lineEnd]

/-- Texts with commas between them, on lines of a width. -/
def withCommas (width : Nat) : (place : Nat) → List Octets → Octets
  | _, [] => []
  | place, text :: rest =>
    let next := place + text.length
    match rest with
    | [] => text
    | following :: _ =>
      if width = 0 || next + following.length + 2 ≤ width then
        text ++ [',', ' '] ++ withCommas width (next + 2) rest
      else text ++ [',', '\n'] ++ withCommas width 0 rest

/-! ## Order -/

/-- The ending of a name, from its last dot on. -/
def endingOf (name : Octets) : Octets :=
  if name.contains '.' then '.' :: (name.reverse.takeWhile (· ≠ '.')).reverse else []

/-- Whether a file comes before another one or at the same place. -/
def ListOrder.precedes (order : ListOrder) (a b : Listed) : Bool :=
  let byName := isBefore a.name b.name
  match order with
  | .name => byName
  | .none => true
  | .size => decide (b.facts.size < a.facts.size) || (a.facts.size == b.facts.size && byName)
  | .time =>
    let one := a.facts.node.modified
    let other := b.facts.node.modified
    decide (other < one) || (one == other && byName)
  | .version =>
    match compareVersions a.name b.name with
    | .lt => true
    | .eq => byName
    | .gt => false
  | .ending =>
    let one := endingOf a.name
    let other := endingOf b.name
    decide (one < other) || (one == other && byName)

/-- **Files in the order in which they are listed.** -/
def ListStyle.sorted (style : ListStyle) (files : List Listed) : List Listed :=
  let sorted := if style.order = .none then files
    else
      let sorted := (files.mergeSort fun a b => isBefore a.name b.name).mergeSort style.order.precedes
      if style.reversed then sorted.reverse else sorted
  if style.foldersFirst then
    let (folders, others) := sorted.partition fun file =>
      file.facts.isFolder || file.target?.any Facts.isFolder
    folders ++ others
  else sorted

/-! ## Directories -/

/-- Files as they are listed. -/
def ListStyle.lines (style : ListStyle) (fs : FileSystem) (files : List Listed) : Octets :=
  let files := style.sorted files
  let frills := style.frills files
  let texts := files.map fun file => frills file ++ style.nameText file.name ++ style.mark file.facts
  match style.layout with
  | .long => style.longLines fs files
  | .single => texts.flatMap (· ++ [style.lineEnd])
  | .commas => if texts.isEmpty then [] else withCommas style.width 0 texts ++ [style.lineEnd]
  | .down => inColumns true style.width style.lineEnd texts
  | .across => inColumns false style.width style.lineEnd texts

/-- A file with what it leads to. -/
def listedFile (fs : FileSystem) (follows : Bool) (name path : Octets) : Except OsFault Listed :=
  let target? := (factsFound fs path).toOption
  let named := (factsNamed fs path).map fun facts => ⟨name, facts, target?⟩
  match follows, target? with
  | true, some facts => .ok ⟨name, facts, some facts⟩
  | _, _ => named

/-- Whether a name in a directory is listed. -/
def ListStyle.shows (style : ListStyle) (name : Octets) : Bool :=
  let fitsOne (patterns : List Octets) : Bool :=
    patterns.any fun pattern =>
      let letters := pattern.map fun c => (c, false)
      commonLooking.shows letters name && fits (patternOf letters) name
  (style.hidden || (name.head? != some '.' && !fitsOne style.concealed)) && !fitsOne style.ignored

/-- What is listed of the directory that a path leads to. -/
def ListStyle.inside (style : ListStyle) (fs : FileSystem) (folder : Octets) : List Listed :=
  let names := (namesAt fs folder).filter style.shows
  let names := if style.dots then ['.'] :: ['.', '.'] :: names else names
  names.filterMap fun name => (listedFile fs style.follows name (below folder name)).toOption

/-- A directory with what is in it, and those below it, at most so many levels deep. -/
def ListStyle.folders (style : ListStyle) (fs : FileSystem) : (levels : Nat) → List Octets →
    List (Octets × List Listed)
  | 0, _ => []
  | levels + 1, folders => folders.flatMap fun folder =>
    let inside := style.inside fs folder
    let deeper := (style.sorted inside).filterMap fun file =>
      if style.recursive && file.facts.isFolder && !isDots file.name then
        some (below folder file.name)
      else none
    (folder, inside) :: style.folders fs levels deeper

/-- What is written about a directory. -/
def ListStyle.folderText (style : ListStyle) (fs : FileSystem) (isHeaded : Bool)
    (folder : Octets) (inside : List Listed) : Octets :=
  let heading := if isHeaded then style.nameText folder ++ [':', '\n'] else []
  let space := inside.foldl (fun space file => space + file.facts.space) 0 * 1024
  let total := if style.layout = .long || style.spaces then
      octets "total " ++ style.blocks.text space ++ ['\n']
    else []
  heading ++ total ++ style.lines fs inside

/-! ## Options -/

/-- The options of `ls`. -/
def lsForms : List OptionForm :=
  [⟨'a', true, ["all"], .none⟩, ⟨'A', true, ["almost-all"], .none⟩,
    ⟨'b', true, ["escape"], .none⟩, ⟨'B', true, ["ignore-backups"], .none⟩, .short 'c' .none,
    .short 'C' .none, ⟨'d', true, ["directory"], .none⟩, .short 'f' .none, .short 'F' .none,
    ⟨'?', false, ["classify"], .optional⟩, ⟨'/', false, ["file-type"], .none⟩, .short 'g' .none,
    ⟨'^', false, ["group-directories-first"], .none⟩, ⟨'G', true, ["no-group"], .none⟩,
    ⟨'h', true, ["human-readable"], .none⟩, ⟨'!', false, ["si"], .none⟩,
    ⟨'H', true, ["dereference-command-line"], .none⟩,
    ⟨'<', false, ["dereference-command-line-symlink-to-dir"], .none⟩,
    ⟨'@', false, ["hide"], .required⟩, ⟨'=', false, ["indicator-style"], .required⟩,
    ⟨'i', true, ["inode"], .none⟩, ⟨'I', true, ["ignore"], .required⟩,
    ⟨'k', true, ["kibibytes"], .none⟩, ⟨'%', false, ["block-size"], .required⟩, .short 'l' .none,
    ⟨'L', true, ["dereference"], .none⟩, .short 'm' .none, ⟨'n', true, ["numeric-uid-gid"], .none⟩,
    ⟨'N', true, ["literal"], .none⟩, .short 'o' .none, .short 'p' .none,
    ⟨'q', true, ["hide-control-chars"], .none⟩, ⟨'$', false, ["show-control-chars"], .none⟩,
    ⟨'Q', true, ["quote-name"], .none⟩, ⟨'"', false, ["quoting-style"], .required⟩,
    ⟨'r', true, ["reverse"], .none⟩, ⟨'R', true, ["recursive"], .none⟩,
    ⟨'s', true, ["size"], .none⟩, .short 'S' .none, ⟨'>', false, ["sort"], .required⟩,
    ⟨':', false, ["time"], .required⟩, ⟨'~', false, ["time-style"], .required⟩,
    ⟨'+', false, ["full-time"], .none⟩, .short 't' .none, ⟨'T', true, ["tabsize"], .required⟩,
    .short 'u' .none, .short 'U' .none, .short 'v' .none, ⟨'w', true, ["width"], .required⟩,
    .short 'x' .none, .short 'X' .none, .short 'Z' .none, .short '1' .none,
    ⟨'0', false, ["zero"], .none⟩, ⟨'*', false, ["color"], .optional⟩,
    ⟨'_', false, ["author"], .none⟩, ⟨'&', false, ["format"], .required⟩]

/-- The layout that a word names. -/
def layoutOf : String → ListLayout
  | "long" | "verbose" => .long
  | "commas" => .commas
  | "vertical" => .down
  | "across" | "horizontal" => .across
  | _ => .single

/-- The layout that options ask for. -/
def layoutOfOptions (usual : ListLayout) (chosen : Chosen) : ListLayout :=
  chosen.options.foldl (fun layout (key, value) =>
    match key with
    | 'l' | 'g' | 'o' | 'n' | '+' => .long
    | 'm' => .commas
    | 'C' => .down
    | 'x' => .across
    -- what is known of the files is still shown
    | '1' => if layout = .long then layout else .single
    | '0' => if layout = .long then layout else .single
    | 'f' => if layout = .long then .single else layout
    | '&' => layoutOf (String.ofList value)
    | _ => layout) usual

/-- The order that options ask for. -/
def orderOfOptions (layout : ListLayout) (chosen : Chosen) : ListOrder :=
  let isTimed := layout ≠ .long && (chosen.has 'c' || chosen.has 'u' || chosen.has ':')
  let named : String → Option ListOrder := fun word =>
    [("none", ListOrder.none), ("size", .size), ("time", .time), ("version", .version),
      ("extension", .ending), ("name", .name)].lookup word
  let found? := (chosen.options.filterMap fun (key, value) =>
    match key with
    | 'S' => some ListOrder.size
    | 't' => some .time
    | 'v' => some .version
    | 'X' => some .ending
    | 'U' | 'f' => some .none
    | '>' => named (String.ofList value)
    | _ => none).getLast?
  found?.getD (if isTimed then .time else .name)

/-- The kinds that options ask to be marked. -/
def markingOfOptions (chosen : Chosen) : Marking :=
  let named : String → Marking := fun word =>
    match word with
    | "slash" => .folders
    | "file-type" => .kinds
    | "classify" => .all
    | _ => .none
  let found? := (chosen.options.filterMap fun (key, value) =>
    match key with
    | 'F' => some Marking.all
    | '?' => if ["", "always", "yes", "force"].contains (String.ofList value) then some .all
        else some .none
    | '/' => some .kinds
    | 'p' => some .folders
    | '=' => some (named (String.ofList value))
    | _ => none).getLast?
  found?.getD .none

/-- The quoting that options ask for. -/
def quotingOfOptions (usual : NameQuoting) (chosen : Chosen) : NameQuoting :=
  let named : String → NameQuoting := fun word =>
    match word with
    | "shell" | "shell-escape" => .shell
    | "shell-always" | "shell-escape-always" => .shellAlways
    | "c" | "c-maybe" => .doubled
    | "escape" => .escaped
    | _ => .literal
  let found? := (chosen.options.filterMap fun (key, value) =>
    match key with
    | 'b' => some NameQuoting.escaped
    | 'N' => some .literal
    | '0' => some .literal
    | 'Q' => some .doubled
    | '"' => some (named (String.ofList value))
    | _ => none).getLast?
  found?.getD usual

/-- The formats of times that options ask for, of those long ago and of others. -/
def timesOfOptions (chosen : Chosen) : Octets × Octets :=
  let usual := (octets "%b %e  %Y", octets "%b %e %H:%M")
  let named (word : Octets) : Octets × Octets :=
    match word with
    | '+' :: text =>
      match text.splitOn '\n' with
      | [old, recent] => (old, recent)
      | _ => (text, text)
    | word =>
      match String.ofList word with
      | "full-iso" => (octets "%Y-%m-%d %H:%M:%S.%N %z", octets "%Y-%m-%d %H:%M:%S.%N %z")
      | "long-iso" => (octets "%Y-%m-%d %H:%M", octets "%Y-%m-%d %H:%M")
      | "iso" => (octets "%Y-%m-%d ", octets "%m-%d %H:%M")
      | _ => usual
  let found? := (chosen.options.filterMap fun (key, value) =>
    match key with
    | '+' => some (named (octets "full-iso"))
    | '~' => some (named value)
    | _ => none).getLast?
  found?.getD usual

/-- The form of sizes that a word asks for. -/
def sizeFormOf (word : Octets) : SizeForm :=
  match String.ofList word with
  | "human-readable" => .scaled 1024
  | "si" => .scaled 1000
  | _ =>
    let digits := word.takeWhile Char.isDigit
    let count := if digits.isEmpty then 1 else digitsValue digits
    let unit := match String.ofList (word.drop digits.length) with
      | "K" | "k" | "KiB" => 1024
      | "M" | "MiB" => 1024 * 1024
      | "G" | "GiB" => 1024 * 1024 * 1024
      | "kB" | "KB" => 1000
      | "MB" => 1000000
      | _ => 1
    .units (max 1 (count * unit))

/-- The forms of sizes and of numbers of blocks that options ask for. -/
def sizesOfOptions (chosen : Chosen) : SizeForm × SizeForm :=
  let usual : SizeForm × SizeForm := (.units 1, .units 1024)
  chosen.options.foldl (fun forms (key, value) =>
    match key with
    | 'h' => (.scaled 1024, .scaled 1024)
    | '!' => (.scaled 1000, .scaled 1000)
    | '%' => (sizeFormOf value, sizeFormOf value)
    | _ => forms) usual

/-- **The style that options ask for.** -/
def styleOfOptions (layout : ListLayout) (quoting : NameQuoting) (now : Time) (width : Nat)
    (chosen : Chosen) : ListStyle :=
  let layout := layoutOfOptions layout chosen
  let (sizes, blocks) := sizesOfOptions chosen
  let valuesOf (key : Char) : List Octets :=
    (chosen.options.filter fun option => option.1 = key).map Prod.snd
  { layout := layout, order := orderOfOptions layout chosen, reversed := chosen.has 'r'
    foldersFirst := chosen.has '^'
    hidden := chosen.has 'a' || chosen.has 'A' || chosen.has 'f'
    dots := chosen.last? ['a', 'A', 'f'] = some 'a' || chosen.last? ['a', 'A', 'f'] = some 'f'
    ignored := (if chosen.has 'B' then [octets "*~", octets ".*~"] else []) ++ valuesOf 'I'
    concealed := valuesOf '@', asFiles := chosen.has 'd', recursive := chosen.has 'R' && !chosen.has 'd'
    marking := markingOfOptions chosen, quoting := quotingOfOptions quoting chosen
    masked := chosen.last? ['q', '$'] = some 'q', follows := chosen.has 'L'
    numbers := chosen.has 'i', spaces := chosen.has 's' && !chosen.has 'f'
    owner := !chosen.has 'g', group := !(chosen.has 'o' || chosen.has 'G')
    user := if chosen.has 'n' then ['0'] else octets "root"
    sizes := sizes, blocks := blocks, times := timesOfOptions chosen
    width := ((chosen.value? 'w').bind natOf?).getD width
    lineEnd := if chosen.has '0' then '\x00' else '\n', now := now }

/-! ## The program -/

/-- The status of `ls` where an operand is not there. -/
def listFailure : Nat := 2

/-- A file that an operand names. A link to a directory is followed if `followsFolders`, and any other one
if `follows`. -/
def listedOperand (fs : FileSystem) (follows followsFolders : Bool) (operand : Octets) :
    Except OsFault Listed :=
  match listedFile fs follows operand operand, factsFound fs operand with
  | found, .ok facts =>
    if followsFolders && facts.isFolder then .ok ⟨operand, facts, some facts⟩ else found
  | found, .error _ => found

/-- The usual width of lines. -/
def lineWidth : Nat := 80

/-- List what is in directories, in a layout and with a quoting unless others are asked for. -/
def listing (layout : ListLayout) (quoting : NameQuoting) : Program :=
  withOptions lsForms false listFailure fun _ name chosen => do
    let fs ← files
    let width := ((value? (← context) (octets "COLUMNS")).bind natOf?).getD lineWidth
    let style := styleOfOptions layout quoting fs.now width chosen
    let operands := if chosen.operands.isEmpty then [['.']] else chosen.operands
    let follows := chosen.has 'L' || chosen.has 'H'
    let followsFolders := chosen.has '<' ||
      !(style.asFiles || style.marking = .all || style.layout = .long)
    let (status, found) ← operands.foldlM (fun (status, found) operand => do
      match listedOperand fs follows followsFolders operand with
      | .ok file => return (status, found ++ [file])
      | .error fault =>
        tell name (faultText (octets "cannot access " ++ quotedAlways operand) fault)
        return (listFailure, found)) ((0, []) : Nat × List Listed)
    let (folders, single) := found.partition fun file => file.facts.isFolder && !style.asFiles
    let sections := style.folders fs (fs.depth + 1)
      ((style.sorted folders).map fun file => file.name)
    let isHeaded := style.recursive || operands.length > 1
    let texts := sections.map fun (folder, inside) => style.folderText fs isHeaded folder inside
    let parts := if single.isEmpty then texts else style.lines fs single :: texts
    return worse status (← emit name (joinWith ['\n'] parts))

/-- **List what is in directories.** Files are listed by their names. -/
def ls : Program := listing .single .literal

/-- List what is in directories in columns. -/
def dir : Program := listing .down .escaped

/-- List what is in directories with what is known of it. -/
def vdir : Program := listing .long .escaped

end Program

end Shell

end ComponentScaffold
