import ComponentScaffold.Shell.Extended.Braces
import ComponentScaffold.Shell.Extended.Form

/-! # Expansion of words

When a command is run, values are put in place of the parameters, commands and expressions in its words. A
value that is not quoted is split into fields, and a field that writes a pattern is replaced by the names of
the files that fit it.

* **`Shell.expandFields`** — the fields of a word.
* **`Shell.expandText`** — a word as one text.
* **`Shell.expandPattern`** — a word as a pattern. -/

namespace ComponentScaffold

namespace Shell

/-! ## Pieces -/

/-- A script that does no more than read a file, with something that writes it. -/
def writing (script : Script) : Script :=
  match script with
  | .simple line [] [] [.file 0 .read target] =>
    .simple line [] [Word.plain (octets "command"), Word.plain (octets "cat")] [.file inputDescriptor .read target]
  | script => script

/-- What a script writes, without the ends of lines at its end and without bytes that are zero. -/
def commandValue (engine : Engine) (script : Script) : Exec Octets := do
  let (text, status) ← capture engine (do
    let context ← context
    changeContext fun c => { c with level := c.level + 1 }
    if context.isExtended && !context.switches.contains "inherit_errexit" then
      changeContext fun c => { c with options := c.options.filter (· ≠ 'e') }
    engine.script false (if context.isExtended then writing script else script))
  changeContext fun c => { c with wordStatus := status }
  return ((text.filter (· ≠ '\x00')).reverse.dropWhile (· = '\n')).reverse

/-- The numbers from which down descriptors are used that no script names. -/
def firstHidden : Nat := 63

/-- The path of a descriptor from which what a script writes can be read. -/
def channelPath (engine : Engine) (script : Script) : Exec Octets := do
  let (text, _) ← capture engine (engine.script false script)
  let held := (← context).descriptors
  let isFree (descriptor : Nat) : Bool := (held.lookup descriptor).isNone
  let descriptor := ((List.range 50).map (firstHidden - ·)).find? isFree |>.getD firstHidden
  let channel ← newPipe (bytesOf text)
  changeContext fun c => { c with descriptors := (descriptor, channel) :: c.descriptors }
  return octets s!"/dev/fd/{descriptor}"

/-- The name of the variable that something is assigned to. -/
def assignmentName : Assignment → Octets
  | .text name _ _ _ => name
  | .entries name _ _ => name

/-- The atoms of a parameter. -/
def parameterAtoms (manner : Manner) (parameter : Parameter) (quoted : Bool) : Exec (List Atom) := do
  let context ← context
  match parameter with
  | .arguments joined => return argumentAtoms context manner joined quoted
  | _ =>
    let value := parameterValue? context parameter
    requireSet parameter value
    return valueAtoms quoted (value.getD [])

/-- The atoms of a parameter with a fallback. -/
def fallbackAtoms (inner : Inner) (manner : Manner) (parameter : Parameter) (what : Fallback)
    (orEmpty : Bool) (word : Word) (quoted : Bool) : Exec (List Atom) := do
  let value := parameterValue? (← context) parameter
  let isThere := value.any fun value => !(orEmpty && value.isEmpty)
  let within : Manner := ⟨manner.splits, manner.splits && !quoted, false⟩
  match what with
  | .instead => if isThere then inner within word else return []
  | .other => if isThere then parameterAtoms manner parameter quoted else inner within word
  | .assign =>
    if isThere then parameterAtoms manner parameter quoted
    else match parameter with
      | .variable name =>
        let text := atomsText (← inner ⟨false, false, false⟩ word)
        assign name text false
        return valueAtoms quoted text
      | _ => fail (octets "Bad substitution")
  | .complain =>
    if isThere then parameterAtoms manner parameter quoted
    else
      let text := atomsText (← inner ⟨false, false, false⟩ word)
      let text := if word.isEmpty then octets (missing orEmpty) else text
      fail (parameter.label ++ octets ": " ++ text)

/-- The atoms of a piece. -/
def pieceAtoms (engine : Engine) (inner : Inner) (manner : Manner) : Piece → Exec (List Atom)
  | .char c quoted =>
    return [if manner.isLoose && !quoted then .loose c else .char c quoted]
  | .quotes => return [.start]
  | .parameter parameter quoted => parameterAtoms manner parameter quoted
  | .length parameter quoted => do
    let value := parameterValue? (← context) parameter
    requireSet parameter value
    return valueAtoms quoted (natText (value.getD []).length)
  | .fallback parameter what orEmpty word quoted =>
    fallbackAtoms inner manner parameter what orEmpty word quoted
  | .trimmed parameter atEnd longest pattern quoted => do
    let value := parameterValue? (← context) parameter
    requireSet parameter value
    let pattern ← patternWord inner pattern
    if parameter = .arguments false && quoted && manner.splits then
      return fieldAtoms (dropFittingAmong pattern atEnd longest (← context).arguments)
    return valueAtoms quoted (dropFitting pattern atEnd longest (value.getD []))
  | .broken text =>
    if text.isEmpty then fail (octets "Bad substitution") else fail (text ++ octets ": bad substitution")
  | .formed subject form _ quoted => formAtoms inner manner subject form quoted
  | .channel script => return valueAtoms true (← channelPath engine script)
  | .assigned assignment => return valueAtoms false (assignmentName assignment)
  | .command script quoted => return valueAtoms quoted (← commandValue engine script)
  | .arithmetic expression quoted => do
    let text := atomsText (← inner ⟨false, false, false⟩ expression)
    return valueAtoms quoted (intText (← evaluateText text))

/-- The atoms of a word, whose words inside words are at most the given number of levels deep. -/
def wordAtoms (engine : Engine) : (levels : Nat) → Inner
  | 0 => fun _ _ => return []
  | levels + 1 => fun manner word => do
    let word := replaceTildes (← context) manner.isValue word
    let atoms ← word.mapM (pieceAtoms engine (wordAtoms engine levels) manner)
    return atoms.flatten

/-- How deep words can be inside words. -/
def wordLevels : Nat := 200

/-! ## Fields -/

/-- A field that is being gathered, last letter first, if it is one already. -/
abbrev OpenField := Option (List Lettered)

/-- The field that has been gathered. -/
def closeField (field : OpenField) : List (List Lettered) := field.toList.map List.reverse

/-- **The fields of atoms** after what was gathered. Right behind a separator `behind` says so, and
whether another one that is no blank may still belong to it. -/
def splitFields (separators : Octets) : (field : OpenField) → (behind : Option Bool) →
    List Atom → List (List Lettered)
  | field, _, [] => closeField field
  | field, _, .char c quoted :: rest =>
    splitFields separators (some ((c, quoted) :: field.getD [])) none rest
  | field, _, .start :: rest => splitFields separators (some (field.getD [])) none rest
  | field, _, .parting :: rest => closeField field ++ splitFields separators none none rest
  | field, _, .gap :: rest => closeField field ++ splitFields separators none (some true) rest
  | field, behind, .loose c :: rest =>
    let isBlank := c == ' ' || c == '\t' || c == '\n'
    if !separators.contains c then
      splitFields separators (some ((c, false) :: field.getD [])) none rest
    else if isBlank && (field.isNone || behind.isSome) then splitFields separators field behind rest
    else if behind = some true then splitFields separators field (some false) rest
    else (field.getD []).reverse :: splitFields separators none (some isBlank) rest

/-! ## Names of files -/

/-- A part of a pattern between slashes, and the slashes behind it. -/
structure Level where
  /-- The letters of the part. -/
  letters : List Lettered
  /-- The slashes behind it. -/
  slashes : Octets

/-- The parts of a pattern between slashes, of which at most the given number are cut off. -/
def levelsOf : (bound : Nat) → List Lettered → List Level
  | 0, _ => []
  | _ + 1, [] => []
  | bound + 1, letters =>
    let isSlash (letter : Lettered) : Bool := letter.1 == '/'
    let part := letters.takeWhile fun letter => !isSlash letter
    let behind := letters.drop part.length
    let slashes := behind.takeWhile isSlash
    ⟨part, slashes.map Prod.fst⟩ :: levelsOf bound (behind.drop slashes.length)

/-- Whether letters write more than themselves in a style. -/
def hasPatternIn (style : PatternStyle) (letters : List Lettered) : Bool :=
  hasPattern letters || (style.hasGroups &&
    (patternIn style letters).any fun part => part matches .group _ _)

/-- The names in the directory that a text leads to. -/
def namesAt (files : FileSystem) (folder : Octets) : List Octets :=
  match files.directoryAt (pathOf (if folder.isEmpty then ['.'] else folder)) with
  | .ok place? => (files.namesIn place?).map octets
  | .error _ => []

/-- How names of files are looked for. -/
structure Looking where
  /-- How patterns are written. -/
  style : PatternStyle
  /-- Whether names that start with a dot are as good as others. -/
  dots : Bool
  /-- Whether the names of the directory itself and of the one above it are left out. -/
  skipsSelf : Bool
  /-- Whether two stars stand for any number of directories. -/
  deep : Bool

/-- How names of files are looked for in the common dialect. -/
def commonLooking : Looking := ⟨.common, false, false, false⟩

/-- How names of files are looked for in a context. -/
def lookingFor (context : Context) : Looking :=
  let has (name : String) : Bool := context.isExtended && context.switches.contains name
  ⟨patternStyle context, has "dotglob", has "globskipdots", has "globstar"⟩

/-- Whether a name may fit a pattern: one that starts with a dot does only if the pattern says so. -/
def Looking.shows (looking : Looking) (letters : List Lettered) (name : Octets) : Bool :=
  let isSelf := name = ['.'] || name = ['.', '.']
  let isNamed := (letters.head?.map Prod.fst) == some '.'
  if isSelf then isNamed && !looking.skipsSelf
  else looking.dots || name.head? != some '.' || isNamed

/-- The greatest depth of directories that are gone through. -/
def maxFolders : Nat := 64

/-- The directories below one, at most so many levels deep. Links are not followed. -/
def foldersBelow (files : FileSystem) (looking : Looking) : (levels : Nat) → (before : Octets) → List Octets
  | 0, _ => []
  | levels + 1, before =>
    let names := (namesAt files before).filter (looking.shows [])
    let isFolder (name : Octets) : Bool :=
      match files.findName (pathOf (before ++ name)) with
      | .ok (_, .directory) => true
      | _ => false
    (names.filter isFolder).flatMap fun name =>
      (before ++ name) :: foldersBelow files looking levels (before ++ name ++ ['/'])

/-- The texts by which a text goes on along a part of a pattern. -/
def descend (files : FileSystem) (looking : Looking) (isLast : Bool) (level : Level) (before : Octets) :
    List Octets :=
  if looking.deep && level.letters = [('*', false), ('*', false)] then
    let folders := foldersBelow files looking maxFolders before
    if !level.slashes.isEmpty then
      let below := folders.map (· ++ level.slashes)
      if isLast then below else before :: below
    else if !isLast then before :: folders.map (· ++ ['/'])
    else
      let inside := (before :: folders.map (· ++ ['/'])).flatMap fun place =>
        ((namesAt files place).filter (looking.shows level.letters)).map (place ++ ·)
      if before.isEmpty then inside else before :: inside
  else if hasPatternIn looking.style level.letters then
    let pattern := patternIn looking.style level.letters
    let names := (['.'] :: ['.', '.'] :: namesAt files before).filter fun name =>
      looking.shows level.letters name && fits pattern name
    let found := names.map fun name => before ++ name
    (if isLast && level.slashes.isEmpty then found
      else found.filter fun path => files.isDirectory (pathOf path)).map (· ++ level.slashes)
  else [before ++ level.letters.map Prod.fst ++ level.slashes]

/-- The texts that the parts of a pattern lead to. -/
def descendAll (files : FileSystem) (looking : Looking) : List Level → List Octets → List Octets
  | [], found => found
  | level :: rest, found =>
    descendAll files looking rest (found.flatMap (descend files looking rest.isEmpty level))

/-- Whether a path names something, which may be a link that leads nowhere. -/
def isNamed (files : FileSystem) (path : Octets) : Bool :=
  match files.resolve (pathOf path) .name with
  | .ok (.entry _ _) => true
  | .ok (.removed _) => true
  | _ => false

/-- **The names of the files that fit a pattern**, in order. -/
def fileNames (files : FileSystem) (looking : Looking) (letters : List Lettered) : List Octets :=
  let found := descendAll files looking (levelsOf (letters.length + 1) letters) [[]]
  (found.filter (isNamed files)).mergeSort isBefore

/-- What a field gives: the names of files, or if there are none its own text, unless that is to vanish or is
refused. -/
def fieldTexts (field : List Lettered) : Exec (List Octets) := do
  let context ← context
  let fs ← files
  let text := field.map Prod.fst
  let looking := lookingFor context
  if context.has 'f' || !hasPatternIn looking.style field then return [text]
  match fileNames fs looking field with
  | [] =>
    if context.switches.contains "failglob" then fail (octets "no match: " ++ text)
    return if context.switches.contains "nullglob" then [] else [text]
  | names => return names

/-! ## Words -/

/-- **The fields of a word.** -/
def expandFields (engine : Engine) (word : Word) : Exec (List Octets) := do
  let atoms ← wordAtoms engine wordLevels ⟨true, false, false⟩ word
  (splitFields (separators (← context)) none none atoms).flatMapM fieldTexts

/-- **A word as one text.** -/
def expandText (engine : Engine) (word : Word) : Exec Octets := do
  return atomsText (← wordAtoms engine wordLevels ⟨false, false, false⟩ word)

/-- The value of an assignment as one text. -/
def expandValue (engine : Engine) (word : Word) : Exec Octets := do
  return atomsText (← wordAtoms engine wordLevels ⟨false, false, true⟩ word)

/-- **A word as a pattern.** -/
def expandPattern (engine : Engine) (word : Word) : Exec (List PatternPart) := do
  patternWord (wordAtoms engine wordLevels) word

end Shell

end ComponentScaffold
