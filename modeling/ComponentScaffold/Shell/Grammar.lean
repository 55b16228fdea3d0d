import ComponentScaffold.Shell.Extended.Asking

/-! # Reading commands

The rules by which tokens make up scripts. A rule is given the rules for what stands inside, so that each
of them is an ordinary function; `Shell.rules` puts them together, as deep as a text can be nested.

* **`Shell.readUnit`** — the next commands of a text up to the end of a line. -/

namespace ComponentScaffold

namespace Shell

/-- How far a list of commands goes. -/
inductive ListKind
  /-- To the end of the line. -/
  | line
  /-- To what ends it, after at least one command. -/
  | inner
  /-- To what ends it. -/
  | innerOrEmpty
deriving DecidableEq, Repr

/-- What reads the scripts inside others. -/
structure Rules where
  /-- Reads a list of commands. -/
  list : ListKind → Read Script
  /-- Reads a single command. -/
  command : Read Script

namespace Rules

/-! ## Tokens and here-documents -/

/-- What reads the scripts in words. The token after such a script is found without rules of its own. -/
def nested (rules : Rules) : Nested where
  script := rules.list .innerOrEmpty
  token := readAnyToken ⟨refuse "", refuse ""⟩ false

/-- The line that a text starts with, and the rest, if the text has not ended. -/
def cutLine? (text : Octets) : Option (Octets × Octets) :=
  if text.isEmpty then none
  else some (text.takeWhile (· ≠ '\n'), (text.dropWhile (· ≠ '\n')).tail)

/-- Whether a line goes on behind its end. -/
def isJoined (line : Octets) : Bool := (line.reverse.takeWhile (· = '\\')).length % 2 == 1

/-- The text of a here-document up to its last line, the rest of the script, and how many lines were
read, given whether the line before goes on. -/
def cutDocument (announced : Announced) : (bound : Nat) → (joined : Bool) → Octets →
    Octets × Octets × Nat
  | 0, _, text => ([], text, 0)
  | bound + 1, joined, text =>
    match cutLine? text with
    | none => ([], [], 0)
    | some (line, rest) =>
      let ended := text.contains '\n'
      let line := if announced.indented then line.dropWhile (· = '\t') else line
      if line = announced.mark && !joined then ([], rest, 1)
      else
        let (body, rest, lines) :=
          cutDocument announced bound (!announced.verbatim && isJoined line) rest
        (line ++ (if ended then ['\n'] else []) ++ body, rest, lines + 1)

/-- Read a here-document that was announced. -/
def readDocument (rules : Rules) (announced : Announced) : Read Unit := do
  let before ← get
  let (body, rest, lines) := cutDocument announced (before.rest.length + 1) false before.rest
  let word ← if announced.verbatim then pure (body.map fun c => Piece.char c true) else do
    set { before with rest := body, isBack := false, announced := [] }
    readPieces rules.nested (2 * body.length + 2) .document
  modify fun reading =>
    { before with
      rest := rest
      line := before.line + lines
      documents := reading.documents.setIfInBounds announced.index word }

/-- Read the here-documents that were announced. -/
def readDocuments (rules : Rules) : Read Unit := do
  let announced := (← get).announced
  modify fun reading => { reading with announced := [] }
  announced.forM rules.readDocument

/-- The next token that is no end of a line. -/
def tokenPastLines (rules : Rules) : (bound : Nat) → Token → Read Token
  | 0, token => return token
  | bound + 1, .newline => do
    rules.readDocuments
    let token ← readAnyToken rules.nested false
    rules.tokenPastLines bound token
  | _ + 1, token => return token

/-- The other word for a command, if it is not being read already. -/
def alias? (name : Octets) : Read (Option Octets) := do
  let reading ← get
  let isReplaced := reading.replacing.any fun (held, behind) =>
    held = name && behind ≤ reading.rest.length
  return if isReplaced then none else reading.aliases.lookup name

/-- Whether another word for a command has been read to its end since so many characters were left, and ends
in a blank: then the word behind it may be one as well. -/
def endsInBlank (before : Nat) : Read Bool := do
  let reading ← get
  return reading.replacing.any fun (name, behind) =>
    behind < before && reading.rest.length < behind &&
      ((reading.aliases.lookup name).bind List.getLast?).any fun c => c = ' ' || c = '\t'

/-- A token, or what stands there in the place of a word for a command if `aliases` says so: at most the given
number of times another word is read for it. -/
def replaceAlias (rules : Rules) (keywords aliases : Bool) : (bound : Nat) → Token → Read Token
  | 0, token => return token
  | bound + 1, token => do
    match token with
    | .word word false =>
      match word.plainText? with
      | none => return token
      | some name =>
        if keywords && (← get).dialect.reservedWords.contains (String.ofList name) then
          modify fun reading => { reading with last := .reserved (String.ofList name) }
          return .reserved (String.ofList name)
        let value? ← if aliases then alias? name else pure none
        match value? with
        | none => return token
        | some value =>
          modify fun reading =>
            { reading with
              rest := value ++ reading.rest
              replacing := (name, reading.rest.length) :: reading.replacing }
          let token ← readAnyToken rules.nested false
          replaceAlias rules keywords aliases bound token
    | _ => return token

/-- The next token, where a word may assign something if `assigns` says so. -/
def tokenFor (rules : Rules) (lines keywords assigns : Bool) : Read Token := do
  let before ← left
  modify fun reading => { reading with mayAssign := assigns }
  let token ← readAnyToken rules.nested false
  let token ← if lines then rules.tokenPastLines (← left).succ token else pure token
  modify fun reading => { reading with mayAssign := false }
  let aliases := keywords || (← endsInBlank before)
  rules.replaceAlias keywords aliases ((← get).aliases.length + 1) token

/-- **The next token.** Ends of lines are passed over if `lines` says so, and a word may be a reserved one
if `keywords` says so. -/
def token (rules : Rules) (lines keywords : Bool) : Read Token := rules.tokenFor lines keywords keywords

/-- Read the token that has to follow. -/
def expect (rules : Rules) (lines : Bool) (expected : Token) : Read Unit := do
  let found ← rules.token lines true
  if found.name ≠ expected.name then unexpected (some expected)

/-! ## Redirections -/

/-- A redirection of the standard error to where the standard output goes. -/
def errorToOutput : Redirect := .duplicate errorDescriptor (Word.plain (natText outputDescriptor))

/-- The redirections of the standard output and the standard error to a file. -/
def bothTo (appends : Bool) (target : Word) : List Redirect :=
  [.file outputDescriptor (if appends then .append else .write false) target, errorToOutput]

/-- Whether a word tells a descriptor, as far as that can be seen in it. -/
def tellsDescriptor (word : Word) : Bool :=
  match word.plainText? with
  | some text => text.all fun c => c.isDigit || c = '-'
  | none => true

/-- The redirections that a token begins. -/
def readRedirect (rules : Rules) (descriptor : Nat) (kind : RedirectKind) : Read (List Redirect) := do
  let isMark := kind matches .document _
  match ← readAnyToken rules.nested isMark with
  | .word word quoted =>
    match kind with
    | .file mode => return [.file descriptor mode word]
    | .text => return [.text descriptor word]
    | .both appends => return bothTo appends word
    | .duplicate =>
      if (← isExtended) && descriptor = outputDescriptor && !tellsDescriptor word then
        return bothTo false word
      return [.duplicate descriptor word]
    | .document indented =>
      let index := (← get).documents.size
      modify fun reading =>
        { reading with
          documents := reading.documents.push []
          announced := reading.announced ++ [⟨word.markText, indented, quoted, index⟩] }
      return [.document descriptor index]
  | _ => unexpected none

/-- The redirections that follow a command. -/
def readRedirects (rules : Rules) : (bound : Nat) → Read (List Redirect)
  | 0 => return []
  | bound + 1 => do
    match ← rules.token false true with
    | .redirect descriptor kind =>
      let redirects ← rules.readRedirect descriptor kind
      return redirects ++ (← rules.readRedirects bound)
    | _ =>
      putBack
      return []

/-- A command with the redirections that follow it. -/
def withRedirects (rules : Rules) (line : Nat) (body : Script) : Read Script := do
  match ← rules.readRedirects (← left).succ, body with
  | [], body => return body
  | redirects, .enclosed line body _ => return .enclosed line body redirects
  | redirects, body => return .redirected line body redirects

/-! ## Simple commands -/

/-- The parts of a simple command read so far, last to first. -/
structure SimpleParts where
  /-- The variables that are assigned. -/
  assignments : List Assignment
  /-- The words. -/
  words : List Word
  /-- The redirections. -/
  redirects : List Redirect

/-- Names of utilities that no function can have. -/
def specialNames : List String :=
  [".", ":", "break", "continue", "eval", "exec", "exit", "export", "readonly", "return", "set",
    "shift", "times", "trap", "unset"]

/-- The names of the utilities whose arguments can be assignments of all kinds. -/
def declaringNames : List String := ["declare", "typeset", "local", "export", "readonly"]

/-- Whether a word can assign something behind those read so far, the last of which stands first. -/
def mayAssignBehind (words : List Word) : Bool :=
  words.isEmpty || words.any fun word =>
    word.plainText?.any fun text => declaringNames.contains (String.ofList text)

/-- The function of a name, after the parentheses. -/
def readBody (rules : Rules) (name : Word) : Read Script := do
  let extended ← isExtended
  match name.plainText? with
  | some text =>
    if !extended && (!isName text || specialNames.contains (String.ofList text)) then
      refuse "Bad function name"
    let line := (← get).line
    return .define line text (← rules.command)
  | none => if extended then unexpected none else refuse "Bad function name"

/-- The function whose name was read, after its opening parenthesis. -/
def readFunction (rules : Rules) (name : Word) : Read Script := do
  if !(← rules.token false false).isOperator ")" then unexpected (some (.operator ")"))
  rules.readBody name

/-- The function behind the word that announces it. -/
def readAnnounced (rules : Rules) : Read Script := do
  match ← rules.token false false with
  | .word name _ =>
    if (← rules.token false false).isOperator "(" then
      if !(← rules.token false false).isOperator ")" then unexpected none
    else putBack
    rules.readBody name
  | _ => unexpected none

/-- Whether a single part has been read. -/
def SimpleParts.isSingle (parts : SimpleParts) : Bool :=
  parts.assignments.length + parts.words.length + (if parts.redirects.isEmpty then 0 else 1) = 1

/-- The line of a simple command: in the extended dialect the one that is reached behind its first part, where a
token stands. -/
def lineBehind (line : Nat) (parts : SimpleParts) (token : Token) : Read Nat := do
  if !(← isExtended) || !parts.isSingle then return line
  let reached := (← get).line
  return if token matches .newline then reached - 1 else reached

/-- The rest of a simple command. -/
def readSimple (rules : Rules) (line : Nat) : (bound : Nat) → SimpleParts → Read Script
  | 0, _ => refuse "command too long"
  | bound + 1, parts => do
    let token ← rules.tokenFor false false (mayAssignBehind parts.words)
    let line ← lineBehind line parts token
    match token with
    | .word word _ =>
      match if parts.words.isEmpty then Word.assignment? word else none with
      | some assignment =>
        rules.readSimple line bound { parts with assignments := assignment :: parts.assignments }
      | none => rules.readSimple line bound { parts with words := word :: parts.words }
    | .redirect descriptor kind =>
      let redirects ← rules.readRedirect descriptor kind
      rules.readSimple line bound { parts with redirects := redirects.reverse ++ parts.redirects }
    | token =>
      match token.isOperator "(", parts with
      | true, ⟨[], [name], []⟩ => rules.readFunction name
      | _, _ =>
        putBack
        return .simple line parts.assignments.reverse parts.words.reverse parts.redirects.reverse

/-! ## Compound commands -/

/-- The branches of a choice by success, up to the word that ends it. -/
def readBranches (rules : Rules) : (bound : Nat) → Read Script
  | 0 => refuse "command too long"
  | bound + 1 => do
    let condition ← rules.list .inner
    rules.expect false (.reserved "then")
    let yes ← rules.list .inner
    let token ← rules.token false true
    if token.isReserved "elif" then
      return .branch condition yes (← rules.readBranches bound)
    if token.isReserved "else" then
      return .branch condition yes (← rules.list .inner)
    putBack
    return .branch condition yes .nothing

/-- The words up to another token, and that token. -/
def readWords (rules : Rules) : (bound : Nat) → Read (List Word × Token)
  | 0 => refuse "command too long"
  | bound + 1 => do
    match ← rules.token false false with
    | .word word _ =>
      let (words, token) ← rules.readWords bound
      return (word :: words, token)
    | token => return ([], token)

/-- What a loop does in each round. -/
def readRound (rules : Rules) : Read Script := do
  let token ← rules.token true true
  if (← isExtended) && token.isReserved "\x7b" then
    let body ← rules.list .inner
    rules.expect false (.reserved "\x7d")
    return body
  if !token.isReserved "do" then unexpected (some (.reserved "do"))
  let body ← rules.list .inner
  rules.expect false (.reserved "done")
  return body

/-- A loop over words, after the word that begins it. -/
def readEach (rules : Rules) (line : Nat) : Read Script := do
  let token ← rules.token false false
  let name? := match token with
    | .word word false => word.plainText?.filter isName
    | _ => none
  match name? with
  | none =>
    if ← isExtended then
      match token with
      | .word _ _ => stop (.told (octets "\x60" ++ (← get).lastText ++ octets "': not a valid identifier"))
      | _ => unexpected none
    refuse "Bad for loop variable"
  | some name =>
    let values ← do
      if (← rules.token true true).isReserved "in" then
        let (words, token) ← rules.readWords (← left).succ
        match token with
        | .newline => rules.readDocuments
        | token => if !token.isOperator ";" then unexpected none
        pure words
      else
        if !(← get).last.isOperator ";" then putBack
        pure [[Piece.parameter (.arguments false) true]]
    return .each line name values (← rules.readRound)

/-- The parts of an expression between semicolons. -/
def cutExpression (expression : Word) : List Word :=
  expression.splitOnP fun piece => piece matches .char ';' _

/-- What reads the pieces of words. -/
def pieces (rules : Rules) : PieceReader := fun inside => do
  readPieces rules.nested (2 * (← left) + 2) inside

/-- A loop by expressions, after the parentheses that open them. -/
def readCounted (rules : Rules) (line : Nat) : Read Script := do
  match cutExpression (← rules.pieces (.expression 0)) with
  | [first, condition, step] =>
    let token ← rules.token true true
    if !token.isOperator ";" then putBack
    return .counted line first condition step (← rules.readRound)
  | _ => stop (.told (octets "syntax error: arithmetic expression required"))

/-- Whether two parentheses start here, which are passed over: only the second one is still there if one was
read. -/
def dropParentheses (wasRead : Bool) : Read Bool := do
  if !(← isExtended) then return false
  let (rest, _) := skipJoints (← get).rest
  let rest := if wasRead then rest else rest.dropWhile fun c => c = ' ' || c = '\t'
  let marks : Octets := if wasRead then ['('] else ['(', '(']
  if marks.isPrefixOf rest && !(← get).isBack then
    modify fun reading => { reading with rest := rest.drop marks.length }
    return true
  return false

/-- The word of a pattern. A token that is none has no text. -/
def patternOf : Token → Word
  | .word word _ => word
  | .reserved text => Word.plain text.toList
  | _ => []

/-- The patterns of a clause up to the parenthesis that closes them, of which the first token was
read. -/
def readPatterns (rules : Rules) : (bound : Nat) → Token → Read (List Word)
  | 0, _ => refuse "command too long"
  | bound + 1, token => do
    let next ← rules.token false false
    if next.isOperator "|" then
      return patternOf token :: (← rules.readPatterns bound (← rules.token false false))
    if !next.isOperator ")" then unexpected (some (.operator ")"))
    return [patternOf token]

/-- The clauses of a choice by pattern about a word, up to and with the word that ends it. A clause can go on with
what the next one does, or with the clauses behind it. -/
def readClauses (rules : Rules) (line : Nat) (subject : Word) :
    (bound : Nat) → Read (List (List Word × Script))
  | 0 => refuse "command too long"
  | bound + 1 => do
    let token ← rules.token true true
    if token.isReserved "esac" then return []
    let first ← if token.isOperator "(" then rules.token false false else pure token
    let patterns ← rules.readPatterns (← left).succ first
    let body ← rules.list .innerOrEmpty
    let next ← rules.token true true
    if next.isReserved "esac" then return [(patterns, body)]
    let clauses ← if [";;", ";&", ";;&"].any next.isOperator then rules.readClauses line subject bound
      else unexpected (some (.operator ";;"))
    let whole : Script :=
      if next.isOperator ";&" then
        match clauses with
        | (_, behind) :: _ => .sequence body behind
        | [] => body
      else if next.isOperator ";;&" then .sequence body (.choice line subject clauses)
      else body
    return (patterns, whole) :: clauses

/-- **A single command.** -/
def readCommand (rules : Rules) (lines : Bool) : Read Script := do
  let line := (← get).line
  match ← rules.token lines true with
  | .reserved "if" =>
    let body ← rules.readBranches (← left).succ
    rules.expect false (.reserved "fi")
    rules.withRedirects line body
  | .reserved "while" =>
    let condition ← rules.list .inner
    rules.expect false (.reserved "do")
    let body ← rules.list .inner
    rules.expect false (.reserved "done")
    rules.withRedirects line (.loop false condition body)
  | .reserved "until" =>
    let condition ← rules.list .inner
    rules.expect false (.reserved "do")
    let body ← rules.list .inner
    rules.expect false (.reserved "done")
    rules.withRedirects line (.loop true condition body)
  | .reserved "for" =>
    let body ← if ← dropParentheses false then rules.readCounted line else rules.readEach line
    rules.withRedirects line body
  | .reserved "function" => rules.readAnnounced
  | .reserved "[[" =>
    let question ← readQuestion rules.pieces
    rules.withRedirects line (.question line question)
  | .reserved "case" =>
    match ← rules.token false false with
    | .word subject _ =>
      rules.expect true (.reserved "in")
      let clauses ← rules.readClauses line subject (← left).succ
      rules.withRedirects line (.choice line subject clauses)
    | _ => unexpected (some (.word [] false))
  | .reserved "\x7b" =>
    let body ← rules.list .inner
    rules.expect false (.reserved "\x7d")
    rules.withRedirects line body
  | .operator "(" =>
    let before ← get
    let expression? ← if ← dropParentheses true then
        tryCatch (return some (← rules.pieces (.expression 0))) fun _ => return none
      else pure none
    if let some expression := expression? then
      return ← rules.withRedirects line (.compute line expression)
    set before
    let body ← rules.list .inner
    rules.expect false (.operator ")")
    rules.withRedirects line (.enclosed line body [])
  | .word _ _ | .redirect _ _ =>
    putBack
    rules.readSimple (← get).line ((← left) + 2) ⟨[], [], []⟩
  | _ => unexpected none

/-! ## Lists of commands -/

/-- The further stages of a pipeline, each with whether the one before it joins its outputs. -/
def readStages (rules : Rules) : (bound : Nat) → Read (List (Bool × Script))
  | 0 => refuse "command too long"
  | bound + 1 => do
    let token ← rules.token false false
    if token.isOperator "|" || token.isOperator "|&" then
      let stage ← rules.readCommand true
      return (token.isOperator "|&", stage) :: (← rules.readStages bound)
    putBack
    return []

/-- A script whose standard error goes where its standard output goes. -/
def joined (line : Nat) : Script → Script
  | .simple line assignments words redirects =>
    .simple line assignments words (redirects ++ [errorToOutput])
  | .enclosed line body redirects => .enclosed line body (redirects ++ [errorToOutput])
  | .redirected line body redirects => .redirected line body (redirects ++ [errorToOutput])
  | body => .redirected line body [errorToOutput]

/-- The stages of a pipeline, of which some join their outputs, as is told behind them. -/
def stagesOf (line : Nat) : (first : Script) → List (Bool × Script) → List Script
  | first, [] => [first]
  | first, (joins, next) :: rest =>
    (if joins then joined line first else first) :: stagesOf line next rest

/-- Commands joined by pipes, perhaps with their success turned around. -/
def readPipeline (rules : Rules) (lines : Bool) : Read Script := do
  let isNegated := (← rules.token lines true).isReserved "!"
  if !isNegated then putBack
  let first ← rules.readCommand false
  let body ← match ← rules.readStages (← left).succ with
    | [] => pure first
    | stages => pure (.pipeline (stagesOf (← get).line first stages))
  return if isNegated then .negation body else body

/-- A script together with the commands that follow by its success or failure. -/
def readFurther (rules : Rules) : (bound : Nat) → Script → Read Script
  | 0, _ => refuse "command too long"
  | bound + 1, first => do
    let token ← rules.token false false
    if token.isOperator "&&" then
      rules.readFurther bound (.both first (← rules.readPipeline true))
    else if token.isOperator "||" then
      rules.readFurther bound (.either first (← rules.readPipeline true))
    else
      putBack
      return first

/-- Commands of which each follows by the success or failure of those before it. -/
def readConditional (rules : Rules) : Read Script := do
  rules.readFurther ((← left) + 2) (← rules.readPipeline false)

/-- A script after the commands before it, if there are any. -/
def after (before : Option Script) (script : Script) : Script :=
  match before with
  | none => script
  | some before => .sequence before script

/-- A list of commands, after those read so far. There is none if the text ends right away. -/
def readList (rules : Rules) : (bound : Nat) → ListKind → Option Script → Read (Option Script)
  | 0, _, _ => refuse "command too long"
  | bound + 1, kind, before => do
    let isLine := kind = .line
    match ← rules.token (!isLine) true with
    | .newline =>
      rules.readDocuments
      return some (before.getD .nothing)
    | .eof =>
      rules.readDocuments
      modify fun reading => { reading with last := .eof }
      putBack
      return if isLine then before else some (before.getD .nothing)
    | token =>
      putBack
      if kind = .innerOrEmpty && token.endsList then return some (before.getD .nothing)
      let script ← rules.readConditional
      let token ← rules.token false false
      let script := after before (if token.isOperator "&" then .background script else script)
      let onward : ListKind := if isLine then .line else .innerOrEmpty
      if token.isOperator ";" || token.isOperator "&" then rules.readList bound onward (some script)
      else match token with
        | .newline =>
          putBack
          rules.readList bound onward (some script)
        | .eof =>
          putBack
          rules.readList bound onward (some script)
        | _ =>
          if isLine then unexpected none
          putBack
          return some script

end Rules

/-- **The rules**, for scripts inside others at most the given number of levels deep. -/
def rules : (levels : Nat) → Rules
  | 0 => ⟨fun _ => refuse "nested too deeply", refuse "nested too deeply"⟩
  | levels + 1 =>
    let inner := rules levels
    { list := fun kind => do
        return ((← inner.readList ((← left) + 2) kind none).getD .nothing)
      command := inner.readCommand true }

/-- How deep scripts can be nested. -/
def maxLevels : Nat := 200

/-- **The next commands of a text** up to the end of a line, or none at the end of the text. -/
def readUnit : Read (Option Script) := do
  (rules maxLevels).readList ((← left) + 2) .line none

/-- The start of a text. -/
def Reading.start (dialect : Dialect) (text : Octets) : Reading where
  dialect := dialect
  rest := text
  line := 1
  last := .newline
  lastText := []
  isBack := false
  mayAssign := false
  hasGroups := false
  announced := []
  documents := #[]
  aliases := []
  replacing := []

end Shell

end ComponentScaffold
