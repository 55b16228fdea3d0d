import ComponentScaffold.Shell.Records.Pattern

/-! # Reading scripts over records

The rules by which tokens make up a script. A rule is given the rules for what stands inside, so that each of them is
an ordinary function; `Records.readers` puts them together, as deep as a script can be nested.

* **`Records.scriptOf`** — the script that a text writes, or what is wrong with it. -/

namespace ComponentScaffold

namespace Shell

namespace Records

/-- What is wrong with a script. -/
structure Fault where
  /-- The line, if it is told. -/
  line : Option Nat
  /-- What is wrong. -/
  message : Octets

/-- How a name is used as that of a table. -/
inductive TableUse
  /-- It is one. -/
  | direct (name : Octets)
  /-- It is an argument of a function. -/
  | passed (name function : Octets) (index : Nat)

/-- How far a script has been read. -/
structure Source where
  /-- The tokens that are left, with their lines. -/
  rest : List (Token × Nat)
  /-- How many braces are open. -/
  braces : Nat
  /-- How many parentheses are open. -/
  parentheses : Nat
  /-- How many patterns with two ends there are. -/
  ranges : Nat
  /-- The uses of names as those of tables. -/
  uses : List TableUse
  /-- The calls of functions: the lines, the names, and how many arguments there are. -/
  calls : List (Nat × Octets × Nat)

/-- What reads a part of a script. -/
abbrev Read := StateT Source (Except (List Fault))

/-- What a statement stands in. -/
structure Scope where
  /-- Whether records are at hand. -/
  hasRecords : Bool
  /-- Whether it is in a function. -/
  isFunction : Bool
  /-- Whether it is in a loop. -/
  isLoop : Bool

/-! ## Tokens -/

/-- The next token, which stays there. -/
def peek : Read Token := return ((← get).rest.head?.map Prod.fst).getD .finish

/-- The token behind the next one. -/
def peekBehind : Read Token := return (((← get).rest[1]?).map Prod.fst).getD .finish

/-- The line of the next token. -/
def line : Read Nat := return ((← get).rest.head?.map Prod.snd).getD 1

/-- Stop reading. -/
def refuse {α : Type} (message : Octets) : Read α := do
  let line ← line
  throw [⟨some line, message⟩]

/-- Stop reading at a closing mark that opens nowhere. -/
def refuseExtra {α : Type} (message : String) : Read α := do
  let line ← line
  let further := match (← get).rest with
    | _ :: (.newline, behind) :: _ =>
      [Fault.mk (some behind) (octets "syntax error at or near " ++ Token.newline.shown)]
    | _ => []
  throw (⟨some line, octets message⟩ :: further)

/-- Stop reading at the next token. -/
def unexpected {α : Type} : Read α := do
  let source ← get
  let line ← line
  match ← peek with
  | .wrong message =>
    throw [⟨if message.head?.any Char.isDigit then none else some line, message⟩]
  | .finish =>
    if source.braces > 0 then refuse (octets "missing \x7d near end of file")
    refuse (octets "syntax error at or near end of file")
  | token =>
    let isEnd := token = .newline || [";", "\x7d"].any fun mark => token = .mark mark
    let message := octets (if isEnd && source.parentheses > 0 then "missing ) near "
      else "syntax error at or near ") ++ token.shown
    let further := match token, source.rest with
      | .newline, [_, (.finish, last)] =>
        if source.braces > 0 then [Fault.mk (some last) (octets "missing \x7d near end of file")] else []
      | _, _ => []
    if token = .mark ")" && source.parentheses = 0 then refuseExtra "extra ')'"
    throw (⟨some line, message⟩ :: further)

/-- Pass over the next token. -/
def advance : Read Unit := do
  let token ← peek
  modify fun source =>
    { source with
      rest := source.rest.tail
      braces := match token with
        | .mark "\x7b" => source.braces + 1
        | .mark "\x7d" => source.braces - 1
        | _ => source.braces
      parentheses := match token with
        | .mark "(" => source.parentheses + 1
        | .mark ")" => source.parentheses - 1
        | _ => source.parentheses }

/-- Pass over a mark if it comes next, and say whether it did. -/
def takeMark (text : String) : Read Bool := do
  if (← peek) = .mark text then
    advance
    return true
  return false

/-- Pass over a mark that has to come next. -/
def expectMark (text : String) : Read Unit := do
  if !(← takeMark text) then unexpected

/-- Pass over a word if it comes next, and say whether it did. -/
def takeKeyword (word : String) : Read Bool := do
  if (← peek) = .keyword word then
    advance
    return true
  return false

/-- Pass over ends of lines. -/
def skipLines : Read Unit :=
  modify fun source => { source with rest := source.rest.dropWhile fun token => token.1 = .newline }

/-- How many tokens are left. -/
def left : Read Nat := return (← get).rest.length

/-- Note how a name is used. -/
def noteUse (use : TableUse) : Read Unit := modify fun source => { source with uses := use :: source.uses }

/-! ## Expressions -/

/-- What reads the parts inside others. -/
structure Readers where
  /-- Reads an expression, in which a greater sign relates if it is `plain`. -/
  expression : (plain : Bool) → Read Expression
  /-- Reads a statement. -/
  statement : Scope → Read Statement

/-- Whether an expression can be assigned to. -/
def Expression.isTarget : Expression → Bool
  | .name _ | .field _ | .item _ _ => true
  | _ => false

namespace Readers

/-- Expressions with commas between them, at most so many. -/
def members (readers : Readers) (plain : Bool) : (bound : Nat) → Read (List Expression)
  | 0 => unexpected
  | bound + 1 => do
    let first ← readers.expression plain
    if ← takeMark "," then
      skipLines
      return first :: (← readers.members plain bound)
    return [first]

/-- The arguments of a function, between parentheses. -/
def arguments (readers : Readers) : Read (List Expression) := do
  expectMark "("
  skipLines
  if ← takeMark ")" then return []
  let found ← readers.members true ((← left) + 1)
  expectMark ")"
  return found

/-- The entry of a table, or a variable. -/
def variableOf (readers : Readers) (name : Octets) : Read Expression := do
  if ← takeMark "[" then
    let indices ← readers.members true ((← left) + 1)
    expectMark "]"
    noteUse (.direct name)
    return .item name indices
  return .name name

/-- The pattern that a text writes. -/
def regexOf (text : Octets) : Read Expression := do
  match patternOf text with
  | .ok regex =>
    advance
    return .regex regex
  | .error fault =>
    refuse (octets s!"regular expression compile failed ({fault.message})\n" ++ text)

/-- The call of a function of the language. -/
def builtinCall (readers : Readers) (function : String) : Read Expression := do
  let line ← line
  advance
  let given ← if (← peek) = .mark "(" then readers.arguments
    else if function = "length" then pure []
    else unexpected
  let (least, most) := (builtins.lookup function).getD (0, 0)
  if given.length < least || most < given.length then
    throw [⟨some line, octets s!"wrong number of arguments in call to {function}"⟩]
  if function = "split" then
    match given with
    | _ :: .name table :: _ => noteUse (.direct table)
    | _ => unexpected
  return .builtin function given

/-- The call of a function of the script. -/
def call (readers : Readers) (function : Octets) : Read Expression := do
  let line ← line
  advance
  let given ← readers.arguments
  given.zipIdx.forM fun (argument, index) => do
    if let .name name := argument then noteUse (.passed name function index)
  modify fun source => { source with calls := (line, function, given.length) :: source.calls }
  return .call line function given

/-- What stands between parentheses: an expression, or the indices of an entry of a table. -/
def parenthesized (readers : Readers) : Read Expression := do
  advance
  let found ← readers.members true ((← left) + 1)
  expectMark ")"
  if found.length > 1 && (← peek) = .keyword "in" then
    advance
    match ← peek with
    | .name table =>
      advance
      noteUse (.direct table)
      return .has found table
    | _ => unexpected
  return .group found

/-- An expression without operators. A field is read by `field`. -/
def atomWith (readers : Readers) (field : Read Expression) : Read Expression := do
  match ← peek with
  | .number text =>
    let value := numberIn text
    if !isFinite value then refuse (text ++ octets " : decimal overflow")
    advance
    return .number value
  | .text held =>
    advance
    return .text held
  | .regex held => regexOf held
  | .builtin function => readers.builtinCall function
  | .callee function => readers.call function
  | .name name =>
    advance
    readers.variableOf name
  | .mark "(" => readers.parenthesized
  | .mark "$" =>
    advance
    return .field (← field)
  | _ => unexpected

/-- What stands behind a dollar sign, with at most so many signs before it. -/
def fieldIndex (readers : Readers) : (bound : Nat) → Read Expression
  | 0 => unexpected
  | bound + 1 => do
    let inner := readers.atomWith (readers.fieldIndex bound)
    if ← takeMark "++" then return .step (← inner) .add false
    if ← takeMark "--" then return .step (← inner) .subtract false
    if ← takeMark "-" then return .negative (← readers.fieldIndex bound)
    if ← takeMark "+" then return .positive (← readers.fieldIndex bound)
    if ← takeMark "!" then return .not (← readers.fieldIndex bound)
    inner

/-- An expression without operators. -/
def atom (readers : Readers) : Read Expression := do
  readers.atomWith (readers.fieldIndex ((← left) + 1))

/-- What a record is read into, if something is named. -/
def recordTarget (readers : Readers) : Read (Option Expression) := do
  match ← peek with
  | .name _ => return some (← readers.atom)
  | .mark "$" => return some (← readers.atom)
  | _ => return none

/-- An expression with steps by one. -/
def stepped (readers : Readers) : Read Expression := do
  if ← takeMark "++" then return .step (← readers.atom) .add false
  if ← takeMark "--" then return .step (← readers.atom) .subtract false
  if ← takeKeyword "getline" then
    let target ← readers.recordTarget
    if ← takeMark "<" then return .getline (some (.file, ← readers.atom)) target
    return .getline none target
  let inner ← readers.atom
  if inner.isTarget then
    if ← takeMark "++" then return .step inner .add true
    if ← takeMark "--" then return .step inner .subtract true
  return inner

/-- Powers, of which there are at most so many. -/
def powers (readers : Readers) : (bound : Nat) → Read Expression
  | 0 => unexpected
  | bound + 1 => do
    if ← takeMark "-" then return .negative (← readers.powers bound)
    if ← takeMark "+" then return .positive (← readers.powers bound)
    if ← takeMark "!" then return .not (← readers.powers bound)
    let base ← readers.stepped
    if ← takeMark "^" then return .compute .power base (← readers.powers bound)
    return base

/-- An expression, and the reading of what commands write, at most so often. -/
def piped (readers : Readers) : (bound : Nat) → Expression → Read Expression
  | 0, inner => return inner
  | bound + 1, inner => do
    if (← peek) = .mark "|" && (← peekBehind) = .keyword "getline" then
      advance
      advance
      let target ← readers.recordTarget
      readers.piped bound (.getline (some (.command, inner)) target)
    else return inner

/-- An expression with signs before it, of which there are at most so many. -/
def signed (readers : Readers) : (bound : Nat) → Read Expression
  | 0 => unexpected
  | bound + 1 => do
    if ← takeMark "-" then return .negative (← readers.signed bound)
    if ← takeMark "+" then return .positive (← readers.signed bound)
    if ← takeMark "!" then return .not (← readers.signed bound)
    let base ← readers.stepped
    let inner ← if ← takeMark "^" then pure (.compute .power base (← readers.powers (bound + 1)))
      else pure base
    readers.piped ((← left) + 1) inner

/-- Operands with operators of some kind between them, of which there are at most so many: the first operand is
there, and `further` puts the next one to it, if there is one. -/
def chain (further : Expression → Read (Option Expression)) : (bound : Nat) → Expression → Read Expression
  | 0, first => return first
  | bound + 1, first => do
    match ← further first with
    | some joined => chain further bound joined
    | none => return first

/-- The operator of some that comes next, and is passed over. -/
def takeOneOf {α : Type} (operators : List (String × α)) : Read (Option α) := do
  match ← peek with
  | .mark text =>
    match operators.lookup text with
    | some operator =>
      advance
      return some operator
    | none => return none
  | _ => return none

/-- Operands with operators between them, of those that are told. -/
def computed (operators : List (String × Operator)) (operand : Read Expression) : Read Expression := do
  let further (first : Expression) : Read (Option Expression) := do
    match ← takeOneOf operators with
    | some operator => return some (.compute operator first (← operand))
    | none => return none
  chain further ((← left) + 1) (← operand)

/-- Sums. -/
def sums (readers : Readers) : Read Expression := do
  let factor := readers.signed ((← left) + 1)
  computed [("+", .add), ("-", .subtract)]
    (computed [("*", .multiply), ("/", .divide), ("%", .modulo)] factor)

/-- Whether a token can begin a text that stands behind another one. -/
def beginsText : Token → Bool
  | .number _ | .text _ | .regex _ | .name _ | .callee _ | .builtin _ => true
  | .mark mark => ["(", "$", "!", "++", "--"].contains mark
  | _ => false

/-- Texts behind each other. -/
def joined (readers : Readers) : Read Expression := do
  let further (first : Expression) : Read (Option Expression) := do
    if beginsText (← peek) then return some (.join first (← readers.sums)) else return none
  chain further ((← left) + 1) (← readers.sums)

/-- The operators that assign, each with what is computed. -/
def assignments : List (String × Option Operator) :=
  [("=", none), ("+=", some .add), ("-=", some .subtract), ("*=", some .multiply), ("/=", some .divide),
    ("%=", some .modulo), ("^=", some .power)]

/-- Something assigned, or texts behind each other. -/
def assigned (readers : Readers) (plain : Bool) : Read Expression := do
  let inner ← readers.joined
  if inner.isTarget then
    if let some operator ← takeOneOf assignments then
      skipLines
      return .assign inner operator (← readers.expression plain)
  return inner

/-- The operators that relate. -/
def relations (plain : Bool) : List (String × Relation) :=
  [("<", .less), ("<=", .atMost), ("==", .equal), ("!=", .unequal), (">=", .atLeast)] ++
    if plain then [(">", .greater)] else []

/-- Values related to each other. -/
def related (readers : Readers) (plain : Bool) : Read Expression := do
  let further (first : Expression) : Read (Option Expression) := do
    match ← takeOneOf (relations plain) with
    | some relation => return some (.relate relation first (← readers.assigned plain))
    | none => return none
  chain further ((← left) + 1) (← readers.assigned plain)

/-- Texts with patterns that they may fit. -/
def matched (readers : Readers) (plain : Bool) : Read Expression := do
  let further (first : Expression) : Read (Option Expression) := do
    match ← takeOneOf [("~", false), ("!~", true)] with
    | some negated => return some (.matching negated first (← readers.related plain))
    | none => return none
  chain further ((← left) + 1) (← readers.related plain)

/-- Whether something is the name of an entry of a table. -/
def contained (readers : Readers) (plain : Bool) : Read Expression := do
  let further (first : Expression) : Read (Option Expression) := do
    if !(← takeKeyword "in") then return none
    match ← peek with
    | .name table =>
      advance
      noteUse (.direct table)
      return some (.has [first] table)
    | _ => unexpected
  chain further ((← left) + 1) (← readers.matched plain)

/-- Conditions of which all hold, and conditions of which one holds. -/
def conditions (readers : Readers) (plain : Bool) : Read Expression := do
  let more (mark : String) (build : Expression → Expression → Expression) (operand : Read Expression)
      (first : Expression) : Read (Option Expression) := do
    if !(← takeMark mark) then return none
    skipLines
    return some (build first (← operand))
  let all : Read Expression := do
    chain (more "&&" .both (readers.contained plain)) ((← left) + 1) (← readers.contained plain)
  chain (more "||" .either all) ((← left) + 1) (← all)

/-- **An expression.** -/
def readExpression (readers : Readers) (plain : Bool) : Read Expression := do
  let first ← readers.conditions plain
  if ← takeMark "?" then
    skipLines
    let yes ← readers.expression plain
    skipLines
    expectMark ":"
    skipLines
    return .choose first yes (← readers.expression plain)
  return first

/-! ## Statements -/

/-- Whether a statement ends before a token. -/
def endsStatement (token : Token) : Bool :=
  token = .newline || token = .finish || token = .mark ";" || token = .mark "\x7d"

/-- Pass over what ends a statement. -/
def endStatement : Read Unit := do
  if (← takeMark ";") || (← peek) = .newline then skipLines
  else if (← peek) ≠ .mark "\x7d" then unexpected

/-- The statements up to a closing brace, at most so many. -/
def statements (readers : Readers) (scope : Scope) : (bound : Nat) → Read Statement
  | 0 => unexpected
  | bound + 1 => do
    skipLines
    if ← takeMark "\x7d" then return .nothing
    if (← peek) = .finish then unexpected
    let first ← readers.statement scope
    return .sequence first (← readers.statements scope bound)

/-- The statements between braces. -/
def block (readers : Readers) (scope : Scope) : Read Statement := do
  expectMark "\x7b"
  readers.statements scope ((← left) + 1)

/-- Where something is written to, if that is told. -/
def sink (readers : Readers) : Read (Option (Sink × Expression)) := do
  match ← takeOneOf [(">", Sink.file), (">>", .append), ("|", .command)] with
  | some sink => return some (sink, ← readers.expression true)
  | none => return none

/-- The writing of values. -/
def print (readers : Readers) (formatted : Bool) : Read Statement := do
  let next ← peek
  let isBare := endsStatement next || [">", ">>", "|"].any fun mark => next = .mark mark
  if isBare && formatted then refuse (octets "no arguments in call to printf")
  let values ← if isBare then pure [] else readers.members false ((← left) + 1)
  let values := match values with
    | [.group inner] => inner
    | values => values
  let target ← readers.sink
  endStatement
  return .print formatted values target

/-- A condition between parentheses. -/
def condition (readers : Readers) : Read Expression := do
  expectMark "("
  skipLines
  let condition ← readers.expression true
  skipLines
  expectMark ")"
  return condition

/-- A statement that may stand alone, without what ends it. -/
def simple (readers : Readers) : Read Statement := do
  if ← takeKeyword "delete" then
    match ← peek with
    | .name table =>
      advance
      noteUse (.direct table)
      if ← takeMark "[" then
        let indices ← readers.members true ((← left) + 1)
        expectMark "]"
        return .delete table indices
      return .delete table []
    | _ => unexpected
  return .evaluate (← readers.expression true)

/-- The rest of a loop, behind its first word. -/
def forLoop (readers : Readers) (scope : Scope) : Read Statement := do
  expectMark "("
  let body : Read Statement := do
    expectMark ")"
    skipLines
    readers.statement { scope with isLoop := true }
  match (← get).rest with
  | (.name name, _) :: (.keyword "in", _) :: (.name table, _) :: (.mark ")", _) :: _ =>
    advance
    advance
    advance
    noteUse (.direct table)
    return .each name table (← body)
  | _ =>
    let part (mark : String) : Read Bool := return (← peek) ≠ .mark mark
    let start ← if ← part ";" then readers.simple else pure .nothing
    expectMark ";"
    skipLines
    let condition ← if ← part ";" then pure (some (← readers.expression true)) else pure none
    expectMark ";"
    skipLines
    let step ← if ← part ")" then readers.simple else pure .nothing
    return .sequence start (.loop false condition step (← body))

/-- A value that may be there. -/
def valueHere (readers : Readers) : Read (Option Expression) := do
  if endsStatement (← peek) then return none else return some (← readers.expression true)

/-- Leave something, where that makes sense. -/
def leave (makesSense : Bool) (message : String) (statement : Statement) : Read Statement := do
  if !makesSense then refuse (octets message)
  advance
  endStatement
  return statement

/-- **A statement**, with what ends it. -/
def readStatement (readers : Readers) (scope : Scope) : Read Statement := do
  match ← peek with
  | .mark "\x7b" =>
    let body ← readers.block scope
    skipLines
    return body
  | .mark ";" =>
    advance
    skipLines
    return .nothing
  | .keyword "if" =>
    advance
    let condition ← readers.condition
    skipLines
    let yes ← readers.statement scope
    if ← takeKeyword "else" then
      skipLines
      return .branch condition yes (← readers.statement scope)
    return .branch condition yes .nothing
  | .keyword "while" =>
    advance
    let condition ← readers.condition
    skipLines
    return .loop false (some condition) .nothing (← readers.statement { scope with isLoop := true })
  | .keyword "do" =>
    advance
    skipLines
    let body ← readers.statement { scope with isLoop := true }
    if !(← takeKeyword "while") then unexpected
    let condition ← readers.condition
    endStatement
    return .loop true (some condition) .nothing body
  | .keyword "for" =>
    advance
    readers.forLoop scope
  | .keyword "print" =>
    advance
    readers.print false
  | .keyword "printf" =>
    advance
    readers.print true
  | .keyword "next" => leave scope.hasRecords "improper use of next" (.next false)
  | .keyword "nextfile" => leave scope.hasRecords "improper use of nextfile" (.next true)
  | .keyword "break" => leave scope.isLoop "break statement outside of loop" .break
  | .keyword "continue" => leave scope.isLoop "continue statement outside of loop" .continue
  | .keyword "exit" =>
    advance
    let status ← readers.valueHere
    endStatement
    return .exit status
  | .keyword "return" =>
    if !scope.isFunction then refuse (octets "return outside function body")
    advance
    let value ← readers.valueHere
    endStatement
    return .return value
  | _ =>
    let statement ← readers.simple
    endStatement
    return statement

end Readers

/-- The rules, for parts inside others at most so many levels deep. -/
def readers : (levels : Nat) → Readers
  | 0 => ⟨fun _ => unexpected, fun _ => unexpected⟩
  | levels + 1 =>
    let inner := readers levels
    ⟨fun plain => inner.readExpression plain, fun scope => inner.readStatement scope⟩

/-- How deep parts can be nested. -/
def maxDepth : Nat := 500

/-! ## Rules and functions -/

/-- The parts of a script read so far, last to first. -/
structure Parts where
  /-- The rules. -/
  rules : List (Pattern × Statement)
  /-- The functions, with how their own variables are used as tables. -/
  functions : List (Octets × Function × List TableUse)

/-- The names of parameters up to a closing parenthesis, at most so many. -/
def readParameters (function : Octets) : (bound : Nat) → List Octets → Read (List Octets)
  | 0, _ => unexpected
  | bound + 1, before => do
    match ← peek with
    | .name name =>
      if name = function then refuse (octets "function parameter cannot be the function")
      if before.contains name then refuse (name ++ octets " is duplicated in argument list")
      advance
      if ← takeMark "," then
        skipLines
        readParameters function bound (before ++ [name])
      else
        expectMark ")"
        return before ++ [name]
    | .mark ")" =>
      if !before.isEmpty then unexpected
      advance
      return before
    | _ => unexpected

/-- A function, behind the word that begins it. -/
def readFunction (readers : Readers) (parts : Parts) : Read Parts := do
  let name ← match ← peek with
    | .name name | .callee name => pure name
    | _ => unexpected
  if parts.functions.any fun held => held.1 = name then refuse (octets "redefinition of " ++ name)
  advance
  expectMark "("
  let parameters ← readParameters name ((← left) + 1) []
  skipLines
  let before := (← get).uses
  modify fun source => { source with uses := [] }
  let body ← readers.block ⟨false, true, false⟩
  let uses := (← get).uses
  modify fun source => { source with uses := before }
  return { parts with functions := (name, ⟨parameters, body⟩, uses) :: parts.functions }

/-- What a rule does: what stands between braces, or the record is shown. -/
def readAction (readers : Readers) : Read Statement := do
  let next ← peek
  if next = .mark "\x7b" then readers.block ⟨true, false, false⟩
  else if Readers.endsStatement next then return .print false [] none
  else unexpected

/-- A rule. -/
def readRule (readers : Readers) : Read (Pattern × Statement) := do
  match ← peek with
  | .keyword "BEGIN" =>
    advance
    return (.before, ← readers.block ⟨false, false, false⟩)
  | .keyword "END" =>
    advance
    return (.behind, ← readers.block ⟨false, false, false⟩)
  | .mark "\x7b" => return (.always, ← readAction readers)
  | _ =>
    let first ← readers.expression true
    if ← takeMark "," then
      skipLines
      let last ← readers.expression true
      let number := (← get).ranges
      modify fun source => { source with ranges := number + 1 }
      return (.range number first last, ← readAction readers)
    return (.holds first, ← readAction readers)

/-- The rules and functions of a script, at most so many. -/
def readAll (readers : Readers) : (bound : Nat) → Parts → Read Parts
  | 0, parts => return parts
  | bound + 1, parts => do
    match ← peek with
    | .finish => return parts
    | .newline | .mark ";" =>
      advance
      readAll readers bound parts
    | .mark "\x7d" => refuseExtra "extra '\x7d'"
    | .keyword "function" =>
      advance
      readAll readers bound (← readFunction readers parts)
    | _ =>
      let rule ← readRule readers
      readAll readers bound { parts with rules := rule :: parts.rules }

/-! ## Tables -/

/-- Which parameters of functions are tables, given what is known about that. -/
def tablesOnce (functions : List (Octets × Function × List TableUse)) (known : List (Octets × List Bool)) :
    List (Octets × List Bool) :=
  functions.map fun (name, function, uses) =>
    (name, function.parameters.map fun parameter =>
      uses.any fun use => match use with
        | .direct held => held = parameter
        | .passed held other index =>
          held = parameter && (((known.lookup other).bind fun marks => marks[index]?).getD false))

/-- Which parameters of functions are tables. -/
def tablesOf (functions : List (Octets × Function × List TableUse)) : List (Octets × List Bool) :=
  (List.range (functions.length + 1)).foldl (fun known _ => tablesOnce functions known) []

/-- What is wrong with a call, if something is: there is no such function, or it takes fewer arguments. -/
def callFault? (functions : List (Octets × Function × List TableUse)) (last : Nat)
    (call : Nat × Octets × Nat) : Option Fault :=
  let (line, name, count) := call
  match functions.lookup name with
  | none => some ⟨some last, octets "function " ++ name ++ octets " never defined"⟩
  | some (function, _) =>
    if function.parameters.length < count then
      some ⟨some line, octets "too many arguments in call to " ++ name⟩
    else none

/-- **The script that a text writes**, or what is wrong with it. -/
def scriptOf (text : Octets) : Except (List Fault) Script := do
  let tokens := tokens text
  let start : Source := ⟨tokens, 0, 0, 0, [], []⟩
  let (parts, source) ← (readAll (readers maxDepth) (tokens.length + 1) ⟨[], []⟩).run start
  let last := countLines text + 1
  match source.calls.reverse.findSome? (callFault? parts.functions last) with
  | some fault => .error [fault]
  | none =>
    return { rules := parts.rules.reverse
             functions := parts.functions.map fun (name, function, _) => (name, function)
             tables := tablesOf parts.functions }

end Records

end Shell

end ComponentScaffold
