import ComponentScaffold.Files.Operations
import ComponentScaffold.Shell.Pattern
import ComponentScaffold.Shell.State

/-! # Conditions

The questions that `test` answers: about texts, numbers and files, joined by `-a` and `-o`, turned around by
an exclamation mark and held together by parentheses.

* **`Shell.Condition.holds`** — the answer to a question, or what is wrong with it. -/

namespace ComponentScaffold

namespace Shell

namespace Condition

/-- What a word can be in a question. -/
inductive Role
  /-- An operator before one operand. -/
  | unary
  /-- An operator between two operands. -/
  | binary
  /-- The word that turns an answer around. -/
  | negation
  /-- A word that joins two questions. -/
  | joint
  /-- A parenthesis. -/
  | parenthesis
deriving DecidableEq, Repr

/-- The operators before one operand. -/
def unaryOperators : List String :=
  ["-r", "-w", "-x", "-e", "-f", "-d", "-c", "-b", "-p", "-u", "-g", "-k", "-s", "-t", "-z", "-n",
    "-h", "-L", "-O", "-G", "-S"]

/-- The operators between two operands. -/
def binaryOperators : List String :=
  ["=", "!=", "<", ">", "-eq", "-ne", "-gt", "-ge", "-lt", "-le", "-nt", "-ot", "-ef"]

/-- The role that a word has by itself. -/
def role? (word : Octets) : Option Role :=
  let word := String.ofList word
  if unaryOperators.contains word then some .unary
  else if binaryOperators.contains word then some .binary
  else if word = "!" then some .negation
  else if word = "-a" || word = "-o" then some .joint
  else if word = "(" || word = ")" then some .parenthesis
  else none

/-! ## Single questions -/

/-- The answer to a question about a node. -/
def askNode (operator : String) (node : Node) : Bool :=
  match operator, node.entry with
  | "-e", _ | "-r", _ | "-w", _ | "-O", _ | "-G", _ => true
  | "-f", .file _ | "-d", .directory | "-c", .device _ | "-p", .queue _ => true
  | "-x", .directory => true
  | "-x", _ => isRunMode node.mode
  | "-s", .file bytes => bytes.size > 0
  | "-s", .directory => true
  | "-u", _ => node.mode &&& 0o4000 != 0
  | "-g", _ => node.mode &&& 0o2000 != 0
  | "-k", _ => node.mode &&& 0o1000 != 0
  | _, _ => false

/-- What a path leads to, if it leads to something. -/
def nodeAt? (files : FileSystem) (path : Octets) : Option (Nat × Node) :=
  (files.findNode (pathOf path) .target).toOption

/-- The answer to a question about one operand. -/
def askOne (files : FileSystem) (operator : String) (operand : Octets) : Bool :=
  match operator with
  | "-n" => !operand.isEmpty
  | "-z" => operand.isEmpty
  | "-h" | "-L" => (files.findName (pathOf operand) matches .ok (_, .link _))
  | "-t" => false
  | _ => (nodeAt? files operand).any fun found => askNode operator found.2

/-- The number that an operand writes. -/
def integer? (operand : Octets) : Option Int :=
  let start := dropSpace operand
  intOf? ((start.reverse.dropWhile isSpace).reverse)

/-- The answer to a question about two numbers. -/
def compare (operator : String) (a b : Int) : Bool :=
  match operator with
  | "-eq" => a == b
  | "-ne" => a != b
  | "-gt" => decide (b < a)
  | "-ge" => decide (b ≤ a)
  | "-lt" => decide (a < b)
  | _ => decide (a ≤ b)

/-- Whether two paths lead to the same. -/
def areSame (files : FileSystem) (a b : Octets) : Bool :=
  match nodeAt? files a, nodeAt? files b with
  | some (one, _), some (other, _) => one == other
  | _, _ => false

/-- Whether a path leads to something that was changed after what another one leads to, or, where that counts
as well, while the other one leads to nothing. -/
def isNewer (files : FileSystem) (orMissing : Bool) (a b : Octets) : Bool :=
  match nodeAt? files a, nodeAt? files b with
  | some (_, one), some (_, other) => decide (other.modified < one.modified)
  | some _, none => orMissing
  | none, _ => false

/-- How questions are answered. -/
structure Asking where
  /-- Whether a file is newer than one that is not there. -/
  orMissing : Bool
  /-- The numbers that can be compared. -/
  isNumber : Int → Bool

/-- The shell compares files that are there and numbers that fit into eight bytes. -/
def shellAsking : Asking := ⟨false, fun n => -(Int.pow 2 63) ≤ n && n < Int.pow 2 63⟩

/-- The programs compare any files and numbers. -/
def programAsking : Asking := ⟨true, fun _ => true⟩

/-- The answer to a question about two operands, or the operand that is no number. -/
def askTwo (files : FileSystem) (asking : Asking) (operator : String) (a b : Octets) :
    Except Octets Bool :=
  match operator with
  | "=" => .ok (a == b)
  | "!=" => .ok (a != b)
  | "<" => .ok (decide (a < b))
  | ">" => .ok (decide (b < a))
  | "-nt" => .ok (isNewer files asking.orMissing a b)
  | "-ot" => .ok (isNewer files asking.orMissing b a)
  | "-ef" => .ok (areSame files a b)
  | _ =>
    match (integer? a).filter asking.isNumber, (integer? b).filter asking.isNumber with
    | some a, some b => .ok (compare operator a b)
    | none, _ => .error a
    | _, none => .error b

/-! ## The questions of the shell -/

/-- What is left of a question. -/
abbrev Ask := StateT (List Octets) (Except Octets)

/-- The role of the first word that is left, where it stands. An operator before an operand has none if
there is no operand behind it, or another operator that takes it for one. -/
def roleAt? : List Octets → Option Role
  | [] => none
  | word :: rest =>
    match role? word, rest with
    | some .unary, [] => none
    | some .unary, [_] => some .unary
    | some .unary, next :: _ => if role? next = some .binary then none else some .unary
    | some .parenthesis, [] => if word = ['('] then none else some .parenthesis
    | role, _ => role

/-- Refuse a question. -/
def refuse {α : Type} (operator : Octets) (message : String) : Ask α :=
  throw (if operator.isEmpty then octets message else operator ++ octets s!": {message}")

/-- The answer of two operands. -/
def answerTwo (files : FileSystem) (a operator b : Octets) : Ask Bool :=
  match askTwo files shellAsking (String.ofList operator) a b with
  | .ok answer => return answer
  | .error operand => throw (octets "Illegal number: " ++ operand)

/-- A single question, or one in parentheses, which `whole` answers. The word that ends it stays. -/
def answerSingle (files : FileSystem) (whole : Ask Bool) (asWord : Bool) : Ask Bool := do
  match ← get with
  | [] => return false
  | word :: rest =>
    let role := if asWord then none else roleAt? (word :: rest)
    if role = some .parenthesis && word = ['('] then
      set rest
      if rest.head? = some [')'] then return false
      let answer ← whole
      match (← get) with
      | _ :: [')'] :: rest =>
        set ([')'] :: rest)
        return answer
      | _ => refuse [] "closing paren expected"
    else if role = some .unary then
      match rest with
      | [] => refuse word "argument expected"
      | operand :: _ =>
        if word = ['-', 't'] && (integer? operand).isNone then
          throw (octets "Illegal number: " ++ operand)
        set rest
        return askOne files (String.ofList word) operand
    else match rest with
      | operator :: others =>
        if role? operator = some .binary then
          match others with
          | [] => refuse operator "argument expected"
          | operand :: _ =>
            set others
            answerTwo files word operator operand
        else return !word.isEmpty
      | [] => return !word.isEmpty

/-- A question that may be turned around. -/
def answerNegated (files : FileSystem) (whole : Ask Bool) : (bound : Nat) → (asWord : Bool) → Ask Bool
  | 0, _ => return false
  | bound + 1, asWord => do
    match asWord, ← get with
    | false, ['!'] :: rest =>
      if !rest.isEmpty then set rest
      let answer ← if rest.isEmpty then pure false else answerNegated files whole bound false
      return !answer
    | _, _ => answerSingle files whole asWord

/-- Questions of which all have to be answered by yes. -/
def answerAll (files : FileSystem) (whole : Ask Bool) : (bound : Nat) → (asWord : Bool) → Ask Bool
  | 0, _ => return false
  | bound + 1, asWord => do
    let first ← answerNegated files whole (bound + 1) asWord
    match ← get with
    | _ :: ['-', 'a'] :: rest =>
      set rest
      let others ← answerAll files whole bound false
      return first && others
    | _ => return first

/-- Questions of which one has to be answered by yes. -/
def answerAny (files : FileSystem) (whole : Ask Bool) : (bound : Nat) → (asWord : Bool) → Ask Bool
  | 0, _ => return false
  | bound + 1, asWord => do
    let first ← answerAll files whole (bound + 1) asWord
    match ← get with
    | _ :: ['-', 'o'] :: rest =>
      set rest
      let others ← answerAny files whole bound false
      return first || others
    | _ => return first

/-- A whole question, in parentheses at most the given number of levels deep. -/
def answer (files : FileSystem) : (levels : Nat) → (asWord : Bool) → Ask Bool
  | 0, _ => return false
  | levels + 1, asWord => do
    answerAny files (answer files levels false) ((← get).length + 1) asWord

/-- A complaint about a word, which is left out if it is empty. -/
def about (word : Octets) (message : String) : Octets :=
  (if word.isEmpty then [] else word ++ octets ": ") ++ octets message

/-- The answer to a question whose first word may have to be taken for an operand, and that must be
complete. -/
def answerComplete (files : FileSystem) (words : List Octets) (asWord : Bool) : Except Octets Bool := do
  let (answer, rest) ← (answer files (words.length + 1) asWord).run words
  match rest with
  | word :: _ :: _ => .error (about word "unexpected operator")
  | _ => return answer

/-- **The answer to a question**, or what is wrong with it. Short questions are taken apart by the number
of their words. -/
def holds (files : FileSystem) : (bound : Nat) → List Octets → Except Octets Bool
  | 0, words => answerComplete files words false
  | bound + 1, words =>
    let isMiddle : Bool := match words with
      | [_, operator, _] => role? operator == some .binary
      | _ => false
    if words.isEmpty then .ok false
    else if isMiddle then answerComplete files words true
    else if words.length = 3 || words.length = 4 then
      if words.head? = some ['('] && words.getLast? = some [')'] then
        holds files bound (words.drop 1).dropLast
      else if words.head? = some ['!'] then (holds files bound (words.drop 1)).map (!·)
      else answerComplete files words false
    else answerComplete files words false

/-! ## The questions of the programs -/

/-- An operand as a complaint shows it. -/
def shown (word : Octets) : Octets := '\x27' :: word ++ ['\x27']

/-- Two operands and an operator between them, as the programs answer them. -/
def programTwo (files : FileSystem) (a operator b : Octets) : Except Octets Bool :=
  (askTwo files programAsking (String.ofList operator) a b).mapError fun operand =>
    octets "invalid integer " ++ shown operand

/-- An operand behind its operator, as the programs answer it. -/
def programOne (files : FileSystem) (operator operand : Octets) : Except Octets Bool :=
  if role? operator = some .unary then .ok (askOne files (String.ofList operator) operand)
  else .error (shown operator ++ octets ": unary operator expected")

/-- The answer to a question of at most four words, as the programs give it. -/
def programHolds (files : FileSystem) : List Octets → Except Octets Bool
  | [] => .ok false
  | [word] => .ok !word.isEmpty
  | [['!'], word] => .ok word.isEmpty
  | [operator, operand] => programOne files operator operand
  | [a, operator, b] =>
    if role? operator = some .binary then programTwo files a operator b
    else if operator = ['-', 'a'] then .ok (!a.isEmpty && !b.isEmpty)
    else if operator = ['-', 'o'] then .ok (!a.isEmpty || !b.isEmpty)
    else if a = ['!'] then (programHolds files [operator, b]).map (!·)
    else if a = ['('] && b = [')'] then .ok !operator.isEmpty
    else .error (shown operator ++ octets ": binary operator expected")
  | ['!'] :: a :: operator :: b :: [] => (programHolds files [a, operator, b]).map (!·)
  | words =>
    match answerComplete files words false with
    | .ok answer => .ok answer
    | .error _ => .error (octets "extra argument " ++ shown (words.getLast?.getD []))

end Condition

end Shell

end ComponentScaffold
