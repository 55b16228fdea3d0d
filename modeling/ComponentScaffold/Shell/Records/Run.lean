import ComponentScaffold.Shell.Records.Builtin
import ComponentScaffold.Shell.Records.Reading

/-! # Running scripts over records

The rules of a script are followed for one record after the other. What stands inside an expression or a statement is
evaluated one level deeper, of which there are many.

* **`Records.evaluate`** — the value of an expression.
* **`Records.perform`** — what a statement does.
* **`Records.run`** — what a script does, and its status. -/

namespace ComponentScaffold

namespace Shell

namespace Records

/-! ## Names -/

/-- What a name of the running function's own stands for. -/
def slotOf? (name : Octets) : Work (Option Slot) := do
  return ((← get).frames.head?).bind fun frame => frame.lookup name

/-- The number of a new table. -/
def newTable : Work Nat := do
  let machine ← get
  set { machine with tables := machine.tables.push Table.empty }
  return machine.tables.size

/-- The number of the table of a name, which is made if there is none. -/
def tableOf (name : Octets) : Work Nat := do
  match ← slotOf? name with
  | some (.table index) => return index
  | some (.value _) =>
    let index ← newTable
    modify fun machine =>
      { machine with frames := match machine.frames with
          | frame :: rest => ((name, .table index) :: frame.filter fun held => held.1 ≠ name) :: rest
          | [] => [] }
    return index
  | none =>
    match (← get).names[name]? with
    | some index => return index
    | none =>
      let index ← newTable
      modify fun machine => { machine with names := machine.names.insert name index }
      return index

/-- The table of a number. -/
def tableAt (index : Nat) : Work Table := return ((← get).tables[index]?).getD Table.empty

/-- Put a table in the place of the one of a number. -/
def putTable (index : Nat) (table : Table) : Work Unit :=
  modify fun machine => { machine with tables := machine.tables.setIfInBounds index table }

/-- The name that holds the number of fields. -/
def countName : Octets := octets "NF"

/-- The value of a variable. -/
def variableValue (name : Octets) : Work Value := do
  match ← slotOf? name with
  | some (.value value) => return value
  | some (.table _) => return .none
  | none =>
    if name = countName then return .number (Float.ofNat (← get).fields.size)
    return ((← get).values[name]?).getD .none

/-- Give a variable a value. -/
def putVariable (name : Octets) (value : Value) : Work Unit := do
  match ← slotOf? name with
  | some _ =>
    modify fun machine =>
      { machine with frames := match machine.frames with
          | frame :: rest => (frame.map fun held => if held.1 = name then (name, .value value) else held) :: rest
          | [] => [] }
  | none => if name = countName then putCount value else putValue name value

/-- The key that values make. -/
def keyOf (values : List Value) : Work Key := do
  match values with
  | [.number n] =>
    if isWhole n && -9223372036854775808.0 < n && n < 9223372036854775808.0 then
      return .number (wholePart n)
    return .text (← textOf (.number n))
  | values =>
    let between ← variableText "SUBSEP"
    return .text (joinWith between (← values.mapM textOf))

/-- The pattern that a text writes. -/
def compiled (text : Octets) : Work Regex := do
  match patternOf text with
  | .ok regex => return regex
  | .error fault => runFailure (octets s!"regular expression compile failed ({fault.message})\n" ++ text)

/-! ## Records -/

/-- Open the next file of records, which is that of an operand or the standard input, and say whether there is one
still. Operands that assign are carried out on the way. -/
def openNext (bound : Nat) : Work Bool := do
  match bound with
  | 0 => return false
  | bound + 1 =>
    let count := clampedWhole (← valueOf "ARGC").toNumber
    let machine ← get
    if count ≤ (machine.operand : Int) then
      if machine.hasInput then return false
      takeFile ['-']
    else
      let arguments ← tableAt (← tableOf (octets "ARGV"))
      modify fun machine => { machine with operand := machine.operand + 1 }
      let operand ← textOf ((arguments.cells[natText machine.operand]?).getD .none)
      let name := operand.takeWhile (· ≠ '=')
      if operand.isEmpty then openNext bound
      else if operand.contains '=' && isName name then
        putVariable name (valueRead (plainText (operand.drop (name.length + 1))))
        openNext bound
      else takeFile operand
where
  /-- Take the records of a file. -/
  takeFile (name : Octets) : Work Bool := do
    match ← contentsOf name with
    | .error fault =>
      failWith (octets "cannot open " ++ name ++ octets s!" ({fault.description})")
    | .ok text =>
      if name ≠ ['-'] then putValue (octets "FILENAME") (.text name)
      putValue (octets "FNR") (.number 0.0)
      modify fun machine => { machine with input := text, hasInput := true }
      return true

/-- The next record, if there is one, in one of at most so many files. -/
def nextRecord? : (bound : Nat) → Work (Option Octets)
  | 0 => return none
  | bound + 1 => do
    let ending ← recordEnd
    let machine ← get
    match cutRecord? ending machine.input with
    | some (record, rest) =>
      set { machine with input := rest }
      countUp "NR"
      countUp "FNR"
      return some record
    | none =>
      if ← openNext 100000 then nextRecord? bound else return none

/-- More files than there are. -/
def maxFiles : Nat := 100000

/-! ## Values -/

/-- The text and the number of a value that a getline gives: one for a record, zero for the end, and minus one where
nothing can be read. -/
def readAnswer (found : Option (Option Octets)) (take : Octets → Work Unit) : Work Value := do
  match found with
  | none => return .number (-1.0)
  | some none => return .number 0.0
  | some (some text) =>
    take text
    return .number 1.0

/-- Do something as long as a condition holds, at most so many rounds. -/
def whileHolds (condition : Work Bool) (step body : Work Unit) : (rounds : Nat) → (first : Bool) → Work Unit
  | 0, _ => return ()
  | rounds + 1, first => do
    let goes ← if first then pure true else condition
    if goes then
      let isLeft ← tryCatch (do
          body
          return false) fun halt =>
        match halt with
        | .leave again => return !again
        | halt => throw halt
      if isLeft then return ()
      step
      whileHolds condition step body rounds false

/-- More rounds than a loop takes. -/
def maxRepeats : Nat := 10000000

/-- The frame of a function that is called. -/
def frameOf (parameters : List Octets) (marks : List Bool) (given : List Slot) : Work (List (Octets × Slot)) := do
  parameters.zipIdx.mapM fun (name, index) => do
    match given[index]? with
    | some slot => return (name, slot)
    | none =>
      if (marks[index]?).getD false then return (name, .table (← newTable))
      return (name, .value .none)

/-- Write values in a line. -/
def lineOf (values : List Value) : Work Octets := do
  let between ← variableText "OFS"
  let ending ← variableText "ORS"
  let write := fractionText (← variableText "OFMT")
  return joinWith between (values.map (Value.toText write)) ++ ending

/-- The text that the first one of values makes of the others, and what is wrong with it as a format. -/
def formatted (function : String) (values : List Value) : Work (Octets × Option Octets) := do
  let text ← textOf (values.headD .none)
  let (made, fault?) := format (← writer) text values.tail
  return (made, fault?.map (FormatFault.message function text))

mutual

/-- **The value of an expression**, at a level of so many. -/
def evaluate (script : Script) (engine : Engine) : (levels : Nat) → Expression → Work Value
  | 0, _ => runFailure (octets "nested too deeply")
  | levels + 1, expression => do
    let value := evaluate script engine levels
    match expression with
    | .number n => return .number n
    | .text text => return .text text
    | .regex regex => return .ofBool (regex.occursIn false (← get).record)
    | .name name => variableValue name
    | .field index => fieldValue (clampedWhole (← value index).toNumber)
    | .item table indices => do
      let key ← keyOf (← indices.mapM value)
      let index ← tableOf table
      let (found, after) := (← tableAt index).look key
      putTable index after
      return found
    | .assign target operator inner => do
      let new ← match operator with
        | none => value inner
        | some operator => do
          let before := (← value target).toNumber
          pure (Value.number (operator.apply before (← value inner).toNumber))
      assignTo script engine levels target new
      return new
    | .step target operator late => do
      let before := (← value target).toNumber
      let after := operator.apply before 1.0
      assignTo script engine levels target (.number after)
      return .number (if late then before else after)
    | .negative inner => return .number (-(← value inner).toNumber)
    | .positive inner => return .number (← value inner).toNumber
    | .not inner => return .ofBool !(← value inner).holds
    | .compute operator first second => do
      let first := (← value first).toNumber
      return .number (operator.apply first (← value second).toNumber)
    | .relate relation first second => do
      let first ← value first
      let second ← value second
      return .ofBool (relation.holds (first.compare (← writer) second))
    | .join first second => do
      let first ← textOf (← value first)
      return .text (first ++ (← textOf (← value second)))
    | .both first second => do
      if !(← value first).holds then return .ofBool false
      return .ofBool (← value second).holds
    | .either first second => do
      if (← value first).holds then return .ofBool true
      return .ofBool (← value second).holds
    | .choose condition yes no => do
      if (← value condition).holds then value yes else value no
    | .matching negated text pattern => do
      let text ← textOf (← value text)
      let regex ← regexOf script engine levels pattern
      return .ofBool (regex.occursIn false text != negated)
    | .has indices table => do
      let key ← keyOf (← indices.mapM value)
      let index ← tableOf table
      let held ← tableAt index
      putTable index (held.afterLook key)
      return .ofBool (held.has key)
    | .call _ name arguments => do
      match script.functions.lookup name with
      | none => return .none
      | some function => do
        let marks := (script.tables.lookup name).getD []
        let given ← arguments.zipIdx.mapM fun (argument, index) => do
          match (marks[index]?).getD false, argument with
          | true, .name table => return Slot.table (← tableOf table)
          | _, argument => return Slot.value (← value argument)
        let frame ← frameOf function.parameters marks given
        modify fun machine => { machine with frames := frame :: machine.frames, returned := .none }
        let leave : Work Unit := modify fun machine => { machine with frames := machine.frames.tail }
        tryCatch (perform script engine levels function.body) fun halt =>
          match halt with
          | .return => return ()
          | halt => do
            leave
            throw halt
        leave
        let returned := (← get).returned
        modify fun machine => { machine with returned := .none }
        return returned
    | .builtin function arguments => callBuiltin script engine levels function arguments
    | .getline origin target => do
      let take (text : Octets) : Work Unit := match target with
        | some target => assignTo script engine levels target (valueRead text)
        | none => putRecord text
      match origin with
      | none => do
        let found ← nextRecord? maxFiles
        readAnswer (some found) take
      | some (sink, inner) => do
        let name ← textOf (← value inner)
        let isCommand := sink = .command
        let found ← readLine engine isCommand name
        if isCommand && (found matches some (some _)) then countUp "NR"
        readAnswer found take
    | .group members => do
      match members with
      | [inner] => value inner
      | members => return .text (joinWith (← variableText "SUBSEP") (← members.mapM fun inner => do
          textOf (← value inner)))

/-- Give what an expression names a value. -/
def assignTo (script : Script) (engine : Engine) : (levels : Nat) → Expression → Value → Work Unit
  | 0, _, _ => runFailure (octets "nested too deeply")
  | levels + 1, target, new => do
    match target with
    | .name name => putVariable name new
    | .field index => putField (clampedWhole (← evaluate script engine levels index).toNumber) new
    | .item table indices => do
      let key ← keyOf (← indices.mapM (evaluate script engine levels))
      let index ← tableOf table
      putTable index ((← tableAt index).put key new)
    | .group [inner] => assignTo script engine levels inner new
    | _ => return ()

/-- The pattern that an expression stands for. -/
def regexOf (script : Script) (engine : Engine) : (levels : Nat) → Expression → Work Regex
  | 0, _ => runFailure (octets "nested too deeply")
  | levels + 1, pattern => do
    match pattern with
    | .regex regex => return regex
    | pattern => compiled (← textOf (← evaluate script engine levels pattern))

/-- The value of a function of the language. -/
def callBuiltin (script : Script) (engine : Engine) : (levels : Nat) → String → List Expression → Work Value
  | 0, _, _ => runFailure (octets "nested too deeply")
  | levels + 1, function, arguments => do
    let value := evaluate script engine levels
    let text (inner : Expression) : Work Octets := do textOf (← value inner)
    let count (n : Nat) : Value := .number (Float.ofNat n)
    match function, arguments with
    | "length", [] => return count (← get).record.length
    | "length", [.name name] => do
      let names := (← get).names
      let index? := match ← slotOf? name with
        | some (.table index) => some index
        | some (.value _) => none
        | none => names[name]?
      match index? with
      | some index => return count (← tableAt index).cells.size
      | none => return count (← textOf (← variableValue name)).length
    | "length", [inner] => return count (← text inner).length
    | "split", inner :: .name table :: rest => do
      let held ← text inner
      let separator ← match rest with
        | [] => do
          match Separator.ofText (← variableText "FS") with
          | .ok separator => pure separator
          | .error _ => pure .blanks
        | .regex regex :: _ => pure (.regex regex)
        | other :: _ => do
          let between ← text other
          match Separator.ofText between with
          | .ok separator => pure separator
          | .error fault =>
            runFailure (octets s!"regular expression compile failed ({fault.message})\n" ++ between)
      let parts := separator.cut held
      putTable (← tableOf table) (Table.ofRow (parts.map valueRead))
      return count parts.length
    | "match", [inner, pattern] => do
      let held ← text inner
      let regex ← regexOf script engine levels pattern
      let (start, length) : Int × Int := match regex.find? false (.ofText held) with
        | some (start, reached) => (start.offset + 1, (reached.offset - start.offset : Nat))
        | none => (0, -1)
      putValue (octets "RSTART") (.number (Float.ofInt start))
      putValue (octets "RLENGTH") (.number (Float.ofInt length))
      return .number (Float.ofInt start)
    | "sub", pattern :: new :: rest | "gsub", pattern :: new :: rest => do
      let regex ← regexOf script engine levels pattern
      let new ← text new
      let target := rest.headD (.field (.number 0.0))
      let (after, found) := replaceIn regex new (function = "gsub") (← text target)
      if found > 0 then assignTo script engine levels target (.text after)
      return count found
    | "sprintf", arguments => do
      match ← formatted "sprintf" (← arguments.mapM value) with
      | (text, none) => return .text text
      | (_, some message) => runFailure message
    | "rand", _ => do
      let state := nextRandom (← get).random
      modify fun machine => { machine with random := state }
      return .number (randomFloat state)
    | "srand", arguments => do
      let seed ← match arguments with
        | [] => pure (Value.number (Float.ofInt ((← aside files).now / Calendar.second)))
        | inner :: _ => value inner
      let before := (← get).seed
      let state := (clampedWhole (seed.toNumber * 65536.0)).natAbs
      modify fun machine => { machine with seed := seed, random := state }
      return before
    | "system", [inner] => do
      let command ← text inner
      flush
      return count (← runShellCommand engine none command)
    | "close", [inner] => do
      match ← closeNamed engine (← text inner) with
      | some status => return count status
      | none => return .number (-1.0)
    | "fflush", _ => do
      flush
      return .number 0.0
    | function, arguments => do
      let values ← arguments.mapM value
      return (valueFunction? (← writer) (← aside files).now function values).getD .none

/-- **What a statement does**, at a level of so many. -/
def perform (script : Script) (engine : Engine) : (levels : Nat) → Statement → Work Unit
  | 0, _ => runFailure (octets "function call nesting too deep")
  | levels + 1, statement => do
    let value := evaluate script engine levels
    match statement with
    | .nothing => return ()
    | .evaluate expression =>
      let _ ← value expression
    | .print isFormatted values target => do
      let values ← values.mapM value
      let (text, fault?) ← if isFormatted then formatted "printf" values
        else if values.isEmpty then do
          let record := (← get).record
          pure (record ++ (← variableText "ORS"), none)
        else pure (← lineOf values, none)
      match target with
      | none => keep text
      | some (sink, name) => emitTo sink (← textOf (← value name)) text
      if let some message := fault? then runFailure message
    | .branch condition yes no => do
      if (← value condition).holds then perform script engine levels yes
      else perform script engine levels no
    | .loop first condition step body => do
      let holds : Work Bool := match condition with
        | some condition => return (← value condition).holds
        | none => return true
      whileHolds holds (perform script engine levels step) (perform script engine levels body) maxRepeats first
    | .each name table body => do
      let index ← tableOf table
      let (names, after) := (← tableAt index).names
      putTable index after
      eachName name (perform script engine levels body) names
    | .sequence first second => do
      perform script engine levels first
      perform script engine levels second
    | .delete table indices => do
      let index ← tableOf table
      if indices.isEmpty then putTable index Table.empty
      else
        let key ← keyOf (← indices.mapM value)
        putTable index ((← tableAt index).erase key)
    | .next file => throw (.next file)
    | .exit status => do
      if let some status := status then
        let status := clampedWhole (← value status).toNumber
        modify fun machine => { machine with status := (status % 256).toNat }
      throw .exit
    | .return inner => do
      let returned ← match inner with
        | some inner => value inner
        | none => pure .none
      modify fun machine => { machine with returned := returned }
      throw .return
    | .break => throw (.leave false)
    | .continue => throw (.leave true)
where
  /-- Do something for each of some names. -/
  eachName (name : Octets) (body : Work Unit) : List Octets → Work Unit
    | [] => return ()
    | key :: rest => do
      putVariable name (.text key)
      let isLeft ← tryCatch (do
          body
          return false) fun halt =>
        match halt with
        | .leave again => return !again
        | halt => throw halt
      if isLeft then return () else eachName name body rest

end

/-! ## Rules -/

/-- How deep expressions, statements and calls can be inside each other. -/
def maxNested : Nat := 100000

/-- Follow a rule for the record. -/
def follow (script : Script) (engine : Engine) (rule : Pattern × Statement) : Work Unit := do
  let holds (condition : Expression) : Work Bool :=
    return (← evaluate script engine maxNested condition).holds
  let isMet ← match rule.1 with
    | .before | .behind => pure false
    | .always => pure true
    | .holds condition => holds condition
    | .range number first last => do
      let isActive := (← get).active.contains number
      if !isActive && !(← holds first) then pure false
      else
        let others := (← get).active.filter (· ≠ number)
        let ends ← holds last
        modify fun machine => { machine with active := if ends then others else number :: others }
        pure true
  if isMet then perform script engine maxNested rule.2

/-- Follow the rules for the records that are left, at most so many. -/
def followAll (script : Script) (engine : Engine) : (bound : Nat) → Work Unit
  | 0 => return ()
  | bound + 1 => do
    match ← nextRecord? maxFiles with
    | none => return ()
    | some record =>
      putRecord record
      tryCatch (script.rules.forM (follow script engine)) fun halt =>
        match halt with
        | .next file => if file then modify fun machine => { machine with input := [] } else return ()
        | halt => throw halt
      followAll script engine bound

/-- More records than there are. -/
def maxRecords : Nat := 100000000

/-- Follow the rules of a kind. -/
def followKind (script : Script) (engine : Engine) (isKind : Pattern → Bool) : Work Unit :=
  script.rules.forM fun rule => do
    if isKind rule.1 then perform script engine maxNested rule.2

/-- Do something up to the end of the script, and say whether that was reached as it should be. -/
def untilExit (action : Work Unit) : Work Bool :=
  tryCatch (do
    action
    return true) fun halt =>
    match halt with
    | .failure => throw .failure
    | _ => return false

/-- What a script does. -/
def runRules (script : Script) (engine : Engine) : Work Unit := do
  let isBehind (pattern : Pattern) : Bool := pattern matches .behind
  let needsRecords := script.rules.any fun rule => !(rule.1 matches .before)
  let _ ← untilExit (do
    followKind script engine fun pattern => pattern matches .before
    if needsRecords then followAll script engine maxRecords)
  let _ ← untilExit (followKind script engine isBehind)

/-- The machine that a script starts with: the name of the program, variables, and the operands with the name before
them. -/
def Machine.start (program : Octets) (operands : List Octets) (exported : List (Octets × Octets)) : Machine where
  program := program
  values := startValues.foldl (fun values (name, value) => values.insert (octets name) value)
    (({} : Std.HashMap Octets Value).insert (octets "ARGC") (.number (Float.ofNat operands.length)))
  names := (({} : Std.HashMap Octets Nat).insert (octets "ARGV") 0).insert (octets "ENVIRON") 1
  tables := #[operands.zipIdx.foldl (fun table (operand, i) => table.put (.number (i : Int)) (valueRead operand))
      Table.empty,
    exported.foldl (fun table (name, value) => table.put (.text name) (valueRead value)) Table.empty]
  frames := []
  record := []
  fields := #[]
  separator := ([' '], .blanks)
  kept := []
  outlets := []
  inlets := []
  input := []
  operand := 1
  hasInput := false
  active := []
  random := 1
  seed := .number 0.0
  status := 0
  returned := .none

/-- **What a script does** with variables assigned before it starts, and its status. -/
def run (script : Script) (engine : Engine) (program : Octets) (assigned : List (Octets × Octets))
    (operands : List Octets) : Exec Nat := do
  let machine := Machine.start program operands (environment (← context))
  let action : Work Unit := do
    assigned.forM fun (name, value) => putVariable name (valueRead (plainText value))
    runRules script engine
  let whole : Work Unit := do
    tryCatch action fun _ => return ()
    closeAll engine
  let (_, machine) ← (whole.run).run machine
  return machine.status

end Records

end Shell

end ComponentScaffold
