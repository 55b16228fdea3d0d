import ComponentScaffold.Shell.Program.Paths
import ComponentScaffold.Shell.Records.Run

/-! # The program that follows scripts over records

* **`Program.awk`** — follows a script over the records of files. -/

namespace ComponentScaffold

namespace Shell

namespace Program

/-- How the program is called. -/
def recordsUsage : String :=
  "Usage: mawk [Options] [Program] [file ...]\n\nProgram:\n" ++
  "    The -f option value is the name of a file containing program text.\n" ++
  "    If no -f option is given, a \"--\" ends option processing; the following\n" ++
  "    parameters are the program text.\n\nOptions:\n" ++
  "    -f program-file  Program  text is read from file instead of from the\n" ++
  "                     command-line.  Multiple -f options are accepted.\n" ++
  "    -F value         sets the field separator, FS, to value.\n" ++
  "    -v var=value     assigns value to program variable var.\n" ++
  "    --               unambiguous end of options.\n\n" ++
  "    Implementation-specific options are prefixed with \"-W\".  They can be\n" ++
  "    abbreviated:\n\n" ++
  "    -W version       show version information and exit.\n" ++
  "    -W dump          show assembler-like listing of program and exit.\n" ++
  "    -W help          show this message and exit.\n" ++
  "    -W interactive   set unbuffered output, line-buffered input.\n" ++
  "    -W exec file     use file as program as well as last option.\n" ++
  "    -W random=number set initial random seed.\n" ++
  "    -W sprintf=number adjust size of sprintf buffer.\n" ++
  "    -W posix_space   do not consider \"\\n\" a space.\n" ++
  "    -W usage         show this message and exit.\n"

/-- What the options of the program say. -/
structure RecordsRequest where
  /-- The variables that are assigned before the script starts, the last first. -/
  assigned : List (Octets × Octets)
  /-- The files that hold the script, the last first. -/
  scripts : List Octets
  /-- What is complained about, the last first. -/
  remarks : List Octets
  /-- The operands. -/
  operands : List Octets

/-- Why the program does not start. -/
inductive RecordsRefusal
  /-- How it is called is told, on the channel of a number. -/
  | usage (channel : Nat)
  /-- Its version is told. -/
  | version
  /-- There is no script. -/
  | noScript
  /-- The options are wrong. -/
  | wrong (message : Octets)

/-- The words that change nothing here. -/
def recordsWords : List String :=
  ["compat", "dump", "exec", "interactive", "posix", "posix_space", "random", "sprintf", "traditional"]

/-- Take a word that asks for something of the program itself, and say whether it is known. -/
def knowsWord (word : Octets) : Except RecordsRefusal Bool :=
  let begins (name : String) : Bool := !word.isEmpty && word.isPrefixOf (octets name)
  if begins "version" then .error .version
  else if begins "help" || begins "usage" then .error (.usage 2)
  else .ok (recordsWords.any fun name => (word.takeWhile (· ≠ '=')).isPrefixOf (octets name))

/-- Take an option with its value. -/
def takeRecordsOption (request : RecordsRequest) (key : Char) (value : Octets) :
    Except RecordsRefusal RecordsRequest :=
  match key with
  | 'W' => do
    if ← knowsWord value then return request
    let remark := octets "vacuous option: -W \"" ++ value ++ ['"']
    return { request with remarks := remark :: request.remarks }
  | 'F' => .ok { request with assigned := (octets "FS", value) :: request.assigned }
  | 'v' =>
    let name := value.takeWhile (· ≠ '=')
    if value.contains '=' && isName name then
      .ok { request with assigned := (name, value.drop (name.length + 1)) :: request.assigned }
    else .error (.wrong (octets "improper assignment: -v " ++ value))
  | 'f' => .ok { request with scripts := value :: request.scripts }
  | key => .error (.wrong (octets "not an option: -" ++ [key]))

/-- Read the options among arguments, of which there are at most so many. -/
def readRecordsOptions : (bound : Nat) → RecordsRequest → List Octets → Except RecordsRefusal RecordsRequest
  | 0, request, arguments => .ok { request with operands := arguments }
  | bound + 1, request, arguments =>
    match arguments with
    | ['-'] :: _ =>
      if request.scripts.isEmpty then .error .noScript else .ok { request with operands := arguments }
    | ['-', '-'] :: rest => .ok { request with operands := rest }
    | ('-' :: '-' :: word) :: rest => do
      if ← knowsWord word then readRecordsOptions bound request rest
      else throw (.wrong (octets "not an option: --" ++ word))
    | ('-' :: key :: value) :: rest =>
      match value, rest with
      | [], [] =>
        if "WFvf".toList.contains key then
          .error (.wrong (octets "option -" ++ key :: octets " lacks argument"))
        else .error (.wrong (octets "not an option: -" ++ [key]))
      | [], value :: rest => do readRecordsOptions bound (← takeRecordsOption request key value) rest
      | value, rest => do readRecordsOptions bound (← takeRecordsOption request key value) rest
    | arguments => .ok { request with operands := arguments }

/-- The text of a script that stands in files, each with the number of its lines, unless one cannot be read. -/
def scriptFiles (name : Octets) : List Octets → Exec (Option (List (Octets × Octets)))
  | [] => return some []
  | file :: rest => do
    match ← readOperand file with
    | .error fault =>
      tell name (octets "cannot open " ++ file ++ octets s!" ({fault.description})")
      return none
    | .ok text => return (← scriptFiles name rest).map ((file, text) :: ·)

/-- Where a line of files one behind the other stands. -/
def placeInFiles : (files : List (Octets × Octets)) → (line : Nat) → Octets
  | [], line => octets s!"line {line}"
  | [(file, _)], line => file ++ octets s!": line {line}"
  | (file, text) :: rest, line =>
    let count := text.count '\n'
    if line ≤ count then file ++ octets s!": line {line}" else placeInFiles rest (line - count)

/-- **Follow a script over records.** -/
def awk : Program := fun engine path arguments => do
  let name := lastName path
  if arguments.isEmpty then
    complain (octets recordsUsage)
    return 0
  match readRecordsOptions (arguments.length + 1) ⟨[], [], [], []⟩ arguments with
  | .error .noScript => return 0
  | .error .version => emit name (octets "mawk 1.3.4 20200120\n")
  | .error (.usage channel) =>
    let _ ← write channel (octets recordsUsage)
    return 0
  | .error (.wrong message) => refuse name message 2
  | .ok request =>
    request.remarks.reverse.forM (tell name)
    match request.scripts.reverse, request.operands with
    | [], [] => return 0
    | [], text :: operands => start engine name [] text request.assigned.reverse operands
    | scripts, operands =>
      match ← scriptFiles name scripts with
      | none => return 2
      | some files =>
        start engine name files (files.flatMap Prod.snd) request.assigned.reverse operands
where
  /-- Follow the script that a text writes, which stood in files. -/
  start (engine : Engine) (name : Octets) (files : List (Octets × Octets)) (text : Octets)
      (assigned : List (Octets × Octets)) (operands : List Octets) : Exec Nat := do
    match Records.scriptOf (text ++ ['\n']) with
    | .error faults =>
      faults.forM fun fault => do
        let place := match fault.line with
          | some line => placeInFiles files line ++ octets ": "
          | none => []
        tell name (place ++ fault.message)
      return 2
    | .ok script => Records.run script engine name assigned (name :: operands)

end Program

end Shell

end ComponentScaffold
