import ComponentScaffold.Shell.Program.Table
import ComponentScaffold.Shell.Run

/-! # Starting programs

A file is a program if it is one that is installed, or a script: one that says in its first line which
program reads it, or for want of that one for the shell.

* **`Shell.runShell`** — the shell as a program.
* **`Shell.execute`** — runs the program in a file.
* **`Shell.engine`** — what runs scripts and programs inside others, so many levels deep. -/

namespace ComponentScaffold

namespace Shell

/-! ## The shell -/

/-- The variables that a shell starts with besides those it is given. -/
def startVariables (folder : Octets) (parent : Nat) : List (Octets × Variable) :=
  [("OPTIND", octets "1"), ("IFS", [' ', '\t', '\n']), ("PS1", octets "# "), ("PS2", octets "> "),
    ("PS4", octets "+ "), ("PPID", natText parent)].map (fun (name, value) =>
      (octets name, .ofValue value false)) ++ [(Utility.folderName, .ofValue folder true)]

/-- Where a shell looks for programs if nothing was said about it. -/
def startFolders : Octets := octets "/usr/local/sbin:/usr/local/bin:/usr/sbin:/usr/bin:/sbin:/bin"

/-- The path by which a shell calls the directory that it starts in: the one it was told, if that leads
there. -/
def startFolder (files : FileSystem) (context : Context) : Octets :=
  let told := (value? context Utility.folderName).getD []
  if told.head? = some '/' && Program.areSame files told ['.'] then told
  else Utility.currentFolder files

/-- The variables with which a shell of the extended dialect starts besides. -/
def extendedVariables (context : Context) : List (Octets × Variable) :=
  let fixed (name value : String) : Octets × Variable :=
    (octets name, { Variable.ofValue (octets value) false with fixed := true, traits := ['i'] })
  let plain (name value : String) : Octets × Variable := (octets name, .ofValue (octets value) false)
  let depth := ((value? context (octets "SHLVL")).bind natOf?).getD 0 + 1
  [plain "BASH" "/usr/bin/bash", plain "BASH_VERSION" "5.2.15(1)-release", plain "HOSTTYPE" "x86_64",
    plain "MACHTYPE" "x86_64-pc-linux-gnu", plain "OSTYPE" "linux-gnu", plain "SHELL" "/bin/bash",
    plain "OPTERR" "1", fixed "EUID" "0", fixed "UID" "0",
    (octets "SHLVL", .ofValue (natText depth) true)]

/-- The context in which a shell starts in a process. -/
def Context.forShell (context : Context) (dialect : Dialect) (name folder : Octets) (process : Nat) : Context :=
  let given := context.bindings.filter fun held => held.2.exported && held.2.value.isSome
  let own := startVariables folder context.process ++
    if dialect = .extended then extendedVariables context else []
  let isOwn (held : Octets × Variable) : Bool := own.any fun other => other.1 = held.1
  let path := octets "PATH"
  let found := own ++ given.filter fun held => !isOwn held
  let switches := if dialect = .extended then (switchNames.filter Prod.snd).map Prod.fst else []
  { dialect := dialect, switches := switches, name := name, arguments := []
    bindings := if found.any fun held => held.1 = path then found
      else (path, .ofValue startFolders false) :: found
    locals := [], functions := [], functionSources := [], calls := [], origin := [], level := 0
    found := [], folders := [], aliases := []
    options := if dialect = .extended then ['h', 'B'] else []
    stageStatuses := [], traps := [], signals := []
    ignored := context.keptTraps.map Prod.fst ++ context.ignored
    descriptors := context.descriptors, status := 0, wordStatus := 0, line := 0, utility := none
    loops := 0, folder := folder, process := process, isCopy := false
    waiting := context.process :: context.waiting, lastBackground := none
    optionIndex := 1, optionOffset := none, isLast := false }

/-- Where the commands of a shell come from. -/
inductive ScriptSource
  /-- From a text. -/
  | text (text : Octets)
  /-- From a file. -/
  | file (path : Octets)
  /-- From the standard input. -/
  | input

/-- What a shell was asked for by its options: whether its first argument is a text of commands, and
whether commands come from the standard input. -/
structure ShellRequest where
  /-- Whether the first argument is a text of commands. -/
  text : Bool
  /-- Whether commands come from the standard input. -/
  input : Bool
  /-- The arguments behind the options. -/
  arguments : List Octets

/-- Take the letters of an argument with options; the long ones are named by the arguments behind it. -/
def takeLetters (isOn : Bool) : (letters : Octets) → ShellRequest → Exec ShellRequest
  | [], request => return request
  | letter :: letters, request => do
    if letter = 'c' then
      if isOn then return ← takeLetters isOn letters { request with text := true }
      fail (octets "Illegal option -c")
    else if letter = 'o' then
      let rest ← Utility.putLongOption isOn request.arguments
      takeLetters isOn letters { request with arguments := rest }
    else
      Utility.putOption isOn letter
      takeLetters isOn letters
        { request with input := if letter = 's' then isOn else request.input }

/-- Take the options at the start of arguments. -/
def takeRequest : (bound : Nat) → ShellRequest → Exec ShellRequest
  | 0, request => return request
  | bound + 1, request => do
    let further (isOn : Bool) (letters : Octets) (rest : List Octets) : Exec ShellRequest := do
      takeRequest bound (← takeLetters isOn letters { request with arguments := rest })
    match request.arguments with
    | ['-'] :: rest => return { request with arguments := rest }
    | ['-', '-'] :: rest => return { request with arguments := rest }
    | ('-' :: letters) :: rest => further true letters rest
    | ('+' :: letters) :: rest => further false letters rest
    | _ => return request

/-- Where the commands come from that a shell is asked to run, the name of the script, and its
arguments. -/
def ShellRequest.resolve (request : ShellRequest) (name : Octets) :
    Exec (ScriptSource × Octets × List Octets) := do
  match request.text, request.arguments with
  | true, [] => fail (octets "-c requires an argument")
  | true, [text] => return (.text text, name, [])
  | true, text :: name :: arguments => return (.text text, name, arguments)
  | false, [] => return (.input, name, [])
  | false, first :: rest =>
    if request.input then return (.input, name, first :: rest)
    return (.file first, first, rest)

/-- The text of the commands that a shell runs. -/
def ScriptSource.read (origin : ScriptSource) : Exec Octets := do
  match origin with
  | .text commands => return commands
  | .file path =>
    match ← readPath path with
    | .ok bytes => return octetsOf bytes
    | .error fault => fail (Utility.cannotOpen path fault)
  | .input =>
    match ← readAll inputDescriptor with
    | .ok bytes => return octetsOf bytes
    | .error _ => return []

/-- What a shell does with its arguments. -/
def shellBody (engine : Engine) (name : Octets) (arguments : List Octets) : Exec Unit := do
  if (← context).folder.isEmpty then
    warn (octets s!"getcwd() failed: {OsFault.noEntry.description}")
  let request ← takeRequest (arguments.length + 1) ⟨false, false, arguments⟩
  let (origin, name, arguments) ← request.resolve name
  let text ← origin.read
  let isLast := request.text && text.getLast? ≠ some '\n'
  changeContext fun c => { c with name := name, arguments := arguments, isLast := isLast }
  engine.text false text

/-! ### The extended dialect -/

/-- How a shell of the extended dialect is called, up to the options of its own. -/
def extendedUsage : String :=
  "Usage:\tbash [GNU long option] [option] ...\n\tbash [GNU long option] [option] script-file ...\n" ++
  "GNU long options:\n\t--debug\n\t--debugger\n\t--dump-po-strings\n\t--dump-strings\n\t--help\n" ++
  "\t--init-file\n\t--login\n\t--noediting\n\t--noprofile\n\t--norc\n\t--posix\n" ++
  "\t--pretty-print\n\t--rcfile\n\t--restricted\n\t--verbose\n\t--version\nShell options:\n" ++
  "\t-ilrsD or -c command or -O shopt_option\t\t(invocation only)\n" ++
  "\t-abefhkmnptuvxBCEHPT or -o option\n"

/-- The long options that change nothing here. -/
def idleLongOptions : List String :=
  ["debugger", "login", "noediting", "noprofile", "norc", "posix", "restricted"]

/-- The long options that take a value. -/
def valuedLongOptions : List String := ["init-file", "rcfile"]

/-- Take the letters of an argument with options. -/
def takeExtendedLetters (isOn : Bool) : (letters : Octets) → ShellRequest → Exec ShellRequest
  | [], request => return request
  | letter :: letters, request => do
    match letter with
    | 'c' => takeExtendedLetters isOn letters { request with text := true }
    | 's' => takeExtendedLetters isOn letters { request with input := true }
    | 'o' =>
      match request.arguments with
      | name :: rest =>
        Utility.putNamedOption isOn name
        takeExtendedLetters isOn letters { request with arguments := rest }
      | [] => takeExtendedLetters isOn letters request
    | 'O' =>
      match request.arguments with
      | name :: rest =>
        changeContext fun c =>
          let others := c.switches.filter (· ≠ String.ofList name)
          { c with switches := if isOn then String.ofList name :: others else others }
        takeExtendedLetters isOn letters { request with arguments := rest }
      | [] => takeExtendedLetters isOn letters request
    | letter =>
      if "ilrDp".toList.contains letter then takeExtendedLetters isOn letters request
      else if !extendedLetters.contains letter then
        let name := (← context).name
        complain (name ++ octets s!": -{letter}: invalid option\n" ++ octets extendedUsage)
        throw (.exit (some 2))
      else
        Utility.putOption isOn letter
        takeExtendedLetters isOn letters request

/-- Take the options at the start of arguments. -/
def takeExtendedRequest : (bound : Nat) → ShellRequest → Exec ShellRequest
  | 0, request => return request
  | bound + 1, request => do
    let further (isOn : Bool) (letters : Octets) (rest : List Octets) : Exec ShellRequest := do
      takeExtendedRequest bound (← takeExtendedLetters isOn letters { request with arguments := rest })
    match request.arguments with
    | ['-'] :: rest => return { request with arguments := rest }
    | ['-', '-'] :: rest => return { request with arguments := rest }
    | ('-' :: '-' :: word) :: rest =>
      let word := String.ofList word
      if idleLongOptions.contains word then takeExtendedRequest bound { request with arguments := rest }
      else if valuedLongOptions.contains word then
        takeExtendedRequest bound { request with arguments := rest.tail }
      else if word = "verbose" then further true ['v'] rest
      else
        complain ((← context).name ++ octets s!": --{word}: invalid option\n" ++ octets extendedUsage)
        throw (.exit (some 2))
    | ('-' :: letters) :: rest => further true letters rest
    | ('+' :: letters) :: rest => further false letters rest
    | _ => return request

/-- The text of a file that a shell of the extended dialect runs. -/
def extendedFile (name path : Octets) : Exec Octets := do
  let refused (message : String) (status : Nat) : Exec Octets := do
    complain (name ++ octets ": " ++ path ++ octets s!": {message}\n")
    throw (.exit (some status))
  let found ← if path.contains '/' || (← files).exists? (pathOf path) then pure path
    else match programPath (← files) (← context) path with
      | .ok place => pure place
      | .error _ => pure path
  match ← readPath found with
  | .ok bytes =>
    if (installedProgram? (octetsOf (bytes.extract 0 4))).isSome then
      complain (found ++ octets ": " ++ found ++ octets ": cannot execute binary file\n")
      throw (.exit (some 126))
    return octetsOf bytes
  | .error .isDirectory => refused "Is a directory" 126
  | .error fault => refused fault.description (if fault = .noEntry then 127 else 126)

/-- What a shell of the extended dialect does with its arguments. -/
def extendedBody (engine : Engine) (name : Octets) (arguments : List Octets) : Exec Unit := do
  let request ← takeExtendedRequest (arguments.length + 1) ⟨false, false, arguments⟩
  match request.text, request.arguments with
  | true, [] =>
    complain (name ++ octets ": -c: option requires an argument\n")
    throw (.exit (some 2))
  | true, text :: rest =>
    let isLast := text.getLast? ≠ some '\n'
    changeContext fun c =>
      { c with
        name := rest.headD name, arguments := rest.tail, isLast := isLast, options := 'c' :: c.options
        origin := octets "-c: " }
    engine.text false text
  | false, [] => fromInput []
  | false, path :: rest =>
    if request.input then return ← fromInput (path :: rest)
    let text ← extendedFile name path
    changeContext fun c =>
      { c with name := path, arguments := rest, calls := [⟨octets "main", path, 0⟩] }
    engine.text false text
where
  /-- Run the commands that the standard input gives. -/
  fromInput (arguments : List Octets) : Exec Unit := do
    changeContext fun c => { c with arguments := arguments, options := 's' :: c.options }
    match ← readAll inputDescriptor with
    | .ok bytes => engine.text false (octetsOf bytes)
    | .error _ => return ()

/-- **Run the shell** as a program, in the running process. -/
def runShell (dialect : Dialect) : Program := fun engine name arguments => do
  let state ← get
  let folder := startFolder state.files state.context
  set { state with
    nextProcess := state.nextProcess + 1
    context := state.context.forShell dialect name folder state.nextProcess }
  let body := match dialect with
    | .common => shellBody engine name arguments
    | .extended => extendedBody engine name arguments
  match ← finish engine (← attempt body) with
  | .error (.killed signal) => throw (.killed signal)
  | _ => return (← context).status % 256

/-! ## Programs -/

/-- The greatest number of bytes in an argument of a program. -/
def maxArgumentLength : Nat := 131071

/-- How many bytes of a file are looked at to find out what reads it. -/
def headLength : Nat := 256

/-- How a file says that it is read. -/
inductive Interpreter
  /-- It says nothing. -/
  | unknown
  /-- It is read by a program, with at most one argument. -/
  | program (words : List Octets)

/-- Whether a byte is a blank of a first line. -/
def isHeadBlank (c : Char) : Bool := c == ' ' || c == '\t'

/-- Where the first line ends in what is looked at of a file, if that can be told: a name that goes on behind
it is none. -/
def headEnd? (head : Octets) : Option Nat :=
  let line := head.takeWhile fun c => c ≠ '\n' && c ≠ '\x00'
  if head[line.length]? = some '\n' then some line.length
  else
    let name := (head.drop 2).dropWhile isHeadBlank
    if name.any fun c => isHeadBlank c || c = '\x00' then some (headLength - 1) else none

/-- **The program that reads a script**, which its first line names, with at most one argument. What is looked
at of a short file goes on with zeros. -/
def interpreterOf (bytes : Octets) : Interpreter :=
  let start := bytes.take headLength
  let head := start ++ List.replicate (headLength - start.length) '\x00'
  match (octets "#!").isPrefixOf head, headEnd? head with
  | true, some length =>
    let line := ((head.take length).reverse.dropWhile isHeadBlank).reverse
    let text := (line.drop 2).dropWhile isHeadBlank
    let program := text.takeWhile fun c => !isHeadBlank c && c ≠ '\x00'
    let behind := text.drop program.length
    if text.isEmpty then .unknown
    else if behind.head?.any isHeadBlank then
      .program [program, (behind.dropWhile isHeadBlank).takeWhile (· ≠ '\x00')]
    else .program [program]
  | _, _ => .unknown

/-- **Run the program in a file**, which is called by some words; a script is read by at most so many
other programs. -/
def execute (engine : Engine) : (levels : Nat) → (path : Octets) → List Octets →
    Exec (Except OsFault Nat)
  | 0, _, _ => return .error .tooManyLinks
  | levels + 1, path, words => do
    if words.any fun word => maxArgumentLength < word.length then return .error .argumentsTooLong
    match (← files).findNode (pathOf path) .target with
    | .error fault => return .error fault
    | .ok (_, ⟨.file bytes, mode, _⟩) =>
      if !isRunMode mode then return .error .permissionDenied
      let bytes := octetsOf (bytes.extract 0 headLength)
      match installedProgram? bytes, interpreterOf bytes with
      | some name, _ =>
        let shell := runShell (if extendedNames.contains (String.ofList name) then .extended else .common)
        let program := (programs.lookup (String.ofList name)).getD shell
        return .ok (← program engine (words.headD []) words.tail)
      | none, .program interpreter =>
        execute engine levels (interpreter.headD []) (interpreter ++ path :: words.tail)
      | none, .unknown => return .error .notProgram
    | .ok _ => return .error .permissionDenied

/-- The greatest number of programs that read each other. -/
def maxInterpreters : Nat := 5

/-- Run a program that is called by some words. A file that says nothing about how it is read is a script
for the shell. -/
def runProgram (engine : Engine) (words : List Octets) : Exec (Except OsFault Nat) := do
  match programPath (← files) (← context) (words.headD []) with
  | .error fault => return .error fault
  | .ok path =>
    match ← execute engine maxInterpreters path words with
    | .error .notProgram =>
      return .ok (← runShell (← context).dialect engine (words.headD []) (path :: words.tail))
    | outcome => return outcome

/-! ## The engine -/

/-- More rounds than a loop takes. -/
def maxRounds : Nat := 100000

/-- **What runs scripts and programs** inside others, so many levels deep. -/
def engine : (levels : Nat) → Engine
  | 0 =>
    { script := fun _ _ => fail (octets "nested too deeply")
      text := fun _ _ => fail (octets "nested too deeply")
      program := fun _ => return .error .tooManyLinks
      rounds := 0 }
  | levels + 1 =>
    { script := fun tested script => runScript (engine levels) tested script
      text := fun tested text => runText (engine levels) tested text
      program := fun words => runProgram (engine levels) words
      rounds := maxRounds }

/-- More levels than scripts are nested. -/
def maxNesting : Nat := 100000

end Shell

end ComponentScaffold
