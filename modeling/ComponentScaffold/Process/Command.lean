import ComponentScaffold.Files.Basic
import ComponentScaffold.Files.Fault
import ComponentScaffold.Text.Search

/-! # Commands and processes

A command names a program, its arguments and the directory it runs in. What running it does is up to a
`ProcessHost`, which may answer differently each time.

* **`ShellWords`** — how words are written on the command line of a shell.
* **`Command`**, **`ProcessHost`** — what is run and what runs it. -/

namespace ComponentScaffold

/-! ## Shell words

How words are written on the command line of a shell, and how a shell reads them.

* **`ShellWords.quote`**, **`ShellWords.line`** — a word, and a line of words. A word that could mean
  something else to a shell is put between single quotes.
* **`ShellWords.split?`** — the words of a line, if it consists of words alone. -/

namespace ShellWords

/-- Whether a character needs no quoting. -/
def isPlain (c : Char) : Bool := c.isAlphanum || "-_./:=@,+%".toList.contains c

/-- A quote inside a quoted word: the quotes are closed, a quote is escaped, they are opened again. -/
def splicedQuote : List Char := ['\x27', '\\', '\x27', '\x27']

/-- A character between single quotes. -/
def quoteChar (c : Char) : List Char := if c = '\x27' then splicedQuote else [c]

/-- **A word as it is written**: as it is if it is plain, else between single quotes. -/
def quote (word : List Char) : List Char :=
  if !word.isEmpty && word.all isPlain then word
  else '\x27' :: word.flatMap quoteChar ++ ['\x27']

/-- **A line of words.** -/
def line (words : List (List Char)) : List Char := [' '].intercalate (words.map quote)

/-! ### Reading -/

/-- Whether a character parts words. -/
def isSeparator (c : Char) : Bool := c == ' ' || c == '\t' || c == '\n'

/-- Whether a character means something other than itself where it stands unquoted. -/
def isActive (c : Char) : Bool := "|&;<>()$\x60\"*?[]#~!\x7b\x7d".toList.contains c

/-- What has been read of a line. -/
structure Progress where
  /-- The words that are complete, the last one first. -/
  done : List (List Char)
  /-- The word that is being read, the last character first. -/
  word : Option (List Char)

namespace Progress

/-- The word being read with one more character. -/
def push (progress : Progress) (c : Char) : Progress :=
  { progress with word := some (c :: progress.word.getD []) }

/-- The word being read, which may be empty because its quotes are. -/
def opened (progress : Progress) : Progress :=
  { progress with word := some (progress.word.getD []) }

/-- The word being read completed, if there is one. -/
def closed (progress : Progress) : Progress :=
  match progress.word with
  | none => progress
  | some word => ⟨word.reverse :: progress.done, none⟩

end Progress

/-- The words of the rest of a line, given what has been read and whether the rest stands between
single quotes. -/
def splitFrom? (progress : Progress) : (quoted : Bool) → List Char → Option (List (List Char))
  | true, [] => none
  | false, [] => some progress.closed.done.reverse
  | true, c :: rest =>
    if c = '\x27' then splitFrom? progress false rest else splitFrom? (progress.push c) true rest
  | false, ['\\'] => none
  | false, '\\' :: c :: rest => splitFrom? (progress.push c) false rest
  | false, c :: rest =>
    if c = '\x27' then splitFrom? progress.opened true rest
    else if isSeparator c then splitFrom? progress.closed false rest
    else if isActive c then none
    else splitFrom? (progress.push c) false rest

/-- **The words of a line**, unless part of it means something other than a word. -/
def split? (text : List Char) : Option (List (List Char)) := splitFrom? ⟨[], none⟩ false text

end ShellWords

/-! ## Commands -/

/-- **A command.** -/
structure Command where
  /-- The program. -/
  program : String
  /-- The arguments, in order. -/
  arguments : List String
  /-- The directory to run in, if it is not the current one. -/
  directory : Option Path
deriving DecidableEq, Repr

namespace Command

/-- The command with one more argument at the end. -/
def withArgument (command : Command) (argument : String) : Command :=
  { command with arguments := command.arguments ++ [argument] }

/-- **The command as a shell would take it**, without its directory. -/
def shellText (command : Command) : String :=
  String.ofList (ShellWords.line ((command.program :: command.arguments).map String.toList))

end Command

/-- What a process leaves when it ends. -/
structure ProcessExit where
  /-- Whether it ended well. -/
  succeeded : Bool
  /-- What it wrote to its standard output. -/
  stdout : List UInt8
  /-- What it wrote to its standard error. -/
  stderr : List UInt8

/-- **What runs commands.** The answer may depend on the commands run before and on the file system,
which it may change; a command whose program cannot be started changes nothing else. -/
abbrev ProcessHost :=
  (earlier : List Command) → Command → FileSystem → Except StartFault ProcessExit × FileSystem

end ComponentScaffold
