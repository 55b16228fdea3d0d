import ComponentScaffold.Shell.Octets

/-! # Scripts

What a script is made of once it has been read. Words keep their parameters and commands, in whose place
values are put when the word is used. There are two dialects: some forms are those of the extended one alone.

* **`Shell.Dialect`** — which forms scripts can have.
* **`Shell.Piece`** — a part of a word; a `Word` is a list of them.
* **`Shell.Script`** — a script. -/

namespace ComponentScaffold

namespace Shell

/-- **Which forms scripts can have.** -/
inductive Dialect
  /-- Those that all shells know. -/
  | common
  /-- Those, and more: lists, questions between double brackets, parts of values and others. -/
  | extended
deriving DecidableEq, Repr

/-- The descriptor of the standard input, that of the standard output, and that of the standard error. -/
def inputDescriptor : Nat := 0

@[inherit_doc inputDescriptor]
def outputDescriptor : Nat := 1

@[inherit_doc inputDescriptor]
def errorDescriptor : Nat := 2

/-- A parameter of a script. -/
inductive Parameter
  /-- A variable. -/
  | variable (name : Octets)
  /-- The argument of a number, or for zero the name of the script. -/
  | argument (index : Nat)
  /-- All arguments, as one text between quotes if `joined`. -/
  | arguments (joined : Bool)
  /-- The number of arguments. -/
  | count
  /-- The status of the last command. -/
  | status
  /-- The options that are on. -/
  | options
  /-- The number of the process. -/
  | process
  /-- The number of the last process in the background. -/
  | background
deriving DecidableEq, Repr

/-- What is done where a parameter has no value. -/
inductive Fallback
  /-- A word stands for it. -/
  | other
  /-- A word stands for it, and becomes its value. -/
  | assign
  /-- The script ends with a word as its complaint. -/
  | complain
  /-- Nothing, while a word stands for a value that is there. -/
  | instead
deriving DecidableEq, Repr

/-- How a descriptor is opened on a file. -/
inductive OpenMode
  /-- To read the file. -/
  | read
  /-- To write the file from its start, emptied; by `force` also where that is forbidden. -/
  | write (force : Bool)
  /-- To write at the end of the file. -/
  | append
  /-- To read and write the file. -/
  | readWrite
deriving DecidableEq, Repr

/-- Where a part of a value is replaced. -/
inductive ReplacePlace
  /-- Where it is found first. -/
  | first
  /-- Wherever it is found. -/
  | all
  /-- At the start. -/
  | start
  /-- At the end. -/
  | finish
deriving DecidableEq, Repr

mutual

/-- **A part of a word.** -/
inductive Piece
  /-- A character, which means itself if it is quoted. -/
  | char (c : Char) (quoted : Bool)
  /-- Quotes, by which there is a word even if nothing is in them. -/
  | quotes
  /-- The value of a parameter. -/
  | parameter (parameter : Parameter) (quoted : Bool)
  /-- The length of the value of a parameter. -/
  | length (parameter : Parameter) (quoted : Bool)
  /-- The value of a parameter, or what is done if it has none; an empty value counts as none if
  `orEmpty`. -/
  | fallback (parameter : Parameter) (what : Fallback) (orEmpty : Bool) (word : List Piece)
    (quoted : Bool)
  /-- The value of a parameter less what has a pattern at its start, or at its end. -/
  | trimmed (parameter : Parameter) (atEnd longest : Bool) (pattern : List Piece) (quoted : Bool)
  /-- Something between braces that is no form of a parameter. -/
  | broken (text : Octets)
  /-- What a form makes of what a parameter or a list is, and the text in which that is asked for. -/
  | formed (subject : Subject) (form : Form) (text : Octets) (quoted : Bool)
  /-- The path of what a script writes. -/
  | channel (script : Script)
  /-- An assignment that stands in the place of a word. -/
  | assigned (assignment : Assignment)
  /-- What a script writes. -/
  | command (script : Script) (quoted : Bool)
  /-- The value of an expression. -/
  | arithmetic (expression : List Piece) (quoted : Bool)

/-- What a form is about. -/
inductive Subject
  /-- A parameter. -/
  | parameter (parameter : Parameter)
  /-- The entry of a variable with a key. -/
  | entry (name : Octets) (key : List Piece)
  /-- All entries of a variable, as one text between quotes if `joined`. -/
  | entries (name : Octets) (joined : Bool)
  /-- The keys of the entries. -/
  | keys (name : Octets) (joined : Bool)
  /-- The names of the variables that start with a text. -/
  | names (start : Octets) (joined : Bool)
  /-- What the value of a subject names. -/
  | named (subject : Subject)

/-- What is made of a value. -/
inductive Form
  /-- The value itself. -/
  | value
  /-- Its length, or the number of values. -/
  | length
  /-- The value, or what is done if there is none. -/
  | fallback (what : Fallback) (orEmpty : Bool) (word : List Piece)
  /-- The value less what has a pattern at its start, or at its end. -/
  | trimmed (atEnd longest : Bool) (pattern : List Piece)
  /-- The part from a place on, of a length if one is told. -/
  | part (start : List Piece) (length : Option (List Piece))
  /-- The value with something else for the parts that fit a pattern. -/
  | replaced (place : ReplacePlace) (pattern other : List Piece)
  /-- The value with capital or small letters for those that fit a pattern, or for the first one alone. -/
  | lettered (capital all : Bool) (pattern : List Piece)
  /-- The value as a letter says. -/
  | shown (manner : Char)

/-- What a variable is given. -/
inductive Assignment
  /-- A text, for the entry of a key if there is one, and behind what is there if it `appends`. -/
  | text (name : Octets) (key : Option (List Piece)) (appends : Bool) (value : List Piece)
  /-- Entries, which can have keys, and are added to those that are there if it `appends`. -/
  | entries (name : Octets) (appends : Bool) (entries : List (Option (List Piece) × List Piece))

/-- A question between double brackets. -/
inductive Question
  /-- Whether a word is not empty. -/
  | word (word : List Piece)
  /-- A question about an operand. -/
  | one (operator : String) (operand : List Piece)
  /-- A question about two operands. -/
  | two (operator : String) (first second : List Piece)
  /-- Whether a question is answered by no. -/
  | negation (question : Question)
  /-- Whether both questions are answered by yes. -/
  | both (first second : Question)
  /-- Whether one of two questions is answered by yes. -/
  | either (first second : Question)

/-- A redirection of a descriptor. -/
inductive Redirect
  /-- To a file. -/
  | file (descriptor : Nat) (mode : OpenMode) (target : List Piece)
  /-- To where another descriptor goes. -/
  | duplicate (descriptor : Nat) (target : List Piece)
  /-- From a text that stands in the script, given by its number. -/
  | document (descriptor : Nat) (index : Nat)
  /-- From a word, as a line. -/
  | text (descriptor : Nat) (word : List Piece)

/-- **A script.** A line is that of the script's text where a part of it stands. -/
inductive Script
  /-- Nothing. -/
  | nothing
  /-- A simple command: variables that are assigned, the words, and redirections. -/
  | simple (line : Nat) (assignments : List Assignment) (words : List (List Piece))
    (redirects : List Redirect)
  /-- One script after the other. -/
  | sequence (first second : Script)
  /-- The second script if the first succeeds. -/
  | both (first second : Script)
  /-- The second script if the first fails. -/
  | either (first second : Script)
  /-- A script whose success counts as failure. -/
  | negation (body : Script)
  /-- Scripts of which each reads what the one before it writes. -/
  | pipeline (stages : List Script)
  /-- A script that is not waited for. -/
  | background (body : Script)
  /-- One of two scripts, by the success of a third. -/
  | branch (condition yes no : Script)
  /-- A script for as long as another one succeeds, or fails if `negated`. -/
  | loop (negated : Bool) (condition body : Script)
  /-- A script for each of some words in a variable. -/
  | each (line : Nat) (name : Octets) (values : List (List Piece)) (body : Script)
  /-- The first script for whose patterns a word is one. -/
  | choice (line : Nat) (subject : List Piece) (clauses : List (List (List Piece) × Script))
  /-- A script in a process of its own. -/
  | enclosed (line : Nat) (body : Script) (redirects : List Redirect)
  /-- A script under redirections. -/
  | redirected (line : Nat) (body : Script) (redirects : List Redirect)
  /-- A function and its name. -/
  | define (line : Nat) (name : Octets) (body : Script)
  /-- A question, whose answer is the status. -/
  | question (line : Nat) (question : Question)
  /-- An expression, whose value is the status. -/
  | compute (line : Nat) (expression : List Piece)
  /-- A script as long as an expression is not zero, between one that is evaluated before and one that is
  evaluated behind each round. -/
  | counted (line : Nat) (first condition step : List Piece) (body : Script)

end

/-- **A word.** -/
abbrev Word := List Piece

/-- A word that writes itself. -/
def Word.plain (text : Octets) : Word := text.map fun c => .char c false

end Shell

end ComponentScaffold
