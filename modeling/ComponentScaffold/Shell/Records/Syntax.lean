import ComponentScaffold.Shell.Regex.Basic
import ComponentScaffold.Shell.Records.Value

/-! # Scripts over records

What a script over records is made of: rules, each with a pattern that says for which records something is done, and
functions.

* **`Records.Expression`** — what has a value.
* **`Records.Statement`** — what is done.
* **`Records.Script`** — a script. -/

namespace ComponentScaffold

namespace Shell

namespace Records

/-- What is computed of two numbers. -/
inductive Operator
  | add
  | subtract
  | multiply
  | divide
  | modulo
  | power
deriving DecidableEq, Repr

/-- How two values can be ordered. -/
inductive Relation
  | less
  | atMost
  | equal
  | unequal
  | greater
  | atLeast
deriving DecidableEq, Repr

/-- Where something is written to, besides the standard output. -/
inductive Sink
  /-- A file, which is emptied first. -/
  | file
  /-- The end of a file. -/
  | append
  /-- A command that reads it. -/
  | command
deriving DecidableEq, Repr

mutual

/-- **What has a value.** -/
inductive Expression
  /-- A number. -/
  | number (n : Float)
  /-- A text. -/
  | text (text : Octets)
  /-- A pattern for texts, whose value is whether the record has a part that fits it. -/
  | regex (regex : Regex)
  /-- A variable. -/
  | name (name : Octets)
  /-- A field of the record, or for zero the record. -/
  | field (index : Expression)
  /-- An entry of a table. -/
  | item (table : Octets) (indices : List Expression)
  /-- A value that is assigned, after it was put together with the one before. -/
  | assign (target : Expression) (operator : Option Operator) (value : Expression)
  /-- A number that is changed by one, before its value is taken unless it is `late`. -/
  | step (target : Expression) (operator : Operator) (late : Bool)
  /-- A number with its sign changed. -/
  | negative (inner : Expression)
  /-- A value as a number. -/
  | positive (inner : Expression)
  /-- Whether a value does not count as true. -/
  | not (inner : Expression)
  /-- What is computed of two numbers. -/
  | compute (operator : Operator) (first second : Expression)
  /-- Whether two values are ordered in a way. -/
  | relate (relation : Relation) (first second : Expression)
  /-- One text behind another one. -/
  | join (first second : Expression)
  /-- Whether both values count as true. -/
  | both (first second : Expression)
  /-- Whether one of two values counts as true. -/
  | either (first second : Expression)
  /-- One of two values. -/
  | choose (condition yes no : Expression)
  /-- Whether a text has a part that fits a pattern. -/
  | matching (negated : Bool) (text pattern : Expression)
  /-- Whether a table has an entry. -/
  | has (indices : List Expression) (table : Octets)
  /-- What a function of the script returns. -/
  | call (line : Nat) (function : Octets) (arguments : List Expression)
  /-- What a function of the language returns. -/
  | builtin (function : String) (arguments : List Expression)
  /-- Whether a record was read: the next one, one of a file, or one that a command writes. -/
  | getline (origin : Option (Sink × Expression)) (target : Option Expression)
  /-- Values between parentheses. -/
  | group (members : List Expression)

end

/-- **What is done.** -/
inductive Statement
  /-- Nothing. -/
  | nothing
  /-- An expression is evaluated. -/
  | evaluate (expression : Expression)
  /-- Values are written, by a format if `formatted`. -/
  | print (formatted : Bool) (values : List Expression) (target : Option (Sink × Expression))
  /-- One of two things, by a condition. -/
  | branch (condition : Expression) (yes no : Statement)
  /-- Something is done as long as a condition holds; with `first` it is done once before that. -/
  | loop (first : Bool) (condition : Option Expression) (step body : Statement)
  /-- Something is done for each name of a table. -/
  | each (name table : Octets) (body : Statement)
  /-- One thing after the other. -/
  | sequence (first second : Statement)
  /-- An entry of a table is removed, or all of them. -/
  | delete (table : Octets) (indices : List Expression)
  /-- The next record is taken, or the next file. -/
  | next (file : Bool)
  /-- The script ends. -/
  | exit (status : Option Expression)
  /-- The function returns. -/
  | return (value : Option Expression)
  /-- The loop ends. -/
  | break
  /-- The next round of the loop begins. -/
  | continue

/-- When a rule is followed. -/
inductive Pattern
  /-- Before the first record. -/
  | before
  /-- Behind the last record. -/
  | behind
  /-- For each record. -/
  | always
  /-- For the records for which an expression counts as true. -/
  | holds (condition : Expression)
  /-- From a record for which one expression counts as true to one for which another does. -/
  | range (number : Nat) (first last : Expression)

/-- A function. -/
structure Function where
  /-- The names of its arguments and of its other own variables. -/
  parameters : List Octets
  /-- What it does. -/
  body : Statement

/-- **A script.** -/
structure Script where
  /-- The rules. -/
  rules : List (Pattern × Statement)
  /-- The functions by their names. -/
  functions : List (Octets × Function)
  /-- Which parameters of the functions are tables. -/
  tables : List (Octets × List Bool)

end Records

end Shell

end ComponentScaffold
