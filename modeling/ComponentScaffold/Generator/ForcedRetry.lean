import ComponentScaffold.Config.Basic
import ComponentScaffold.Generator.Basic
import ComponentScaffold.Process.Command
import ComponentScaffold.Text.Lowercase
import ComponentScaffold.Text.Utf8

/-! # Generators that are programs

A generator can be a program that is run in the folder of the component. A run that fails because the
project was not restored is repeated once with `--force`; any other failure is final, above all the
hint that existing files would have to be overwritten.

* **`asksForForce`** — whether the output of a failed run asks for the second one.
* **`CommandGenerator.generate`** — the one or two runs and what comes of them. -/

namespace ComponentScaffold

open Text

/-- What a failed run says if it can be repeated by force. -/
def forceSignatures : List String := ["not yet restored", "has not been restored"]

/-- **Whether the output of a failed run asks for force**, in capital or small letters. -/
def asksForForce (stdout stderr : List Char) : Bool :=
  let output := lower (stdout ++ '\n' :: stderr)
  forceSignatures.any fun signature => occursIn signature.toList output

namespace ProcessExit

/-- The standard output as text. -/
def stdoutText (exit : ProcessExit) : List Char := decodeLossy exit.stdout

/-- The standard error as text. -/
def stderrText (exit : ProcessExit) : List Char := decodeLossy exit.stderr

/-- What a failed run has to say: its standard error, or if that is blank its standard output. -/
def report (exit : ProcessExit) : String :=
  let error := trim exit.stderrText
  String.ofList (if error.isEmpty then trim exit.stdoutText else error)

/-- What a successful run gives. -/
def output (exit : ProcessExit) (forced : Bool) : GeneratorOutput :=
  ⟨String.ofList exit.stdoutText, String.ofList exit.stderrText, forced⟩

end ProcessExit

/-- A program that instantiates templates. -/
structure CommandGenerator where
  /-- The program. -/
  program : String
  /-- What it is given before the template. -/
  baseArguments : List String
deriving DecidableEq, Repr

namespace CommandGenerator

/-- The program of a configuration. -/
def ofConfig (config : Config) : CommandGenerator :=
  ⟨config.generatorCommand, config.generatorArgs⟩

/-- The command for an invocation. -/
def command (generator : CommandGenerator) (invocation : Invocation) : Command where
  program := generator.program
  arguments := generator.baseArguments ++ [invocation.template, "-n", invocation.name]
  directory := some invocation.directory

/-- The argument of a forced run. -/
def forceArgument : String := "--force"

/-- The outcome of a run, which is not repeated. -/
def finalOutcome (generator : CommandGenerator) (template : String) (forced : Bool) :
    Except StartFault ProcessExit → Except Failure GeneratorOutput
  | .error fault => .error (.generator template (.notStarted generator.program fault))
  | .ok exit =>
    if exit.succeeded then .ok (exit.output forced)
    else .error (.generator template (.reported exit.report))

/-- What an invocation comes to, and the commands that were run for it. -/
structure Runs where
  /-- What the generator did. -/
  generation : Generation
  /-- The commands, in order. -/
  commands : List Command

/-- **The runs for an invocation**: one, and a second by force if the first asks for it. -/
def generate (generator : CommandGenerator) (host : ProcessHost) (invocation : Invocation)
    (fs : FileSystem) : Runs :=
  let command := generator.command invocation
  let started : Record := ⟨.info, "running template generator",
    [("command", command.shellText), ("cwd", invocation.directory.text)]⟩
  let (first, afterFirst) := host [] command fs
  let final := generator.finalOutcome invocation.template false first
  match first with
  | .error _ => ⟨⟨final, afterFirst, [started]⟩, [command]⟩
  | .ok exit =>
    if exit.succeeded || !asksForForce exit.stdoutText exit.stderrText then
      ⟨⟨final, afterFirst, [started]⟩, [command]⟩
    else
      let repeated : Record :=
        ⟨.warn, "generator asked for a forced run, retrying once", [("output", exit.report)]⟩
      let forced := command.withArgument forceArgument
      -- whatever the second run says, it is the last
      let (second, afterSecond) := host [command] forced afterFirst
      ⟨⟨generator.finalOutcome invocation.template true second, afterSecond, [started, repeated]⟩,
        [command, forced]⟩

/-- How an invocation is shown: as the command it runs. -/
def describe (generator : CommandGenerator) (template name : String) : String :=
  (generator.command ⟨template, name, ⟨"."⟩⟩).shellText

/-- The generator that runs a program. -/
def toGenerator (generator : CommandGenerator) (host : ProcessHost) : Generator where
  describe := generator.describe
  perform invocation fs := (generator.generate host invocation fs).generation

end CommandGenerator

end ComponentScaffold
