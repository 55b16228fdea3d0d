import ComponentScaffold.Session

/-! # Template generators

A generator writes the files of a component from a template. It is an outside program: of its effects
nothing is known but that they follow from what it is asked for and from the file system it finds. -/

namespace ComponentScaffold

/-- What a generator reports when it succeeds. -/
structure GeneratorOutput where
  /-- What it wrote to its standard output. -/
  stdout : String
  /-- What it wrote to its standard error. -/
  stderr : String
  /-- Whether it succeeded only when it was forced. -/
  forced : Bool
deriving DecidableEq, Repr

/-- What a generator does when it is asked. -/
structure Generation where
  /-- What it reports, or why it failed. -/
  outcome : Except Failure GeneratorOutput
  /-- The file system it leaves. -/
  files : FileSystem
  /-- What is reported on the way. -/
  records : List Record

/-- **A template generator.** -/
structure Generator where
  /-- How an invocation for a template and a name is shown. -/
  describe : (template name : String) → String
  /-- What it does when it is asked. -/
  perform : Invocation → FileSystem → Generation

/-- **Ask a generator.** The invocation is noted. Whatever the generator does, relative paths start from
the same directory as before, though it may have moved or removed that. -/
def Generator.invoke (generator : Generator) (invocation : Invocation) : Action GeneratorOutput :=
  ExceptT.mk fun session =>
    let generation := generator.perform invocation session.files
    (generation.outcome,
      { files := { generation.files with standing := session.files.standing }
        records := session.records ++ generation.records
        invocations := session.invocations ++ [invocation] })

/-- How an invocation is shown where a generator has no form of its own. -/
def Generator.plainDescription (template name : String) : String := s!"{template} -n {name}"

end ComponentScaffold
