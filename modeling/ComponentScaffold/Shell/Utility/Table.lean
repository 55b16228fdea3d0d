import ComponentScaffold.Shell.Extended.Utility.Control
import ComponentScaffold.Shell.Extended.Utility.Directory
import ComponentScaffold.Shell.Extended.Utility.Names
import ComponentScaffold.Shell.Extended.Utility.Output
import ComponentScaffold.Shell.Extended.Utility.Read
import ComponentScaffold.Shell.Extended.Utility.Signals
import ComponentScaffold.Shell.Extended.Utility.Test
import ComponentScaffold.Shell.Utility.Arguments
import ComponentScaffold.Shell.Utility.Control
import ComponentScaffold.Shell.Utility.Names
import ComponentScaffold.Shell.Utility.Output
import ComponentScaffold.Shell.Utility.Process
import ComponentScaffold.Shell.Utility.Signals

/-! # The utilities

* **`Shell.utility?`** — the utility of a name.
* **`Shell.extendedUtility?`** — the utility of a name in the extended dialect. -/

namespace ComponentScaffold

namespace Shell

/-! ## The usual utilities -/

namespace Utility

/-- The special utilities, by name. -/
def specialUtilities : List (String × Utility) :=
  [(".", source), (":", succeed), ("break", skip false), ("continue", skip true), ("eval", eval),
    ("exec", exec), ("exit", exit), ("export", mark .exported), ("local", makeLocal),
    ("readonly", mark .fixed), ("return", leave), ("set", set), ("shift", shift), ("times", times),
    ("trap", trap), ("unset", unset)]

/-- The other utilities, by name. -/
def regularUtilities : List (String × Utility) :=
  [("alias", setAlias), ("bg", moveJob), ("cd", changeFolder), ("chdir", changeFolder),
    ("command", command), ("echo", echo), ("false", refuse), ("fg", moveJob), ("getopts", getopts),
    ("hash", hash), ("jobs", succeed), ("kill", kill), ("printf", printf), ("pwd", folder),
    ("read", read), ("test", test), ("[", bracket), ("true", succeed), ("type", describe),
    ("ulimit", ulimit), ("umask", umask), ("unalias", unalias), ("wait", wait)]

/-- The names of the regular utilities are those that are known as such. -/
example : regularUtilities.map Prod.fst = regularNames := rfl

/-- Whether the arguments of a utility that are assignments are expanded like those. -/
def takesAssignments (name : Octets) : Bool :=
  ["export", "readonly", "local", "alias"].contains (String.ofList name)

end Utility

/-- **The utility of a name.** -/
def utility? (name : Octets) : Option Utility :=
  let name := String.ofList name
  (Utility.specialUtilities.lookup name).orElse fun _ => Utility.regularUtilities.lookup name

/-! ## The extended dialect -/

namespace Extended

/-- The utilities that direct what runs, by name. -/
def controlUtilities : List (String × Utility) :=
  [(".", source), ("break", skip false), ("caller", caller), ("continue", skip true), ("eval", eval), ("exec", exec),
    ("exit", exit), ("logout", logout), ("return", leave), ("source", source)]

/-- The utilities for variables and options, by name. -/
def variableUtilities : List (String × Utility) :=
  [("declare", declare), ("export", markAs .exported), ("getopts", getopts), ("let", compute),
    ("local", makeLocal), ("mapfile", readRows), ("read", read), ("readarray", readRows),
    ("readonly", markAs .fixed), ("set", set), ("shift", shift), ("shopt", shopt), ("typeset", declare),
    ("unset", unset)]

/-- The utilities for names, directories and processes, by name. -/
def processUtilities : List (String × Utility) :=
  [("alias", setAlias), ("bg", refuseControl), ("builtin", builtin), ("cd", changeFolder), ("command", command),
    ("dirs", folders), ("disown", disown), ("enable", enable), ("fg", refuseControl), ("hash", hash),
    ("jobs", listJobs), ("kill", kill), ("popd", pop), ("pushd", push), ("pwd", folder), ("suspend", suspend),
    ("times", times), ("trap", trap), ("type", describe), ("ulimit", ulimit), ("umask", umask),
    ("unalias", unalias), ("wait", wait)]

/-- The utilities that write or answer, by name. -/
def outputUtilities : List (String × Utility) :=
  [(":", Utility.succeed), ("[", bracket), ("echo", echo), ("false", Utility.refuse), ("history", Utility.succeed),
    ("printf", printf), ("test", test), ("true", Utility.succeed)]

end Extended

/-- **The utility of a name** in the extended dialect. -/
def extendedUtility? (name : Octets) : Option Utility :=
  open Extended in
  (controlUtilities ++ variableUtilities ++ processUtilities ++ outputUtilities).lookup (String.ofList name)

end Shell

end ComponentScaffold
