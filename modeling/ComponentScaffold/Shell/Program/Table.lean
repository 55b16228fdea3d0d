import ComponentScaffold.Shell.Program.Answers
import ComponentScaffold.Shell.Program.Columns
import ComponentScaffold.Shell.Program.Compute
import ComponentScaffold.Shell.Program.Copy
import ComponentScaffold.Shell.Program.Edit
import ComponentScaffold.Shell.Program.Find
import ComponentScaffold.Shell.Program.Folder
import ComponentScaffold.Shell.Program.Link
import ComponentScaffold.Shell.Program.Listing
import ComponentScaffold.Shell.Program.Move
import ComponentScaffold.Shell.Program.Names
import ComponentScaffold.Shell.Program.Permissions
import ComponentScaffold.Shell.Program.Processes
import ComponentScaffold.Shell.Program.Records
import ComponentScaffold.Shell.Program.Remove
import ComponentScaffold.Shell.Program.Search
import ComponentScaffold.Shell.Program.Show
import ComponentScaffold.Shell.Program.Sort
import ComponentScaffold.Shell.Program.Touch
import ComponentScaffold.Shell.Program.Translate

/-! # The programs

* **`Shell.programs`** — the programs besides the shell, by their names.
* **`Shell.installation`**, **`Shell.systemFiles`** — what a file system holds besides the files of its
  users: the directories of the system, the devices, and the programs. -/

namespace ComponentScaffold

namespace Shell

/-- **The programs besides the shell**, by their names. -/
def programs : List (String × Program) :=
  open Program in
  [("[", bracket), ("awk", awk), ("basename", basename), ("cat", cat), ("chgrp", chgrp), ("chmod", chmod),
    ("chown", chown), ("cmp", cmp), ("comm", comm), ("cp", cp), ("cut", cut), ("dir", dir),
    ("dirname", dirname), ("echo", echo), ("egrep", egrep),
    ("env", env), ("expr", expr), ("false", deny), ("fgrep", fgrep), ("find", find), ("fold", fold),
    ("grep", grep), ("head", head), ("id", Program.id), ("kill", kill), ("link", link),
    ("ln", ln), ("ls", ls), ("mawk", awk),
    ("mkdir", mkdir), ("mkfifo", mkfifo), ("mknod", mknod), ("mv", mv), ("nl", nl), ("nohup", nohup), ("paste", paste),
    ("printenv", printenv), ("printf", printf), ("pwd", pwd), ("readlink", readlink),
    ("realpath", realpath), ("rev", rev), ("rm", rm), ("rmdir", rmdir), ("sed", sed), ("seq", seq),
    ("sleep", sleep), ("sort", sort), ("stat", stat), ("sync", succeed), ("tac", tac), ("tail", tail), ("tee", tee),
    ("test", test), ("timeout", timeout), ("touch", touch), ("tr", tr), ("true", succeed), ("tty", tty),
    ("uname", uname), ("uniq", uniq), ("unlink", unlink), ("vdir", vdir), ("wc", wc), ("which", which),
    ("whoami", always "root"), ("xargs", xargs), ("yes", yes)]

/-- The names of the shell of the extended dialect. -/
def extendedNames : List String := ["bash", "rbash"]

/-- The names of the shells. -/
def shellNames : List String := ["sh", "dash"] ++ extendedNames

/-- The directories in which programs are installed. -/
def programFolder : Location := ["usr", "bin"]

/-- The directories of the system. -/
def systemFolders : List Location :=
  [["usr"], ["usr", "bin"], ["usr", "sbin"], ["usr", "local"], ["usr", "local", "bin"],
    ["usr", "local", "sbin"], ["dev"], ["etc"], ["home"], ["root"], ["tmp"], ["var"]]

/-- The devices, by their names. -/
def devices : List (String × Device) :=
  [("null", .null), ("zero", .zero), ("full", .full), ("random", .random), ("urandom", .random),
    ("tty", .terminal)]

/-- **The entries of the system**, with their modes. -/
def installation : List (Location × Entry × Nat) :=
  (shellNames ++ programs.map Prod.fst).map (fun name =>
    (programFolder ++ [name], .file (programBytes (octets name)), 0o755)) ++
  [(["bin"], .link ⟨"usr/bin"⟩, 0o777), (["sbin"], .link ⟨"usr/sbin"⟩, 0o777)] ++
  systemFolders.map (fun place => (place, .directory, if place = ["tmp"] then 0o1777 else 0o755)) ++
  devices.map fun (name, device) => (["dev", name], .device device, 0o666)

/-- A file system that holds the system and nothing else, at a time. -/
def systemFiles (now : Time) : FileSystem :=
  installation.foldr (fun (place, entry, mode) files => files.add place ⟨entry, mode, now⟩)
    (.empty now 0o022)

end Shell

end ComponentScaffold
