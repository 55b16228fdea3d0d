import ComponentScaffold.Shell.Edit.Run

/-! # The editor of lines

* **`Program.sed`** — edits the lines of files by a script. -/

namespace ComponentScaffold

namespace Shell

namespace Program

/-- The options of `sed`. -/
def sedForms : List OptionForm :=
  [⟨'n', true, ["quiet", "silent"], .none⟩, ⟨'e', true, ["expression"], .required⟩,
    ⟨'f', true, ["file"], .required⟩, ⟨'E', true, ["regexp-extended"], .none⟩, .short 'r' .none,
    ⟨'i', true, ["in-place"], .optional⟩, ⟨'l', true, ["line-length"], .required⟩,
    ⟨'s', true, ["separate"], .none⟩, ⟨'u', true, ["unbuffered"], .none⟩,
    ⟨'z', true, ["null-data"], .none⟩, ⟨'p', false, ["posix"], .none⟩,
    ⟨'d', false, ["debug"], .none⟩, ⟨'L', false, ["follow-symlinks"], .none⟩,
    ⟨'S', false, ["sandbox"], .none⟩]

/-- How `sed` is used. -/
def sedUsage (name : Octets) : Octets :=
  octets "Usage: " ++ name ++
    octets " [OPTION]... \x7bscript-only-if-no-other-script\x7d [input-file]...\n\n"

/-- The status where files are not as they should be. -/
def editFailure : Nat := 4

/-- A part of a script. -/
structure ScriptPart where
  /-- The file that holds it. -/
  file : Option Octets
  /-- Its text. -/
  text : Octets

/-- The parts of the script among the options, or the status if a file cannot be read. -/
def scriptParts (name : Octets) : List (Char × Octets) → Exec (Except Nat (List ScriptPart))
  | [] => return .ok []
  | (key, value) :: rest => do
    let onward (part : ScriptPart) : Exec (Except Nat (List ScriptPart)) := do
      return (← scriptParts name rest).map (part :: ·)
    if key = 'e' then onward ⟨none, value⟩
    else if key = 'f' then
      match ← readOperand value with
      | .ok text =>
        onward ⟨some value, if text.getLast? = some '\n' then text.dropLast else text⟩
      | .error fault =>
        return .error (← refuse name (octets "couldn't open file " ++ faultText value fault) editFailure)
    else scriptParts name rest

/-- Where a place in a script is, told by the part that it is in. Parts without a file have numbers. -/
def placeText : (number : Nat) → (place : Nat) → List ScriptPart → Octets
  | number, place, part :: rest =>
    if part.text.length < place && !rest.isEmpty then
      placeText (if part.file.isSome then number else number + 1) (place - part.text.length - 1) rest
    else match part.file with
      | some file =>
        let line := (part.text.take (place - 1)).count '\n' + 1
        octets "file " ++ file ++ octets " line " ++ natText line
      | none => octets s!"-e expression #{number}, char {place}"
  | number, place, [] => octets s!"-e expression #{number}, char {place}"

/-- What is said about a fault of a script. -/
def scriptFaultText (parts : List ScriptPart) (fault : Edit.ScriptFault) : Octets :=
  (match fault.place with
    | none => []
    | some 0 => octets "-e expression #1, char 0: "
    | some place => placeText 1 place parts ++ octets ": ") ++ octets fault.message

/-- Open the files that are written, or return the status if one cannot be opened. What is written to the
standard output is shown with the rest. -/
def editOutputs (name : Octets) : List Octets → Exec (Except Nat (List (Octets × Nat)))
  | [] => return .ok []
  | file :: rest => do
    if file = octets "/dev/stdout" then editOutputs name rest
    else match ← openPath file (.write true) with
      | .ok index => return (← editOutputs name rest).map ((file, index) :: ·)
      | .error fault =>
        return .error (← refuse name (octets "couldn't open file " ++ faultText file fault) editFailure)

/-- The file that a command writes. -/
def writtenFile? (command : Edit.Command) : Option Octets :=
  match command.action with
  | .write file => some file
  | .substitute substitution => substitution.file
  | _ => none

/-- Edit with the commands of a script. -/
def edit (engine : Engine) (name : Octets) (chosen : Chosen) (parts : List ScriptPart)
    (operands : List Octets) : Exec Nat := do
  let text := joinWith ['\n'] (parts.map ScriptPart.text)
  match Edit.ofText (chosen.has 'E' || chosen.has 'r') text with
  | .error fault =>
    refuse name (scriptFaultText parts fault) (if fault.place.isSome then 1 else editFailure)
  | .ok commands =>
    match ← editOutputs name (commands.filterMap writtenFile?).eraseDups with
    | .error status => return status
    | .ok outputs =>
      if chosen.has 'i' && operands.isEmpty then refuse name (octets "no input files") editFailure
      else
        let manner : Edit.Manner :=
          { name := name
            silent := chosen.has 'n' || text.takeWhile (· ≠ '\n') = ['#', 'n']
            separate := chosen.has 's' || chosen.has 'i', inPlace := chosen.value? 'i'
            mark := if chosen.has 'z' then '\x00' else '\n'
            width := match (chosen.value? 'l').bind natOf? with
              | some 1 => 0
              | some width => width
              | none => 70
            commands := commands.toArray, outputs := outputs }
        Edit.run manner engine.rounds (if operands.isEmpty then [['-']] else operands)

/-- **Edit the lines of files.** -/
def sed : Program := fun engine name arguments => do
  let usage : Exec Nat := do
    complain (sedUsage name)
    return 1
  match choose sedForms false arguments with
  | .error fault =>
    tell name fault.message
    usage
  | .ok chosen =>
    match ← scriptParts name chosen.options, chosen.operands with
    | .error status, _ => return status
    | .ok [], [] => usage
    | .ok [], script :: operands => edit engine name chosen [⟨none, script⟩] operands
    | .ok parts, operands => edit engine name chosen parts operands

end Program

end Shell

end ComponentScaffold
