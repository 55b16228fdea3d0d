import ComponentScaffold.Shell.Calendar.Basic
import ComponentScaffold.Shell.Mode
import ComponentScaffold.Shell.Program.Paths

/-! # What is known of files

* **`Program.stat`** — tells what is known of files, in a format. -/

namespace ComponentScaffold

namespace Shell

namespace Program

/-- The digits of a number in base sixteen. -/
def hexText (n : Nat) : Octets := Nat.toDigits 16 n

/-- The bits that tell the kind of an entry, above those of its mode. -/
def kindBits : Entry → Nat
  | .directory => 0o040000
  | .link _ => 0o120000
  | .file _ => 0o100000
  | .device _ => 0o020000
  | .queue _ => 0o010000

/-- A time as a date and a time of day. -/
def timeText (time : Time) : Octets :=
  Calendar.format (octets "%Y-%m-%d %H:%M:%S.%N %z") (.ofTime time)

/-- A time in seconds, with so many digits behind the point. -/
def secondsText (digits : Nat) (time : Time) : Octets :=
  let fraction := natText (time % Calendar.second).toNat
  let padded := List.replicate (9 - fraction.length) '0' ++ fraction
  intText (time / Calendar.second) ++
    if digits = 0 then [] else '.' :: (padded ++ List.replicate (digits - 9) '0').take digits

/-- How a part of a format fills its width. -/
structure PartForm where
  /-- Its flags. -/
  flags : Octets
  /-- How wide it is at least. -/
  width : Nat
  /-- How many characters or digits are shown, if that is asked for. -/
  most : Option Nat

/-- A text in the width that is asked for. -/
def PartForm.fill (form : PartForm) (isNumber : Bool) (text : Octets) : Octets :=
  let text := if isNumber then text else text.take (form.most.getD text.length)
  if form.flags.contains '-' then toLeft form.width text
  else if isNumber && form.flags.contains '0' then
    List.replicate (form.width - text.length) '0' ++ text
  else toRight form.width text

/-- How a file is called with what a link leads to. -/
def calledText (path : Octets) (facts : Facts) : Octets :=
  quotedAlways path ++ match facts.entry with
    | .link target => octets " -> " ++ quotedAlways (octets target.text)
    | _ => []

/-- What a letter of a format asks to know of a file. -/
def factText (fs : FileSystem) (path : Octets) (facts : Facts) (form : PartForm) (letter : Char) :
    Octets :=
  let number (text : Octets) : Octets := form.fill true text
  let text (text : Octets) : Octets := form.fill false text
  let node := facts.node
  match letter with
  | 'a' =>
    let digits := modeDigits node.mode
    number (if form.flags.contains '#' && digits ≠ ['0'] then '0' :: digits else digits)
  | 'A' => text (entryLetter facts.entry :: modeText node.mode)
  | 'b' => number (natText (facts.space * 2))
  | 'B' => number (octets "512")
  | 'd' => number (octets "65024")
  | 'D' => number (octets "fe00")
  | 'f' => number (hexText (kindBits facts.entry ||| node.mode))
  | 'F' => text (octets (kindName facts.entry))
  | 'g' | 'u' => number ['0']
  | 'G' | 'U' => text (octets "root")
  | 'h' => number (natText (facts.links fs))
  | 'i' => number (natText facts.number)
  | 'm' => text ['/']
  | 'n' => text path
  | 'N' => text (calledText path facts)
  | 'o' => number (octets "4096")
  | 's' => number (natText facts.size)
  | 't' => number (hexText ((facts.deviceNumbers?.map Prod.fst).getD 0))
  | 'T' => number (hexText ((facts.deviceNumbers?.map Prod.snd).getD 0))
  | 'w' | 'x' | 'y' | 'z' => text (timeText node.modified)
  | 'W' | 'X' | 'Y' | 'Z' => number (secondsText (form.most.getD 0) node.modified)
  | _ => ['?']

/-- The byte that an escape writes, with the text behind it. -/
def escapedByte? : Octets → Option (Octets × Octets)
  | 'n' :: rest => some (['\n'], rest)
  | 't' :: rest => some (['\t'], rest)
  | 'a' :: rest => some (['\x07'], rest)
  | 'b' :: rest => some (['\x08'], rest)
  | 'e' :: rest => some (['\x1b'], rest)
  | 'f' :: rest => some (['\x0c'], rest)
  | 'r' :: rest => some (['\x0d'], rest)
  | 'v' :: rest => some (['\x0b'], rest)
  | '\\' :: rest => some (['\\'], rest)
  | '"' :: rest => some (['"'], rest)
  | 'x' :: rest =>
    let isHex (c : Char) : Bool := c.isDigit || ('a' ≤ c.toLower && c.toLower ≤ 'f')
    let digits := (rest.take 2).takeWhile isHex
    let digit (c : Char) : Nat :=
      if c.isDigit then c.toNat - '0'.toNat else c.toLower.toNat - 'a'.toNat + 10
    if digits.isEmpty then none
    else
      let value := digits.foldl (fun value c => 16 * value + digit c) 0
      some ([Char.ofNat value], rest.drop digits.length)
  | rest =>
    let digits := (rest.take 3).takeWhile ModeChange.isOctal
    if digits.isEmpty then none
    else some ([Char.ofNat (ModeChange.octalValue digits % 256)], rest.drop digits.length)

/-- **What is known of a file in a format**, or which part of it is none. At most so many characters are
read. -/
def statText (fs : FileSystem) (escapes : Bool) (path : Octets) (facts : Facts) : (bound : Nat) →
    Octets → Except Octets Octets
  | 0, _ => .ok []
  | _ + 1, [] => .ok []
  | bound + 1, '%' :: rest =>
    let flags := rest.takeWhile fun c => "-+ 0#\x27".toList.contains c
    let behind := rest.drop flags.length
    let width := behind.takeWhile Char.isDigit
    let behind := behind.drop width.length
    let (most, behind) : Option Nat × Octets := match behind with
      | '.' :: more =>
        let digits := more.takeWhile Char.isDigit
        (some (if digits.isEmpty then 9 else digitsValue digits), more.drop digits.length)
      | more => (none, more)
    let start := '%' :: rest.take (rest.length - behind.length)
    match behind with
    | [] => if start = ['%'] then .ok ['%'] else .error (quotedPlainly start ++ octets ": invalid directive")
    | '%' :: more =>
      if start = ['%'] then (statText fs escapes path facts bound more).map (['%'] ++ ·)
      else .error (quotedPlainly (start ++ ['%']) ++ octets ": invalid directive")
    | letter :: more =>
      -- a device is asked for by two letters
      let (letter, more) : Char × Octets := match letter, more with
        | 'H', 'd' :: more => ('?', more)
        | 'L', 'd' :: more => ('?', more)
        | letter, more => (letter, more)
      let form : PartForm := ⟨flags, digitsValue width, most⟩
      (statText fs escapes path facts bound more).map (factText fs path facts form letter ++ ·)
  | bound + 1, '\\' :: rest =>
    if !escapes then (statText fs escapes path facts bound rest).map ('\\' :: ·)
    else match escapedByte? rest with
      | some (text, more) => (statText fs escapes path facts bound more).map (text ++ ·)
      | none => match rest with
        | [] => .ok ['\\']
        | c :: more => (statText fs escapes path facts bound more).map (c :: ·)
  | bound + 1, c :: rest => (statText fs escapes path facts bound rest).map (c :: ·)

/-- The format in which all is told that is known of a file. -/
def fullFormat (facts : Facts) : Octets :=
  let numbers := match facts.deviceNumbers? with
    | some (major, minor) =>
      octets "Inode: %-10i  Links: %-5h Device type: " ++ natText major ++ ',' :: natText minor
    | none => octets "Inode: %-10i  Links: %h"
  let target : Octets := match facts.entry with
    | .link target => octets (" -> " ++ target.text.replace "%" "%%")
    | _ => []
  octets "  File: %n" ++ target ++
    octets "\n  Size: %-10s\tBlocks: %-10b IO Block: %-6o %F\nDevice: 254,0\t" ++ numbers ++
    octets ("\nAccess: (%04a/%10.10A)  Uid: (%5u/%8U)   Gid: (%5g/%8G)\nAccess: %x\nModify: %y\n" ++
      "Change: %z\n Birth: %w\n")

/-- The options of `stat`. -/
def statForms : List OptionForm :=
  [⟨'L', true, ["dereference"], .none⟩, ⟨'f', true, ["file-system"], .none⟩,
    ⟨'t', true, ["terse"], .none⟩, ⟨'c', true, ["format"], .required⟩,
    ⟨'p', false, ["printf"], .required⟩, ⟨'@', false, ["cached"], .required⟩]

/-- **Tell what is known of files.** -/
def stat : Program := withOptions statForms false 1 fun _ name chosen => do
  if chosen.operands.isEmpty then return ← refuseUse name (octets "missing operand") 1
  let fs ← files
  let escapes := chosen.last? ['c', 'p'] = some 'p'
  let format? : Option Octets := match chosen.last? ['c', 'p'] with
    | some 'c' => (chosen.value? 'c').map (· ++ ['\n'])
    | some _ => chosen.value? 'p'
    | none => none
  forAll chosen.operands fun operand => do
    match factsOf fs (if chosen.has 'L' then .target else .name) operand with
    | .error fault =>
      refuse name (faultText (octets "cannot statx " ++ quotedAlways operand) fault) 1
    | .ok facts =>
      let format := format?.getD (if chosen.has 't' then
        octets "%n %s %b %f %u %g %D %i %h %t %T %X %Y %Z %W %o\n" else fullFormat facts)
      match statText fs escapes operand facts (format.length + 1) format with
      | .ok text => emit name text
      | .error message => refuse name message 1

end Program

end Shell

end ComponentScaffold
