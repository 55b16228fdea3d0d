/-! # Faults of the operating system

The causes for which a file operation or the start of a program is refused, each with its number and
its text.

* **`OsFault`** — why the operating system refuses something.
* **`StartFault`** — why a program cannot be started. -/

namespace ComponentScaffold

/-- **Why the operating system refuses an operation.** -/
inductive OsFault
  /-- An operation is never done with what it is asked for. -/
  | notPermitted
  /-- A path leads to nothing. -/
  | noEntry
  /-- What a path leads to stands for a device that is not there. -/
  | noDevice
  /-- The arguments of a program are longer than can be. -/
  | argumentsTooLong
  /-- What a path leads to is no program. -/
  | notProgram
  /-- A descriptor is not open, or not for what is asked of it. -/
  | badDescriptor
  /-- What a path leads to may not be run. -/
  | permissionDenied
  /-- What a path leads to is needed as it is. -/
  | busy
  /-- There is an entry where a new one should be made. -/
  | exists
  /-- A path leads on from something that is no directory. -/
  | notDirectory
  /-- A directory stands where a file is needed. -/
  | isDirectory
  /-- An argument makes no sense. -/
  | invalid
  /-- There is no space for what is written. -/
  | noSpace
  /-- A name or a path is longer than can be. -/
  | nameTooLong
  /-- A directory that should be empty is not. -/
  | notEmpty
  /-- A path leads through more links than are followed. -/
  | tooManyLinks
deriving DecidableEq, Repr

namespace OsFault

/-- The number of a fault. -/
def code : OsFault → Nat
  | .notPermitted => 1
  | .noEntry => 2
  | .noDevice => 6
  | .argumentsTooLong => 7
  | .notProgram => 8
  | .badDescriptor => 9
  | .permissionDenied => 13
  | .busy => 16
  | .exists => 17
  | .notDirectory => 20
  | .isDirectory => 21
  | .invalid => 22
  | .noSpace => 28
  | .nameTooLong => 36
  | .notEmpty => 39
  | .tooManyLinks => 40

/-- What a fault is called. -/
def description : OsFault → String
  | .notPermitted => "Operation not permitted"
  | .noEntry => "No such file or directory"
  | .noDevice => "No such device or address"
  | .argumentsTooLong => "Argument list too long"
  | .notProgram => "Exec format error"
  | .badDescriptor => "Bad file descriptor"
  | .permissionDenied => "Permission denied"
  | .busy => "Device or resource busy"
  | .exists => "File exists"
  | .notDirectory => "Not a directory"
  | .isDirectory => "Is a directory"
  | .invalid => "Invalid argument"
  | .noSpace => "No space left on device"
  | .nameTooLong => "File name too long"
  | .notEmpty => "Directory not empty"
  | .tooManyLinks => "Too many levels of symbolic links"

/-- The text of a fault: what it is called, and its number. -/
def message (fault : OsFault) : String := s!"{fault.description} (os error {fault.code})"

end OsFault

/-! ## Starting programs -/

/-- **Why a program cannot be started.** -/
inductive StartFault
  /-- The operating system refused. -/
  | system (fault : OsFault)
  /-- Its name or an argument has a byte in it that ends texts. -/
  | nulByte
deriving DecidableEq, Repr

/-- The wording of a start fault. -/
def StartFault.message : StartFault → String
  | .system fault => fault.message
  | .nulByte => "nul byte found in provided data"

end ComponentScaffold
