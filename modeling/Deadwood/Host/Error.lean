/-!
# Errors of the system

Why the system refuses what a program asks for, with the number and the words for each reason.
-/

namespace Deadwood

/-- Why the system refuses a request. -/
inductive SystemError where
  | notPermitted
  | noEntry
  | noProcess
  | interrupted
  | inputOutput
  | noDevice
  | tooBig
  | notExecutable
  | badDescriptor
  | noChild
  | denied
  | exists
  | notDirectory
  | isDirectory
  | invalid
  | noSpace
  | illegalSeek
  | brokenPipe
  | nameTooLong
  | notEmpty
  | linkLoop
deriving DecidableEq, Repr, Inhabited

namespace SystemError

/-- The number of a reason. -/
def number : SystemError → Nat
  | .notPermitted => 1
  | .noEntry => 2
  | .noProcess => 3
  | .interrupted => 4
  | .inputOutput => 5
  | .noDevice => 6
  | .tooBig => 7
  | .notExecutable => 8
  | .badDescriptor => 9
  | .noChild => 10
  | .denied => 13
  | .exists => 17
  | .notDirectory => 20
  | .isDirectory => 21
  | .invalid => 22
  | .noSpace => 28
  | .illegalSeek => 29
  | .brokenPipe => 32
  | .nameTooLong => 36
  | .notEmpty => 39
  | .linkLoop => 40

/-- The words for a reason. -/
def words : SystemError → String
  | .notPermitted => "Operation not permitted"
  | .noEntry => "No such file or directory"
  | .noProcess => "No such process"
  | .interrupted => "Interrupted system call"
  | .inputOutput => "Input/output error"
  | .noDevice => "No such device or address"
  | .tooBig => "Argument list too long"
  | .notExecutable => "Exec format error"
  | .badDescriptor => "Bad file descriptor"
  | .noChild => "No child processes"
  | .denied => "Permission denied"
  | .exists => "File exists"
  | .notDirectory => "Not a directory"
  | .isDirectory => "Is a directory"
  | .invalid => "Invalid argument"
  | .noSpace => "No space left on device"
  | .illegalSeek => "Illegal seek"
  | .brokenPipe => "Broken pipe"
  | .nameTooLong => "File name too long"
  | .notEmpty => "Directory not empty"
  | .linkLoop => "Too many levels of symbolic links"

/-- The words for a reason with its number. -/
def message (e : SystemError) : String := s!"{e.words} (os error {e.number})"

end SystemError

end Deadwood
