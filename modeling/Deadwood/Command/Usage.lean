/-!
# Why a command line is not a command

Asking for help or for the version also ends the reading of a command line, without being a
mistake.
-/

namespace Deadwood

/-- Why a command line is not a command. -/
inductive UsageError where
  | help
  | version
  /-- No command is named. -/
  | noCommand
  /-- A word that is no command stands where one has to. -/
  | unknownCommand
  /-- An option that is not known, or a word too many. -/
  | unknownArgument
  /-- An option is given twice, or two options exclude each other. -/
  | conflict
  /-- A value is missing or empty. -/
  | noValue
  /-- A value is not of the right kind. -/
  | badValue
  /-- A value is given to an option that takes none. -/
  | excessValue
deriving DecidableEq, Repr, Inhabited

/-- The exit code of the program. -/
def UsageError.exitCode : UsageError → Nat
  | .help => 0
  | .version => 0
  | _ => 2

end Deadwood
