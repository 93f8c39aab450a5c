import Deadwood.FileTree.Basic
import Deadwood.Text.Octets

/-!
# Processes

A process is what it asks of the system and how it goes on with each answer. It sees the world only
through its requests, so that the system decides what happens between two of them. Arguments, names
and values are texts of octets.
-/

namespace Deadwood.Host

open Text (Octets.toBytes)

/-- How a file is opened. -/
structure OpenMode where
  reads : Bool := false
  writes : Bool := false
  /-- Whether everything is written at the end. -/
  appends : Bool := false
  /-- Whether a file that is missing is made. -/
  creates : Bool := false
  /-- Whether the data of the file is dropped. -/
  truncates : Bool := false
  /-- Whether the file has to be missing. -/
  exclusive : Bool := false
deriving DecidableEq, Repr, Inhabited

/-- The kinds of files. -/
inductive FileKind where
  | regular
  | directory
  | link
  | pipe
  | device
deriving DecidableEq, Repr, Inhabited

/-- What can be known of a file without opening it. -/
structure FileInfo where
  number : Nat
  kind : FileKind
  mode : Nat
  size : Nat
  stamp : Nat
  links : Nat := 1
deriving DecidableEq, Repr, Inhabited

/-- How a process ends. -/
inductive Ending where
  | status (code : Nat)
  | signal (number : Nat)
deriving DecidableEq, Repr, Inhabited

/-- What a signal does to a process. -/
inductive Disposition where
  | default
  | ignored
  | caught
deriving DecidableEq, Repr, Inhabited

/-- From where a place in a file is counted. -/
inductive Origin where
  | start
  | current
  | finish
deriving DecidableEq, Repr, Inhabited

/-- A program with its arguments, its own name first, and its environment. -/
structure Launch where
  arguments : List String
  environment : List (String × String) := []
deriving DecidableEq, Repr, Inhabited

/-- What a request gives, unless the system refuses it. -/
abbrev Answer := Except SystemError

/-- What a process can ask of the system, with the kind of the answer. -/
inductive Request : Type → Type where
  /-- Opens a file; a file that is made gets the rights. -/
  | openFile (p : Path) (mode : OpenMode) (rights : Nat) : Request (Answer Nat)
  | close (d : Nat) : Request (Answer Unit)
  /-- Reads so many bytes at most, up to and with a byte that stops if there is one; none at the end.
  Waits for the first one. -/
  | read (d size : Nat) (stop : Option UInt8) : Request (Answer (List UInt8))
  /-- Writes bytes, waiting for room. -/
  | write (d : Nat) (bytes : List UInt8) : Request (Answer Unit)
  /-- Moves the place of reading and writing; gives the new one. -/
  | seek (d : Nat) (origin : Origin) (offset : Int) : Request (Answer Nat)
  /-- Sets the length of a file. -/
  | resize (d size : Nat) : Request (Answer Unit)
  /-- Makes a number lead where another one does. -/
  | copy (d target : Nat) : Request (Answer Unit)
  /-- Makes the first free number from a given one on lead where another one does; it is not handed
  on to programs. -/
  | copyAbove (d least : Nat) : Request (Answer Nat)
  /-- Gives the end to read from and the end to write to. -/
  | pipe : Request (Nat × Nat)
  | info (p : Path) (follows : Bool) : Request (Answer FileInfo)
  | infoOf (d : Nat) : Request (Answer FileInfo)
  | list (p : Path) : Request (Answer (List FileName))
  | readLink (p : Path) : Request (Answer (List UInt8))
  | canonical (p : Path) : Request (Answer Path)
  | makeDirectory (p : Path) (rights : Nat) : Request (Answer Unit)
  | removeDirectory (p : Path) : Request (Answer Unit)
  | unlink (p : Path) : Request (Answer Unit)
  | rename (p q : Path) : Request (Answer Unit)
  | link (p q : Path) : Request (Answer Unit)
  | symlink (target : List UInt8) (p : Path) : Request (Answer Unit)
  | setMode (p : Path) (mode : Nat) : Request (Answer Unit)
  | touch (p : Path) : Request (Answer Unit)
  | changeDirectory (p : Path) : Request (Answer Unit)
  | currentDirectory : Request Path
  /-- Sets which rights new files do not get; gives what was set before. -/
  | mask (new : Option Nat) : Request Nat
  /-- Goes on twice: with nothing in the new process, with its number in the old one. -/
  | fork : Request (Option Nat)
  /-- Becomes another program; answered only if that is not possible. -/
  | execute (p : Path) (launch : Launch) : Request SystemError
  /-- Takes a process that has ended, one of the children or a given one. Without `hangs` nothing is
  given if there is none yet; with `stirs` a signal that is caught ends the waiting. -/
  | wait (process : Option Nat) (hangs stirs : Bool) : Request (Answer (Option (Nat × Ending)))
  | kill (process : Int) (signal : Nat) : Request (Answer Unit)
  /-- Sets what a signal does; gives what was set before. -/
  | dispose (signal : Nat) (d : Disposition) : Request Disposition
  /-- Takes the signals that were caught, first ones first. -/
  | caught : Request (List Nat)
  | self : Request Nat
  | parent : Request Nat
  /-- The time in nanoseconds. -/
  | now : Request Nat
  | sleepUntil (time : Nat) : Request Unit
  /-- Gives way for a moment. -/
  | pass : Request Unit

/-- A process: it has ended with a status, or it waits for the answer to a request. -/
inductive Process : Type 1 where
  | finished (status : Nat)
  | call {α : Type} (request : Request α) (next : α → Process)

instance : Inhabited Process := ⟨.finished 0⟩

/-- Work of a process that gives a value. -/
def Work (α : Type) : Type 1 := (α → Process) → Process

namespace Work

instance : Monad Work where
  pure a := fun k => k a
  bind t f := fun k => t fun a => f a k

instance {α : Type} : Inhabited (Work α) := ⟨fun _ => .finished 0⟩

/-- Makes a request. -/
def ask {α : Type} (request : Request α) : Work α := fun k => .call request k

/-- Ends the process. -/
def exit {α : Type} (status : Nat) : Work α := fun _ => .finished status

/-- The process that does some work and ends with the status that it gives. -/
def run (t : Work Nat) : Process := t .finished

/-- Writes a text of octets. -/
def put (d : Nat) (s : String) : Work (Answer Unit) :=
  if s.isEmpty then pure (.ok ()) else ask (.write d (Octets.toBytes s))

end Work

/-- The path that a text of octets spells. -/
def pathOf (s : String) : Path := ⟨Octets.toBytes s⟩

/-- A program: what a process does that is started with arguments. -/
abbrev Program := Launch → Process

end Deadwood.Host
