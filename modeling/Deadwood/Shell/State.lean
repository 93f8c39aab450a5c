import Deadwood.Shell.Arithmetic
import Deadwood.Shell.Parser
import Deadwood.Host.Process

/-!
# The state of a shell

Variables, functions, options and all else that a shell keeps between its commands, and the actions
from which its commands are built: they change the state, make requests of the system, and can break
off.
-/

namespace Deadwood.Shell

open Host

/-- A variable; it can be known without having a value. -/
structure Variable where
  value : Option String := none
  exported : Bool := false
  /-- Whether its value cannot be changed. -/
  fixed : Bool := false
deriving DecidableEq, Repr, Inhabited

/-- A command that runs beside the shell, with its processes and how they ended. -/
structure Job where
  number : Nat
  processes : List (Nat × Option Ending)
  /-- Whether it has been waited for, so that its number can be used again. -/
  waited : Bool := false
deriving DecidableEq, Repr, Inhabited

/-- Whether all processes of a job have ended. -/
def Job.isDone (j : Job) : Bool := j.processes.all (·.2.isSome)

/-- Why work is broken off. -/
inductive Raise where
  /-- Something went wrong. -/
  | error
  /-- The shell ends. -/
  | exit
deriving DecidableEq, Repr, Inhabited

/-- How the work goes on behind a statement. -/
inductive Flow where
  | next
  /-- The loop around it ends, or several of them. -/
  | breaks (levels : Nat)
  /-- The loop around it goes on with its next turn, or one further out does. -/
  | continues (levels : Nat)
  /-- The function or the script ends, with a status that was given or with the last one. -/
  | returns (isGiven : Bool)
deriving DecidableEq, Repr, Inhabited

/-- What is to be restored when a function ends: a variable, or the options. -/
inductive Saved where
  | variable (name : String) (old : Option Variable)
  | options (letters : List Char)
deriving DecidableEq, Repr, Inhabited

/-- The state of a shell. -/
structure ShellState where
  zero : String := "sh"
  parameters : List String := []
  bindings : List (String × Variable) := []
  /-- What is to be restored when functions end, the innermost one first. -/
  locals : List (List Saved) := []
  functions : List (String × Statement) := []
  aliases : List (String × String) := []
  documents : List (Nat × Word) := []
  nextDocument : Nat := 0
  /-- The letters of the options that are set. -/
  options : List Char := []
  status : Nat := 0
  /-- The status that counts again after what is done for a signal or at the end. -/
  kept : Option Nat := none
  /-- How the work goes on. -/
  flow : Flow := .next
  /-- The status of the last command whose output was used. -/
  substituted : Nat := 0
  /-- The line of the command at work. -/
  line : Nat := 0
  /-- The command of the shell at work. -/
  command : Option String := none
  loops : Nat := 0
  /-- What to do for signals, the end of the shell being number zero. -/
  traps : List (Nat × String) := []
  /-- The signals that nothing can be set for. -/
  deaf : List Nat := []
  /-- The signals for which something is still to be done. -/
  pending : List Nat := []
  jobs : List Job := []
  /-- The last process that was started beside the shell. -/
  background : Option Nat := none
  process : Nat := 0
  /-- Whether this shell was started by another one to do a part of its work. -/
  isPart : Bool := false
  /-- The place of the next option of the arguments, and in the one before it. -/
  optionIndex : Nat := 1
  optionOffset : Option Nat := none
  /-- What commands of the shell have said and not yet written, last first. -/
  output : List String := []
  /-- What is to be restored of the streams, the innermost change first. -/
  streams : List (List (Nat × Option Nat)) := []
  /-- The path of the directory at work as it was gone to. -/
  directory : String := ""
  /-- The programs that were found, with their paths. -/
  found : List (String × String) := []
  /-- How many functions are at work. -/
  depth : Nat := 0
  /-- The limits that were set. -/
  limits : List (Char × Option Nat) := []
deriving Inhabited

/-- An action of a shell. -/
abbrev Shell := ExceptT Raise (StateT ShellState Work)

/-- Makes a request of the system. -/
def ask {α : Type} (r : Request α) : Shell α :=
  ExceptT.lift (StateT.lift (Work.ask r))

/-- Breaks off. -/
def raise {α : Type} (r : Raise) : Shell α := throw r

/-- Does something and catches what breaks it off. -/
def attempt {α : Type} (x : Shell α) : Shell (Except Raise α) :=
  ExceptT.lift x.run

namespace ShellState

/-- Whether an option is set. -/
def has (s : ShellState) (letter : Char) : Bool := s.options.contains letter

/-- A variable. -/
def lookup? (s : ShellState) (name : String) : Option Variable := s.bindings.lookup name

/-- The value of a variable. -/
def value? (s : ShellState) (name : String) : Option String := (s.lookup? name).bind (·.value)

/-- Puts a variable in the place of what was there. -/
def putVariable (s : ShellState) (name : String) (v : Variable) : ShellState :=
  if s.bindings.any (·.1 == name) then
    { s with bindings := s.bindings.map fun old => if old.1 == name then (name, v) else old }
  else { s with bindings := s.bindings ++ [(name, v)] }

/-- Forgets a variable. -/
def dropVariable (s : ShellState) (name : String) : ShellState :=
  { s with bindings := s.bindings.filter (·.1 != name) }

/-- Restores what was saved. -/
def restore (s : ShellState) : Saved → ShellState
  | .variable name (some v) => s.putVariable name v
  | .variable name none => s.dropVariable name
  | .options letters => { s with options := letters }

/-- How many rows there are in the table of names. -/
def tableRows : Nat := 39

/-- The row of a name in the table of names, which orders what is shown. -/
def row (name : String) : Nat :=
  let codes := name.toList.map Char.toNat
  (codes.foldl (· + ·) (16 * codes.headD 0)) % tableRows

/-- Names in the order of the table. -/
def inRows {α : Type} (entries : List (String × α)) : List (String × α) :=
  entries.mergeSort fun a b => decide (row a.1 ≤ row b.1)

/-- What programs see of the variables. -/
def environment (s : ShellState) : List (String × String) :=
  (inRows s.bindings).filterMap fun (name, v) =>
    if v.exported then v.value.map fun value => (name, value) else none

end ShellState

/-! ## Messages -/

/-- Writes a text of octets to a stream. -/
def put (stream : Nat) (s : String) : Shell Unit := do
  let _ ← ask (.write stream (Text.Octets.toBytes s))

/-- Writes a line about the command at work to the error output. -/
def warn (text : String) : Shell Unit := do
  let s ← get
  let name := match s.command with
    | some name => s!"{name}: "
    | none => ""
  put 2 s!"{s.zero}: {s.line}: {name}{text}\n"

/-- The status after something went wrong. -/
def errorStatus : Nat := 2

/-- Breaks off because something went wrong. -/
def fail {α : Type} (text : String) : Shell α := do
  warn text
  modify fun s => { s with status := errorStatus }
  raise .error

/-- Ends the shell. -/
def exitWith {α : Type} (status : Nat) : Shell α := do
  modify fun s => { s with status }
  raise .exit

/-- Says something on the output, which is written when the command has ended. -/
def say (text : String) : Shell Unit := modify fun s => { s with output := text :: s.output }

/-! ## Variables -/

/-- The number that a text stands for, if it is a whole number within the limits of a count. -/
def count? (s : String) : Option Nat :=
  match Arithmetic.readSigned? false s.toList with
  | some (n, rest) =>
    if rest.all Arithmetic.isSpace && 0 ≤ n && n < Int.pow 2 31 then some n.toNat else none
  | none => none

/-- The number that a text stands for; another text is an error. -/
def number (s : String) : Shell Nat :=
  match count? s with
  | some n => return n
  | none => fail s!"Illegal number: {s}"

/-- What follows from a variable being changed. -/
def noteVariable (name : String) (value : Option String) : Shell Unit := do
  match name with
  | "PATH" => modify fun s => { s with found := [] }
  | "OPTIND" =>
    let n ← number (value.getD "")
    modify fun s => { s with optionIndex := if n == 0 then 1 else n, optionOffset := none }
  | _ => pure ()

/-- Changes a variable; one that is fixed is an error. -/
def changeVariable (name : String) (change : Variable → Variable) : Shell Unit := do
  let s ← get
  let old := (s.lookup? name).getD {}
  if old.fixed then fail s!"{name}: is read only"
  else
    let new := change old
    set (s.putVariable name { new with exported := new.exported || s.has 'a' })
    noteVariable name new.value

/-- Gives a variable a value. -/
def setVariable (name value : String) : Shell Unit :=
  changeVariable name fun v => { v with value := some value }

/-- Takes the value of a variable away; one that is fixed is an error. -/
def unsetVariable (name : String) : Shell Unit := do
  let s ← get
  if (s.lookup? name).any (·.fixed) then fail s!"{name}: is read only"
  else set (s.dropVariable name)

/-- Remembers something to be restored when the function at work ends. -/
def remember (saved : Saved) : Shell Unit := modify fun s =>
  match s.locals with
  | [] => s
  | frame :: rest => { s with locals := (saved :: frame) :: rest }

/-- Remembers a variable, to be restored when the function at work ends. -/
def saveVariable (name : String) : Shell Unit := do
  remember (.variable name ((← get).lookup? name))

/-- Begins to remember what is to be restored. -/
def pushLocals : Shell Unit := modify fun s => { s with locals := [] :: s.locals }

/-- Restores what was remembered last. -/
def popLocals : Shell Unit := modify fun s =>
  let s' := (s.locals.headD []).foldl ShellState.restore s
  { s' with locals := s.locals.drop 1 }

/-- The name in front of the text of an assignment, and the value if there is one. -/
def splitAssignment (text : String) : String × Option String :=
  let name := text.toList.takeWhile (· != '=')
  match text.toList.drop name.length with
  | _ :: value => (String.ofList name, some (String.ofList value))
  | [] => (String.ofList name, none)

/-- Breaks off unless a text is a name. -/
def checkName (name : String) : Shell Unit := do
  if !isName name then fail s!"{name}: bad variable name"

end Deadwood.Shell
