import Deadwood.Utility.Option
import Deadwood.Utility.Quoting

/-!
# Programs of the system

The work of a program that comes with the system: it reads files and its input, writes to its output,
complains, and ends with a status. An output that cannot be written makes it fail at the end.
-/

namespace Deadwood.Utility

open Host

/-- The state of a program at work. -/
structure ToolState where
  /-- The name that it was started with. -/
  name : String
  status : Nat := 0
  /-- Why its output could not be written. -/
  writeError : Option SystemError := none
deriving DecidableEq, Repr, Inhabited

/-- Work of a program; it can break off with a status. -/
abbrev Tool := ExceptT Nat (StateT ToolState Work)

/-- Makes a request of the system. -/
def ask {α : Type} (r : Request α) : Tool α := ExceptT.lift (StateT.lift (Work.ask r))

/-- Ends the program. -/
def quit {α : Type} (status : Nat) : Tool α := throw status

/-- Sets the status for the end. -/
def setStatus (status : Nat) : Tool Unit := modify fun s => { s with status }

/-- Writes to the error output as it is. -/
def putError (text : String) : Tool Unit := do
  let _ ← ask (.write 2 (Text.Octets.toBytes text))

/-- Complains. -/
def complain (text : String) : Tool Unit := do
  let name := (← get).name
  putError s!"{name}: {text}\n"

/-- Complains and fails at the end. -/
def fault (text : String) : Tool Unit := do
  complain text
  setStatus 1

/-- Complains and ends. -/
def die {α : Type} (text : String) (status : Nat := 1) : Tool α := do
  complain text
  quit status

/-- Ends with a complaint about how the program is used. -/
def dieUsage {α : Type} (text : String) (status : Nat := 1) : Tool α := do
  complain text
  let name := (← get).name
  putError s!"Try '{name} --help' for more information.\n"
  quit status

/-- Writes characters to the output. -/
def out (cs : List Char) : Tool Unit := do
  if !cs.isEmpty then
    match ← ask (.write 1 (Text.Octets.bytesOf cs)) with
    | .ok () => pure ()
    | .error e =>
      modify fun s => { s with writeError := some (s.writeError.getD e) }

/-- Writes a text to the output. -/
def say (text : String) : Tool Unit := out text.toList

/-- Reads options and the other arguments. -/
def parse (t : OptionTable) (arguments : List String) (status : Nat := 1) : Tool Parsed :=
  match t.read (arguments.length + 1) arguments with
  | .ok p => return p
  | .error text => dieUsage text status

/-- The program of some work on arguments; `failure` is the status if the output cannot be
written. -/
def program (work : List String → Tool Unit) (failure : Nat := 1) : Program := fun launch =>
  let name := launch.arguments.headD ""
  let start : ToolState := { name }
  (work (launch.arguments.drop 1)) start fun (result, s) =>
    let status := match result with
      | .ok () => s.status
      | .error status => status
    match s.writeError with
    | some e =>
      Work.put 2 s!"{name}: write error: {e.words}\n" fun _ => .finished failure
    | none => .finished status

/-! ## Reading -/

/-- How many bytes are read at once. -/
def chunkSize : Nat := 65536

/-- How many pieces a program reads. -/
def chunkLimit : Nat := 1000000000

/-- Opens the file of an operand for reading; a dash stands for the input. -/
def openInput (name : String) : Tool (Answer Nat) :=
  if name == "-" then return .ok 0 else ask (.openFile (pathOf name) { reads := true } 0)

/-- Closes what was opened for an operand. -/
def closeInput (name : String) (d : Nat) : Tool Unit := do
  if name != "-" then
    let _ ← ask (.close d)

/-- All characters of an open file from its place on. -/
def readAll (d : Nat) : Nat → List (List Char) → Tool (Answer (List Char))
  | 0, done => return .ok done.reverse.flatten
  | fuel + 1, done => do
    match ← ask (.read d chunkSize none) with
    | .error .interrupted => readAll d fuel done
    | .error e => return .error e
    | .ok [] => return .ok done.reverse.flatten
    | .ok bytes => readAll d fuel (Text.Octets.listOf bytes :: done)

/-- All characters of the file of an operand; a file that cannot be read is complained about. -/
def readOperand (name : String) : Tool (Option (List Char)) := do
  match ← openInput name with
  | .error e =>
    fault s!"{shownName name}: {e.words}"
    return none
  | .ok d =>
    let result ← readAll d chunkLimit []
    closeInput name d
    match result with
    | .ok cs => return some cs
    | .error e =>
      fault s!"{shownName name}: {e.words}"
      return none

/-! ## Lines -/

/-- The lines of a text, each with whether it has an end, and the mark that ends them. -/
def splitLines (mark : Char) (cs : List Char) : List (List Char × Bool) :=
  let (lines, last) := cs.foldl (fun (state : List (List Char × Bool) × List Char) c =>
    if c == mark then ((state.2.reverse, true) :: state.1, []) else (state.1, c :: state.2)) ([], [])
  (if last.isEmpty then lines else (last.reverse, false) :: lines).reverse

/-- The lines of a text without their ends. -/
def linesOf (cs : List Char) : List (List Char) := (splitLines '\n' cs).map Prod.fst

/-- What a filter does with a line. -/
structure Turn (σ : Type) where
  state : σ
  /-- What is written. -/
  output : List Char := []
  /-- Whether no more lines are wanted. -/
  stops : Bool := false
deriving Inhabited

/-- Does something with lines one after another until it stops, behind the output so far, whose
pieces come last first. -/
def stepLines {σ : Type} (step : σ → List Char → Bool → Turn σ) :
    σ → List (List Char) → List (List Char × Bool) → σ × List (List Char) × Bool
  | s, done, [] => (s, done, false)
  | s, done, (line, hasEnd) :: rest =>
    let t := step s line hasEnd
    let done := if t.output.isEmpty then done else t.output :: done
    if t.stops then (t.state, done, true) else stepLines step t.state done rest

/-- Does something with the lines of an open file as they come; `begun` is the start of a line that
has been read, last character first. Gives the state and whether it was stopped. -/
def filterFrom {σ : Type} (mark : Char) (step : σ → List Char → Bool → Turn σ) (d : Nat) :
    Nat → List Char → σ → Tool (Answer (σ × Bool))
  | 0, _, s => return .ok (s, true)
  | fuel + 1, begun, s => do
    match ← ask (.read d chunkSize none) with
    | .error .interrupted => filterFrom mark step d fuel begun s
    | .error e => return .error e
    | .ok [] =>
      if begun.isEmpty then return .ok (s, false)
      else
        let (s, done, stops) := stepLines step s [] [(begun.reverse, false)]
        out done.reverse.flatten
        return .ok (s, stops)
    | .ok bytes =>
      let lines := splitLines mark (begun.reverse ++ Text.Octets.listOf bytes)
      let (whole, begun) := match lines.getLast? with
        | some (last, false) => (lines.dropLast, last.reverse)
        | _ => (lines, [])
      let (s, done, stops) := stepLines step s [] whole
      out done.reverse.flatten
      if stops then return .ok (s, true) else filterFrom mark step d fuel begun s

/-- Does something with the lines of the files of operands; a file that cannot be read is complained
about. -/
def filterOperands {σ : Type} (step : σ → List Char → Bool → Turn σ) :
    List String → σ → Tool (σ × Bool)
  | [], s => return (s, false)
  | name :: rest, s => do
    match ← openInput name with
    | .error e =>
      fault s!"{shownName name}: {e.words}"
      filterOperands step rest s
    | .ok d =>
      match ← filterFrom '\n' step d chunkLimit [] s with
      | .ok (s, true) => return (s, true)
      | .ok (s, false) =>
        closeInput name d
        filterOperands step rest s
      | .error e =>
        fault s!"{shownName name}: {e.words}"
        filterOperands step rest s

/-- The operands, or the input if there are none. -/
def inputsOf (operands : List String) : List String := if operands.isEmpty then ["-"] else operands

end Deadwood.Utility
