import Deadwood.FileTree.Change
import Deadwood.Host.Process

/-!
# The state of the system

The files, the processes and what they have open. Numbers that processes use for open files lead to
open files, which share the place of reading and writing; these lead to files, devices, pipes, or to
sinks, whose bytes are seen from outside.
-/

namespace Deadwood.Host

/-! ## Open files -/

/-- Where an open file leads. -/
inductive Channel where
  | file (number : Nat)
  | device (d : Device)
  | pipe (number : Nat)
  | sink (number : Nat)
deriving DecidableEq, Repr, Inhabited

/-- An open file with the place of reading and writing. -/
structure OpenFile where
  channel : Channel
  mode : OpenMode
  offset : Nat := 0
deriving DecidableEq, Repr, Inhabited

/-- Bytes on their way, in pieces: those to be read next, and those written last, last first. -/
structure Pipe where
  front : List (List UInt8) := []
  back : List (List UInt8) := []
  size : Nat := 0
deriving DecidableEq, Repr, Inhabited

namespace Pipe

/-- How many bytes can be on their way. -/
def capacity : Nat := 65536

/-- Adds bytes. -/
def add (p : Pipe) (bytes : List UInt8) : Pipe :=
  { p with back := bytes :: p.back, size := p.size + bytes.length }

/-- Takes so many bytes at most off a list, up to and with a byte that stops if there is one; gives
them last first, with what is left to take and whether it was stopped. -/
def takeBytes (stop : Option UInt8) :
    Nat → List UInt8 → List UInt8 → List UInt8 × List UInt8 × Nat × Bool
  | 0, taken, rest => (taken, rest, 0, true)
  | size + 1, taken, [] => (taken, [], size + 1, false)
  | size + 1, taken, b :: rest =>
    if stop == some b then (b :: taken, rest, size, true)
    else takeBytes stop size (b :: taken) rest

/-- Takes bytes off the pieces in the same way. -/
def takePieces (stop : Option UInt8) (size : Nat) (taken : List UInt8) :
    List (List UInt8) → List UInt8 × List (List UInt8)
  | [] => (taken, [])
  | piece :: rest =>
    match takeBytes stop size taken piece with
    | (taken, left, _, true) => (taken, if left.isEmpty then rest else left :: rest)
    | (taken, _, size, false) => takePieces stop size taken rest

/-- Takes so many bytes at most, up to and with a byte that stops if there is one. -/
def take (p : Pipe) (size : Nat) (stop : Option UInt8) : List UInt8 × Pipe :=
  let pieces := if p.back.isEmpty then p.front else p.front ++ p.back.reverse
  let (taken, front) := takePieces stop size [] pieces
  (taken.reverse, { front, back := [], size := p.size - taken.length })

end Pipe

/-- A number that a process uses for an open file. -/
structure Descriptor where
  number : Nat
  file : Nat
  /-- Whether it is handed on to programs. -/
  inherited : Bool := true
deriving DecidableEq, Repr, Inhabited

/-! ## Processes -/

/-- A process in the system. -/
structure Member : Type 1 where
  id : Nat
  parent : Nat := 0
  work : Process
  descriptors : List Descriptor := []
  cwd : Nat := FileTree.root
  mask : Nat := 0o022
  dispositions : List (Nat × Disposition) := []
  /-- The signals that were caught and not yet taken, first ones first. -/
  caught : List Nat := []
  stopped : Bool := false
  ending : Option Ending := none
deriving Inhabited

/-- The signals that end nothing by default. -/
def quietSignals : List Nat := [17, 18, 23, 28]

/-- The signals that stop a process by default. -/
def stopSignals : List Nat := [19, 20, 21, 22]

/-- The signal that cannot be ignored or caught and ends a process. -/
def killSignal : Nat := 9

/-- The signal that lets a stopped process go on. -/
def continueSignal : Nat := 18

/-- The signal that a child has ended. -/
def childSignal : Nat := 17

/-- The signal for writing where nobody reads. -/
def pipeSignal : Nat := 13

namespace Member

/-- What a signal does to a process. -/
def disposition (m : Member) (signal : Nat) : Disposition :=
  if signal == killSignal || signal == 19 then .default
  else (m.dispositions.lookup signal).getD .default

/-- A process after a signal: it ends, stops, goes on, or keeps the signal for later. -/
def receive (m : Member) (signal : Nat) : Member :=
  let m := if signal == continueSignal then { m with stopped := false } else m
  if m.ending.isSome then m
  else match m.disposition signal with
    | .ignored => m
    | .caught => if m.caught.contains signal then m else { m with caught := m.caught ++ [signal] }
    | .default =>
      if quietSignals.contains signal then m
      else if stopSignals.contains signal then { m with stopped := true }
      else { m with ending := some (.signal signal), descriptors := [] }

/-- The open file that a number leads to. -/
def file? (m : Member) (d : Nat) : Option Nat := (m.descriptors.find? (·.number == d)).map (·.file)

/-- Makes a number lead to an open file. -/
def setFile (m : Member) (d file : Nat) (inherited : Bool) : Member :=
  { m with descriptors := ⟨d, file, inherited⟩ :: m.descriptors.filter (·.number != d) }

/-- Closes a number. -/
def closeFile (m : Member) (d : Nat) : Member :=
  { m with descriptors := m.descriptors.filter (·.number != d) }

/-- The first free number from a given one on. -/
def freeNumber (m : Member) (least : Nat) : Nat :=
  let used := m.descriptors.map (·.number)
  ((List.range (used.length + 1)).map (· + least) |>.find? (!used.contains ·)).getD least

end Member

/-! ## The system -/

/-- Bytes that came to a sink at a time. -/
structure Writing where
  time : Nat
  sink : Nat
  bytes : List UInt8
deriving DecidableEq, Repr, Inhabited

/-- The system. -/
structure Kernel : Type 1 where
  tree : FileTree
  /-- The programs that come with the system. -/
  programs : String → Option Program := fun _ => none
  /-- The time in nanoseconds. -/
  clock : Nat := 0
  /-- The processes; the first one that can go on is the next to do so. -/
  members : List Member := []
  files : Array OpenFile := #[]
  pipes : Array Pipe := #[]
  nextProcess : Nat := 100
  /-- What came to the sinks, last first. -/
  writings : List Writing := []
  /-- How the first process ended, and when. -/
  outcome : Option (Ending × Nat) := none
  /-- How often processes gave way, in all and since the last change of turns. -/
  passes : Nat := 0
  slice : Nat := 0
deriving Inhabited

namespace Kernel

/-- The number of the first process. -/
def firstProcess : Nat := 99

/-- An open file. -/
def file (k : Kernel) (number : Nat) : OpenFile := k.files[number]?.getD default

/-- Changes an open file. -/
def setFile (k : Kernel) (number : Nat) (f : OpenFile) : Kernel :=
  { k with files := k.files.setIfInBounds number f }

/-- A pipe. -/
def pipe (k : Kernel) (number : Nat) : Pipe := k.pipes[number]?.getD {}

/-- Changes a pipe. -/
def setPipe (k : Kernel) (number : Nat) (p : Pipe) : Kernel :=
  { k with pipes := k.pipes.setIfInBounds number p }

/-- Whether a process has a channel open in a way. -/
def holds (k : Kernel) (c : Channel) (way : OpenMode → Bool) (m : Member) : Bool :=
  m.descriptors.any fun d =>
    let f := k.file d.file
    f.channel == c && way f.mode

/-- Whether any process has a channel open in a way. -/
def isHeld (k : Kernel) (c : Channel) (way : OpenMode → Bool) : Bool := k.members.any (k.holds c way)

/-- Whether a process is to be kept after its end, because its parent has not asked for it. -/
def isAwaited (k : Kernel) (m : Member) : Bool := k.members.any (·.id == m.parent)

/-- Lets the end of a process be known: its children are on their own, its parent gets a signal, and
it stays until the parent asks for it. -/
def bury (k : Kernel) (m : Member) (e : Ending) : Kernel :=
  let orphaned := k.members.filterMap fun c =>
    if c.parent == m.id then
      if c.ending.isSome then none else some { c with parent := 0 }
    else some c
  let told := orphaned.map fun c => if c.id == m.parent then c.receive childSignal else c
  let gone := { m with ending := some e, descriptors := [], stopped := false }
  let k := { k with members := told }
  { k with
    members := if k.isAwaited m then told ++ [gone] else told
    outcome := if m.id == firstProcess then some (e, k.clock) else k.outcome }

/-- Puts a process back, in front if it can go on. -/
def settle (k : Kernel) (m : Member) : Kernel :=
  match m.ending with
  | some e => k.bury m e
  | none => { k with members := m :: k.members }

/-- Puts a process back with the rest of its work. -/
def go (k : Kernel) (m : Member) (work : Process) : Kernel := k.settle { m with work }

/-- Sends a signal to the processes that a test picks. -/
def signal (k : Kernel) (picks : Member → Bool) (signal : Nat) : Kernel :=
  let changed := k.members.map fun m => if picks m && m.ending.isNone then m.receive signal else m
  let isNew := fun (m : Member) =>
    m.ending.isSome && k.members.any fun old => old.id == m.id && old.ending.isNone
  (changed.filter isNew).foldl (fun k m => k.bury m (m.ending.getD default))
    { k with members := changed.filter (!isNew ·) }

end Kernel

end Deadwood.Host
