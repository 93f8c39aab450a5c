import Deadwood.Duration
import Deadwood.Host.Turn

/-!
# Executions

A program is started with nothing to read and with both its outputs watched. It counts as done when
it has ended and nobody can write to its output any more. One that is not done in time is killed;
one that is done is waited for until nobody can write to its error output either.
-/

namespace Deadwood.Host

/-- Why a program cannot be started. -/
inductive StartError where
  | refused (e : SystemError)
  /-- A word has a zero byte in it. -/
  | brokenWord
deriving DecidableEq, Repr, Inhabited

/-- The words for why a program cannot be started. -/
def StartError.message : StartError → String
  | .refused e => e.message
  | .brokenWord => "nul byte found in provided data"

/-- What came of a program that was started. -/
structure Execution where
  /-- How it ended, if it was done in time. -/
  ending : Option Ending
  /-- How long it took. -/
  span : Duration
  stdout : List UInt8
  stderr : List UInt8
  /-- The files afterwards. -/
  tree : FileTree
deriving Inhabited

namespace Execution

/-! ## Starting -/

/-- The directories in which programs are looked for. -/
def searchDirectories : List String :=
  ["/usr/local/sbin", "/usr/local/bin", "/usr/sbin", "/usr/bin", "/sbin", "/bin"]

/-- The environment of a program that is started. -/
def environment : List (String × String) :=
  [("HOME", "/root"), ("PATH", String.intercalate ":" searchDirectories)]

/-- The reasons for which the next directory is tried. -/
def isPassedOver (e : SystemError) : Bool := e == .noEntry || e == .notDirectory || e == .denied

/-- The first program that can be started of several paths; `worst` is why there is none so far. -/
def firstProgram (k : Kernel) (launch : Launch) (worst : SystemError) :
    List String → Answer (Program × Launch)
  | [] => .error worst
  | path :: rest =>
    match k.programAt k.tree.cwd interpreterLimit (pathOf path) launch with
    | .ok found => .ok found
    | .error e =>
      if isPassedOver e then firstProgram k launch (if e == .denied then e else worst) rest
      else .error e

/-- The program that a word names: a path if it has a slash, else a name to be looked for. -/
def programOf (k : Kernel) (launch : Launch) : Answer (Program × Launch) :=
  let word := launch.arguments.headD ""
  if word.isEmpty then .error .noEntry
  else if word.toList.contains '/' then
    k.programAt k.tree.cwd interpreterLimit (pathOf word) launch
  else if FileTree.nameLimit < word.length then .error .nameTooLong
  else firstProgram k launch .noEntry (searchDirectories.map fun d => s!"{d}/{word}")

/-- What the first process has open: nothing to read, and a sink for each output. -/
def firstFiles : Array OpenFile :=
  #[⟨.device .null, { reads := true }, 0⟩, ⟨.sink 1, { writes := true }, 0⟩,
    ⟨.sink 2, { writes := true }, 0⟩]

/-- The first process. -/
def firstMember (tree : FileTree) (work : Process) : Member :=
  { id := Kernel.firstProcess, work, cwd := tree.cwd, descriptors := [⟨0, 0, true⟩, ⟨1, 1, true⟩,
    ⟨2, 2, true⟩] }

/-- The system with a program that has just been started; the words are those of its command. -/
def start (programs : String → Option Program) (tree : FileTree) (words : List (List UInt8)) :
    Except StartError Kernel :=
  if words.any (·.contains 0) then .error .brokenWord
  else
    let launch : Launch := { arguments := words.map Text.Octets.ofBytes, environment }
    let k : Kernel := { tree, programs, files := firstFiles }
    match programOf k launch with
    | .error e => .error (.refused e)
    | .ok (program, launch) =>
      .ok { k with members := [firstMember tree (program launch)] }

/-! ## Running -/

/-- Whether nobody can write to a sink any more. -/
def isReleased (sink : Nat) (k : Kernel) : Bool := !k.isHeld (.sink sink) (·.writes)

/-- Whether the first process has ended and its output is at its end. -/
def isDone (k : Kernel) : Bool := k.outcome.isSome && isReleased 1 k

/-- What came to a sink. -/
def bytesOf (k : Kernel) (sink : Nat) : List UInt8 :=
  ((k.writings.filter (·.sink == sink)).reverse.map (·.bytes)).flatten

/-- What came of a program, seen from the system afterwards. -/
def ofKernel (cwd : Nat) (ending : Option Ending) (k : Kernel) : Execution :=
  { ending, span := ⟨k.clock⟩, stdout := bytesOf k 1, stderr := bytesOf k 2
    tree := { k.tree with cwd } }

/-- Runs a program that has been started, with a limit for how long it may take. -/
def finish (limit : Duration) (k : Kernel) : Execution :=
  let cwd := k.tree.cwd
  let k := Kernel.runUntil isDone (some limit.nanos) Kernel.turnLimit k
  match k.outcome, isDone k with
  | some (e, _), true => ofKernel cwd (some e) (Kernel.runUntil (isReleased 2) none Kernel.turnLimit k)
  | _, _ => ofKernel cwd none k

/-- Runs a command. -/
def run (programs : String → Option Program) (tree : FileTree) (limit : Duration)
    (words : List (List UInt8)) : Except StartError Execution :=
  match start programs tree words with
  | .error e => .error e
  | .ok k => .ok (finish limit k)

end Execution

end Deadwood.Host
