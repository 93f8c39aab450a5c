import Deadwood.Shell.State

/-!
# Processes of a shell

A shell starts processes for programs and for parts of its own work, waits for them, and keeps an
account of those that run beside it.
-/

namespace Deadwood.Shell

open Host

/-! ## Signals -/

/-- The names of signals, from number one on. -/
def signalNames : List String :=
  ["HUP", "INT", "QUIT", "ILL", "TRAP", "ABRT", "BUS", "FPE", "KILL", "USR1", "SEGV", "USR2",
    "PIPE", "ALRM", "TERM", "STKFLT", "CHLD", "CONT", "STOP", "TSTP", "TTIN", "TTOU", "URG", "XCPU",
    "XFSZ", "VTALRM", "PROF", "WINCH", "IO", "PWR", "SYS"]

/-- How many signals there are, with those that have no name. -/
def signalCount : Nat := 65

/-- The name of a signal; the end of the shell counts as number zero. -/
def signalName (number : Nat) : String :=
  if number == 0 then "EXIT"
  else match signalNames[number - 1]? with
    | some name => name
    | none =>
      if number == 34 then "RTMIN"
      else if number == 64 then "RTMAX"
      else if 34 < number && number < 50 then s!"RTMIN+{number - 34}"
      else if 50 ≤ number && number < 64 then s!"RTMAX-{64 - number}"
      else toString number

/-- The number that a text of digits stands for. -/
def digits? (s : String) : Option Nat :=
  if !s.isEmpty && s.toList.all Char.isDigit then
    some (s.toList.foldl (fun n c => 10 * n + (c.toNat - 48)) 0)
  else none

/-- The signal that a text names, from a least one on. -/
def signalNumber? (text : String) (least : Nat) : Option Nat :=
  match digits? text with
  | some n => if n < signalCount then some n else none
  | none =>
    (List.range signalCount).find? fun n => least ≤ n && signalName n == text.toUpper

/-- What is said of a process that a signal ended. -/
def signalText : Nat → String
  | 1 => "Hangup"
  | 2 => "Interrupt"
  | 3 => "Quit"
  | 4 => "Illegal instruction"
  | 5 => "Trace/breakpoint trap"
  | 6 => "Aborted"
  | 7 => "Bus error"
  | 8 => "Floating point exception"
  | 9 => "Killed"
  | 10 => "User defined signal 1"
  | 11 => "Segmentation fault"
  | 12 => "User defined signal 2"
  | 13 => "Broken pipe"
  | 14 => "Alarm clock"
  | 15 => "Terminated"
  | 16 => "Stack fault"
  | 24 => "CPU time limit exceeded"
  | 25 => "File size limit exceeded"
  | 26 => "Virtual timer expired"
  | 27 => "Profiling timer expired"
  | 29 => "I/O possible"
  | 30 => "Power failure"
  | 31 => "Bad system call"
  | n => if 34 ≤ n then s!"Real-time signal {n - 34}" else s!"Unknown signal {n}"

/-! ## Starting -/

/-- Starts a process that does some work and ends with the status that it gives; gives its
number. -/
def forkProcess (work : Shell Nat) : Shell Nat := fun s k =>
  .call .fork fun r => match r with
    | some process => k (.ok process, s)
    | none => work s fun (result, s') => .finished (match result with
      | .ok status => status
      | .error _ => s'.status)

/-- What a shell forgets that does a part of the work of another one. -/
def asPart (s : ShellState) : ShellState :=
  { s with
    isPart := true, jobs := [], streams := [], kept := none, pending := []
    traps := s.traps.filter (·.2.isEmpty) }

/-- Lets signals that had been caught do again what they do by default. -/
def releaseTraps : Shell Unit := do
  let s ← get
  for (number, action) in s.traps do
    if number != 0 && !action.isEmpty then
      let _ ← ask (.dispose number .default)
  set (asPart s)

/-- Starts a shell that does a part of the work. Beside the shell it cannot be interrupted, and
without a pipe it has nothing to read. -/
def forkShell (isBackground readsNothing : Bool) (work : Shell Nat) : Shell Nat :=
  forkProcess do
    releaseTraps
    if isBackground then
      let _ ← ask (.dispose 2 .ignored)
      let _ ← ask (.dispose 3 .ignored)
      modify fun s => { s with deaf := [2, 3] ++ s.deaf }
      if readsNothing then
        let _ ← ask (.close 0)
        let _ ← ask (.openFile (pathOf "/dev/null") { reads := true } 0)
    work

/-! ## Waiting -/

/-- The status that the end of a process gives. -/
def endingStatus : Ending → Nat
  | .status code => code
  | .signal number => 128 + number

/-- Notes how a process ended that runs beside the shell. -/
def noteEnding (process : Nat) (e : Ending) (jobs : List Job) : List Job :=
  jobs.map fun j => { j with
    processes := j.processes.map fun p => if p.1 == process then (p.1, some e) else p }

/-- Says how a process ended that a signal ended. -/
def announce : Ending → Shell Unit
  | .status _ => pure ()
  | .signal number => do if number != 2 && number != 13 then put 2 (signalText number ++ "\n")

/-- Waits for processes; gives how each ended. -/
def awaitProcesses : Nat → List (Nat × Option Ending) → Shell (List (Nat × Option Ending))
  | 0, processes => return processes
  | fuel + 1, processes => do
    if processes.all (·.2.isSome) then return processes
    else match ← ask (.wait none true false) with
      | .ok (some (process, e)) =>
        if processes.any (·.1 == process) then
          announce e
          awaitProcesses fuel
            (processes.map fun p => if p.1 == process then (p.1, some e) else p)
        else
          modify fun s => { s with jobs := noteEnding process e s.jobs }
          awaitProcesses fuel processes
      | _ => return processes

/-- The status of processes that work together: that of the last one. -/
def jobStatus (processes : List (Nat × Option Ending)) : Nat :=
  match processes.getLast? with
  | some (_, some e) => endingStatus e
  | _ => 0

/-- How often a shell waits before it gives up. -/
def waitLimit : Nat := 1000000

/-- Waits for processes; gives the status of the last one. -/
def awaitJob (processes : List Nat) : Shell Nat := do
  return jobStatus (← awaitProcesses waitLimit (processes.map fun p => (p, none)))

/-- The first number that no job has, or only one that is over and has been waited for; and the jobs
without that one. -/
def freeJob (jobs : List Job) : Nat × List Job :=
  let isFree := fun (n : Nat) => jobs.all fun j => j.number != n || (j.isDone && j.waited)
  let number := (((List.range (jobs.length + 1)).map (· + 1)).find? isFree).getD 1
  (number, jobs.filter (·.number != number))

/-- Makes room for a job that is waited for at once. -/
def passJob : Shell Unit := modify fun s => { s with jobs := (freeJob s.jobs).2 }

/-- Keeps an account of processes that run beside the shell. -/
def addJob (processes : List Nat) : Shell Unit := modify fun s =>
  let (number, jobs) := freeJob s.jobs
  { s with
    jobs := { number, processes := processes.map fun p => (p, none) } :: jobs
    background := processes.getLast? }

end Deadwood.Shell
