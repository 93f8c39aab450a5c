import Deadwood.Shell.Condition
import Deadwood.Shell.Field
import Deadwood.Shell.Job
import Deadwood.Shell.Lookup
import Deadwood.Shell.Printing

/-!
# Commands of the shell

The commands that a shell does itself and that need nothing of how scripts are run. Each takes its
arguments and gives a status.
-/

namespace Deadwood.Shell

open Host

/-! ## Printing and conditions -/

/-- Says its arguments. -/
def echoCommand (arguments : List String) : Shell Nat := do
  say (String.ofList (echoText arguments))
  return 0

/-- Says its arguments as a template tells. -/
def printfCommand (arguments : List String) : Shell Nat := do
  match ← takeArguments arguments with
  | [] => fail "usage: printf format [arg ...]"
  | template :: rest =>
    let filled := fillTemplate template rest
    for complaint in filled.complaints.reverse do
      warn complaint
    say (String.ofList filled.output.reverse)
    match filled.failure with
    | some text => fail text
    | none => return if filled.complaints.isEmpty then 0 else 1

/-- Tells whether a condition holds. -/
def judgeCommand (words : List String) : Shell Nat := do
  match ← ExceptT.lift (StateT.lift (Condition.judge words).run) with
  | .ok result => return if result then 0 else 1
  | .error text => fail text

/-- Tells whether a condition in brackets holds. -/
def bracketCommand (arguments : List String) : Shell Nat := do
  match arguments.getLast? with
  | some last =>
    if last.toList.head? == some ']' then judgeCommand arguments.dropLast else fail "missing ]"
  | none => fail "missing ]"

/-! ## Variables -/

/-- Shows variables as commands that set them. -/
def showVariables (start : String) (picks : Variable → Bool) : Shell Nat := do
  let s ← get
  let sorted := s.bindings.mergeSort fun a b => decide (a.1 ≤ b.1)
  for (name, v) in sorted do
    if picks v then
      say (start ++ name ++ (v.value.elim "" fun value => "=" ++ quoteText value) ++ "\n")
  return 0

/-- Marks variables, giving them values if there are any. -/
def markCommand (name : String) (mark : Variable → Variable) (isMarked : Variable → Bool)
    (arguments : List String) : Shell Nat := do
  let (options, rest) ← takeOptions "p" arguments
  if !options.isEmpty || rest.isEmpty then showVariables s!"{name} " isMarked
  else
    for text in rest do
      match splitAssignment text with
      | (name, some value) =>
        checkName name
        changeVariable name fun v => mark { v with value := some value }
      | (name, none) =>
        checkName name
        modify fun s => s.putVariable name (mark ((s.lookup? name).getD {}))
    return 0

/-- Makes variables local to a function. -/
def localCommand (arguments : List String) : Shell Nat := do
  if (← get).locals.isEmpty then fail "not in a function"
  else
    for text in arguments do
      if text == "-" then remember (.options (← get).options)
      else
        let (name, value) := splitAssignment text
        checkName name
        saveVariable name
        match value with
        | some value => setVariable name value
        | none => modify fun s => s.putVariable name ((s.lookup? name).getD {})
    return 0

/-- Forgets variables or functions. -/
def unsetCommand (arguments : List String) : Shell Nat := do
  let (options, rest) ← takeOptions "vf" arguments
  let isFunctions := options.getLast?.any (·.1 == 'f')
  for name in rest do
    if isFunctions then
      modify fun s => { s with functions := s.functions.filter (·.1 != name) }
    else
      checkName name
      unsetVariable name
  return 0

/-- Sets options and arguments of the shell. -/
def setCommand (arguments : List String) : Shell Nat := do
  if arguments.isEmpty then showVariables "" (·.value.isSome)
  else
    let asked ← switchOptions false (arguments.length + 1) { rest := arguments }
    if !asked.rest.isEmpty then setParameters asked.rest
    return 0

/-- Drops arguments of the shell. -/
def shiftCommand (arguments : List String) : Shell Nat := do
  let n ← match arguments with
    | text :: _ => number text
    | [] => pure 1
  let s ← get
  if s.parameters.length < n then fail "can't shift that many"
  else
    setParameters (s.parameters.drop n)
    return 0

/-! ## Reading -/

/-- A line of input with what has been escaped marked, behind the characters so far, which come last
first; and whether it was ended by a line end. An escaped line end is dropped with its escape. -/
def readMarked (isRaw : Bool) : Nat → Bool → List Marked → Shell (List Marked × Bool)
  | 0, _, sofar => return (sofar.reverse, false)
  | fuel + 1, isEscaped, sofar => do
    match ← ask (.read 0 65536 (some 10)) with
    | .error _ | .ok [] => return (sofar.reverse, false)
    | .ok bytes =>
      let (escaped, ended, sofar) :=
        (Text.Octets.listOf bytes).foldl (take isRaw) (isEscaped, false, sofar)
      if ended then return (sofar.reverse, true) else readMarked isRaw fuel escaped sofar
where
  /-- Takes one character. -/
  take (isRaw : Bool) (state : Bool × Bool × List Marked) (c : Char) :
      Bool × Bool × List Marked :=
    let (isEscaped, ended, sofar) := state
    if c == '\x00' then state
    else if isEscaped then (false, ended, if c == '\n' then sofar else (c, true) :: sofar)
    else if !isRaw && c == '\\' then (true, ended, sofar)
    else if c == '\n' then (false, true, sofar)
    else (false, ended, (c, false) :: sofar)

/-- How many pieces of input are read for one line. -/
def readLimit : Nat := 1000000

/-- Reads a line into variables. -/
def readLineCommand (arguments : List String) : Shell Nat := do
  let (options, names) ← takeOptions "p:r" arguments
  if names.isEmpty then fail "arg count"
  else
    let (line, ended) ← readMarked (options.any (·.1 == 'r')) readLimit false []
    let ifs := ((← get).value? "IFS").getD defaultSeparators
    let line := dropStartBlanks ifs line
    for (name, value) in names.zip (lineFields ifs names.length line) do
      checkName name
      setVariable name value
    return if ended then 0 else 1

/-! ## Options of scripts -/

/-- The next option of arguments. -/
structure NextOption where
  /-- The letter, or a mark that something is wrong. -/
  letter : Char := '?'
  value : Option String := none
  /-- The number of the argument after the one that was read, from one on. -/
  index : Nat
  /-- How far the argument before that has been read, if it goes on. -/
  offset : Option Nat := none
  complaint : Option String := none
  isOver : Bool := false
deriving DecidableEq, Repr, Inhabited

/-- Reads the letter of an option at a place of an argument; `index` is the number of the next
argument. -/
def optionAt (allowed : List Char) (arguments : List String) (index : Nat) (word : List Char)
    (offset : Nat) : NextOption :=
  let isQuiet := allowed.head? == some ':'
  let table := allowedOptions (if isQuiet then allowed.drop 1 else allowed)
  match word.drop offset with
  | [] => { index, isOver := true }
  | c :: rest =>
    let going := some (offset + 1)
    match table.lookup c with
    | none =>
      if isQuiet then { index, value := some (String.singleton c), offset := going }
      else { index, offset := going, complaint := some s!"Illegal option -{c}" }
    | some false => { index, letter := c, value := some "", offset := going }
    | some true =>
      if !rest.isEmpty then { index, letter := c, value := some (String.ofList rest) }
      else match arguments[index - 1]? with
        | some value => { index := index + 1, letter := c, value := some value }
        | none =>
          if isQuiet then
            { index, letter := ':', value := some (String.singleton c), offset := going }
          else { index, offset := going, complaint := some s!"No arg for -{c} option" }

/-- The next option of arguments from a place on. -/
def nextOption (allowed : List Char) (arguments : List String) (index : Nat)
    (offset : Option Nat) : NextOption :=
  let current := (arguments[index - 2]?).map String.toList
  match offset, current, decide (1 < index) with
  | some n, some word, true =>
    if n < word.length then optionAt allowed arguments index word n else fromNext index
  | _, _, _ => fromNext index
where
  /-- The first option of the next argument. -/
  fromNext (index : Nat) : NextOption :=
    match (arguments[index - 1]?).map String.toList with
    | some ['-', '-'] => { index := index + 1, isOver := true }
    | some ('-' :: c :: rest) => optionAt allowed arguments (index + 1) ('-' :: c :: rest) 1
    | _ => { index, isOver := true }

/-- Reads the next option of the arguments of a script. -/
def getoptsCommand (arguments : List String) : Shell Nat := do
  match ← takeArguments arguments with
  | allowed :: name :: given =>
    let s ← get
    let base := if given.isEmpty then s.parameters else given
    let isPast := base.length + 1 < s.optionIndex
    let next := nextOption allowed.toList base (if isPast then 1 else s.optionIndex)
      (if isPast then none else s.optionOffset)
    match next.complaint with
    | some text => put 2 (text ++ "\n")
    | none => pure ()
    match next.value, next.isOver with
    | some value, _ => setVariable "OPTARG" value
    | none, false => unsetVariable "OPTARG"
    | none, true => pure ()
    setVariable "OPTIND" (toString next.index)
    checkName name
    setVariable name (String.singleton next.letter)
    modify fun s => { s with optionIndex := next.index, optionOffset := next.offset }
    return if next.isOver then 1 else 0
  | _ => fail "Usage: getopts optstring var [arg...]"

/-! ## Directories -/

/-- A path that another one is gone to from a directory, without dots. -/
def plainPath (directory path : String) : String :=
  let isRooted := path.toList.head? == some '/'
  let isDouble := fun (s : String) =>
    s.toList.take 2 == ['/', '/'] && (s.toList.drop 2).head? != some '/'
  let root := if isDouble (if isRooted then path else directory) then "//" else "/"
  let names := if isRooted then path.splitOn "/" else directory.splitOn "/" ++ path.splitOn "/"
  let kept := names.foldl (fun (kept : List String) name =>
    if name == "" || name == "." then kept
    else if name == ".." then kept.drop 1
    else name :: kept) []
  root ++ "/".intercalate kept.reverse

/-- The path of the directory at work without links. -/
def physicalDirectory : Shell String := do
  return Text.Octets.ofBytes (← ask .currentDirectory).bytes

/-- Notes a new directory. -/
def setDirectory (directory : String) : Shell Unit := do
  let old := (← get).directory
  changeVariable "OLDPWD" fun v => { v with value := some old, exported := true }
  modify fun s => { s with directory }
  changeVariable "PWD" fun v => { v with value := some directory, exported := true }

/-- Goes to a directory; says whether that was possible. -/
def goTo (path : String) (isPhysical : Bool) : Shell Bool := do
  let s ← get
  let target := if isPhysical then path else plainPath s.directory path
  match ← ask (.changeDirectory (pathOf target)) with
  | .error _ => return false
  | .ok () =>
    let new ← if isPhysical then physicalDirectory else pure target
    setDirectory new
    return true

/-- Whether a path starts with a name of a dot or two. -/
def isDotted (path : String) : Bool :=
  match path.splitOn "/" with
  | first :: _ => first == "." || first == ".."
  | [] => false

/-- The first directory of a list in which a path leads to a directory, with the path there. -/
def searchDirectory (path : String) : List String → Shell (Option (String × String))
  | [] => return none
  | directory :: rest => do
    let candidate := inDirectory directory path
    match ← ask (.info (pathOf candidate) true) with
    | .ok info =>
      if info.kind == .directory then return some (directory, candidate)
      else searchDirectory path rest
    | .error _ => searchDirectory path rest

/-- Goes to a directory. -/
def cdCommand (arguments : List String) : Shell Nat := do
  let (options, rest) ← takeOptions "LP" arguments
  let isPhysical := options.getLast?.any (·.1 == 'P')
  let s ← get
  let (path, isBack) := match rest with
    | [] => ((s.value? "HOME").getD "", false)
    | "-" :: _ => ((s.value? "OLDPWD").getD "", true)
    | path :: _ => (path, false)
  let found ← if path.toList.head? == some '/' || isDotted path then pure none
    else match s.value? "CDPATH" with
      | some list => searchDirectory (if path.isEmpty then "." else path) (list.splitOn ":")
      | none => pure none
  let target := match found with
    | some (_, candidate) => candidate
    | none => if path.isEmpty then "." else path
  if ← goTo target isPhysical then
    if isBack || found.any (!·.1.isEmpty) then say ((← get).directory ++ "\n")
    return 0
  else fail s!"can't cd to {path}"

/-- Says the directory at work. -/
def pwdCommand (arguments : List String) : Shell Nat := do
  let (options, _) ← takeOptions "LP" arguments
  let directory ← if options.getLast?.any (·.1 == 'P') then physicalDirectory
    else pure (← get).directory
  say (directory ++ "\n")
  return 0

/-! ## Names -/

/-- Sets and shows aliases. -/
def aliasCommand (arguments : List String) : Shell Nat := do
  let s ← get
  if arguments.isEmpty then
    for (name, value) in ShellState.inRows s.aliases do
      say s!"{name}={quoteText value}\n"
    return 0
  else
    let mut status := 0
    for text in arguments do
      match splitAssignment text with
      | (name, some value) =>
        if name.isEmpty then
          put 2 s!"alias: {text} not found\n"
          status := 1
        else modify fun s =>
          { s with aliases := s.aliases.filter (·.1 != name) ++ [(name, value)] }
      | (name, none) =>
        match (← get).aliases.lookup name with
        | some value => say s!"{name}={quoteText value}\n"
        | none =>
          put 2 s!"alias: {name} not found\n"
          status := 1
    return status

/-- Forgets aliases. -/
def unaliasCommand (arguments : List String) : Shell Nat := do
  let (options, rest) ← takeOptions "a" arguments
  if !options.isEmpty then
    modify fun s => { s with aliases := [] }
    return 0
  else
    let mut status := 0
    for name in rest do
      if (← get).aliases.any (·.1 == name) then
        modify fun s => { s with aliases := s.aliases.filter (·.1 != name) }
      else
        put 2 s!"unalias: {name} not found\n"
        status := 1
    return status

/-- Says what names stand for. -/
def typeCommand (arguments : List String) : Shell Nat := do
  let mut status := 0
  for name in (← takeArguments arguments) do
    status := status ||| (← describe name none true)
  return status

/-- Says what a name stands for, if that is asked for. -/
def commandCommand (arguments : List String) : Shell Nat := do
  let (options, rest) ← takeOptions "pvV" arguments
  let path := if options.any (·.1 == 'p') then some defaultPath else none
  match (options.filter (·.1 != 'p')).getLast?, rest with
  | some (letter, _), name :: _ => describe name path (letter == 'V')
  | _, _ => return 0

/-- Remembers where programs are, or shows what is remembered. -/
def hashCommand (arguments : List String) : Shell Nat := do
  let (options, rest) ← takeOptions "r" arguments
  if !options.isEmpty then
    modify fun s => { s with found := [] }
    return 0
  else if rest.isEmpty then
    for (_, path) in ShellState.inRows (← get).found do
      say (path ++ "\n")
    return 0
  else
    let mut status := 0
    for name in rest do
      match commandOf (← get) name false, isPathLike name with
      | .other, false =>
        match ← findProgram name (pathValue (← get)) with
        | .ok _ => pure ()
        | .error e =>
          warn s!"{name}: {runWords e}"
          status := 1
      | _, _ => pure ()
    return status

/-! ## Rights and limits -/

/-- The letters of rights in a mode of three bits. -/
def rightLetters (bits : Nat) : String :=
  (if bits &&& 4 != 0 then "r" else "") ++ (if bits &&& 2 != 0 then "w" else "") ++
    (if bits &&& 1 != 0 then "x" else "")

/-- A mode of rights as letters. -/
def rightsText (rights : Nat) : String :=
  s!"u={rightLetters (rights >>> 6)},g={rightLetters (rights >>> 3)},o={rightLetters rights}"

/-- The bits of the users that letters name, all of them if there are none. -/
def userBits (letters : List Char) : Nat :=
  let bits := letters.foldl (fun n c => n ||| (match c with
    | 'u' => 0o700
    | 'g' => 0o070
    | 'o' => 0o007
    | _ => 0o777)) 0
  if bits == 0 then 0o777 else bits

/-- The bits of the rights that letters name, for all users. -/
def rightBits (letters : List Char) : Nat :=
  letters.foldl (fun n c => n ||| (match c with
    | 'r' => 0o444
    | 'w' => 0o222
    | 'x' => 0o111
    | _ => 0)) 0

/-- Changes rights as one clause of letters tells. -/
def applyClause (clause : List Char) (rights : Nat) : Option Nat :=
  let isUser := fun (c : Char) => ['u', 'g', 'o', 'a'].contains c
  let users := userBits (clause.takeWhile isUser)
  match clause.dropWhile isUser with
  | operator :: letters =>
    if !letters.all (['r', 'w', 'x', 'X', 's', 't'].contains ·) then none
    else
      let bits := users &&& rightBits letters
      match operator with
      | '+' => some (rights ||| bits)
      | '-' => some (rights &&& (0o777 ^^^ bits))
      | '=' => some ((rights &&& (0o777 ^^^ users)) ||| bits)
      | _ => none
  | [] => none

/-- Changes rights as clauses of letters tell. -/
def applyClauses (text : String) (rights : Nat) : Option Nat :=
  (text.splitOn ",").foldl (fun r clause => r.bind (applyClause clause.toList)) (some rights)

/-- A number of octal digits with at least four of them. -/
def octalText (n : Nat) : String :=
  let digits := Nat.toDigits 8 n
  String.ofList (List.replicate (4 - digits.length) '0' ++ digits)

/-- Sets or shows the rights that new files do not get. -/
def umaskCommand (arguments : List String) : Shell Nat := do
  let (options, rest) ← takeOptions "S" arguments
  let old ← ask (.mask none)
  match rest with
  | [] =>
    say ((if options.isEmpty then octalText old else rightsText (0o777 ^^^ old)) ++ "\n")
    return 0
  | text :: _ =>
    if text.toList.head?.any Char.isDigit then
      if text.toList.all isOctal then
        let _ ← ask (.mask (some (text.toList.foldl (fun n c => 8 * n + (c.toNat - 48)) 0 % 512)))
        return 0
      else fail s!"Illegal number: {text}"
    else match applyClauses text (0o777 ^^^ old) with
      | some rights =>
        let _ ← ask (.mask (some (0o777 ^^^ rights)))
        return 0
      | none => fail s!"Illegal mode: {text}"

/-- The limits that can be set: their letters, names and units, and what they are at first. -/
def limitTable : List (Char × String × Option Nat) :=
  [('t', "time(seconds)", none), ('f', "file(blocks)", none), ('d', "data(kbytes)", none),
    ('s', "stack(kbytes)", some 8192), ('c', "coredump(blocks)", some 0),
    ('m', "memory(kbytes)", none), ('l', "locked memory(kbytes)", some 8192),
    ('p', "process", none), ('n', "nofiles", some 1048576), ('v', "vmemory(kbytes)", none),
    ('w', "locks", none), ('r', "rtprio", some 0)]

/-- A limit as a text. -/
def limitText (limit : Option Nat) : String := limit.elim "unlimited" toString

/-- Sets or shows limits. -/
def ulimitCommand (arguments : List String) : Shell Nat := do
  let (options, rest) ← takeOptions "HSatfdscmlpnvwr" arguments
  let s ← get
  let current := fun (letter : Char) (first : Option Nat) => (s.limits.lookup letter).getD first
  if options.any (·.1 == 'a') then
    for (letter, name, first) in limitTable do
      say (padRight 20 name ++ " " ++ limitText (current letter first) ++ "\n")
    return 0
  else
    let letters := (options.map Prod.fst).filter fun c => c != 'H' && c != 'S'
    let letter := letters.getLast?.getD 'f'
    let first := (limitTable.lookup letter).elim none Prod.snd
    match rest with
    | [] =>
      say (limitText (current letter first) ++ "\n")
      return 0
    | _ :: _ :: _ => fail "too many arguments"
    | [text] =>
      let value? := if text == "unlimited" then some none else (digits? text).map some
      match value? with
      | some value =>
        modify fun s => { s with limits := (letter, value) :: s.limits.filter (·.1 != letter) }
        return 0
      | none => fail "bad number"

/-- Says how much time was used, which is none. -/
def timesCommand : Shell Nat := do
  say "0m0.000000s 0m0.000000s\n0m0.000000s 0m0.000000s\n"
  return 0

/-! ## Processes -/

/-- The job that a text names. -/
def findJob (text : String) : Shell Job := do
  let jobs := (← get).jobs
  let found := match text.toList.drop 1 with
    | [] | ['%'] | ['+'] => jobs.head?
    | ['-'] => jobs[1]?
    | digits => (digits? (String.ofList digits)).bind fun n => jobs.find? (·.number == n)
  match found with
  | some job => return job
  | none => fail s!"No such job: {text}"

/-- Sends a signal to processes. -/
def sendSignal (signal : Nat) (targets : List String) : Shell Nat := do
  let mut status := 0
  for text in targets do
    let target : Int ← match text.toList with
      | '%' :: _ => do
        pure (((((← findJob text).processes.head?).map Prod.fst).getD 0 : Nat) : Int)
      | '-' :: digits => do pure (-((← number (String.ofList digits)) : Int))
      | _ => do pure ((← number text) : Int)
    match ← ask (.kill target signal) with
    | .ok () => pure ()
    | .error e =>
      warn s!"{e.words}\n"
      status := 1
  return status

/-- How the command that sends signals is used. -/
def killUsage : String :=
  "Usage: kill [-s sigspec | -signum | -sigspec] [pid | job]... or\nkill -l [exitstatus]"

/-- Says the names of signals. -/
def listSignals (arguments : List String) : Shell Nat := do
  match arguments with
  | [] =>
    say "0\n"
    for n in List.range (signalCount - 1) do
      say (signalName (n + 1) ++ "\n")
    return 0
  | text :: _ =>
    let n ← number text
    let n := if 128 < n then n - 128 else n
    if 0 < n && n < signalCount then
      say (signalName n ++ "\n")
      return 0
    else fail s!"invalid signal number or exit status: {text}"

/-- Sends a signal to processes, or says the names of signals. -/
def killCommand (arguments : List String) : Shell Nat := do
  match arguments with
  | [] => fail killUsage
  | first :: rest =>
    match first.toList with
    | '-' :: name =>
      match signalNumber? (String.ofList name) 1 with
      | some signal => if rest.isEmpty then fail killUsage else sendSignal signal rest
      | none =>
        let (options, rest) ← takeOptions "ls:" arguments
        let mut signal := 15
        for (letter, value) in options do
          if letter == 's' then
            match signalNumber? value 1 with
            | some n => signal := n
            | none => fail s!"invalid signal number or name: {value}"
        if options.any (·.1 == 'l') then listSignals rest
        else if rest.isEmpty then fail killUsage
        else sendSignal signal rest
    | _ => sendSignal 15 arguments

/-- What is said of how a job stands. -/
def jobText (j : Job) : String :=
  if !j.isDone then "Running"
  else match j.processes.getLast? with
    | some (_, some (.status 0)) => "Done"
    | some (_, some (.status code)) => s!"Done({code})"
    | some (_, some (.signal signal)) => signalText signal
    | _ => "Done"

/-- Takes note of processes that have ended in the meantime. -/
def noteEnded : Nat → Shell Unit
  | 0 => pure ()
  | fuel + 1 => do
    match ← ask (.wait none false false) with
    | .ok (some (process, e)) =>
      modify fun s => { s with jobs := noteEnding process e s.jobs }
      noteEnded fuel
    | _ => pure ()

/-- Shows the jobs; those that are over are forgotten. -/
def jobsCommand (arguments : List String) : Shell Nat := do
  let (options, _) ← takeOptions "lp" arguments
  noteEnded waitLimit
  let jobs := (← get).jobs
  for (j, place) in jobs.zipIdx do
    let first := (j.processes.head?.map Prod.fst).getD 0
    if options.any (·.1 == 'p') then say s!"{first}\n"
    else
      let mark := if place == 0 then "+" else if place == 1 then "-" else " "
      let id := if options.any (·.1 == 'l') then s!"{first} " else ""
      let pipes := String.join ((j.processes.drop 1).map fun _ => " | ")
      say (padRight 33 s!"[{j.number}] {mark} {id}{jobText j}" ++ pipes ++ "\n")
  modify fun s => { s with jobs := s.jobs.filter (!·.isDone) }
  return 0

/-- Waits until a test on the jobs holds; gives whether it was not disturbed by a signal. The ends of
the processes of a given job are announced. -/
def waitUntil (test : List Job → Bool) (announced : Nat → Bool) : Nat → Shell Bool
  | 0 => return true
  | fuel + 1 => do
    if test (← get).jobs then return true
    else match ← ask (.wait none true true) with
      | .ok (some (process, e)) =>
        if announced process then announce e
        modify fun s => { s with jobs := noteEnding process e s.jobs }
        waitUntil test announced fuel
      | .error .interrupted =>
        let caught ← ask .caught
        modify fun s => { s with pending := s.pending ++ caught }
        if (← get).pending.isEmpty then waitUntil test announced fuel else return false
      | _ => return true

/-- The status after a signal has disturbed waiting. -/
def disturbedStatus : Shell Nat := do return 128 + ((← get).pending.getLast?).getD 0

/-- Waits for all jobs. -/
def waitAll : Shell Nat := do
  let isOver ← waitUntil (·.all Job.isDone) (fun _ => false) waitLimit
  if isOver then
    modify fun s => { s with jobs := s.jobs.map fun j => { j with waited := true } }
    return 0
  else disturbedStatus

/-- Notes that a job has been waited for. -/
def markWaited (number : Nat) (jobs : List Job) : List Job :=
  jobs.map fun j => if j.number == number then { j with waited := true } else j

/-- Waits for jobs; gives the status of the last one. -/
def waitEach : Nat → List String → Shell Nat
  | status, [] => return status
  | status, text :: rest => do
    let found ← if text.toList.head? == some '%' then some <$> findJob text
      else do
        let process ← number text
        pure ((← get).jobs.find? fun j => (j.processes.getLast?.map Prod.fst) == some process)
    match found with
    | none => waitEach status rest
    | some job =>
      let same := fun (j : Job) => j.number == job.number
      let isOurs := fun (process : Nat) => job.processes.any (·.1 == process)
      let isOver ←
        waitUntil (fun jobs => (jobs.find? same).all Job.isDone) isOurs waitLimit
      if isOver then
        modify fun s => { s with jobs := markWaited job.number s.jobs }
        let now := ((← get).jobs.find? same).getD job
        waitEach (jobStatus now.processes) rest
      else disturbedStatus

/-- Waits for jobs. -/
def waitCommand (arguments : List String) : Shell Nat := do
  let rest ← takeArguments arguments
  if rest.isEmpty then waitAll else waitEach 127 rest

/-! ## Signals -/

/-- Sets what is done for a signal; nothing said means what is done by default. -/
def setTrap (signal : Nat) (action : Option String) : Shell Unit := do
  modify fun s =>
    let others := s.traps.filter (·.1 != signal)
    { s with traps := match action with
        | some text => (signal, text) :: others
        | none => others }
  if signal != 0 && !(← get).deaf.contains signal then
    let _ ← ask (.dispose signal (match action with
      | none => .default
      | some text => if text.isEmpty then .ignored else .caught))

/-- Sets or shows what is done for signals. -/
def trapCommand (arguments : List String) : Shell Nat := do
  match ← takeArguments arguments with
  | [] =>
    let s ← get
    for signal in List.range signalCount do
      match s.traps.lookup signal with
      | some action => say s!"trap -- {quoteText action} {signalName signal}\n"
      | none => pure ()
    return 0
  | first :: rest =>
    let isSignal := (digits? first).any (· < signalCount)
    let (action, signals) :=
      if rest.isEmpty || isSignal then (none, first :: rest)
      else (if first == "-" then none else some first, rest)
    setEach action signals
where
  /-- Sets the same for signals one after another. -/
  setEach (action : Option String) : List String → Shell Nat
    | [] => return 0
    | name :: rest => do
      match signalNumber? name 0 with
      | some signal =>
        setTrap signal action
        setEach action rest
      | none =>
        put 2 s!"trap: {name}: bad trap\n"
        return 1

/-! ## Control -/

/-- Ends or goes on with loops. -/
def loopCommand (isBreak : Bool) (arguments : List String) : Shell Nat := do
  let n ← match arguments with
    | text :: _ => do
      let n ← number text
      if n == 0 then fail s!"Illegal number: {text}" else pure n
    | [] => pure 1
  let n := min n (← get).loops
  if 0 < n then modify fun s => { s with flow := if isBreak then .breaks n else .continues n }
  return 0

/-- Ends a function or a script. -/
def returnCommand (arguments : List String) : Shell Nat := do
  let status ← match arguments with
    | text :: _ => number text
    | [] => pure (← get).status
  modify fun s => { s with flow := .returns !arguments.isEmpty }
  return status

/-- Ends the shell. -/
def exitCommand (arguments : List String) : Shell Nat := do
  let s ← get
  let status ← match arguments with
    | text :: _ => number text
    | [] => pure (s.kept.getD s.status)
  exitWith status

/-- The commands of the shell that need nothing of how scripts are run. -/
def plainCommand (name : String) (arguments : List String) : Shell Nat :=
  match name with
  | ":" | "true" => return 0
  | "false" => return 1
  | "echo" => echoCommand arguments
  | "printf" => printfCommand arguments
  | "test" => judgeCommand arguments
  | "[" => bracketCommand arguments
  | "export" =>
    markCommand name (fun v => { v with exported := true }) (·.exported) arguments
  | "readonly" => markCommand name (fun v => { v with fixed := true }) (·.fixed) arguments
  | "local" => localCommand arguments
  | "unset" => unsetCommand arguments
  | "set" => setCommand arguments
  | "shift" => shiftCommand arguments
  | "read" => readLineCommand arguments
  | "getopts" => getoptsCommand arguments
  | "cd" | "chdir" => cdCommand arguments
  | "pwd" => pwdCommand arguments
  | "alias" => aliasCommand arguments
  | "unalias" => unaliasCommand arguments
  | "type" => typeCommand arguments
  | "command" => commandCommand arguments
  | "hash" => hashCommand arguments
  | "umask" => umaskCommand arguments
  | "ulimit" => ulimitCommand arguments
  | "times" => timesCommand
  | "kill" => killCommand arguments
  | "jobs" => jobsCommand arguments
  | "wait" => waitCommand arguments
  | "trap" => trapCommand arguments
  | "break" => loopCommand true arguments
  | "continue" => loopCommand false arguments
  | "return" => returnCommand arguments
  | "exit" => exitCommand arguments
  | "bg" | "fg" => fail "No current job"
  | _ => return 0

end Deadwood.Shell
