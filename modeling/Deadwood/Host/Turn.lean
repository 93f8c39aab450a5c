import Deadwood.Host.Files

/-!
# Turns

One process goes on at a time, with one request. A process keeps its turn until it has to wait; then
the next one in the row that can go on has it. Time passes when all processes wait, and a little
when one of them gives way.
-/

namespace Deadwood.Host

/-! ## Programs -/

/-- How many bytes of a file are looked at for the name of an interpreter. -/
def headLength : Nat := 256

/-- The interpreter that the first line of a file names, and the argument for it; both are missing
if the file does not start as it has to or the name does not end within the bytes looked at. -/
def interpreter? (bytes : List UInt8) : Option (String × List String) :=
  let isBlank := fun (c : Char) => c == ' ' || c == '\t'
  if bytes.take 2 != [35, 33] then none
  else
    let line := ((bytes.take headLength).drop 2).takeWhile fun b => b != 10 && b != 0
    let isCut := line.length + 2 == headLength
    let line := (Text.Octets.listOf line).dropWhile isBlank
    let program := line.takeWhile (!isBlank ·)
    let argument :=
      (((line.drop program.length).dropWhile isBlank).reverse.dropWhile isBlank).reverse
    if program.isEmpty || (isCut && program.length == line.length) then none
    else some (String.ofList program, if argument.isEmpty then [] else [String.ofList argument])

/-- How many interpreters may stand behind each other, the last one coming with the system. -/
def interpreterLimit : Nat := 6

/-- How long one argument, and all of them with the environment, may be. -/
def argumentLimit : Nat := 131072

/-- How long all arguments and the environment may be together. -/
def launchLimit : Nat := 2097152

/-- Whether arguments and environment are too long. -/
def Launch.isTooBig (l : Launch) : Bool :=
  let sizes := l.arguments.map (·.length + 1) ++
    l.environment.map fun v => v.1.length + v.2.length + 2
  sizes.any (argumentLimit < ·) || launchLimit < sizes.foldl (fun n size => n + size + 8) 0

namespace Kernel

/-- The program that a path leads to and how it is started. A file that names an interpreter is
given to it. -/
def programAt (k : Kernel) (cwd : Nat) : Nat → Path → Launch → Answer (Program × Launch)
  | 0, _, _ => .error .linkLoop
  | fuel + 1, p, launch =>
    match k.tree.findFrom cwd p true with
    | .error e => .error e
    | .ok file =>
      if launch.isTooBig then .error .tooBig
      else match k.tree.content file with
        | .program name => match k.programs name with
          | some program => .ok (program, launch)
          | none => .error .notExecutable
        | .data bytes =>
          if (k.tree.node file).mode &&& 0o111 == 0 then .error .denied
          else match interpreter? bytes with
            | none => .error .notExecutable
            | some (name, given) =>
              let script := Text.Octets.ofBytes p.bytes
              k.programAt cwd fuel (pathOf name)
                { launch with arguments := name :: given ++ script :: launch.arguments.drop 1 }
        | _ => .error .denied

/-- The process after it has become another program. -/
def become (m : Member) (program : Program) (launch : Launch) : Member :=
  { m with
    work := program launch
    descriptors := m.descriptors.filter (·.inherited)
    dispositions := m.dispositions.filter (·.2 == .ignored)
    caught := [] }

/-! ## Requests on processes -/

/-- Starts a process that goes on beside another one, at the end of the row. -/
def fork (k : Kernel) (m : Member) (next : Option Nat → Process) : Kernel :=
  let child := { m with id := k.nextProcess, parent := m.id, work := next none, caught := [] }
  let k := { k with members := k.members ++ [child], nextProcess := k.nextProcess + 1 }
  k.go m (next (some child.id))

/-- Takes a child that has ended; nothing is given if the process has to wait. -/
def await (k : Kernel) (m : Member) (process : Option Nat) (hangs stirs : Bool) :
    Option (Kernel × Answer (Option (Nat × Ending))) :=
  let isWanted := fun (c : Member) => c.parent == m.id && process.all (· == c.id)
  match k.members.find? fun c => isWanted c && c.ending.isSome with
  | some c =>
    some ({ k with members := k.members.filter (·.id != c.id) },
      .ok (some (c.id, c.ending.getD default)))
  | none =>
    if !k.members.any isWanted then some (k, .error .noChild)
    else if !hangs then some (k, .ok none)
    else if stirs && !m.caught.isEmpty then some (k, .error .interrupted)
    else none

/-- Sends a signal for a process: to one, or with a number that is not positive to all. -/
def kill (k : Kernel) (m : Member) (target : Int) (signal : Nat) : Kernel × Member × Answer Unit :=
  let picks := fun (c : Member) => decide (target ≤ 0) || (c.id : Int) == target
  if !(k.members.any picks || picks m) then (k, m, .error .noProcess)
  else if signal == 0 then (k, m, .ok ())
  else
    let m := if picks m then m.receive signal else m
    ({ k with members := m :: k.members }.signal (fun c => c.id != m.id && picks c) signal, m,
      .ok ())

/-- How long a process that gives way takes, in nanoseconds; one that does so very often is taken to
do so for long. -/
def passSpan (passes : Nat) : Nat := if passes < 300000 then 1000 else 1000000

/-- How often a process gives way before another one has its turn. -/
def sliceLength : Nat := 500

/-- Lets a process give way. -/
def pass (k : Kernel) (m : Member) (work : Process) : Kernel :=
  let k := { k with clock := k.clock + passSpan k.passes, passes := k.passes + 1 }
  if k.slice < sliceLength then { k with slice := k.slice + 1 }.go m work
  else { k with slice := 0, members := k.members ++ [{ m with work }] }

/-! ## Turns -/

/-- Answers a request of a process; nothing is given if it has to wait. `k` has the other
processes. -/
def perform (k : Kernel) (m : Member) : {α : Type} → Request α → (α → Process) → Option Kernel
  | _, .openFile p mode rights, next =>
    let (k, m, a) := k.openFile m p mode rights
    some (k.go m (next a))
  | _, .close d, next =>
    if (m.file? d).isSome then some (k.go (m.closeFile d) (next (.ok ())))
    else some (k.go m (next (.error .badDescriptor)))
  | _, .read d size stop, next =>
    match k.read m d size stop with
    | some (k, a) => some (k.go m (next a))
    | none => if m.caught.isEmpty then none else some (k.go m (next (.error .interrupted)))
  | _, .write d bytes, next =>
    match k.write m d bytes with
    | (k, .written) => some (k.go m (next (.ok ())))
    | (k, .refused e) => some (k.go m (next (.error e)))
    | (_, .partly 0) => none
    | (k, .partly count) => some (k.go m (.call (.write d (bytes.drop count)) next))
    | (k, .unread) => some (k.go (m.receive pipeSignal) (next (.error .brokenPipe)))
  | _, .seek d origin offset, next =>
    let (k, a) := k.seek m d origin offset
    some (k.go m (next a))
  | _, .resize d size, next =>
    let (k, a) := k.resize m d size
    some (k.go m (next a))
  | _, .copy d target, next =>
    match m.file? d with
    | some file =>
      let m := if d == target then m else m.setFile target file true
      some (k.go m (next (.ok ())))
    | none => some (k.go m (next (.error .badDescriptor)))
  | _, .copyAbove d least, next =>
    match m.file? d with
    | some file =>
      let new := m.freeNumber least
      some (k.go (m.setFile new file false) (next (.ok new)))
    | none => some (k.go m (next (.error .badDescriptor)))
  | _, .pipe, next =>
    let number := k.pipes.size
    let k := { k with pipes := k.pipes.push {} }
    let (k, m, r) := k.attach m ⟨.pipe number, { reads := true }, 0⟩
    let (k, m, w) := k.attach m ⟨.pipe number, { writes := true }, 0⟩
    some (k.go m (next (r, w)))
  | _, .info p follows, next => some (k.go m (next (k.info m p follows)))
  | _, .infoOf d, next => some (k.go m (next (k.infoOf m d)))
  | _, .list p, next => some (k.go m (next (k.list m p)))
  | _, .readLink p, next => some (k.go m (next (k.readLink m p)))
  | _, .canonical p, next => some (k.go m (next (k.canonicalPath m p)))
  | _, .makeDirectory p rights, next =>
    let (k, a) := k.makeDirectory m p rights
    some (k.go m (next a))
  | _, .removeDirectory p, next =>
    let (k, a) := k.removeDirectory m p
    some (k.go m (next a))
  | _, .unlink p, next =>
    let (k, a) := k.unlink m p
    some (k.go m (next a))
  | _, .rename p q, next =>
    let (k, a) := k.rename m p q
    some (k.go m (next a))
  | _, .link p q, next =>
    let (k, a) := k.hardLink m p q
    some (k.go m (next a))
  | _, .symlink target p, next =>
    let (k, a) := k.symlink m target p
    some (k.go m (next a))
  | _, .setMode p mode, next =>
    let (k, a) := k.alter m p fun t file => t.setMode file mode
    some (k.go m (next a))
  | _, .touch p, next =>
    let (k, a) := k.alter m p fun t file => t.touch file
    some (k.go m (next a))
  | _, .changeDirectory p, next =>
    let (m, a) := k.changeDirectory m p
    some (k.go m (next a))
  | _, .currentDirectory, next => some (k.go m (next (k.tree.directoryPath m.cwd)))
  | _, .mask new, next => some (k.go { m with mask := new.getD m.mask } (next m.mask))
  | _, .fork, next => some (k.fork m next)
  | _, .execute p launch, next =>
    match k.programAt m.cwd interpreterLimit p launch with
    | .ok (program, launch) => some (k.settle (become m program launch))
    | .error e => some (k.go m (next e))
  | _, .wait process hangs stirs, next =>
    (k.await m process hangs stirs).map fun (k, a) => k.go m (next a)
  | _, .kill target signal, next =>
    let (k, m, a) := k.kill m target signal
    some ({ k with members := k.members.filter (·.id != m.id) }.go m (next a))
  | _, .dispose signal d, next =>
    let old := m.disposition signal
    let others := m.dispositions.filter (·.1 != signal)
    some (k.go { m with dispositions := (signal, d) :: others } (next old))
  | _, .caught, next => some (k.go { m with caught := [] } (next m.caught))
  | _, .self, next => some (k.go m (next m.id))
  | _, .parent, next => some (k.go m (next m.parent))
  | _, .now, next => some (k.go m (next k.clock))
  | _, .sleepUntil time, next => if time ≤ k.clock then some (k.go m (next ())) else none
  | _, .pass, next => some (k.pass m (next ()))

/-- Lets a process go on, if it can. -/
def advance (k : Kernel) (m : Member) : Option Kernel :=
  if m.ending.isSome || m.stopped then none
  else match m.work with
    | .finished status => some (k.bury m (.status (status % 256)))
    | .call request next => k.perform m request next

/-- Lets the first process in a row go on that can, those before it having had to wait. -/
def advanceFirst (k : Kernel) (before : List Member) : List Member → Option Kernel
  | [] => none
  | m :: rest =>
    match { k with members := rest ++ before.reverse }.advance m with
    | some k => some k
    | none => k.advanceFirst (m :: before) rest

/-- When the next process wakes up. -/
def wakeTime? (k : Kernel) : Option Nat :=
  k.members.foldl (fun earliest m =>
    match m.work with
    | .call (.sleepUntil time) _ =>
      if m.ending.isSome || m.stopped then earliest
      else some (earliest.elim time (min time))
    | _ => earliest) none

/-- How many turns the system takes before what is left counts as endless. -/
def turnLimit : Nat := 8000000

/-- Runs the system until a test holds, nothing can happen any more, or the time is up; in the last
case the clock is at the time given. -/
def runUntil (test : Kernel → Bool) (limit : Option Nat) : Nat → Kernel → Kernel
  | 0, k => { k with clock := limit.getD k.clock }
  | turns + 1, k =>
    if test k then k
    else if limit.any (· ≤ k.clock) then k
    else match k.advanceFirst [] k.members with
      | some k => runUntil test limit turns k
      | none =>
        match k.wakeTime?, limit with
        | some time, some limit =>
          if limit ≤ time then { k with clock := limit }
          else runUntil test (some limit) turns { k with clock := max k.clock time, slice := 0 }
        | some time, none =>
          runUntil test none turns { k with clock := max k.clock time, slice := 0 }
        | none, _ => { k with clock := limit.getD k.clock }

end Kernel

end Deadwood.Host
