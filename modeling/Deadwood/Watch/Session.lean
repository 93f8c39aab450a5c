import Deadwood.Analyzer.Invocation
import Deadwood.Schedule.Timeline
import Deadwood.Watch.Watches

/-!
# Watching a workspace

A pass is made at the start and after every group of changes below the workspace, also after those
that the analyzer makes itself. Each pass is logged. A workspace that leads nowhere cannot be
watched: then the program ends at once with an error.
-/

namespace Deadwood.Watch

/-- A workspace that is being watched. -/
structure Session where
  tree : FileTree
  watches : Watches := []
  invoker : Invoker
  timeline : Timeline
  /-- What is shown of the log. -/
  filter : LogFilter
  /-- Whether the program is still running. -/
  running : Bool := true
  /-- The lines of output that nobody has looked at, in order, without blanks at their ends. -/
  unread : List String := []
deriving Inhabited

/-- A log line of the watcher. -/
def logLine (level : LogLevel) (message : String) : LogLine :=
  { level, topic := "dcf_cli::watch", message }

/-- Why a workspace cannot be watched. -/
def refusal? (tree : FileTree) (root : Path) : Option String :=
  match tree.find root with
  | .ok _ => none
  | .error .noEntry => some "No path was found."
  | .error e => some e.message

/-- The log line about a deed of the scheduler. Formalises `ConsoleSink::publish` and
`ConsoleSink::report_failure`. -/
def deedLine? : Deed → Option LogLine
  | .began => none
  | .published u =>
    let shown := u.publications.countP (!·.findings.isEmpty)
    let r := u.snapshot.report
    some (logLine .info (s!"Pass #{u.generation}: {r.unused.length} unused functions, " ++
      s!"{r.comments.length} commented-out blocks ({shown} files with findings)"))
  | .failed f => some (logLine .warn s!"Analysis failed, keeping previous results: {f.message}")

namespace Session

/-- The workspace. -/
def root (s : Session) : Path := s.timeline.scheduler.pipeline.root

/-- Adds a text to the output; it may have several lines. -/
def print (s : Session) (text : String) : Session :=
  { s with unread := s.unread ++ (text.splitOn "\n").map Text.trimEnd }

/-- Adds what is shown of the log. -/
def log (s : Session) (lines : List LogLine) : Session :=
  (lines.filter s.filter.admits).foldl (fun s l => s.print l.text) s

/-- Starts to watch a workspace, with a pass at once if the workspace can be watched. Formalises
`watch::run`. -/
def start (tree : FileTree) (home root : Path) (settings : Settings) (filter : LogFilter) :
    Session :=
  let tree := { tree with events := [] }
  let idle : Timeline :=
    { scheduler := { pipeline := { root, settings := settings.findings }
                     quiet := settings.debounceMs.toNat } }
  let invoker := .ofSettings home settings.analyzer
  match refusal? tree root with
  | some reason =>
    Session.print { tree, invoker, timeline := idle, filter, running := false } s!"error: {reason}"
  | none =>
    Session.log
      { tree, watches := .start tree root, invoker, timeline := idle.happen (.send .now), filter }
      [logLine .info s!"Watching {root.text}. Press Ctrl+C to stop."]

/-- The exit code of the program once it is stopped. -/
def exitCode (s : Session) : Nat := if s.running then 0 else 1

/-! ## Changes -/

/-- Looks at what has happened to files, and tells the scheduler if any of it matters. -/
def notice (s : Session) : Session :=
  let events := s.tree.events.reverse
  let s' := { s with
    tree := { s.tree with events := [] }
    watches := s.watches.after s.tree events }
  if s.watches.matter s.tree s.root events then
    { s' with timeline := s.timeline.happen (.send .saved) }
  else s'

/-- Changes the files. -/
def change (s : Session) (f : FileTree → FileTree) : Session := { s with tree := f s.tree }.notice

/-- Writes a file, or makes a directory. -/
def write (s : Session) (path : Path) (data : Option (List UInt8)) : Session :=
  s.change (·.put path data)

/-- Removes a file, or a directory with all below it. -/
def remove (s : Session) (path : Path) : Session := s.change (·.remove path)

/-- Moves a file or a directory. -/
def rename (s : Session) (path destination : Path) : Session :=
  s.change (·.rename path destination)

/-! ## Passing time -/

/-- Starts a pass at a time; the analyzer sees the files as they are, and what it does to them is
noticed while it runs. -/
def startPass (s : Session) (time : Nat) (e : ScheduleEvent) : Session :=
  let invocation := s.invoker.run s.tree s.root
  let worker : Worker := fun _ => ⟨invocation.span.nanos / 1000000, invocation.outcome⟩
  { s with timeline := s.timeline.act worker time e, tree := invocation.tree }.notice

/-- Does at a time what the scheduler does next, and logs it. -/
def act (s : Session) (time : Nat) (e : ScheduleEvent) : Session :=
  match e with
  | .begin | .expire => s.startPass time e
  | _ =>
    let before := s.timeline.scheduler.history.length
    let timeline := s.timeline.act (fun _ => {}) time e
    let deeds := timeline.scheduler.history.drop before
    Session.log { s with timeline } (deeds.filterMap fun d => deedLine? d.2)

/-- How much the scheduler does at most between two looks at it. -/
def actLimit : Nat := 100000

/-- Lets the scheduler do up to so many things, up to and including a time. -/
def advance (horizon : Nat) : Nat → Session → Session
  | 0, s => s
  | fuel + 1, s =>
    match s.timeline.next? with
    | some (time, e) => if time ≤ horizon then advance horizon fuel (s.act time e) else s
    | none => s

/-- Lets so many milliseconds pass. -/
def sleep (s : Session) (span : Nat) : Session :=
  let horizon := s.timeline.scheduler.time + span
  let s := advance horizon actLimit s
  { s with timeline := s.timeline.moveTo horizon }

/-- Lets the scheduler do up to so many things, until it is done with a pass. -/
def awaitDelivery : Nat → Session → Session
  | 0, s => s
  | fuel + 1, s =>
    match s.timeline.next? with
    | some (time, .resume) => s.act time .resume
    | some (time, e) => awaitDelivery fuel (s.act time e)
    | none => s

/-! ## Output -/

/-- Whether a line is about a pass, by the words in it. -/
def isPassLine (line : String) : Bool :=
  ["Pass #", "Analysis failed"].any fun words => 1 < (line.splitOn words).length

/-- Reads the lines up to and with the next one about a pass, waiting for it if need be. -/
def nextPass (s : Session) : Session × List String :=
  let s := if s.unread.any isPassLine then s else awaitDelivery actLimit s
  let count := (s.unread.takeWhile (!isPassLine ·)).length + 1
  ({ s with unread := s.unread.drop count }, s.unread.take count)

/-- Stops watching; gives the lines left. -/
def stop (s : Session) : List String :=
  if s.running then (s.log [logLine .info "Watcher stopped."]).unread else s.unread

end Session

end Deadwood.Watch
