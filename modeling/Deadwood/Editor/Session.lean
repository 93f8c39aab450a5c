import Deadwood.Analyzer.Invocation
import Deadwood.Editor.Message
import Deadwood.Hover
import Deadwood.Schedule.Timeline

/-!
# The session of a workspace

Once the editor has named a workspace, a session keeps its results and makes passes over it.
-/

namespace Deadwood.Editor

/-- The session of a workspace. Formalises `Session`. -/
structure Session where
  root : Path
  settings : Settings
  invoker : Invoker
  timeline : Timeline
  /-- Whether the editor is asked to fetch its lenses again after a pass. -/
  refreshesLenses : Bool
deriving Inhabited

namespace Session

/-- A new session; `home` is the directory of this program. Formalises `spawn_session`. -/
def start (home root : Path) (settings : Settings) (refreshesLenses : Bool) : Session where
  root := root
  settings := settings
  invoker := .ofSettings home settings.analyzer
  timeline :=
    { scheduler := { pipeline := { root, settings := settings.findings }
                     quiet := settings.debounceMs.toNat } }
  refreshesLenses := refreshesLenses

/-- The scheduler of a session. -/
def scheduler (s : Session) : Scheduler := s.timeline.scheduler

/-- What is known at present. -/
def current (s : Session) : Snapshot := s.scheduler.pipeline.current

/-- Asks for a pass. -/
def send (s : Session) (t : Trigger) : Session :=
  { s with timeline := s.timeline.happen (.send t) }

/-- Whether the scheduler has been asked to stop. -/
def isCancelled (s : Session) : Bool := s.scheduler.cancelled

/-- Stops the scheduler. -/
def cancel (s : Session) : Session :=
  { s with timeline := (s.timeline.happen .cancel).sleep (fun _ => {}) 0 }

/-- Changes the pipeline directly. -/
def setPipeline (s : Session) (p : Pipeline) : Session :=
  { s with timeline := { s.timeline with scheduler := { s.scheduler with pipeline := p } } }

/-- Applies a report directly. -/
def apply (s : Session) (report : Report) : Session × Update :=
  let (p, update) := s.scheduler.pipeline.apply report
  (s.setPipeline p, update)

/-- What the analyzer makes of the files. -/
def analyze (s : Session) (tree : FileTree) : Invocation := s.invoker.run tree s.root

/-- The worker that makes of the files what an invocation made of them. -/
def worker (i : Invocation) : Worker := fun _ => ⟨i.span.nanos / 1000000, i.outcome⟩

/-- The messages about a deed of the scheduler. -/
def deedMessages (root : Path) : Deed → List Message
  | .began => []
  | .published update => Message.ofUpdate root update
  | .failed failure => [Message.ofFailure failure]

/-! ## Lenses and hovers -/

/-- The lenses in a file: those under the first of its names that has any. -/
def lenses (s : Session) (file : Path) : List Lens :=
  ((Path.reportKeys s.root file).map (Lens.inFile s.current.report)).find? (!·.isEmpty) |>.getD []

/-- The hover over a word in a line of a file, under the first of its names that has one. -/
def hover? (s : Session) (file : Path) (line : UInt32) (word : String) : Option String :=
  (Path.reportKeys s.root file).findSome? fun key => Hover.at? s.current.index key line word

end Session

end Deadwood.Editor
