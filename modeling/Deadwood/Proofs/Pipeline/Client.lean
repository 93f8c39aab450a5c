import Deadwood.Pipeline.Basic
import Deadwood.Proofs.Finding.Publication

/-!
# Clients of a pipeline

A client shows a list of findings for every file. Of each update it only sees the publications,
and replaces its lists by them. The publications name no more than the files of the last two
tables, but a client that has followed a pipeline from the start shows at every time just what
the current snapshot says.
-/

namespace Deadwood

open PathMap

/-- What a client shows: a list of findings for every path. -/
abbrev ClientView := Path → List Finding

namespace ClientView

/-- The view of a client that has been told nothing. -/
def blank : ClientView := fun _ => []

/-- Replaces the list of one file, however it is spelled. -/
def replace (view : ClientView) (publication : Publication) : ClientView := fun file =>
  if publication.file.same file then publication.findings else view file

/-- Replaces the lists of publications one after another. -/
def replaceAll (view : ClientView) (publications : List Publication) : ClientView :=
  publications.foldl replace view

/-- The view that shows the findings of a table and nothing else. -/
def ofTable (t : FindingTable) : ClientView := fun file => (t.findings? file).getD []

/-- Publishing the entries of an ordered list replaces what is shown for its files and keeps what
is shown for all others. -/
theorem replaceAll_entries (view : ClientView) {entries : List (Path × List Finding)}
    (h : OrderedEntries entries) (file : Path) :
    view.replaceAll (entries.map fun e => ⟨e.1, e.2⟩) file =
      (valueAt? file entries).getD (view file) := by
  induction entries generalizing view with
  | nil => rfl
  | cons e rest ih =>
    have hstep := ih (view.replace ⟨e.1, e.2⟩) (List.Pairwise.of_cons h)
    rw [List.map_cons, replaceAll, List.foldl_cons, ← replaceAll, hstep, valueAt?_cons]
    by_cases hfile : e.1.same file = true
    · -- no later entry is about this file, so the list just shown stays
      simp [replace, hfile, h.valueAt?_tail hfile]
    · simp [replace, hfile]

/-- A client that shows one table shows the next one after the publications of the plan between
them. -/
theorem replaceAll_plan (previous next : FindingTable) :
    (ofTable previous).replaceAll (Publication.plan previous next) = ofTable next := by
  funext file
  have hplan := replaceAll_entries (ofTable previous) (Publication.planTable previous next).ordered
  unfold Publication.plan
  rw [hplan, ← get?, Publication.get?_planTable]
  unfold ofTable FindingTable.findings?
  cases next.get? file with
  | some findings => rfl
  | none => cases previous.get? file <;> rfl

end ClientView

/-! ## Following a pipeline -/

/-- A pipeline and a client that is told of its updates. -/
structure Followed where
  pipeline : Pipeline
  view : ClientView

namespace Followed

/-- A new pipeline with a client that has been told nothing. -/
def start (root : Path) (settings : FindingSettings) : Followed :=
  ⟨{ root, settings }, .blank⟩

/-- A pass ends; the client takes the publications of an update and hears nothing of a failure. -/
def settle (f : Followed) (outcome : Except Failure Report) : Followed :=
  let (pipeline, result) := f.pipeline.settle outcome
  match result with
  | .ok update => ⟨pipeline, f.view.replaceAll update.publications⟩
  | .error _ => ⟨pipeline, f.view⟩

/-- Passes end one after another. -/
def settleAll (f : Followed) (outcomes : List (Except Failure Report)) : Followed :=
  outcomes.foldl settle f

/-- The client shows the findings of the current snapshot. -/
def Synced (f : Followed) : Prop := f.view = .ofTable f.pipeline.current.findings

theorem synced_start (root : Path) (settings : FindingSettings) :
    (start root settings).Synced := rfl

/-- One pass, whatever its outcome, keeps the client in step. -/
theorem Synced.settle {f : Followed} (h : f.Synced) (outcome : Except Failure Report) :
    (f.settle outcome).Synced := by
  cases outcome with
  | error failure => exact h
  | ok report =>
    have hplan := ClientView.replaceAll_plan f.pipeline.current.findings
      (.ofReport f.pipeline.settings report)
    rw [← h] at hplan
    exact hplan

theorem Synced.settleAll {f : Followed} (h : f.Synced) (outcomes : List (Except Failure Report)) :
    (f.settleAll outcomes).Synced := by
  induction outcomes generalizing f with
  | nil => exact h
  | cons outcome rest ih => exact ih (h.settle outcome)

/-- After any passes, good or failed, a client that has followed a pipeline from the start shows
for every path the findings of the current snapshot and nothing else. -/
theorem view_settleAll_eq_current (root : Path) (settings : FindingSettings)
    (outcomes : List (Except Failure Report)) (file : Path) :
    let followed := (start root settings).settleAll outcomes
    followed.view file = (followed.pipeline.current.findings.findings? file).getD [] := by
  intro followed
  have hsynced : followed.Synced := (synced_start root settings).settleAll outcomes
  exact congrFun hsynced file

end Followed

end Deadwood
