import Deadwood.Pipeline.Calls
import Deadwood.Proofs.Pipeline.Generations

/-!
# Interleaved calls to a pipeline

Calls to one pipeline may overlap in any way: some wait, one has the lock, some are dropped half
way, and reports are applied past the lock in between. Still at most one analysis is in flight, the
snapshot always belongs to the report that was applied last, a call without a report changes
nothing, and each report gives one update, whose plan starts from the generation just before it.
-/

namespace Deadwood

/-! ## Calls and their events -/

namespace CallPhase

/-- Whether a call has the lock. -/
def holdsLock : CallPhase → Bool
  | .holding | .analyzing => true
  | _ => false

/-- The update that a call gave. -/
def update? : CallPhase → Option Update
  | .done (.ok update) => some update
  | _ => none

/-- Whether a call has ended without an update: in a failure, or because it was dropped. -/
def isFruitless : CallPhase → Bool
  | .done (.error _) | .dropped => true
  | _ => false

theorem holdsLock_of_isAnalyzing {phase : CallPhase} (h : phase.isAnalyzing = true) :
    phase.holdsLock = true := by
  cases phase with
  | analyzing => rfl
  | _ => cases h

/-- A call that has the lock has given no update yet. -/
theorem update?_eq_none_of_holdsLock {phase : CallPhase} (h : phase.holdsLock = true) :
    phase.update? = none := by
  cases phase with
  | holding | analyzing => rfl
  | _ => cases h

end CallPhase

namespace CallEvent

/-- The reports that an event applies. -/
def applied : CallEvent → List Report
  | .finish _ (.ok report) | .apply report => [report]
  | .finish _ (.error _) | .start | .enter _ | .analyze _ | .drop _ => []

/-- The waiting call that an event is a step of. -/
def call? : CallEvent → Option Nat
  | .enter i | .analyze i | .finish i _ | .drop i => some i
  | .start | .apply _ => none

end CallEvent

namespace Calls

/-- The reports that are applied in a sequence of events, oldest first. -/
def appliedIn (es : List CallEvent) : List Report := es.flatMap CallEvent.applied

/-- The updates that the calls have given, in the order of the calls. -/
def updates (s : Calls) : List Update := s.calls.filterMap CallPhase.update?

/-! ## Steps -/

/-- The rules by which events change a pipeline and its calls. -/
inductive Step : Calls → CallEvent → Calls → Prop where
  | start (s : Calls) : Step s .start { s with calls := s.calls ++ [.waiting] }
  | enter {s : Calls} {i : Nat} (hcall : s.calls[i]? = some .waiting)
      (hfree : s.locked = false) :
      Step s (.enter i) { s with locked := true, calls := s.calls.set i .holding }
  | analyze {s : Calls} {i : Nat} (hcall : s.calls[i]? = some .holding) :
      Step s (.analyze i) { s with calls := s.calls.set i .analyzing }
  | finish {s : Calls} {i : Nat} (outcome : Except Failure Report)
      (hcall : s.calls[i]? = some .analyzing) :
      Step s (.finish i outcome)
        { pipeline := (s.pipeline.settle outcome).1
          locked := false
          calls := s.calls.set i (.done (s.pipeline.settle outcome).2) }
  /-- A call that does not have the lock is dropped. -/
  | leave {s : Calls} {i : Nat} (hcall : s.calls[i]? = some .waiting) :
      Step s (.drop i) { s with calls := s.calls.set i .dropped }
  /-- A call that has the lock is dropped. -/
  | abandon {s : Calls} {i : Nat} {phase : CallPhase} (hcall : s.calls[i]? = some phase)
      (hholds : phase.holdsLock = true) :
      Step s (.drop i) { s with locked := false, calls := s.calls.set i .dropped }
  | apply (s : Calls) (report : Report) :
      Step s (.apply report)
        { s with pipeline := (s.pipeline.apply report).1
                 calls := s.calls ++ [.done (.ok (s.pipeline.apply report).2)] }

/-- What an event makes of a state follows one of the rules. -/
theorem step_of_step? {s s' : Calls} {e : CallEvent} (h : s.step? e = some s') : Step s e s' := by
  cases e <;> simp only [step?] at h
  case start => cases h; exact .start s
  case enter i =>
    split at h <;> cases h
    case _ hcall hfree => exact .enter hcall hfree
  case analyze i =>
    split at h <;> cases h
    case _ hcall => exact .analyze hcall
  case finish i outcome =>
    split at h <;> cases h
    case _ hcall => exact .finish outcome hcall
  case drop i =>
    split at h <;> cases h
    case _ hcall => exact .leave hcall
    case _ hcall => exact .abandon hcall rfl
    case _ hcall => exact .abandon hcall rfl
  case apply report => cases h; exact .apply s report

/-! ## Runs -/

theorem run?_cons {s s' : Calls} {e : CallEvent} {es : List CallEvent}
    (h : s.run? (e :: es) = some s') : ∃ m, s.step? e = some m ∧ m.run? es = some s' := by
  rw [run?, Option.bind_eq_some_iff] at h
  exact h

/-- A run can be cut anywhere. -/
theorem run?_append {s s' : Calls} {es fs : List CallEvent}
    (h : s.run? (es ++ fs) = some s') : ∃ m, s.run? es = some m ∧ m.run? fs = some s' := by
  induction es generalizing s with
  | nil => exact ⟨s, rfl, h⟩
  | cons e es ih =>
    obtain ⟨n, hstep, hrun⟩ := run?_cons h
    obtain ⟨m, hfirst, hsecond⟩ := ih hrun
    refine ⟨m, ?_, hsecond⟩
    rw [run?, hstep]
    exact hfirst

/-! ## Changing one call -/

/-- Giving one call a new phase adds the update of that phase, if the call had none before. -/
theorem perm_filterMap_update?_set {calls : List CallPhase} {i : Nat} {old : CallPhase}
    (hcall : calls[i]? = some old) (hnone : old.update? = none) (new : CallPhase) :
    ((calls.set i new).filterMap CallPhase.update?).Perm
      (calls.filterMap CallPhase.update? ++ new.update?.toList) := by
  induction calls generalizing i with
  | nil => cases hcall
  | cons phase rest ih =>
    cases i with
    | zero =>
      cases hcall
      rw [List.set_cons_zero, List.filterMap_cons, List.filterMap_cons, hnone]
      cases new.update? with
      | none => simp
      | some update => exact (List.perm_append_singleton update _).symm
    | succ i =>
      have hrest := ih hcall
      rw [List.set_cons_succ, List.filterMap_cons, List.filterMap_cons]
      cases phase.update? with
      | none => exact hrest
      | some update => exact hrest.cons update

/-- Giving one call a new phase changes the number of calls with the lock by the two phases. -/
theorem countP_holdsLock_set {calls : List CallPhase} {i : Nat} {old : CallPhase}
    (hcall : calls[i]? = some old) (new : CallPhase) :
    (calls.set i new).countP CallPhase.holdsLock + old.holdsLock.toNat =
      calls.countP CallPhase.holdsLock + new.holdsLock.toNat := by
  induction calls generalizing i with
  | nil => cases hcall
  | cons phase rest ih =>
    cases i with
    | zero =>
      cases hcall
      rw [List.set_cons_zero, List.countP_cons, List.countP_cons]
      cases old.holdsLock <;> cases new.holdsLock <;> simp
    | succ i =>
      have hrest := ih hcall
      rw [List.set_cons_succ, List.countP_cons, List.countP_cons]
      omega

/-! ## The invariant -/

/-- As many calls have the lock as it lets in, the pipeline has had the given reports, and the
updates of their generations have each been given to one call. -/
structure Orderly (s : Calls) (settings : FindingSettings) (reports : List Report) : Prop where
  holders : s.calls.countP CallPhase.holdsLock = s.locked.toNat
  applied : s.pipeline.HasApplied settings reports
  updates : s.updates.Perm (Update.history settings reports)

theorem orderly_new (root : Path) (settings : FindingSettings) :
    ({ pipeline := { root, settings } } : Calls).Orderly settings [] :=
  ⟨rfl, Pipeline.hasApplied_new root settings, .nil⟩

/-- A change of one call's phase that gives no update, and moves the lock if it has to. -/
theorem Orderly.set {s : Calls} {settings : FindingSettings} {reports : List Report}
    (h : s.Orderly settings reports) {i : Nat} {old new : CallPhase}
    (hcall : s.calls[i]? = some old) (hold : old.update? = none) (hnew : new.update? = none)
    {locked : Bool}
    (hlock : locked.toNat + old.holdsLock.toNat = s.locked.toNat + new.holdsLock.toNat) :
    ({ s with locked, calls := s.calls.set i new } : Calls).Orderly settings reports := by
  refine ⟨?_, h.applied, ?_⟩
  · have hcount := countP_holdsLock_set hcall new
    have hholders := h.holders
    show (s.calls.set i new).countP CallPhase.holdsLock = locked.toNat
    omega
  · have hperm := perm_filterMap_update?_set hcall hold new
    rw [hnew, Option.toList_none, List.append_nil] at hperm
    exact hperm.trans h.updates

/-- A new call adds to the calls without taking the lock. -/
theorem Orderly.holders_concat {s : Calls} {settings : FindingSettings} {reports : List Report}
    (h : s.Orderly settings reports) {new : CallPhase} (hnew : new.holdsLock = false) :
    (s.calls ++ [new]).countP CallPhase.holdsLock = s.locked.toNat := by
  rw [List.countP_append, h.holders, List.countP_singleton, hnew]
  rfl

/-- The update of a report that has just been applied continues the history. -/
theorem Orderly.perm_history {s : Calls} {settings : FindingSettings} {reports : List Report}
    (h : s.Orderly settings reports) (report : Report) :
    (s.updates ++ [(s.pipeline.apply report).2]).Perm
      (Update.history settings (reports ++ [report])) := by
  rw [Update.history_concat, h.applied.update_eq report]
  exact h.updates.append_right _

/-- The end of an analysis frees the lock and applies the report, if there is one. -/
theorem Orderly.finish {s : Calls} {settings : FindingSettings} {reports : List Report}
    (h : s.Orderly settings reports) {i : Nat} (hcall : s.calls[i]? = some .analyzing)
    (outcome : Except Failure Report) :
    ({ pipeline := (s.pipeline.settle outcome).1
       locked := false
       calls := s.calls.set i (.done (s.pipeline.settle outcome).2) } : Calls).Orderly settings
      (reports ++ (CallEvent.finish i outcome).applied) := by
  have hholders : (s.calls.set i (.done (s.pipeline.settle outcome).2)).countP
      CallPhase.holdsLock = 0 := by
    have hcount := countP_holdsLock_set hcall (.done (s.pipeline.settle outcome).2)
    have hlocked : s.locked.toNat ≤ 1 := Bool.toNat_le s.locked
    rw [h.holders] at hcount
    simp only [CallPhase.holdsLock, Bool.toNat_true, Bool.toNat_false] at hcount
    omega
  have hperm := perm_filterMap_update?_set hcall rfl (.done (s.pipeline.settle outcome).2)
  cases outcome with
  | ok report => exact ⟨hholders, h.applied.apply report, hperm.trans (h.perm_history report)⟩
  | error failure =>
    simp only [CallEvent.applied, List.append_nil]
    refine ⟨hholders, h.applied, hperm.trans ?_⟩
    show (s.updates ++ []).Perm _
    rw [List.append_nil]
    exact h.updates

/-- A call that has the lock has taken it. -/
theorem Orderly.locked_of_holdsLock {s : Calls} {settings : FindingSettings}
    {reports : List Report} (h : s.Orderly settings reports) {i : Nat} {phase : CallPhase}
    (hcall : s.calls[i]? = some phase) (hholds : phase.holdsLock = true) : s.locked = true := by
  have hpos : 0 < s.calls.countP CallPhase.holdsLock :=
    List.countP_pos_iff.mpr ⟨phase, List.mem_of_getElem? hcall, hholds⟩
  rw [h.holders] at hpos
  cases hlocked : s.locked with
  | true => rfl
  | false => simp [hlocked] at hpos

/-- One step keeps the invariant. -/
theorem Step.orderly {s s' : Calls} {e : CallEvent} (h : Step s e s')
    {settings : FindingSettings} {reports : List Report} (hs : s.Orderly settings reports) :
    s'.Orderly settings (reports ++ e.applied) := by
  cases h with
  | start =>
    rw [CallEvent.applied, List.append_nil]
    refine ⟨hs.holders_concat rfl, hs.applied, ?_⟩
    rw [updates, List.filterMap_append]
    exact (List.append_nil _).symm ▸ hs.updates
  | enter hcall hfree =>
    rw [CallEvent.applied, List.append_nil]
    exact hs.set hcall rfl rfl (by rw [hfree]; rfl)
  | analyze hcall =>
    rw [CallEvent.applied, List.append_nil]
    exact hs.set hcall rfl rfl rfl
  | finish outcome hcall => exact hs.finish hcall outcome
  | leave hcall =>
    rw [CallEvent.applied, List.append_nil]
    exact hs.set hcall rfl rfl rfl
  | abandon hcall hholds =>
    rw [CallEvent.applied, List.append_nil]
    have hlocked := hs.locked_of_holdsLock hcall hholds
    refine hs.set hcall (CallPhase.update?_eq_none_of_holdsLock hholds) rfl ?_
    rw [hholds, hlocked]
    rfl
  | apply report =>
    refine ⟨hs.holders_concat rfl, hs.applied.apply report, ?_⟩
    rw [updates, List.filterMap_append]
    exact hs.perm_history report

/-- A run keeps the invariant. -/
theorem orderly_of_run? {s s' : Calls} {es : List CallEvent} (h : s.run? es = some s')
    {settings : FindingSettings} {reports : List Report} (hs : s.Orderly settings reports) :
    s'.Orderly settings (reports ++ appliedIn es) := by
  induction es generalizing s reports with
  | nil =>
    cases h
    rw [appliedIn, List.flatMap_nil, List.append_nil]
    exact hs
  | cons e es ih =>
    obtain ⟨m, hstep, hrun⟩ := run?_cons h
    have hlast := ih hrun ((step_of_step? hstep).orderly hs)
    rw [appliedIn, List.flatMap_cons, ← appliedIn, ← List.append_assoc]
    exact hlast

/-! ## Calls without a report -/

/-- A call that has its result keeps it. -/
theorem Step.done_stays {s s' : Calls} {e : CallEvent} (h : Step s e s') {i : Nat}
    {result : Except Failure Update} (hdone : s.calls[i]? = some (.done result)) :
    s'.calls[i]? = some (.done result) := by
  have hlt : i < s.calls.length := (List.getElem?_eq_some_iff.mp hdone).1
  have hother : ∀ {j : Nat} {old : CallPhase} (new : CallPhase), s.calls[j]? = some old →
      (∀ r, old ≠ .done r) → (s.calls.set j new)[i]? = some (.done result) := by
    intro j old new hj hne
    have hji : j ≠ i := by
      rintro rfl
      exact hne result (Option.some.inj (hj.symm.trans hdone))
    rw [List.getElem?_set_ne hji]
    exact hdone
  cases h with
  | start | apply => exact (List.getElem?_append_left hlt).trans hdone
  | enter hcall | analyze hcall | finish _ hcall | leave hcall => exact hother _ hcall nofun
  | abandon hcall hholds =>
    refine hother _ hcall ?_
    rintro r rfl
    cases hholds

theorem done_stays {s s' : Calls} {es : List CallEvent} (h : s.run? es = some s') {i : Nat}
    {result : Except Failure Update} (hdone : s.calls[i]? = some (.done result)) :
    s'.calls[i]? = some (.done result) := by
  induction es generalizing s with
  | nil => cases h; exact hdone
  | cons e es ih =>
    obtain ⟨m, hstep, hrun⟩ := run?_cons h
    exact ih hrun ((step_of_step? hstep).done_stays hdone)

/-- Only an event that applies a report changes the pipeline. -/
theorem Step.pipeline_eq {s s' : Calls} {e : CallEvent} (h : Step s e s')
    (hnone : e.applied = []) : s'.pipeline = s.pipeline := by
  cases h with
  | finish outcome hcall =>
    cases outcome with
    | ok report => cases hnone
    | error failure => rfl
  | apply => cases hnone
  | start | enter | analyze | leave | abandon => rfl

/-- No step of a call that ends without an update applies a report. -/
theorem applied_eq_nil_of_isFruitless {s s₁ s₂ : Calls} {e : CallEvent} {after : List CallEvent}
    (hstep : Step s₁ e s₂) (hafter : s₂.run? after = some s) {i : Nat} {phase : CallPhase}
    (hend : s.calls[i]? = some phase) (hfruitless : phase.isFruitless = true)
    (he : e = .start ∨ e.call? = some i) : e.applied = [] := by
  cases hstep with
  | start | enter | analyze | leave | abandon => rfl
  | apply => rcases he with he | he <;> cases he
  | @finish j outcome hcall =>
    cases outcome with
    | error failure => rfl
    | ok report =>
      -- with a report the call would be done for good and have an update
      rcases he with he | he
      · cases he
      · cases he
        have hlt : i < s₁.calls.length := (List.getElem?_eq_some_iff.mp hcall).1
        have hdone := done_stays hafter (List.getElem?_set_self hlt)
        rw [hend] at hdone
        cases hdone
        cases hfruitless

/-! ## Whole runs -/

/-- For calls that start, wait, are given the lock, end with any outcome or are dropped, and for
reports that are applied directly, in any order from a new pipeline on: at most one analysis is in
flight; the snapshot is built from the report applied last and numbered by how many were applied, so
that its report, its index and its findings belong to that report; no step of a call that fails or
is dropped changes the pipeline; and the updates given are one for each generation, with the plan
from the findings of the generation before to its own. -/
theorem exclusive_and_consistent (root : Path) (settings : FindingSettings)
    (es : List CallEvent) (s : Calls)
    (h : ({ pipeline := { root, settings } } : Calls).run? es = some s) :
    s.inFlight ≤ 1 ∧
    s.pipeline.current = (match (appliedIn es).getLast? with
      | none => {}
      | some report => .build settings (appliedIn es).length report) ∧
    (∀ report, (appliedIn es).getLast? = some report →
      s.pipeline.current.generation = (appliedIn es).length ∧
      s.pipeline.current.report = report ∧ s.pipeline.current.index = .ofReport report ∧
      s.pipeline.current.findings = .ofReport settings report) ∧
    (∀ i phase, s.calls[i]? = some phase → phase.isFruitless = true →
      ∀ before e after, es = before ++ e :: after → e = .start ∨ e.call? = some i →
        ∃ s₁ s₂, ({ pipeline := { root, settings } } : Calls).run? before = some s₁ ∧
          s₁.step? e = some s₂ ∧ s₂.run? after = some s ∧ s₂.pipeline = s₁.pipeline) ∧
    (s.updates.map Update.generation).Perm (List.range' 1 (appliedIn es).length) ∧
    (∀ update ∈ s.updates,
      update.snapshot = .ofReports settings (appliedIn es) update.generation ∧
      update.publications = Publication.plan
        (Snapshot.ofReports settings (appliedIn es) (update.generation - 1)).findings
        (Snapshot.ofReports settings (appliedIn es) update.generation).findings) := by
  obtain ⟨hholders, happlied, hupdates⟩ := orderly_of_run? h (orderly_new root settings)
  rw [List.nil_append] at happlied hupdates
  have hcurrent := happlied.current_eq.trans (Snapshot.ofReports_length settings (appliedIn es))
  refine ⟨?_, hcurrent, ?_, ?_, ?_, ?_⟩
  · have hle : s.inFlight ≤ s.calls.countP CallPhase.holdsLock :=
      List.countP_mono_left fun _ _ => CallPhase.holdsLock_of_isAnalyzing
    have hlocked : s.locked.toNat ≤ 1 := Bool.toNat_le s.locked
    omega
  · intro report hlast
    rw [hcurrent, hlast]
    exact ⟨rfl, rfl, rfl, rfl⟩
  · intro i phase hend hfruitless before e after hes he
    rw [hes] at h
    obtain ⟨s₁, hbefore, hrest⟩ := run?_append h
    obtain ⟨s₂, hstep, hafter⟩ := run?_cons hrest
    have hrule := step_of_step? hstep
    have hnone := applied_eq_nil_of_isFruitless hrule hafter hend hfruitless he
    exact ⟨s₁, s₂, hbefore, hstep, hafter, hrule.pipeline_eq hnone⟩
  · rw [← Update.generations_history settings (appliedIn es)]
    exact hupdates.map Update.generation
  · intro update hmem
    obtain ⟨g, -, rfl⟩ := List.mem_map.mp (hupdates.mem_iff.mp hmem)
    have hg : (Update.ofReports settings (appliedIn es) g).generation = g :=
      Snapshot.generation_ofReports settings (appliedIn es) g
    rw [hg]
    exact ⟨rfl, rfl⟩

/-- Two calls, of which the first has a report applied past it while its analysis is in flight and
the second is dropped after it got the lock. -/
def overlappingCalls : List CallEvent :=
  [.start, .start, .enter 0, .analyze 0, .apply { comments := [⟨.ofText "a.py", 3, "x"⟩] },
    .finish 0 (.ok {}), .enter 1, .drop 1]

/-- The dropped call changes nothing, and the first one's update is the second. -/
theorem exclusive_and_consistent_overlappingCalls :
    ∃ s : Calls,
      ({ pipeline := { root := .ofText "/w" } } : Calls).run? overlappingCalls = some s ∧
      s.inFlight ≤ 1 ∧
      s.pipeline.current = .build {} 2 {} ∧ s.pipeline.current.index = .ofReport {} ∧
      (∃ s₁ s₂, ({ pipeline := { root := .ofText "/w" } } : Calls).run?
          [.start, .start, .enter 0, .analyze 0,
            .apply { comments := [⟨.ofText "a.py", 3, "x"⟩] }, .finish 0 (.ok {}), .enter 1] =
            some s₁ ∧
          s₁.step? (.drop 1) = some s₂ ∧ s₂.run? [] = some s ∧ s₂.pipeline = s₁.pipeline) ∧
      (s.updates.map Update.generation).Perm [1, 2] := by
  have hruns : (({ pipeline := { root := .ofText "/w" } } : Calls).run? overlappingCalls).any
      (fun s => s.calls[1]?.any CallPhase.isFruitless) = true := by
    decide +kernel
  obtain ⟨s, hrun, hcall⟩ := (Option.any_eq_true _ _).mp hruns
  obtain ⟨phase, hend, hfruitless⟩ := (Option.any_eq_true _ _).mp hcall
  obtain ⟨hflight, hcurrent, hparts, hkept, hgenerations, -⟩ :=
    exclusive_and_consistent (.ofText "/w") {} overlappingCalls s hrun
  refine ⟨s, hrun, hflight, hcurrent, (hparts {} rfl).2.2.1, ?_, hgenerations⟩
  exact hkept 1 phase hend hfruitless _ (.drop 1) [] rfl (Or.inr rfl)

end Calls

end Deadwood
