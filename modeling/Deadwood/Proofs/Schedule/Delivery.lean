import Deadwood.Proofs.Pipeline.Generations
import Deadwood.Proofs.Schedule.Step

/-!
# What is installed is delivered

A scheduler installs the result of a pass in its pipeline and delivers it afterwards. Between the
two it can be cancelled, but no longer gives the pass up. So whenever it waits or has stopped, it
has delivered the updates of all generations of its pipeline, each once and in their order, and
every failure. A pass that is given up leaves no trace but that it began.
-/

namespace Deadwood

/-! ## Outcomes -/

/-- The failure in the outcome of a pass. -/
def failure? : Except Failure Report → Option Failure
  | .ok _ => none
  | .error failure => some failure

/-- The reports that are taken in a sequence of events, oldest first. -/
def reportsIn (es : List ScheduleEvent) : List Report :=
  (outcomesIn es).filterMap Except.toOption

/-- The failures that are taken in a sequence of events, oldest first. -/
def failuresIn (es : List ScheduleEvent) : List Failure :=
  (outcomesIn es).filterMap failure?

/-- The update that is being delivered. -/
def Phase.update? : Phase → Option Update
  | .delivering (.ok update) => some update
  | _ => none

/-- The failure that is being delivered. -/
def Phase.failure? : Phase → Option Failure
  | .delivering (.error failure) => some failure
  | _ => none

namespace Scheduler

/-! ## The invariant of delivery -/

/-- Of the outcomes that were taken, the reports are applied to the pipeline, and their updates and
the failures are delivered, the last one perhaps not yet. -/
structure Delivers (s : Scheduler) (settings : FindingSettings)
    (outcomes : List (Except Failure Report)) : Prop where
  applied : s.pipeline.HasApplied settings (outcomes.filterMap Except.toOption)
  updates_eq : s.updates ++ s.phase.update?.toList =
    Update.history settings (outcomes.filterMap Except.toOption)
  failures_eq : s.failures ++ s.phase.failure?.toList = outcomes.filterMap failure?

theorem delivers_new (root : Path) (settings : FindingSettings) (quiet : Nat) :
    ({ pipeline := { root, settings }, quiet } : Scheduler).Delivers settings [] :=
  ⟨Pipeline.hasApplied_new root settings, rfl, rfl⟩

/-- A change that touches neither the pipeline nor what was or is being delivered. -/
theorem Delivers.congr {s s' : Scheduler} {settings : FindingSettings}
    {outcomes : List (Except Failure Report)} (h : s.Delivers settings outcomes)
    (hpipeline : s'.pipeline = s.pipeline)
    (hupdates : s'.updates ++ s'.phase.update?.toList = s.updates ++ s.phase.update?.toList)
    (hfailures : s'.failures ++ s'.phase.failure?.toList =
      s.failures ++ s.phase.failure?.toList) : s'.Delivers settings outcomes :=
  ⟨hpipeline ▸ h.applied, hupdates ▸ h.updates_eq, hfailures ▸ h.failures_eq⟩

/-- Recording that a pass began delivers nothing. -/
@[simp] theorem updates_startPass (s : Scheduler) (rest : Pending) :
    (s.startPass rest).updates = s.updates := by
  unfold updates startPass
  rw [List.filterMap_append]
  exact List.append_nil _

@[simp] theorem failures_startPass (s : Scheduler) (rest : Pending) :
    (s.startPass rest).failures = s.failures := by
  unfold failures startPass
  rw [List.filterMap_append]
  exact List.append_nil _

/-- Delivering a result moves it from the phase into the history. -/
theorem Delivers.deliver {s : Scheduler} {settings : FindingSettings}
    {outcomes : List (Except Failure Report)} (h : s.Delivers settings outcomes)
    {result : Except Failure Update} (hphase : s.phase = .delivering result) :
    ({ s with phase := .draining, history := s.history ++ [(s.time, .ofResult result)] }
      : Scheduler).Delivers settings outcomes := by
  refine h.congr rfl ?_ ?_
  · unfold updates
    rw [List.filterMap_append, hphase]
    cases result <;> simp [Deed.ofResult, Phase.update?]
  · unfold failures
    rw [List.filterMap_append, hphase]
    cases result <;> simp [Deed.ofResult, Phase.failure?]

/-- Taking the outcome of a pass installs a report, if it is one, and starts its delivery. -/
theorem Delivers.settle {s : Scheduler} {settings : FindingSettings}
    {outcomes : List (Except Failure Report)} (h : s.Delivers settings outcomes)
    (hphase : s.phase = .passing) (outcome : Except Failure Report) :
    ({ s with pipeline := (s.pipeline.settle outcome).1
              phase := .delivering (s.pipeline.settle outcome).2 }
      : Scheduler).Delivers settings (outcomes ++ [outcome]) := by
  have hupdates : s.updates = Update.history settings (outcomes.filterMap Except.toOption) := by
    rw [← h.updates_eq, hphase]
    exact (List.append_nil _).symm
  have hfailures : s.failures = outcomes.filterMap failure? := by
    rw [← h.failures_eq, hphase]
    exact (List.append_nil _).symm
  cases outcome with
  | ok report =>
    refine ⟨?_, ?_, ?_⟩ <;> rw [List.filterMap_append]
    · exact h.applied.apply report
    · show s.updates ++ [(s.pipeline.apply report).2] = Update.history settings (_ ++ [report])
      rw [Update.history_concat, hupdates, h.applied.update_eq report]
    · show s.failures ++ [] = _ ++ []
      rw [hfailures]
  | error failure =>
    refine ⟨?_, ?_, ?_⟩ <;> rw [List.filterMap_append]
    · show s.pipeline.HasApplied settings (_ ++ [])
      rw [List.append_nil]
      exact h.applied
    · show s.updates ++ [] = Update.history settings (_ ++ [])
      rw [List.append_nil, List.append_nil, hupdates]
    · show s.failures ++ [failure] = _ ++ [failure]
      rw [hfailures]

/-- One step keeps the invariant. -/
theorem Step.delivers {s s' : Scheduler} {e : ScheduleEvent} (h : Step s e s')
    {settings : FindingSettings} {outcomes : List (Except Failure Report)}
    (hs : s.Delivers settings outcomes) : s'.Delivers settings (outcomes ++ e.outcomes) := by
  cases h <;> simp only [ScheduleEvent.outcomes, List.append_nil]
  case settle outcome hphase => exact hs.settle hphase outcome
  case deliver hphase => exact hs.deliver hphase
  case begin hphase _ | expire hphase _ _ _ =>
    refine hs.congr rfl ?_ ?_
    · rw [updates_startPass, hphase]
      rfl
    · rw [failures_startPass, hphase]
      rfl
  case resume hphase _ | abort hphase _ | stop hphase _ _ =>
    refine hs.congr rfl ?_ ?_
    · rw [hphase]
      rfl
    · rw [hphase]
      rfl
  case elapse | send | ignore | share | release | cancel | receive =>
    exact hs.congr rfl rfl rfl

/-- A run keeps the invariant. -/
theorem delivers_of_run? {s s' : Scheduler} {es : List ScheduleEvent} (h : s.run? es = some s')
    {settings : FindingSettings} {outcomes : List (Except Failure Report)}
    (hs : s.Delivers settings outcomes) : s'.Delivers settings (outcomes ++ outcomesIn es) := by
  induction es generalizing s outcomes with
  | nil =>
    cases h
    rw [outcomesIn, List.flatMap_nil, List.append_nil]
    exact hs
  | cons e es ih =>
    obtain ⟨m, hstep, hrun⟩ := run?_cons h
    have hlast := ih hrun (hstep.delivers hs)
    rw [outcomesIn, List.flatMap_cons, ← outcomesIn, ← List.append_assoc]
    exact hlast

/-! ## Passes that are given up -/

/-- A step that leaves the same pass under way installs nothing and records nothing. -/
theorem Step.unchanged_of_passing {s s' : Scheduler} {e : ScheduleEvent} (h : Step s e s')
    (hquiet : e.startsPass = false) (hpassing : s'.phase = .passing) :
    s.phase = .passing ∧ s'.pipeline = s.pipeline ∧ s'.history = s.history := by
  cases h with
  | elapse | send | ignore | share | release | cancel | receive => exact ⟨hpassing, rfl, rfl⟩
  | begin | expire => cases hquiet
  | settle | deliver | resume | abort | stop => cases hpassing

/-- As long as a pass is under way nothing is installed and nothing recorded. -/
theorem unchanged_of_passing {s s' : Scheduler} {es : List ScheduleEvent}
    (h : s.run? es = some s') (hquiet : ∀ e ∈ es, e.startsPass = false)
    (hpassing : s'.phase = .passing) :
    s.phase = .passing ∧ s'.pipeline = s.pipeline ∧ s'.history = s.history := by
  induction es generalizing s with
  | nil =>
    cases h
    exact ⟨hpassing, rfl, rfl⟩
  | cons e es ih =>
    obtain ⟨m, hstep, hrun⟩ := run?_cons h
    obtain ⟨hm, hpipeline, hhistory⟩ := ih hrun fun f hf => hquiet f (List.mem_cons_of_mem e hf)
    obtain ⟨hs, hpipeline', hhistory'⟩ :=
      hstep.unchanged_of_passing (hquiet e List.mem_cons_self) hm
    exact ⟨hs, hpipeline.trans hpipeline', hhistory.trans hhistory'⟩

/-- A pass that is given up has installed nothing and delivered nothing. -/
theorem unchanged_of_abort {s s' : Scheduler} {e : ScheduleEvent} {during : List ScheduleEvent}
    (h : s.run? (e :: (during ++ [.abort])) = some s') (hstarts : e.startsPass = true)
    (hquiet : ∀ x ∈ during, x.startsPass = false) :
    s'.pipeline = s.pipeline ∧ s'.updates = s.updates ∧ s'.failures = s.failures := by
  obtain ⟨m, hstart, hrest⟩ := run?_cons h
  obtain ⟨rest, rfl⟩ := hstart.eq_startPass hstarts
  obtain ⟨n, hduring, habort⟩ := run?_append hrest
  obtain ⟨n', hstep, hend⟩ := run?_cons habort
  cases hend
  cases hstep with
  | abort hpassing _ =>
    obtain ⟨_, hpipeline, hhistory⟩ := unchanged_of_passing hduring hquiet hpassing
    have hupdates : n.halt.updates = (s.startPass rest).updates :=
      congrArg (List.filterMap _) hhistory
    have hfailures : n.halt.failures = (s.startPass rest).failures :=
      congrArg (List.filterMap _) hhistory
    rw [updates_startPass] at hupdates
    rw [failures_startPass] at hfailures
    exact ⟨hpipeline, hupdates, hfailures⟩

/-! ## Whole runs -/

/-- In every run of a new scheduler that alone uses its pipeline: whenever it waits or has stopped,
the updates that it has delivered are those of the generations from one to the current one, each
once, in order and with the plan from the generation before, and it has delivered each failure that
was taken; and a pass that was given up has changed neither the pipeline nor what was delivered. -/
theorem delivered_eq_installed (root : Path) (settings : FindingSettings) (quiet : Nat)
    (es : List ScheduleEvent) (s : Scheduler)
    (h : ({ pipeline := { root, settings }, quiet } : Scheduler).run? es = some s) :
    (s.phase = .waiting ∨ s.phase = .stopped →
      s.pipeline.current = .ofReports settings (reportsIn es) (reportsIn es).length ∧
      s.updates.map Update.generation = List.range' 1 s.pipeline.current.generation ∧
      s.updates = (List.range' 1 s.pipeline.current.generation).map
        (Update.ofReports settings (reportsIn es)) ∧
      s.failures = failuresIn es) ∧
    (∀ before e during, es = before ++ e :: (during ++ [.abort]) → e.startsPass = true →
      (∀ x ∈ during, x.startsPass = false) →
      ∃ s₀, ({ pipeline := { root, settings }, quiet } : Scheduler).run? before = some s₀ ∧
        s.pipeline = s₀.pipeline ∧ s.updates = s₀.updates ∧ s.failures = s₀.failures) := by
  constructor
  · intro hphase
    obtain ⟨happlied, hupdates, hfailures⟩ :=
      delivers_of_run? h (delivers_new root settings quiet)
    have hdelivered : s.phase.update? = none ∧ s.phase.failure? = none := by
      rcases hphase with hphase | hphase <;> rw [hphase] <;> exact ⟨rfl, rfl⟩
    rw [hdelivered.1, Option.toList_none, List.append_nil, List.nil_append] at hupdates
    rw [hdelivered.2, Option.toList_none, List.append_nil, List.nil_append] at hfailures
    have hcurrent := happlied.current_eq
    rw [List.nil_append] at hcurrent
    have hgeneration : s.pipeline.current.generation = (reportsIn es).length := by
      rw [hcurrent]
      exact Snapshot.generation_ofReports _ _ _
    refine ⟨hcurrent, ?_, ?_, hfailures⟩
    · rw [hupdates, hgeneration]
      exact Update.generations_history settings (reportsIn es)
    · rw [hupdates, hgeneration]
      rfl
  · intro before e during hes hstarts hquiet
    rw [hes] at h
    obtain ⟨s₀, hbefore, hpass⟩ := run?_append h
    exact ⟨s₀, hbefore, unchanged_of_abort hpass hstarts hquiet⟩

/-- A pass with a report of an unused function, during which another pass is asked for, that fails;
then the request for a third one. -/
def twoPasses : List ScheduleEvent :=
  [.send .now, .receive, .begin,
    .settle (.ok { functions := [⟨"f", .ofText "a.py", 3, 0, none⟩] }), .send .now, .deliver,
    .receive, .resume, .begin, .settle (.error (.notFound [])), .deliver, .resume, .send .now,
    .receive]

/-- After two passes a third one is given up. What the first one has found was published. -/
theorem delivered_eq_installed_twoPasses :
    ∃ s : Scheduler,
      ({ pipeline := { root := ⟨[]⟩ }, quiet := 5 } : Scheduler).run?
        (twoPasses ++ .begin :: ([.cancel] ++ [.abort])) = some s ∧
      s.phase = .stopped ∧
      s.updates.map Update.generation = List.range' 1 s.pipeline.current.generation ∧
      s.updates.map Update.publications =
        [[⟨.ofText "a.py", [⟨.warning, 3, unusedMessage⟩]⟩]] ∧
      s.failures = [.notFound []] ∧
      ∃ s₀, ({ pipeline := { root := ⟨[]⟩ }, quiet := 5 } : Scheduler).run? twoPasses = some s₀ ∧
        s.pipeline = s₀.pipeline ∧ s.updates = s₀.updates ∧ s.failures = s₀.failures := by
  have hruns : (({ pipeline := { root := ⟨[]⟩ }, quiet := 5 } : Scheduler).run?
      (twoPasses ++ .begin :: ([.cancel] ++ [.abort]))).any isStopped = true := by
    decide +kernel
  obtain ⟨s, hrun, hstopped⟩ := (Option.any_eq_true _ _).mp hruns
  have hphase := isStopped_iff.mp hstopped
  obtain ⟨hdelivered, habort⟩ := delivered_eq_installed ⟨[]⟩ {} 5 _ s hrun
  obtain ⟨hcurrent, hgenerations, hupdates, hfailures⟩ := hdelivered (Or.inr hphase)
  refine ⟨s, hrun, hphase, hgenerations, ?_, hfailures, ?_⟩
  · rw [hupdates, hcurrent]
    decide +kernel
  · exact habort twoPasses .begin [.cancel] rfl rfl (by simp [ScheduleEvent.startsPass])

end Scheduler

end Deadwood
