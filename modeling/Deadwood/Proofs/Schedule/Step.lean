import Deadwood.Schedule.Basic

/-!
# Steps and runs of a scheduler

What each event can do to a scheduler is said once, as a relation with one rule for each way in
which an event can happen (`Scheduler.Step`); `step?` follows these rules. What every step keeps
is kept by every run, and a run can be cut at any of its events.
-/

namespace Deadwood

/-! ## Events -/

namespace ScheduleEvent

/-- Whether an event starts a pass. -/
def startsPass : ScheduleEvent → Bool
  | .begin | .expire => true
  | _ => false

/-- The requests that an event sends. -/
def sent : ScheduleEvent → List Trigger
  | .send t => [t]
  | _ => []

/-- The outcomes of passes that are taken in an event. -/
def outcomes : ScheduleEvent → List (Except Failure Report)
  | .settle outcome => [outcome]
  | _ => []

end ScheduleEvent

/-- The requests that are sent in a sequence of events, oldest first. -/
def sentIn (es : List ScheduleEvent) : List Trigger := es.flatMap ScheduleEvent.sent

/-- The outcomes of passes that are taken in a sequence of events, oldest first. -/
def outcomesIn (es : List ScheduleEvent) : List (Except Failure Report) :=
  es.flatMap ScheduleEvent.outcomes

/-! ## Steps -/

namespace Scheduler

/-- The rules by which events change a scheduler. -/
inductive Step : Scheduler → ScheduleEvent → Scheduler → Prop where
  | elapse (s : Scheduler) (span : Nat) : Step s (.elapse span) { s with time := s.time + span }
  | send {s : Scheduler} (t : Trigger) (hheld : s.handles ≠ 0) (hrunning : s.phase ≠ .stopped) :
      Step s (.send t) { s with queue := s.queue ++ [t] }
  /-- A stopped scheduler does not hear what it is sent. -/
  | ignore {s : Scheduler} (t : Trigger) (hheld : s.handles ≠ 0) (hstopped : s.phase = .stopped) :
      Step s (.send t) s
  | share {s : Scheduler} (hheld : s.handles ≠ 0) :
      Step s .share { s with handles := s.handles + 1 }
  | release {s : Scheduler} (hheld : s.handles ≠ 0) :
      Step s .release { s with handles := s.handles - 1 }
  | cancel (s : Scheduler) : Step s .cancel { s with cancelled := true }
  | receive {s : Scheduler} {t : Trigger} {rest : List Trigger} (hqueue : s.queue = t :: rest)
      (hphase : s.phase = .waiting ∧ s.pending.immediate = false ∨ s.phase = .draining) :
      Step s .receive { s with queue := rest, pending := s.pending.absorb s.quiet s.time t }
  | begin {s : Scheduler} (hphase : s.phase = .waiting) (hwanted : s.pending.immediate = true) :
      Step s .begin (s.startPass {})
  | expire {s : Scheduler} {d : Nat} (hphase : s.phase = .waiting)
      (hunwanted : s.pending.immediate = false) (hdeadline : s.pending.deadline = some d)
      (hdue : d ≤ s.time) :
      Step s .expire (s.startPass { s.pending with deadline := none })
  | settle {s : Scheduler} (outcome : Except Failure Report) (hphase : s.phase = .passing) :
      Step s (.settle outcome)
        { s with pipeline := (s.pipeline.settle outcome).1
                 phase := .delivering (s.pipeline.settle outcome).2 }
  | deliver {s : Scheduler} {result : Except Failure Update}
      (hphase : s.phase = .delivering result) :
      Step s .deliver
        { s with phase := .draining, history := s.history ++ [(s.time, .ofResult result)] }
  | resume {s : Scheduler} (hphase : s.phase = .draining) (hqueue : s.queue = []) :
      Step s .resume { s with phase := .waiting }
  | abort {s : Scheduler} (hphase : s.phase = .passing) (hcancelled : s.cancelled = true) :
      Step s .abort s.halt
  | stop {s : Scheduler} (hphase : s.phase = .waiting)
      (hunwanted : s.pending.immediate = false)
      (hreason : s.cancelled = true ∨ s.handles = 0 ∧ s.queue = []) : Step s .stop s.halt

/-! ## Starting a pass and stopping -/

section

variable (s : Scheduler) (rest : Pending)

@[simp] theorem startPass_queue : (s.startPass rest).queue = s.queue := rfl

@[simp] theorem startPass_pending : (s.startPass rest).pending = rest := rfl

@[simp] theorem halt_queue : s.halt.queue = [] := rfl

@[simp] theorem halt_pending : s.halt.pending = s.pending := rfl

end

/-- An event that starts a pass does nothing else. -/
theorem Step.eq_startPass {s s' : Scheduler} {e : ScheduleEvent} (h : Step s e s')
    (hstarts : e.startsPass = true) : ∃ rest, s' = s.startPass rest := by
  cases h with
  | begin | expire => exact ⟨_, rfl⟩
  | _ => cases hstarts

/-- A pass starts at the time of the event that starts it, and at no other. -/
theorem Step.beginTimes_eq {s s' : Scheduler} {e : ScheduleEvent} (h : Step s e s') :
    s'.beginTimes = s.beginTimes ++ if e.startsPass then [s.time] else [] := by
  cases h with
  | deliver hphase =>
    rename_i result
    cases result <;>
      simp [beginTimes, ScheduleEvent.startsPass, Deed.ofResult, List.filterMap_append]
  | _ => simp [beginTimes, ScheduleEvent.startsPass, startPass, halt]

theorem Step.quiet_eq {s s' : Scheduler} {e : ScheduleEvent} (h : Step s e s') :
    s'.quiet = s.quiet := by
  cases h <;> rfl

/-- A scheduler that has stopped stays so. -/
theorem Step.phase_of_stopped {s s' : Scheduler} {e : ScheduleEvent} (h : Step s e s')
    (hstopped : s.phase = .stopped) : s'.phase = .stopped := by
  cases h <;> simp_all

/-! ## What the tests on a scheduler mean -/

theorem isStopped_iff {s : Scheduler} : s.isStopped = true ↔ s.phase = .stopped := by
  unfold isStopped
  cases s.phase <;> simp

theorem isPassing_iff {s : Scheduler} : s.isPassing = true ↔ s.phase = .passing := by
  unfold isPassing
  cases s.phase <;> simp

theorem isIdle_iff {s : Scheduler} :
    s.isIdle = true ↔ s.phase = .waiting ∧ s.pending.immediate = false := by
  unfold isIdle
  cases s.phase <;> simp

theorem isReceiving_iff {s : Scheduler} :
    s.isReceiving = true ↔
      s.phase = .waiting ∧ s.pending.immediate = false ∨ s.phase = .draining := by
  unfold isReceiving
  cases s.phase <;> simp

theorem isDue_iff {s : Scheduler} :
    s.isDue = true ↔ ∃ d, s.pending.deadline = some d ∧ d ≤ s.time := by
  unfold isDue
  cases s.pending.deadline <;> simp

theorem isDeserted_iff {s : Scheduler} :
    s.isDeserted = true ↔ s.handles = 0 ∧ s.queue = [] := by
  unfold isDeserted
  simp

/-- What an event makes of a scheduler follows one of the rules. -/
theorem step_of_step? {s s' : Scheduler} {e : ScheduleEvent} (h : s.step? e = some s') :
    Step s e s' := by
  cases e <;> simp only [step?] at h
  case elapse span => cases h; exact .elapse s span
  case send t =>
    split at h
    case _ => cases h
    case _ hheld =>
      have hheld : s.handles ≠ 0 := by simpa using hheld
      split at h <;> cases h
      case _ hstopped => exact .ignore t hheld (isStopped_iff.mp hstopped)
      case _ hrunning => exact .send t hheld (mt isStopped_iff.mpr hrunning)
  case share =>
    split at h <;> cases h
    case _ hheld => exact .share (by simpa using hheld)
  case release =>
    split at h <;> cases h
    case _ hheld => exact .release (by simpa using hheld)
  case cancel => cases h; exact .cancel s
  case receive =>
    split at h
    case _ t rest hqueue =>
      split at h <;> cases h
      case _ hreceiving => exact .receive hqueue (isReceiving_iff.mp hreceiving)
    case _ => cases h
  case begin =>
    split at h
    case _ hphase =>
      split at h <;> cases h
      case _ hwanted => exact .begin hphase hwanted
    case _ => cases h
  case expire =>
    split at h <;> cases h
    case _ hboth =>
      obtain ⟨hidle, hdue⟩ := Bool.and_eq_true_iff.mp hboth
      obtain ⟨hphase, hunwanted⟩ := isIdle_iff.mp hidle
      obtain ⟨d, hdeadline, hle⟩ := isDue_iff.mp hdue
      exact .expire hphase hunwanted hdeadline hle
  case settle outcome =>
    split at h <;> cases h
    case _ hpassing => exact .settle outcome (isPassing_iff.mp hpassing)
  case deliver =>
    split at h <;> cases h
    case _ result hphase => exact .deliver hphase
  case resume =>
    split at h <;> cases h
    case _ hphase hqueue => exact .resume hphase hqueue
  case abort =>
    split at h <;> cases h
    case _ hboth =>
      obtain ⟨hpassing, hcancelled⟩ := Bool.and_eq_true_iff.mp hboth
      exact .abort (isPassing_iff.mp hpassing) hcancelled
  case stop =>
    split at h <;> cases h
    case _ hboth =>
      obtain ⟨hidle, hreason⟩ := Bool.and_eq_true_iff.mp hboth
      obtain ⟨hphase, hunwanted⟩ := isIdle_iff.mp hidle
      refine .stop hphase hunwanted ?_
      exact (Bool.or_eq_true_iff.mp hreason).imp_right isDeserted_iff.mp

/-- Whatever one of the rules allows happens. -/
theorem step?_of_step {s s' : Scheduler} {e : ScheduleEvent} (h : Step s e s') :
    s.step? e = some s' := by
  cases h with
  | elapse | cancel => rfl
  | send t hheld hrunning => simp [step?, hheld, mt isStopped_iff.mp hrunning]
  | ignore t hheld hstopped => simp [step?, hheld, isStopped_iff.mpr hstopped]
  | share hheld | release hheld => simp [step?, hheld]
  | receive hqueue hphase => simp [step?, hqueue, isReceiving_iff.mpr hphase]
  | begin hphase hwanted => simp [step?, hphase, hwanted]
  | expire hphase hunwanted hdeadline hdue =>
    have hidle : s.isIdle = true := isIdle_iff.mpr ⟨hphase, hunwanted⟩
    have hdue : s.isDue = true := isDue_iff.mpr ⟨_, hdeadline, hdue⟩
    simp [step?, hidle, hdue]
  | settle outcome hphase => simp [step?, isPassing_iff.mpr hphase]
  | deliver hphase => simp [step?, hphase]
  | resume hphase hqueue => simp [step?, hphase, hqueue]
  | abort hphase hcancelled => simp [step?, isPassing_iff.mpr hphase, hcancelled]
  | stop hphase hunwanted hreason =>
    have hidle : s.isIdle = true := isIdle_iff.mpr ⟨hphase, hunwanted⟩
    have hleave : (s.cancelled || s.isDeserted) = true :=
      Bool.or_eq_true_iff.mpr (hreason.imp_right isDeserted_iff.mpr)
    simp [step?, hidle, hleave]

/-! ## Runs -/

theorem run?_cons {s s' : Scheduler} {e : ScheduleEvent} {es : List ScheduleEvent}
    (h : s.run? (e :: es) = some s') : ∃ m, Step s e m ∧ m.run? es = some s' := by
  rw [run?, Option.bind_eq_some_iff] at h
  obtain ⟨m, hstep, hrun⟩ := h
  exact ⟨m, step_of_step? hstep, hrun⟩

/-- A run can be cut anywhere. -/
theorem run?_append {s s' : Scheduler} {es fs : List ScheduleEvent}
    (h : s.run? (es ++ fs) = some s') : ∃ m, s.run? es = some m ∧ m.run? fs = some s' := by
  induction es generalizing s with
  | nil => exact ⟨s, rfl, h⟩
  | cons e es ih =>
    rw [List.cons_append, run?, Option.bind_eq_some_iff] at h
    obtain ⟨n, hstep, hrun⟩ := h
    obtain ⟨m, hfirst, hsecond⟩ := ih hrun
    refine ⟨m, ?_, hsecond⟩
    rw [run?, hstep]
    exact hfirst

/-- What every step keeps is kept by a run. -/
theorem run?_induction {P : Scheduler → Prop} (hkeep : ∀ s e s', Step s e s' → P s → P s')
    {s s' : Scheduler} {es : List ScheduleEvent} (h : s.run? es = some s') (hs : P s) : P s' := by
  induction es generalizing s with
  | nil => cases h; exact hs
  | cons e es ih =>
    obtain ⟨m, hstep, hrun⟩ := run?_cons h
    exact ih hrun (hkeep s e m hstep hs)

/-- A scheduler that runs in the end has run all the time. -/
theorem running_of_run? {s s' : Scheduler} {es : List ScheduleEvent} (h : s.run? es = some s')
    (hrunning : s'.phase ≠ .stopped) : s.phase ≠ .stopped := by
  intro hstopped
  exact hrunning (run?_induction (fun _ _ _ => Step.phase_of_stopped) h hstopped)

end Scheduler

end Deadwood
