import Deadwood.Proofs.Schedule.Step

/-!
# No request is lost, and none is made up

While a scheduler can still be asked and has not been told to stop, every request that was ever
sent is followed by the start of a pass, or waits in the queue, or has been taken in and not yet
met. There are never more passes than requests.

The place of a request in the queue is known: the queue hands requests on in the order in which
they were sent, so behind a request that still waits there are just those that were sent after it.
-/

namespace Deadwood

/-- A pending request of this kind is noted. -/
def Pending.Holds (p : Pending) : Trigger → Prop
  | .saved => p.deadline.isSome = true
  | .now => p.immediate = true

namespace Pending

/-- A request that is taken in is noted. -/
theorem holds_absorb_self (quiet time : Nat) (p : Pending) (t : Trigger) :
    (p.absorb quiet time t).Holds t := by
  cases t <;> rfl

/-- Taking in a request forgets none that was noted before. -/
theorem Holds.absorb {p : Pending} {t : Trigger} (h : p.Holds t) (quiet time : Nat)
    (u : Trigger) : (p.absorb quiet time u).Holds t := by
  cases t <;> cases u <;> first | rfl | exact h

/-- Nothing is noted where nothing is pending. -/
theorem not_holds_empty (t : Trigger) : ¬ ({} : Pending).Holds t := by
  cases t <;> exact Bool.false_ne_true

/-- How many passes the requests that have been taken in make for at most. -/
def weight (p : Pending) : Nat := p.immediate.toNat + p.deadline.isSome.toNat

/-- A request makes for at most one more pass. -/
theorem weight_absorb_le (quiet time : Nat) (p : Pending) (t : Trigger) :
    (p.absorb quiet time t).weight ≤ p.weight + 1 := by
  cases t with
  | saved =>
    have hdeadline : (p.absorb quiet time .saved).weight = p.immediate.toNat + 1 := rfl
    rw [hdeadline, weight]
    omega
  | now =>
    have himmediate : (p.absorb quiet time .now).weight = 1 + p.deadline.isSome.toNat := rfl
    rw [himmediate, weight]
    omega

end Pending

namespace Scheduler

/-! ## When a scheduler stops -/

/-- A scheduler stops only after it was cancelled or all of its handles were given up. -/
def StoppedForReason (s : Scheduler) : Prop :=
  s.phase = .stopped → s.cancelled = true ∨ s.handles = 0

theorem Step.stoppedForReason {s s' : Scheduler} {e : ScheduleEvent} (h : Step s e s')
    (hs : s.StoppedForReason) : s'.StoppedForReason := by
  intro hstopped
  cases h with
  | elapse | send | ignore | receive => exact hs hstopped
  | share hheld | release hheld =>
    exact (hs hstopped).imp_right fun hnone => absurd hnone hheld
  | cancel => exact Or.inl rfl
  | begin | expire | settle | deliver | resume => cases hstopped
  | abort _ hcancelled => exact Or.inl hcancelled
  | stop _ _ hreason => exact hreason.imp_right And.left

/-- A scheduler that can be asked and was not cancelled has not stopped. -/
theorem running_of_held {pipeline : Pipeline} {quiet : Nat} {es : List ScheduleEvent}
    {s : Scheduler} (h : ({ pipeline, quiet } : Scheduler).run? es = some s)
    (hheld : s.handles ≠ 0) (huncancelled : s.cancelled = false) : s.phase ≠ .stopped := by
  intro hstopped
  have hstart : ({ pipeline, quiet } : Scheduler).StoppedForReason := fun h => nomatch h
  rcases run?_induction (fun _ _ _ => Step.stoppedForReason) h hstart hstopped with hc | hnone
  · rw [huncancelled] at hc
    cases hc
  · exact hheld hnone

/-! ## The way of one request -/

/-- A request is still to be met: it waits in the queue, with the given ones behind it, or has been
taken in and is noted. -/
def Awaits (s : Scheduler) (t : Trigger) (newer : List Trigger) : Prop :=
  (∃ older, s.queue = older ++ t :: newer) ∨ s.pending.Holds t

/-- A request that is to be met stays so in every step that starts no pass, unless the scheduler
stops. -/
theorem Step.awaits {s s' : Scheduler} {e : ScheduleEvent} (h : Step s e s')
    (hquiet : e.startsPass = false) (hrunning : s'.phase ≠ .stopped) {t : Trigger}
    {newer : List Trigger} (hs : s.Awaits t newer) : s'.Awaits t (newer ++ e.sent) := by
  cases h <;> simp only [ScheduleEvent.sent, List.append_nil]
  case elapse | share | release | cancel | settle | deliver | resume => exact hs
  case send u _ _ =>
    refine hs.imp_left fun ⟨older, hqueue⟩ => ⟨older, ?_⟩
    rw [hqueue, List.append_assoc]
    rfl
  case ignore u _ hstopped => exact absurd hstopped hrunning
  case receive u rest hqueue _ =>
    rcases hs with ⟨older, hwaits⟩ | hnoted
    · rw [hqueue] at hwaits
      cases older with
      | nil =>
        -- the oldest request of the queue is the one in question
        cases hwaits
        exact Or.inr (Pending.holds_absorb_self _ _ _ _)
      | cons v older =>
        cases hwaits
        exact Or.inl ⟨older, rfl⟩
    · exact Or.inr (hnoted.absorb _ _ _)
  case begin | expire => cases hquiet
  case abort | stop => exact absurd rfl hrunning

/-- A request that is to be met stays so in every run that starts no pass, unless the scheduler
stops. -/
theorem awaits_of_run? {s s' : Scheduler} {es : List ScheduleEvent} (h : s.run? es = some s')
    (hquiet : ∀ e ∈ es, e.startsPass = false) (hrunning : s'.phase ≠ .stopped) {t : Trigger}
    {newer : List Trigger} (hs : s.Awaits t newer) : s'.Awaits t (newer ++ sentIn es) := by
  induction es generalizing s newer with
  | nil =>
    cases h
    rw [sentIn, List.flatMap_nil, List.append_nil]
    exact hs
  | cons e es ih =>
    obtain ⟨m, hstep, hrun⟩ := run?_cons h
    have hnext := hstep.awaits (hquiet e List.mem_cons_self) (running_of_run? hrun hrunning) hs
    have hlast := ih hrun (fun f hf => hquiet f (List.mem_cons_of_mem e hf)) hnext
    rw [sentIn, List.flatMap_cons, ← sentIn, ← List.append_assoc]
    exact hlast

/-- Sending a request to a scheduler that runs puts it at the end of the queue. -/
theorem Step.awaits_send {s s' : Scheduler} {t : Trigger} (h : Step s (.send t) s')
    (hrunning : s'.phase ≠ .stopped) : s'.Awaits t [] := by
  cases h with
  | send => exact Or.inl ⟨s.queue, rfl⟩
  | ignore _ _ hstopped => exact absurd hstopped hrunning

/-- A request after which no pass has started is still to be met. -/
theorem awaits_of_run?_send {s s' : Scheduler} {before after : List ScheduleEvent} {t : Trigger}
    (h : s.run? (before ++ .send t :: after) = some s')
    (hquiet : ∀ e ∈ after, e.startsPass = false) (hrunning : s'.phase ≠ .stopped) :
    s'.Awaits t (sentIn after) := by
  obtain ⟨m, _, hrest⟩ := run?_append h
  obtain ⟨n, hsend, hafter⟩ := run?_cons hrest
  have hsent := hsend.awaits_send (running_of_run? hafter hrunning)
  exact awaits_of_run? hafter hquiet hrunning hsent

/-! ## Counting passes -/

@[simp] theorem beginCount_startPass (s : Scheduler) (rest : Pending) :
    (s.startPass rest).beginCount = s.beginCount + 1 := by
  unfold beginCount startPass
  rw [List.countP_append]
  rfl

/-- Delivering a result starts no pass. -/
theorem beginCount_deliver (s : Scheduler) (phase : Phase) (result : Except Failure Update) :
    ({ s with phase := phase, history := s.history ++ [(s.time, .ofResult result)] }
      : Scheduler).beginCount = s.beginCount := by
  unfold beginCount
  rw [List.countP_append]
  cases result <;> rfl

/-- The history counts the passes that events start. -/
theorem Step.beginCount_eq {s s' : Scheduler} {e : ScheduleEvent} (h : Step s e s') :
    s'.beginCount = s.beginCount + e.startsPass.toNat := by
  cases h with
  | begin | expire => exact beginCount_startPass _ _
  | deliver => exact beginCount_deliver _ _ _
  | _ => rfl

/-- The passes that have started and those that the known requests make for. -/
def load (s : Scheduler) : Nat := s.beginCount + s.queue.length + s.pending.weight

/-- Only sending a request adds to the load. -/
theorem Step.load_le {s s' : Scheduler} {e : ScheduleEvent} (h : Step s e s') :
    s'.load ≤ s.load + e.sent.length := by
  cases h with
  | elapse | share | release | cancel | settle | resume => exact Nat.le_refl _
  | ignore => exact Nat.le_add_right _ _
  | send t =>
    have hlength : (s.queue ++ [t]).length = s.queue.length + 1 := by simp
    have hcount : ({ s with queue := s.queue ++ [t] } : Scheduler).beginCount = s.beginCount := rfl
    simp only [load, hlength, hcount, ScheduleEvent.sent, List.length_singleton]
    omega
  | @receive t rest hqueue _ =>
    have hweight := Pending.weight_absorb_le s.quiet s.time s.pending t
    have hlength : s.queue.length = rest.length + 1 := by rw [hqueue]; rfl
    have hcount : ({ s with queue := rest, pending := s.pending.absorb s.quiet s.time t }
        : Scheduler).beginCount = s.beginCount := rfl
    simp only [load, hlength, hcount, ScheduleEvent.sent, List.length_nil]
    omega
  | begin _ hwanted =>
    have hweight : 1 ≤ s.pending.weight := by
      rw [Pending.weight, hwanted]
      exact Nat.le_add_right _ _
    have hrest : ({} : Pending).weight = 0 := rfl
    simp only [load, beginCount_startPass, startPass_pending, startPass_queue, hrest,
      ScheduleEvent.sent, List.length_nil]
    omega
  | expire _ hunwanted hdeadline _ =>
    have hweight : s.pending.weight = 1 := by
      rw [Pending.weight, hunwanted, hdeadline]
      rfl
    have hrest : ({ s.pending with deadline := none } : Pending).weight = 0 := by
      rw [Pending.weight, hunwanted]
      rfl
    simp only [load, beginCount_startPass, startPass_pending, startPass_queue, hweight, hrest,
      ScheduleEvent.sent, List.length_nil]
    omega
  | @deliver result _ =>
    have hcount := beginCount_deliver s .draining result
    exact Nat.add_le_add_right (Nat.add_le_add_right (Nat.le_of_eq hcount) _) _
  | abort | stop =>
    have hcount : s.halt.beginCount = s.beginCount := rfl
    simp only [load, hcount, halt_queue, halt_pending, ScheduleEvent.sent, List.length_nil]
    omega

/-- In a run the history counts the passes that its events start, and the load grows by no more
than what is sent. -/
theorem count_of_run? {s s' : Scheduler} {es : List ScheduleEvent} (h : s.run? es = some s') :
    s'.beginCount = s.beginCount + es.countP ScheduleEvent.startsPass ∧
      s'.load ≤ s.load + (sentIn es).length := by
  induction es generalizing s with
  | nil =>
    cases h
    exact ⟨rfl, Nat.le_refl _⟩
  | cons e es ih =>
    obtain ⟨m, hstep, hrun⟩ := run?_cons h
    obtain ⟨hcount, hload⟩ := ih hrun
    have hfirst := hstep.beginCount_eq
    have hmore := hstep.load_le
    constructor
    · rw [hcount, hfirst, List.countP_cons, Nat.add_assoc, Nat.add_comm e.startsPass.toNat]
      cases e.startsPass <;> rfl
    · rw [sentIn, List.flatMap_cons, ← sentIn, List.length_append]
      omega

/-! ## Whole runs -/

/-- In every run of a new scheduler, as long as it can be asked and is not cancelled, each request
is followed by the start of a pass, or waits in the queue before just those that were sent after
it, or is noted; so once the scheduler waits with nothing in the queue and nothing noted, each is
followed by the start of a pass. In every run there are no more passes than requests. -/
theorem requests_met_or_kept (pipeline : Pipeline) (quiet : Nat) (es : List ScheduleEvent)
    (s : Scheduler) (h : ({ pipeline, quiet } : Scheduler).run? es = some s) :
    (s.handles ≠ 0 → s.cancelled = false →
      (∀ before t after, es = before ++ .send t :: after →
        (∃ e ∈ after, e.startsPass = true) ∨
          (∃ older, s.queue = older ++ t :: sentIn after) ∨ s.pending.Holds t) ∧
      (s.phase = .waiting → s.queue = [] → s.pending = {} →
        ∀ before t after, es = before ++ .send t :: after →
          ∃ e ∈ after, e.startsPass = true)) ∧
    s.beginCount = es.countP ScheduleEvent.startsPass ∧
    s.beginCount ≤ (sentIn es).length := by
  obtain ⟨hcount, hload⟩ := count_of_run? h
  have hstart : ({ pipeline, quiet } : Scheduler).beginCount = 0 := rfl
  have hempty : ({ pipeline, quiet } : Scheduler).load = 0 := rfl
  refine ⟨?_, ?_, ?_⟩
  · intro hheld huncancelled
    have hrunning := running_of_held h hheld huncancelled
    have hkept : ∀ before t after, es = before ++ .send t :: after →
        (∃ e ∈ after, e.startsPass = true) ∨ s.Awaits t (sentIn after) := by
      intro before t after hes
      by_cases hstarts : ∃ e ∈ after, e.startsPass = true
      · exact Or.inl hstarts
      · refine Or.inr (awaits_of_run?_send (hes ▸ h) ?_ hrunning)
        intro e he
        exact Bool.eq_false_iff.mpr fun hstart => hstarts ⟨e, he, hstart⟩
    refine ⟨hkept, ?_⟩
    intro _ hqueue hpending before t after hes
    rcases hkept before t after hes with hstarts | ⟨older, hwaits⟩ | hnoted
    · exact hstarts
    · rw [hqueue] at hwaits
      cases older <;> cases hwaits
    · rw [hpending] at hnoted
      exact absurd hnoted (Pending.not_holds_empty t)
  · rw [hcount, hstart, Nat.zero_add]
  · rw [hempty] at hload
    unfold load at hload
    omega

/-- Five units after a save a pass starts, and while it is under way another one is asked for. -/
theorem requests_met_or_kept_during_pass :
    ∃ s : Scheduler,
      ({ pipeline := { root := ⟨[]⟩ }, quiet := 5 } : Scheduler).run?
        [.send .saved, .receive, .elapse 5, .expire, .send .now, .settle (.ok {}), .deliver,
          .receive, .resume] = some s ∧
      (s.handles ≠ 0 ∧ s.cancelled = false) ∧
      ((∃ e : ScheduleEvent, e ∈ [.settle (.ok {}), .deliver, .receive, .resume] ∧
          e.startsPass = true) ∨
        (∃ older, s.queue = older ++ .now :: []) ∨ s.pending.Holds .now) ∧
      s.beginCount ≤ 2 := by
  refine ⟨_, rfl, ⟨Nat.one_ne_zero, rfl⟩, ?_⟩
  have hboth := requests_met_or_kept { root := ⟨[]⟩ } 5
    [.send .saved, .receive, .elapse 5, .expire, .send .now, .settle (.ok {}), .deliver,
      .receive, .resume] _ rfl
  refine ⟨?_, hboth.2.2⟩
  exact (hboth.1 Nat.one_ne_zero rfl).1 [.send .saved, .receive, .elapse 5, .expire] .now _ rfl

end Scheduler

end Deadwood
