import Deadwood.Schedule.Timeline
import Deadwood.Proofs.Schedule.Step

/-!
# Schedulers on a clock

On a timeline the scheduler does what is next as soon as it is due. This module follows it through
one pass: it takes in the requests of its queue, starts a pass when the quiet period ends, and after
the pass takes in what has come meanwhile and waits again.

* `Leads` : what the scheduler does by itself leads from one timeline to another;
* `leads_receives` : the requests of the queue are taken in;
* `leads_expire` : a pass starts when the quiet period ends;
* `leads_finish` : from the end of a pass to the next time the scheduler waits.
-/

namespace Deadwood

/-- A scheduler in a phase, with these requests in its queue and these taken in, that can still be
asked and was not cancelled. -/
structure Scheduler.IsIn (s : Scheduler) (phase : Phase) (queue : List Trigger)
    (pending : Pending) : Prop where
  phase : s.phase = phase
  queue : s.queue = queue
  pending : s.pending = pending
  held : s.handles ≠ 0
  uncancelled : s.cancelled = false

/-- A scheduler that takes in the requests of its queue: after a pass all of them, and while it
waits as long as none has to be met at once. -/
def Phase.Receives (phase : Phase) (queue : List Trigger) (pending : Pending) : Prop :=
  phase = .draining ∨ phase = .waiting ∧ pending.immediate = false ∧ .now ∉ queue

/-- The scheduler with all requests of its queue taken in. -/
def Scheduler.takeIn (s : Scheduler) : Scheduler :=
  { s with queue := [], pending := s.pending.absorbAll s.quiet s.time s.queue }

namespace Timeline

/-! ## One thing -/

section

variable {t : Timeline} {horizon time : Nat} {e : ScheduleEvent} {s : Scheduler}

/-- What is next and due is done first. -/
theorem advance_of_next? (worker : Worker) (h : t.next? = some (time, e)) (hdue : time ≤ horizon)
    (fuel : Nat) :
    advance worker horizon (fuel + 1) t = advance worker horizon fuel (t.act worker time e) := by
  rw [advance, h]
  exact if_pos hdue

/-- Nothing is done as long as nothing is due. -/
theorem advance_of_quiet (worker : Worker)
    (h : ∀ time e, t.next? = some (time, e) → horizon < time) (fuel : Nat) :
    advance worker horizon fuel t = t := by
  cases fuel with
  | zero => rfl
  | succ fuel =>
    rw [advance]
    split
    case _ time e hnext => exact if_neg (Nat.not_le.mpr (h time e hnext))
    case _ => rfl

theorem moveTo_of_le (h : time ≤ t.scheduler.time) : t.moveTo time = t := by
  rw [moveTo, Nat.max_eq_right h]

theorem happen_of_step (h : t.scheduler.Step e s) : t.happen e = { t with scheduler := s } := by
  rw [happen, Scheduler.step?_of_step h]

theorem scheduler_act (worker : Worker) (h : (t.moveTo time).scheduler.Step e s) :
    (t.act worker time e).scheduler = s := by
  have hhappen : ((t.moveTo time).happen e).scheduler = s := by rw [happen_of_step h]
  cases e <;> exact hhappen

/-- An event that happens now and starts no pass changes the scheduler only. -/
theorem act_of_step (worker : Worker) (h : t.scheduler.Step e s) (hstarts : e.startsPass = false) :
    t.act worker t.scheduler.time e = { t with scheduler := s } := by
  have hhappen : (t.moveTo t.scheduler.time).happen e = { t with scheduler := s } := by
    rw [moveTo_of_le (Nat.le_refl _), happen_of_step h]
  cases e with
  | begin | expire => cases hstarts
  | _ => exact hhappen

/-- The pass that an event starts takes as long as the next analysis. -/
theorem due_act (worker : Worker) (h : (t.moveTo time).scheduler.Step e s)
    (hstarts : e.startsPass = true) :
    (t.act worker time e).due = s.time + (worker t.calls).span := by
  have hhappen : (t.moveTo time).happen e = { t with scheduler := s } := happen_of_step h
  cases e with
  | begin | expire => exact congrArg (fun u => (call worker u).due) hhappen
  | _ => cases hstarts

end

/-! ## One thing after another -/

/-- A timeline at a later time, after passes began at the given times. -/
structure Later (t after : Timeline) (time : Nat) (begins : List Nat) : Prop where
  time : after.scheduler.time = time
  quiet : after.scheduler.quiet = t.scheduler.quiet
  begins : after.scheduler.beginTimes = t.scheduler.beginTimes ++ begins

/-- The next so many things the scheduler does, none of them after the horizon, lead to a later
timeline. -/
structure Leads (worker : Worker) (horizon count : Nat) (t after : Timeline) (time : Nat)
    (begins : List Nat) : Prop extends t.Later after time begins where
  advance : ∀ fuel, advance worker horizon (fuel + count) t = advance worker horizon fuel after

theorem Later.trans {t after last : Timeline} {time time' : Nat} {begins begins' : List Nat}
    (h : t.Later after time begins) (h' : after.Later last time' begins') :
    t.Later last time' (begins ++ begins') := by
  refine ⟨h'.time, h'.quiet.trans h.quiet, ?_⟩
  rw [h'.begins, h.begins, List.append_assoc]

/-- Moving the clock on starts no pass. -/
theorem Later.moveTo {t after : Timeline} {time time' : Nat} {begins : List Nat}
    (h : t.Later after time begins) (htime : time ≤ time') :
    t.Later (after.moveTo time') time' begins :=
  ⟨Nat.max_eq_left (h.time ▸ htime), h.quiet, h.begins⟩

namespace Leads

variable {worker : Worker} {horizon count : Nat} {t after : Timeline} {time : Nat}
  {begins : List Nat}

theorem refl (worker : Worker) (horizon : Nat) (htime : t.scheduler.time = time) :
    Leads worker horizon 0 t t time [] :=
  ⟨⟨htime, rfl, (List.append_nil _).symm⟩, fun _ => rfl⟩

theorem trans {count' time' : Nat} {begins' : List Nat} {last : Timeline}
    (h : Leads worker horizon count t after time begins)
    (h' : Leads worker horizon count' after last time' begins') :
    Leads worker horizon (count' + count) t last time' (begins ++ begins') := by
  refine ⟨h.toLater.trans h'.toLater, fun fuel => ?_⟩
  rw [← Nat.add_assoc, h.advance, h'.advance]

/-- An event leads on if it is next and due. -/
theorem of_next? {e : ScheduleEvent} {s : Scheduler} (hnext : t.next? = some (time, e))
    (hhorizon : time ≤ horizon) (hlate : t.scheduler.time ≤ time)
    (hstep : (t.moveTo time).scheduler.Step e s)
    (htime : s.time = (t.moveTo time).scheduler.time)
    (hbegins : (if e.startsPass then [time] else []) = begins) :
    Leads worker horizon 1 t (t.act worker time e) time begins := by
  have hmoved : (t.moveTo time).scheduler.time = time := Nat.max_eq_left hlate
  refine ⟨⟨?_, ?_, ?_⟩, advance_of_next? worker hnext hhorizon⟩
  all_goals rw [scheduler_act worker hstep]
  · exact htime.trans hmoved
  · exact hstep.quiet_eq
  · rw [hstep.beginTimes_eq, hmoved, hbegins]
    rfl

/-- An event that is next, takes no time and starts no pass leads to what it makes of the
scheduler. -/
theorem of_step {e : ScheduleEvent} {s : Scheduler}
    (hnext : t.next? = some (t.scheduler.time, e)) (hhorizon : t.scheduler.time ≤ horizon)
    (hstep : t.scheduler.Step e s) (htime : s.time = t.scheduler.time)
    (hstarts : e.startsPass = false) :
    Leads worker horizon 1 t { t with scheduler := s } t.scheduler.time [] := by
  rw [← act_of_step worker hstep hstarts]
  refine .of_next? (s := s) hnext hhorizon (Nat.le_refl _) ?_ ?_ ?_
  · rwa [moveTo_of_le (Nat.le_refl _)]
  · rwa [moveTo_of_le (Nat.le_refl _)]
  · rw [hstarts]
    rfl

end Leads

/-! ## Moving the clock and sending -/

section

variable {t : Timeline} {phase : Phase} {queue : List Trigger} {pending : Pending}

/-- Moving the clock does not change where the scheduler is. -/
theorem isIn_moveTo (h : t.scheduler.IsIn phase queue pending) (time : Nat) :
    (t.moveTo time).scheduler.IsIn phase queue pending :=
  ⟨h.phase, h.queue, h.pending, h.held, h.uncancelled⟩

/-- A request that is sent goes to the end of the queue. -/
theorem isIn_send (h : t.scheduler.IsIn phase queue pending) (hrunning : phase ≠ .stopped)
    (x : Trigger) :
    (t.happen (.send x)).scheduler.IsIn phase (queue ++ [x]) pending ∧
      t.Later (t.happen (.send x)) t.scheduler.time [] := by
  have hrunning : t.scheduler.phase ≠ .stopped := h.phase ▸ hrunning
  have hstep := Scheduler.Step.send x h.held hrunning
  rw [happen_of_step hstep]
  refine ⟨⟨h.phase, ?_, h.pending, h.held, h.uncancelled⟩, rfl, rfl, hstep.beginTimes_eq⟩
  rw [h.queue]

end

section

variable (worker : Worker) {horizon time : Nat} {t : Timeline} {phase : Phase}
  {queue : List Trigger} {pending : Pending}

/-! ## Taking in requests -/

theorem next?_receive {x : Trigger} {rest : List Trigger} (hqueue : t.scheduler.queue = x :: rest)
    (hreceives : t.scheduler.phase.Receives (x :: rest) t.scheduler.pending)
    (huncancelled : t.scheduler.cancelled = false) :
    t.next? = some (t.scheduler.time, .receive) := by
  rcases hreceives with hphase | ⟨hphase, himmediate, -⟩
  · simp [next?, hphase, hqueue]
  · simp [next?, hphase, huncancelled, hqueue, himmediate]

/-- One request is taken in. -/
theorem leads_receive {x : Trigger} {rest : List Trigger} (hqueue : t.scheduler.queue = x :: rest)
    (hreceives : t.scheduler.phase.Receives (x :: rest) t.scheduler.pending)
    (huncancelled : t.scheduler.cancelled = false) (hhorizon : t.scheduler.time ≤ horizon) :
    Leads worker horizon 1 t
      { t with scheduler :=
        { t.scheduler with
          queue := rest
          pending := t.scheduler.pending.absorb t.scheduler.quiet t.scheduler.time x } }
      t.scheduler.time [] := by
  have hphase : t.scheduler.phase = .waiting ∧ t.scheduler.pending.immediate = false ∨
      t.scheduler.phase = .draining :=
    hreceives.symm.imp_left fun hwaits => ⟨hwaits.1, hwaits.2.1⟩
  have hnext := next?_receive hqueue hreceives huncancelled
  exact .of_step hnext hhorizon (.receive hqueue hphase) rfl rfl

/-- The rest of the queue is taken in as well. -/
theorem receives_rest {x : Trigger} {rest : List Trigger}
    (hreceives : phase.Receives (x :: rest) pending) (quiet time : Nat) :
    phase.Receives rest (pending.absorb quiet time x) := by
  refine hreceives.imp_right fun ⟨hphase, himmediate, hnow⟩ => ⟨hphase, ?_, ?_⟩
  · cases x with
    | saved => exact himmediate
    | now => exact absurd List.mem_cons_self hnow
  · exact fun hmem => hnow (List.mem_cons_of_mem _ hmem)

/-- The requests of the queue are taken in one after another, all at the same time. -/
theorem leads_takeIn (hqueue : t.scheduler.queue = queue)
    (hreceives : t.scheduler.phase.Receives queue t.scheduler.pending)
    (huncancelled : t.scheduler.cancelled = false) (hhorizon : t.scheduler.time ≤ horizon) :
    Leads worker horizon queue.length t { t with scheduler := t.scheduler.takeIn }
      t.scheduler.time [] := by
  induction queue generalizing t with
  | nil =>
    have htaken : t.scheduler.takeIn = t.scheduler := by
      rw [Scheduler.takeIn, hqueue, Pending.absorbAll_nil, ← hqueue]
    rw [htaken]
    exact .refl worker horizon rfl
  | cons x rest ih =>
    have hfirst := leads_receive worker hqueue hreceives huncancelled hhorizon
    have hrest := ih (t := { t with scheduler := { t.scheduler with
      queue := rest
      pending := t.scheduler.pending.absorb t.scheduler.quiet t.scheduler.time x } })
      rfl (receives_rest hreceives _ _) huncancelled hhorizon
    have htaken : t.scheduler.takeIn = { t.scheduler with
      queue := []
      pending := (t.scheduler.pending.absorb t.scheduler.quiet t.scheduler.time x).absorbAll
        t.scheduler.quiet t.scheduler.time rest } := by
      rw [Scheduler.takeIn, hqueue, Pending.absorbAll_cons]
    rw [htaken]
    exact hfirst.trans hrest

theorem leads_receives (h : t.scheduler.IsIn phase queue pending)
    (hreceives : phase.Receives queue pending) (htime : t.scheduler.time = time)
    (hhorizon : time ≤ horizon) :
    ∃ after, Leads worker horizon queue.length t after time [] ∧
      after.scheduler.IsIn phase [] (pending.absorbAll t.scheduler.quiet time queue) := by
  subst htime
  rw [← h.phase, ← h.pending] at hreceives
  refine ⟨_, leads_takeIn worker h.queue hreceives h.uncancelled hhorizon, ?_⟩
  rw [← h.pending, ← h.queue]
  exact ⟨h.phase, rfl, rfl, h.held, h.uncancelled⟩

/-! ## Passes -/

/-- With nothing to take in, what is next is the end of the quiet period, if there is one. -/
theorem next?_waiting {deadline : Option Nat} (h : t.scheduler.IsIn .waiting [] { deadline }) :
    t.next? = deadline.map fun d => (max d t.scheduler.time, .expire) := by
  simp [next?, h.phase, h.pending, h.uncancelled, h.queue, h.held]

/-- When the quiet period ends a pass starts, and nothing else is wanted any more. -/
theorem leads_expire {d : Nat} (h : t.scheduler.IsIn .waiting [] { deadline := some d })
    (hd : t.scheduler.time ≤ d) (hhorizon : d ≤ horizon) :
    ∃ after, Leads worker horizon 1 t after d [d] ∧ after.scheduler.IsIn .passing [] {} ∧
      after.due = d + (worker t.calls).span := by
  have hnext : t.next? = some (d, .expire) := by
    rw [next?_waiting h, Option.map_some, Nat.max_eq_left hd]
  have hmoved := isIn_moveTo h d
  have htime : (t.moveTo d).scheduler.time = d := Nat.max_eq_left hd
  have hstep : (t.moveTo d).scheduler.Step .expire ((t.moveTo d).scheduler.startPass {}) := by
    have hexpire := Scheduler.Step.expire (d := d) hmoved.phase (by rw [hmoved.pending])
      (by rw [hmoved.pending]) (Nat.le_of_eq htime.symm)
    rwa [hmoved.pending] at hexpire
  refine ⟨_, .of_next? hnext hhorizon hd hstep rfl rfl, ?_, ?_⟩
  · rw [scheduler_act worker hstep]
    exact ⟨rfl, h.queue, rfl, h.held, h.uncancelled⟩
  · rw [due_act worker hstep rfl]
    exact congrArg (· + (worker t.calls).span) htime

/-- A pass ends when it is due. -/
theorem leads_settle (h : t.scheduler.IsIn .passing queue pending)
    (hdue : t.scheduler.time ≤ t.due) (hhorizon : t.due ≤ horizon) :
    ∃ after result, Leads worker horizon 1 t after t.due [] ∧
      after.scheduler.IsIn (.delivering result) queue pending := by
  have hnext : t.next? = some (t.due, .settle t.outcome) := by
    simp [next?, h.phase, h.uncancelled, Nat.max_eq_left hdue]
  have hstep := Scheduler.Step.settle t.outcome (isIn_moveTo h t.due).phase
  refine ⟨_, (t.scheduler.pipeline.settle t.outcome).2,
    .of_next? hnext hhorizon hdue hstep rfl rfl, ?_⟩
  rw [scheduler_act worker hstep]
  exact ⟨rfl, h.queue, h.pending, h.held, h.uncancelled⟩

theorem leads_deliver {result : Except Failure Update}
    (h : t.scheduler.IsIn (.delivering result) queue pending) (htime : t.scheduler.time = time)
    (hhorizon : time ≤ horizon) :
    ∃ after, Leads worker horizon 1 t after time [] ∧
      after.scheduler.IsIn .draining queue pending := by
  have hnext : t.next? = some (time, .deliver) := by simp [next?, h.phase, htime]
  have hstep := Scheduler.Step.deliver (isIn_moveTo h time).phase
  refine ⟨_, .of_next? hnext hhorizon (Nat.le_of_eq htime) hstep rfl rfl, ?_⟩
  rw [scheduler_act worker hstep]
  exact ⟨rfl, h.queue, h.pending, h.held, h.uncancelled⟩

/-- When no request is left the scheduler waits again. -/
theorem leads_resume (hphase : t.scheduler.phase = .draining) (hqueue : t.scheduler.queue = [])
    (hhorizon : t.scheduler.time ≤ horizon) :
    Leads worker horizon 1 t { t with scheduler := { t.scheduler with phase := .waiting } }
      t.scheduler.time [] := by
  have hnext : t.next? = some (t.scheduler.time, .resume) := by simp [next?, hphase, hqueue]
  exact .of_step hnext hhorizon (.resume hphase hqueue) rfl rfl

/-- A pass ends when it is due. Its result is delivered at the same time, the requests that have
come meanwhile are taken in, and the scheduler waits. -/
theorem leads_finish (h : t.scheduler.IsIn .passing queue pending)
    (hdue : t.scheduler.time ≤ t.due) (hhorizon : t.due ≤ horizon) :
    ∃ after, Leads worker horizon (queue.length + 3) t after t.due [] ∧
      after.scheduler.IsIn .waiting []
        (pending.absorbAll t.scheduler.quiet t.due queue) := by
  obtain ⟨settled, result, hsettle, hsettled⟩ := leads_settle worker h hdue hhorizon
  obtain ⟨delivered, hdeliver, hdelivered⟩ :=
    leads_deliver worker hsettled hsettle.time hhorizon
  obtain ⟨drained, hdrain, hdrained⟩ :=
    leads_receives worker hdelivered (.inl rfl) hdeliver.time hhorizon
  have hresume := leads_resume worker hdrained.phase hdrained.queue
    (Nat.le_trans (Nat.le_of_eq hdrain.time) hhorizon)
  rw [hdrain.time] at hresume
  have hleads := hsettle.trans (hdeliver.trans (hdrain.trans hresume))
  rw [hdeliver.quiet, hsettle.quiet] at hdrained
  rw [show 1 + queue.length + 1 + 1 = queue.length + 3 by omega] at hleads
  exact ⟨_, hleads, rfl, hdrained.queue, hdrained.pending, hdrained.held, hdrained.uncancelled⟩

end

/-! ## Letting time pass -/

/-- If what the scheduler does leads to a timeline where nothing more is due, letting time pass
leads there. -/
theorem Leads.sleep_eq {worker : Worker} {count span : Nat} {t after : Timeline} {time : Nat}
    {begins : List Nat} (h : Leads worker (t.scheduler.time + span) count t after time begins)
    (hcount : count ≤ work t.scheduler)
    (hquiet : ∀ time e, after.next? = some (time, e) → t.scheduler.time + span < time) :
    t.sleep worker span = after.moveTo (t.scheduler.time + span) := by
  have hfuel : work t.scheduler - count + count = work t.scheduler := Nat.sub_add_cancel hcount
  rw [sleep, ← hfuel, h.advance, advance_of_quiet worker hquiet]

end Timeline

end Deadwood
