import Deadwood.Proofs.Schedule.Clock

/-!
# Clients of a scheduler

A client lets time pass, saves files, and copies and gives up the handles through which passes can
be asked for. With the last handle the scheduler is left alone: it takes in what it was sent before
and stops, also if the quiet period of a save is not over.

* `ClientAct`, `Timeline.play` : what a client does, and what becomes of a timeline by it;
* `desertedAt` : when the last handle is given up;
* `Timeline.play_of_isForlorn` : a scheduler that was left alone starts no pass.
-/

namespace Deadwood

/-! ## Acts -/

/-- What a client does that asks for no pass at once. -/
inductive ClientAct where
  /-- It lets so much time pass. -/
  | wait (span : Nat)
  | save
  /-- It copies a handle. -/
  | share
  /-- It gives up a handle. -/
  | release

/-- When files are saved in a sequence of acts that starts at a time. -/
def saveTimes (now : Nat) : List ClientAct → List Nat
  | [] => []
  | .wait span :: rest => saveTimes (now + span) rest
  | .save :: rest => now :: saveTimes now rest
  | .share :: rest | .release :: rest => saveTimes now rest

/-- When a sequence of acts that starts at a time is over. -/
def endTime (now : Nat) : List ClientAct → Nat
  | [] => now
  | .wait span :: rest => endTime (now + span) rest
  | .save :: rest | .share :: rest | .release :: rest => endTime now rest

/-- When the last handle is given up in a sequence of acts that starts with so many handles at a
time. -/
def desertedAt : Nat → Nat → List ClientAct → Option Nat
  | 0, now, _ => some now
  | _ + 1, _, [] => none
  | handles + 1, now, .wait span :: rest => desertedAt (handles + 1) (now + span) rest
  | handles + 1, now, .save :: rest => desertedAt (handles + 1) now rest
  | handles + 1, now, .share :: rest => desertedAt (handles + 2) now rest
  | handles + 1, now, .release :: rest => desertedAt handles now rest

theorem le_of_mem_saveTimes {now time : Nat} {acts : List ClientAct}
    (h : time ∈ saveTimes now acts) : now ≤ time := by
  fun_induction saveTimes now acts with
  | case1 => cases h
  | case2 now span rest ih =>
    have := ih h
    omega
  | case3 now rest ih =>
    rcases List.mem_cons.mp h with rfl | h
    · exact Nat.le_refl _
    · exact ih h
  | case4 now rest ih | case5 now rest ih => exact ih h

theorem le_endTime (now : Nat) (acts : List ClientAct) : now ≤ endTime now acts := by
  fun_induction endTime now acts with
  | case1 => exact Nat.le_refl _
  | case2 now span rest ih => omega
  | case3 now rest ih | case4 now rest ih | case5 now rest ih => exact ih

theorem le_of_mem_desertedAt {handles now d : Nat} {acts : List ClientAct}
    (h : d ∈ desertedAt handles now acts) : now ≤ d := by
  fun_induction desertedAt handles now acts with
  | case1 now acts =>
    cases h
    exact Nat.le_refl _
  | case2 => cases h
  | case3 handles now span rest ih =>
    have := ih h
    omega
  | case4 handles now rest ih | case5 handles now rest ih | case6 handles now rest ih => exact ih h

/-- With a handle left, the time that is let pass is over before the last one is given up. -/
theorem desertedAt_wait {handles : Nat} (hheld : handles ≠ 0) (now span : Nat)
    (rest : List ClientAct) :
    desertedAt handles now (.wait span :: rest) = desertedAt handles (now + span) rest := by
  obtain ⟨handles, rfl⟩ := Nat.exists_eq_succ_of_ne_zero hheld
  rfl

theorem desertedAt_save (handles now : Nat) (rest : List ClientAct) :
    desertedAt handles now (.save :: rest) = desertedAt handles now rest := by
  cases handles with
  | zero => cases rest <;> rfl
  | succ handles => rfl

namespace Timeline

/-- Lets a client act. -/
def perform (worker : Worker) (t : Timeline) : ClientAct → Timeline
  | .wait span => t.sleep worker span
  | .save => t.happen (.send .saved)
  | .share => t.happen .share
  | .release => t.happen .release

/-- Lets a client act again and again. -/
def play (worker : Worker) (t : Timeline) (acts : List ClientAct) : Timeline :=
  acts.foldl (perform worker) t

/-- The timeline with another number of handles. -/
def withHandles (t : Timeline) (handles : Nat) : Timeline :=
  { t with scheduler := { t.scheduler with handles } }

variable {worker : Worker} {t : Timeline}

/-- After its first act a client goes on from where that act has led. -/
theorem play_cons (worker : Worker) (t : Timeline) (act : ClientAct) (rest : List ClientAct) :
    t.play worker (act :: rest) = (t.perform worker act).play worker rest := rfl

/-! ## Handles -/

/-- A client without handles cannot do anything to the scheduler. -/
theorem happen_of_deserted (h : t.scheduler.handles = 0) {e : ScheduleEvent}
    (he : e = .send .saved ∨ e = .share ∨ e = .release) : t.happen e = t := by
  rcases he with rfl | rfl | rfl <;> simp [happen, Scheduler.step?, h]

/-- Copying a handle changes their number only, and does nothing if there is none. -/
theorem happen_share (t : Timeline) : ∃ handles, t.happen .share = t.withHandles handles ∧
    ∀ now rest, desertedAt t.scheduler.handles now (.share :: rest) =
      desertedAt handles now rest := by
  cases hhandles : t.scheduler.handles with
  | zero =>
    refine ⟨0, ?_, fun now rest => by cases rest <;> rfl⟩
    rw [happen_of_deserted hhandles (.inr (.inl rfl)), ← hhandles]
    rfl
  | succ handles =>
    refine ⟨handles + 2, ?_, fun now rest => rfl⟩
    have hstep := Scheduler.Step.share (s := t.scheduler) (by omega)
    rw [hhandles] at hstep
    exact happen_of_step hstep

/-- Giving up a handle changes their number only, and does nothing if there is none. -/
theorem happen_release (t : Timeline) : ∃ handles, t.happen .release = t.withHandles handles ∧
    ∀ now rest, desertedAt t.scheduler.handles now (.release :: rest) =
      desertedAt handles now rest := by
  cases hhandles : t.scheduler.handles with
  | zero =>
    refine ⟨0, ?_, fun now rest => by cases rest <;> rfl⟩
    rw [happen_of_deserted hhandles (.inr (.inr rfl)), ← hhandles]
    rfl
  | succ handles =>
    refine ⟨handles, ?_, fun now rest => rfl⟩
    have hstep := Scheduler.Step.release (s := t.scheduler) (by omega)
    rw [hhandles] at hstep
    exact happen_of_step hstep

/-- What the scheduler does by itself leaves the handles as they are. -/
theorem handles_eq_of_step {s s' : Scheduler} {e : ScheduleEvent} (h : s.Step e s')
    (hown : e.isOwn = true) : s'.handles = s.handles := by
  cases h with
  | share | release => cases hown
  | _ => rfl

theorem handles_reach (worker : Worker) (horizon : Nat) (t : Timeline) :
    (reach worker horizon t).scheduler.handles = t.scheduler.handles := by
  induction t using reach_induction worker horizon with
  | hquiet t hquiet => rw [reach_of_isQuiet hquiet]
  | hact t time e hnext hdue ih =>
    obtain ⟨-, hown, s, hstep⟩ := exists_step_of_next? hnext
    rw [reach_of_next? hnext hdue, ih, scheduler_act worker hstep, handles_eq_of_step hstep hown]
    rfl

theorem handles_sleep (worker : Worker) (t : Timeline) (span : Nat) :
    (t.sleep worker span).scheduler.handles = t.scheduler.handles :=
  handles_reach worker _ t

/-! ## Time -/

/-- Only letting time pass takes time. -/
theorem time_play (worker : Worker) (t : Timeline) (acts : List ClientAct) :
    (t.play worker acts).scheduler.time = endTime t.scheduler.time acts := by
  induction acts generalizing t with
  | nil => rfl
  | cons act rest ih =>
    rw [play_cons, ih]
    cases act with
    | wait span => rw [perform, time_sleep, endTime]
    | save =>
      have htime : (t.happen (.send .saved)).scheduler.time = t.scheduler.time := by
        unfold happen
        split
        case _ s hstep => cases Scheduler.step_of_step? hstep <;> rfl
        case _ => rfl
      rw [perform, htime, endTime]
    | share =>
      obtain ⟨handles, hshare, -⟩ := happen_share t
      rw [perform, hshare, endTime]
      rfl
    | release =>
      obtain ⟨handles, hrelease, -⟩ := happen_release t
      rw [perform, hrelease, endTime]
      rfl

end Timeline

/-! ## Left alone -/

/-- Nobody can ask for a pass any more, no pass is under way, and none has to start at once. -/
structure Scheduler.IsForlorn (s : Scheduler) : Prop where
  handles : s.handles = 0
  immediate : s.pending.immediate = false
  queue : .now ∉ s.queue
  phase : s.phase = .waiting ∨ s.phase = .draining ∨ s.phase = .stopped

namespace Timeline

variable {worker : Worker} {t : Timeline}

/-- What is next for a scheduler that was left alone and has not stopped: it takes in what it was
sent, and stops. The end of a quiet period is not what it waits for. -/
theorem next?_of_isForlorn (h : t.scheduler.IsForlorn) :
    t.scheduler.phase = .stopped ∧ t.next? = none ∨
      ∃ e, t.next? = some (t.scheduler.time, e) ∧ (e = .stop ∨ e = .receive ∨ e = .resume) := by
  rcases h.phase with hphase | hphase | hphase
  · right
    simp only [next?, hphase, h.immediate, h.handles]
    cases t.scheduler.cancelled <;> cases t.scheduler.queue <;> simp
  · right
    simp only [next?, hphase]
    cases t.scheduler.queue <;> simp
  · left
    simp [next?, hphase]

/-- What is next leaves the scheduler alone and starts no pass. -/
theorem act_of_isForlorn (h : t.scheduler.IsForlorn) {time : Nat} {e : ScheduleEvent}
    (hnext : t.next? = some (time, e)) :
    (t.act worker time e).scheduler.IsForlorn ∧
      (t.act worker time e).scheduler.beginTimes = t.scheduler.beginTimes := by
  obtain ⟨-, -, s, hstep⟩ := exists_step_of_next? hnext
  have he : e = .stop ∨ e = .receive ∨ e = .resume := by
    rcases next?_of_isForlorn h with ⟨-, hnone⟩ | ⟨e', hnext', he'⟩
    · cases hnone.symm.trans hnext
    · cases hnext'.symm.trans hnext
      exact he'
  rw [scheduler_act worker hstep]
  have hstarts : e.startsPass = false := by rcases he with rfl | rfl | rfl <;> rfl
  refine ⟨?_, by rw [hstep.beginTimes_eq, hstarts]; exact List.append_nil _⟩
  cases hstep with
  | stop => exact ⟨h.handles, h.immediate, List.not_mem_nil, .inr (.inr rfl)⟩
  | @receive x rest hqueue hphase =>
    have hmem : ∀ y ∈ x :: rest, y ≠ .now := by
      rintro y hy rfl
      exact h.queue (by rwa [show t.scheduler.queue = _ from hqueue])
    have hsaved : x = .saved := by
      cases x with
      | saved => rfl
      | now => exact absurd rfl (hmem .now List.mem_cons_self)
    subst hsaved
    exact ⟨h.handles, h.immediate, fun hnow => hmem .now (List.mem_cons_of_mem _ hnow) rfl, h.phase⟩
  | resume hphase hqueue => exact ⟨h.handles, h.immediate, h.queue, .inl rfl⟩
  | _ => simp at he

/-- A scheduler that was left alone starts no pass, however much time passes. -/
theorem reach_of_isForlorn (worker : Worker) (horizon : Nat) (h : t.scheduler.IsForlorn) :
    (reach worker horizon t).scheduler.IsForlorn ∧
      (reach worker horizon t).scheduler.beginTimes = t.scheduler.beginTimes := by
  induction t using reach_induction worker horizon with
  | hquiet t hquiet =>
    rw [reach_of_isQuiet hquiet]
    exact ⟨h, rfl⟩
  | hact t time e hnext hdue ih =>
    obtain ⟨hforlorn, hbegins⟩ := act_of_isForlorn h hnext
    obtain ⟨hreached, hsame⟩ := ih hforlorn
    rw [reach_of_next? hnext hdue]
    exact ⟨hreached, hsame.trans hbegins⟩

/-- A scheduler that was left alone stops as soon as time passes. -/
theorem phase_sleep_of_isForlorn (h : t.scheduler.IsForlorn) (span : Nat) :
    (t.sleep worker span).scheduler.phase = .stopped := by
  let horizon := t.scheduler.time + span
  have hquiet := isQuiet_reach worker horizon t
  have htime : (reach worker horizon t).scheduler.time ≤ horizon :=
    time_reach_le (Nat.le_add_right _ _)
  obtain ⟨hforlorn, -⟩ := reach_of_isForlorn worker horizon h
  show (reach worker horizon t).scheduler.phase = .stopped
  -- in any other phase something would be due now
  rcases next?_of_isForlorn hforlorn with ⟨hstopped, -⟩ | ⟨e, hnext, -⟩
  · exact hstopped
  · have hlate := hquiet _ e hnext
    omega

/-- Whatever a client without handles does, no pass starts. -/
theorem play_of_isForlorn (h : t.scheduler.IsForlorn) (acts : List ClientAct) :
    (t.play worker acts).scheduler.IsForlorn ∧
      (t.play worker acts).scheduler.beginTimes = t.scheduler.beginTimes := by
  induction acts generalizing t with
  | nil => exact ⟨h, rfl⟩
  | cons act rest ih =>
    have hact : (t.perform worker act).scheduler.IsForlorn ∧
        (t.perform worker act).scheduler.beginTimes = t.scheduler.beginTimes := by
      cases act with
      | wait span =>
        obtain ⟨hforlorn, hbegins⟩ := reach_of_isForlorn worker (t.scheduler.time + span) h
        exact ⟨⟨hforlorn.handles, hforlorn.immediate, hforlorn.queue, hforlorn.phase⟩, hbegins⟩
      | save =>
        rw [perform, happen_of_deserted h.handles (.inl rfl)]
        exact ⟨h, rfl⟩
      | share =>
        rw [perform, happen_of_deserted h.handles (.inr (.inl rfl))]
        exact ⟨h, rfl⟩
      | release =>
        rw [perform, happen_of_deserted h.handles (.inr (.inr rfl))]
        exact ⟨h, rfl⟩
    obtain ⟨hforlorn, hbegins⟩ := hact
    obtain ⟨hplayed, hsame⟩ := ih hforlorn
    exact ⟨hplayed, hsame.trans hbegins⟩

end Timeline

end Deadwood
