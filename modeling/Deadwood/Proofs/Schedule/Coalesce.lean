import Deadwood.Proofs.Schedule.Client

/-!
# What follows a pass

Requests that come while a pass is under way wait in the queue until it is over. Then they are taken
in together and lead to at most one more pass, whatever their number and order: at once if one of
them asks for that, and else one quiet period later. A pass that has to wait for the end of the
quiet period does not start if the last handle is given up before.

* `Scheduler.PassMeetsPending` : a pass meets all that was taken in before it;
* `Scheduler.IsSated` : where nothing is wanted no pass starts;
* `exists_play_drained` : from the end of a pass to what its requests want;
* `beginTimes_play_of_held`, `play_of_deserted` : the wait for the end of the quiet period;
* `passes_coalesced` : the passes that follow.
-/

namespace Deadwood

namespace Scheduler

/-! ## A pass meets all that was taken in before it -/

/-- While a pass is under way or its result is being delivered, nothing that was taken in before is
wanted any more. -/
def PassMeetsPending (s : Scheduler) : Prop :=
  (s.phase = .passing ∨ ∃ result, s.phase = .delivering result) → s.pending = {}

theorem Step.passMeetsPending {s s' : Scheduler} {e : ScheduleEvent} (h : Step s e s')
    (hs : s.PassMeetsPending) : s'.PassMeetsPending := by
  intro hphase'
  cases h with
  | elapse | send | ignore | share | release | cancel => exact hs hphase'
  | receive _ hphase =>
    rcases hphase with ⟨hphase, -⟩ | hphase <;> simp [hphase] at hphase'
  | begin => rfl
  | expire _ hunwanted => exact congrArg (Pending.mk none) hunwanted
  | settle _ hphase => exact hs (.inl hphase)
  | deliver | resume | abort | stop => simp [halt] at hphase'

/-- When the result of a pass has been delivered, all that is wanted is in the queue. -/
theorem pending_of_run?_deliver {s s' : Scheduler} {es : List ScheduleEvent}
    (hwaits : s.phase = .waiting) (h : s.run? (es ++ [.deliver]) = some s') :
    s'.phase = .draining ∧ s'.pending = {} := by
  obtain ⟨m, hrun, hlast⟩ := run?_append h
  have hstart : s.PassMeetsPending := by
    intro hphase
    simp [hwaits] at hphase
  have hmeets : m.PassMeetsPending :=
    run?_induction (fun _ _ _ => Step.passMeetsPending) hrun hstart
  obtain ⟨n, hdeliver, hnil⟩ := run?_cons hlast
  cases hnil
  cases hdeliver with
  | deliver hphase => exact ⟨rfl, hmeets (.inr ⟨_, hphase⟩)⟩

/-! ## Where nothing is wanted -/

/-- No request is in the queue, and none that was taken in is unmet. -/
structure IsSated (s : Scheduler) : Prop where
  queue : s.queue = []
  pending : s.pending = {}

/-- Where nothing is wanted the scheduler does nothing that starts a pass, and nothing is wanted
afterwards. -/
theorem IsSated.step {s s' : Scheduler} {e : ScheduleEvent} (hs : s.IsSated) (h : Step s e s')
    (hown : e.isOwn = true) : s'.IsSated ∧ e.startsPass = false := by
  cases h with
  | receive hqueue _ =>
    rw [hs.queue] at hqueue
    cases hqueue
  | begin _ hwanted =>
    rw [hs.pending] at hwanted
    cases hwanted
  | expire _ _ hdeadline _ =>
    rw [hs.pending] at hdeadline
    cases hdeadline
  | settle | deliver | resume => exact ⟨⟨hs.queue, hs.pending⟩, rfl⟩
  | abort | stop => exact ⟨⟨rfl, hs.pending⟩, rfl⟩
  | _ => cases hown

/-- What the requests of the queue want, where nothing else is wanted. -/
theorem takeIn_pending {s : Scheduler} (h : s.pending = {}) :
    s.takeIn.pending =
      { deadline := if .saved ∈ s.queue then some (s.time + s.quiet) else none
        immediate := decide (.now ∈ s.queue) } := by
  have hdeadline := Pending.absorbAll_deadline s.quiet s.time {} s.queue
  have himmediate := Pending.absorbAll_immediate s.quiet s.time {} s.queue
  simp only [List.contains_eq_mem, decide_eq_true_eq, Bool.false_or] at hdeadline himmediate
  rw [takeIn, h, ← hdeadline, ← himmediate]

end Scheduler

namespace Timeline

variable {worker : Worker} {horizon : Nat} {t : Timeline}

/-- Where nothing is wanted no pass starts, however much time passes. -/
theorem reach_of_isSated (worker : Worker) (horizon : Nat) (h : t.scheduler.IsSated) :
    (reach worker horizon t).scheduler.IsSated ∧
      (reach worker horizon t).scheduler.beginTimes = t.scheduler.beginTimes := by
  induction t using reach_induction worker horizon with
  | hquiet t hquiet =>
    rw [reach_of_isQuiet hquiet]
    exact ⟨h, rfl⟩
  | hact t time e hnext hdue ih =>
    obtain ⟨-, hown, s, hstep⟩ := exists_step_of_next? hnext
    have hmoved : (t.moveTo time).scheduler.IsSated := ⟨h.queue, h.pending⟩
    obtain ⟨hsated, hstarts⟩ := hmoved.step hstep hown
    have hbegins : (t.act worker time e).scheduler.beginTimes = t.scheduler.beginTimes := by
      rw [scheduler_act worker hstep, hstep.beginTimes_eq, hstarts]
      exact List.append_nil _
    obtain ⟨hreached, hsame⟩ := ih (by rwa [scheduler_act worker hstep])
    rw [reach_of_next? hnext hdue]
    exact ⟨hreached, hsame.trans hbegins⟩

/-- Where nothing is wanted a client that sends nothing makes for no pass. -/
theorem beginTimes_play_of_isSated (h : t.scheduler.IsSated) {acts : List ClientAct}
    (hunsent : ClientAct.save ∉ acts) :
    (t.play worker acts).scheduler.beginTimes = t.scheduler.beginTimes := by
  induction acts generalizing t with
  | nil => rfl
  | cons act rest ih =>
    have hrest : ClientAct.save ∉ rest := fun hmem => hunsent (List.mem_cons_of_mem _ hmem)
    have hact : (t.perform worker act).scheduler.IsSated ∧
        (t.perform worker act).scheduler.beginTimes = t.scheduler.beginTimes := by
      cases act with
      | wait span =>
        obtain ⟨hsated, hbegins⟩ := reach_of_isSated worker (t.scheduler.time + span) h
        exact ⟨⟨hsated.queue, hsated.pending⟩, hbegins⟩
      | save => exact absurd List.mem_cons_self hunsent
      | share =>
        obtain ⟨handles, hshare, -⟩ := happen_share t
        rw [perform, hshare]
        exact ⟨⟨h.queue, h.pending⟩, rfl⟩
      | release =>
        obtain ⟨handles, hrelease, -⟩ := happen_release t
        rw [perform, hrelease]
        exact ⟨⟨h.queue, h.pending⟩, rfl⟩
    exact (ih hact.1 hrest).trans hact.2

/-- If what the scheduler does leads to where nothing is wanted, no more passes start than those on
the way. -/
theorem beginTimes_play_of_leads {count time span : Nat} {after : Timeline} {begins : List Nat}
    (h : Leads worker (t.scheduler.time + span) count t after time begins)
    (hsated : after.scheduler.IsSated) {rest : List ClientAct}
    (hunsent : ClientAct.save ∉ rest) :
    (t.play worker (.wait span :: rest)).scheduler.beginTimes =
      t.scheduler.beginTimes ++ begins := by
  obtain ⟨hreached, hbegins⟩ :=
    reach_of_isSated worker (t.scheduler.time + span) hsated
  rw [← reach_eq_of_leads h] at hreached hbegins
  have hslept : (t.sleep worker span).scheduler.IsSated := ⟨hreached.queue, hreached.pending⟩
  calc (t.play worker (.wait span :: rest)).scheduler.beginTimes
      = (t.sleep worker span).scheduler.beginTimes := beginTimes_play_of_isSated hslept hunsent
    _ = after.scheduler.beginTimes := hbegins
    _ = t.scheduler.beginTimes ++ begins := h.begins

/-! ## The requests that came meanwhile -/

/-- The timeline when all requests have been taken in and the scheduler waits. -/
def drained (t : Timeline) : Timeline :=
  { t with scheduler := { t.scheduler.takeIn with phase := .waiting } }

/-- What is wanted when all requests have been taken in, where nothing else is. -/
theorem pending_drained (hpending : t.scheduler.pending = {}) :
    t.drained.scheduler.pending =
      { deadline :=
          if .saved ∈ t.scheduler.queue then some (t.scheduler.time + t.scheduler.quiet) else none
        immediate := decide (.now ∈ t.scheduler.queue) } :=
  Scheduler.takeIn_pending hpending

/-- When a pass is over, the requests that came meanwhile are taken in and the scheduler waits. -/
theorem leads_drained (worker : Worker) (hphase : t.scheduler.phase = .draining)
    (huncancelled : t.scheduler.cancelled = false) (hhorizon : t.scheduler.time ≤ horizon) :
    Leads worker horizon (1 + t.scheduler.queue.length) t t.drained t.scheduler.time [] := by
  have htake := leads_takeIn worker rfl (.inl hphase) huncancelled hhorizon
  have hresume := leads_resume worker (t := { t with scheduler := t.scheduler.takeIn }) hphase rfl
    hhorizon
  exact htake.trans hresume

/-- It makes no difference whether time passes before or after the requests are taken in. -/
theorem sleep_drained (hphase : t.scheduler.phase = .draining)
    (huncancelled : t.scheduler.cancelled = false) (span : Nat) :
    t.sleep worker span = t.drained.sleep worker span := by
  have hleads := leads_drained worker hphase huncancelled (Nat.le_add_right _ span)
  exact congrArg (moveTo · (t.scheduler.time + span)) (reach_eq_of_leads hleads)

/-- After a pass a client that sends nothing may change the number of handles first. When it lets
time pass the requests that came meanwhile are taken in. -/
theorem exists_play_drained (worker : Worker) (hphase : t.scheduler.phase = .draining)
    (huncancelled : t.scheduler.cancelled = false) {acts : List ClientAct}
    (hwait : ∃ span, ClientAct.wait span ∈ acts) (hunsent : ClientAct.save ∉ acts) :
    ∃ handles span rest, ClientAct.save ∉ rest ∧
      t.play worker acts = (t.withHandles handles).drained.play worker (.wait span :: rest) ∧
      ∀ now, endTime now acts = endTime now (.wait span :: rest) ∧
        desertedAt t.scheduler.handles now acts = desertedAt handles now (.wait span :: rest) := by
  induction acts generalizing t with
  | nil =>
    obtain ⟨span, hspan⟩ := hwait
    cases hspan
  | cons act rest ih =>
    have hrest : ClientAct.save ∉ rest := fun hmem => hunsent (List.mem_cons_of_mem _ hmem)
    -- If the first act leaves only another number of handles, the rest decides.
    have hthen : ∀ {handles : Nat}, t.perform worker act = t.withHandles handles →
        (∀ now, endTime now (act :: rest) = endTime now rest ∧
          desertedAt t.scheduler.handles now (act :: rest) = desertedAt handles now rest) →
        (∃ span, ClientAct.wait span ∈ rest) →
        ∃ handles span rest', ClientAct.save ∉ rest' ∧
          t.play worker (act :: rest) =
            (t.withHandles handles).drained.play worker (.wait span :: rest') ∧
          ∀ now, endTime now (act :: rest) = endTime now (.wait span :: rest') ∧
            desertedAt t.scheduler.handles now (act :: rest) =
              desertedAt handles now (.wait span :: rest') := by
      intro handles hperform hsame hwait'
      obtain ⟨handles', span, rest', hunsent', hplay, htimes⟩ :=
        ih (t := t.withHandles handles) hphase huncancelled hwait' hrest
      refine ⟨handles', span, rest', hunsent', ?_, fun now => ?_⟩
      · rw [play_cons, hperform, hplay]
        rfl
      · exact ⟨(hsame now).1.trans (htimes now).1, (hsame now).2.trans (htimes now).2⟩
    cases act with
    | wait span =>
      refine ⟨t.scheduler.handles, span, rest, hrest, ?_, fun now => ⟨rfl, rfl⟩⟩
      rw [play_cons, perform, sleep_drained hphase huncancelled]
      rfl
    | save => exact absurd List.mem_cons_self hunsent
    | share =>
      obtain ⟨handles, hshare, hdeserted⟩ := happen_share t
      exact hthen hshare (fun now => ⟨rfl, hdeserted now rest⟩) (by simpa using hwait)
    | release =>
      obtain ⟨handles, hrelease, hdeserted⟩ := happen_release t
      exact hthen hrelease (fun now => ⟨rfl, hdeserted now rest⟩) (by simpa using hwait)

/-! ## At once -/

/-- A pass that has to start at once starts now, and meets all that is wanted. -/
theorem leads_begin (worker : Worker) (hphase : t.scheduler.phase = .waiting)
    (hqueue : t.scheduler.queue = []) (hwanted : t.scheduler.pending.immediate = true)
    (hhorizon : t.scheduler.time ≤ horizon) :
    ∃ after, Leads worker horizon 1 t after t.scheduler.time [t.scheduler.time] ∧
      after.scheduler.IsSated := by
  have hnext : t.next? = some (t.scheduler.time, .begin) := by simp [next?, hphase, hwanted]
  have hstep := Scheduler.Step.begin (s := (t.moveTo t.scheduler.time).scheduler) hphase hwanted
  refine ⟨_, .of_next? hnext hhorizon (Nat.le_refl _) hstep rfl rfl, ?_⟩
  rw [scheduler_act worker hstep]
  exact ⟨hqueue, rfl⟩

/-! ## After the quiet period -/

section

variable {deadline : Option Nat}

theorem isIn_withHandles {phase : Phase} {queue : List Trigger} {pending : Pending}
    (h : t.scheduler.IsIn phase queue pending) {handles : Nat} (hheld : handles ≠ 0) :
    (t.withHandles handles).scheduler.IsIn phase queue pending :=
  ⟨h.phase, h.queue, h.pending, hheld, h.uncancelled⟩

/-- Nothing happens before the quiet period is over. -/
theorem sleep_of_isIn (worker : Worker) (h : t.scheduler.IsIn .waiting [] { deadline })
    {span : Nat} (hspan : ∀ d ∈ deadline, t.scheduler.time + span < d) :
    t.sleep worker span = t.moveTo (t.scheduler.time + span) := by
  have hquiet : t.IsQuiet (t.scheduler.time + span) := by
    intro time e hnext
    rw [next?_waiting h] at hnext
    obtain ⟨d, hd, heq⟩ := Option.map_eq_some_iff.mp hnext
    cases heq
    exact Nat.lt_of_lt_of_le (hspan d hd) (Nat.le_max_left _ _)
  exact congrArg (moveTo · (t.scheduler.time + span)) (reach_of_isQuiet hquiet)

/-- As long as a handle is left a pass starts when the quiet period is over. -/
theorem beginTimes_play_of_held {d : Nat}
    (h : t.scheduler.IsIn .waiting [] { deadline := some d }) (hlate : t.scheduler.time < d)
    {acts : List ClientAct} (hunsent : ClientAct.save ∉ acts)
    (hheld : ∀ gone ∈ desertedAt t.scheduler.handles t.scheduler.time acts, d < gone) :
    (t.play worker acts).scheduler.beginTimes =
      t.scheduler.beginTimes ++ [d].filter (· ≤ endTime t.scheduler.time acts) := by
  induction acts generalizing t with
  | nil =>
    have hearly : ¬d ≤ t.scheduler.time := Nat.not_le.mpr hlate
    simp [play, endTime, hearly]
  | cons act rest ih =>
    have hrest : ClientAct.save ∉ rest := fun hmem => hunsent (List.mem_cons_of_mem _ hmem)
    -- With another number of handles the scheduler waits all the same.
    have hthen : ∀ {handles : Nat},
        (∀ gone ∈ desertedAt handles t.scheduler.time rest, d < gone) →
        ((t.withHandles handles).play worker rest).scheduler.beginTimes =
          t.scheduler.beginTimes ++ [d].filter (· ≤ endTime t.scheduler.time rest) := by
      intro handles hheld'
      have hhandles : handles ≠ 0 := by
        rintro rfl
        have hnow := hheld' t.scheduler.time (by cases rest <;> rfl)
        omega
      exact ih (isIn_withHandles h hhandles) hlate hrest hheld'
    cases act with
    | wait span =>
      rw [desertedAt_wait h.held] at hheld
      by_cases hdue : d ≤ t.scheduler.time + span
      · obtain ⟨after, hexpire, hafter, -⟩ := leads_expire worker h (Nat.le_of_lt hlate) hdue
        have hcome : d ≤ endTime t.scheduler.time (.wait span :: rest) :=
          Nat.le_trans hdue (le_endTime _ rest)
        rw [beginTimes_play_of_leads hexpire ⟨hafter.queue, hafter.pending⟩ hrest,
          List.filter_cons, if_pos (decide_eq_true hcome)]
        rfl
      · have hspan : ∀ d' ∈ some d, t.scheduler.time + span < d' := by
          rintro d' ⟨⟩
          exact Nat.lt_of_not_le hdue
        have htime : (t.moveTo (t.scheduler.time + span)).scheduler.time =
            t.scheduler.time + span := Nat.max_eq_left (Nat.le_add_right _ _)
        have hrun := ih (isIn_moveTo h (t.scheduler.time + span))
          (htime.symm ▸ Nat.lt_of_not_le hdue) hrest (by rw [htime]; exact hheld)
        rw [htime] at hrun
        rw [play_cons, perform, sleep_of_isIn worker h hspan]
        exact hrun
    | save => exact absurd List.mem_cons_self hunsent
    | share =>
      obtain ⟨handles, hshare, hdeserted⟩ := happen_share t
      rw [hdeserted] at hheld
      rw [play_cons, perform, hshare]
      exact hthen hheld
    | release =>
      obtain ⟨handles, hrelease, hdeserted⟩ := happen_release t
      rw [hdeserted] at hheld
      rw [play_cons, perform, hrelease]
      exact hthen hheld

/-- Without a handle no pass starts if the quiet period is not over by then. -/
theorem play_of_deserted (h : t.scheduler.IsIn .waiting [] { deadline })
    {acts : List ClientAct} (hunsent : ClientAct.save ∉ acts) {gone : Nat}
    (hgone : gone ∈ desertedAt t.scheduler.handles t.scheduler.time acts)
    (hlate : ∀ d ∈ deadline, gone < d) :
    (t.play worker acts).scheduler.IsForlorn ∧
      (t.play worker acts).scheduler.beginTimes = t.scheduler.beginTimes := by
  induction acts generalizing t with
  | nil =>
    obtain ⟨handles, hhandles⟩ := Nat.exists_eq_succ_of_ne_zero h.held
    rw [hhandles] at hgone
    cases hgone
  | cons act rest ih =>
    have hrest : ClientAct.save ∉ rest := fun hmem => hunsent (List.mem_cons_of_mem _ hmem)
    -- With another number of handles the scheduler waits all the same, or it is left alone.
    have hthen : ∀ {handles : Nat}, gone ∈ desertedAt handles t.scheduler.time rest →
        ((t.withHandles handles).play worker rest).scheduler.IsForlorn ∧
          ((t.withHandles handles).play worker rest).scheduler.beginTimes =
            t.scheduler.beginTimes := by
      intro handles hgone'
      by_cases hhandles : handles = 0
      · subst hhandles
        have hforlorn : (t.withHandles 0).scheduler.IsForlorn :=
          ⟨rfl, congrArg Pending.immediate h.pending, by simp [withHandles, h.queue],
            .inl h.phase⟩
        exact play_of_isForlorn hforlorn rest
      · exact ih (isIn_withHandles h hhandles) hrest hgone'
    cases act with
    | wait span =>
      rw [desertedAt_wait h.held] at hgone
      have hspan : ∀ d ∈ deadline, t.scheduler.time + span < d := fun d hd =>
        Nat.lt_of_le_of_lt (le_of_mem_desertedAt hgone) (hlate d hd)
      have htime : (t.moveTo (t.scheduler.time + span)).scheduler.time =
          t.scheduler.time + span := Nat.max_eq_left (Nat.le_add_right _ _)
      have hrun := ih (isIn_moveTo h (t.scheduler.time + span)) hrest
        (by rw [htime]; exact hgone)
      rw [play_cons, perform, sleep_of_isIn worker h hspan]
      exact hrun
    | save => exact absurd List.mem_cons_self hunsent
    | share =>
      obtain ⟨handles, hshare, hdeserted⟩ := happen_share t
      rw [hdeserted] at hgone
      rw [play_cons, perform, hshare]
      exact hthen hgone
    | release =>
      obtain ⟨handles, hrelease, hdeserted⟩ := happen_release t
      rw [hdeserted] at hgone
      rw [play_cons, perform, hrelease]
      exact hthen hgone

end

/-! ## After the requests that came meanwhile -/

section

variable {span : Nat} {rest : List ClientAct}

/-- A request that is to be met at once makes for one pass as soon as the one before is over, and
the saves beside it make for none. -/
theorem beginTimes_drained_of_now (hpending : t.scheduler.pending = {})
    (hnow : .now ∈ t.scheduler.queue) (hunsent : ClientAct.save ∉ rest) :
    (t.drained.play worker (.wait span :: rest)).scheduler.beginTimes =
      t.scheduler.beginTimes ++ [t.scheduler.time] := by
  have hwanted : t.drained.scheduler.pending.immediate = true := by
    rw [pending_drained hpending]
    exact decide_eq_true hnow
  obtain ⟨after, hbegin, hsated⟩ :=
    leads_begin worker (t := t.drained) rfl rfl hwanted (Nat.le_add_right _ span)
  exact beginTimes_play_of_leads hbegin hsated hunsent

/-- Saves alone make for one pass, if a handle is left until it has been quiet for long enough. -/
theorem beginTimes_drained_of_held (hpending : t.scheduler.pending = {})
    (huncancelled : t.scheduler.cancelled = false) (hnow : .now ∉ t.scheduler.queue)
    (hnonempty : t.scheduler.queue ≠ []) (hunsent : ClientAct.save ∉ rest)
    (hheld : ∀ gone ∈ desertedAt t.scheduler.handles t.scheduler.time (.wait span :: rest),
      t.scheduler.time + t.scheduler.quiet < gone) :
    (t.drained.play worker (.wait span :: rest)).scheduler.beginTimes =
      t.scheduler.beginTimes ++ [t.scheduler.time + t.scheduler.quiet].filter
        (· ≤ endTime t.scheduler.time (.wait span :: rest)) := by
  have hsaved : .saved ∈ t.scheduler.queue := by
    obtain ⟨x, hx⟩ := List.exists_mem_of_ne_nil _ hnonempty
    cases x with
    | saved => exact hx
    | now => exact absurd hx hnow
  have hhandles : t.scheduler.handles ≠ 0 := by
    intro hzero
    rw [hzero] at hheld
    have := hheld t.scheduler.time rfl
    omega
  have hin : t.drained.scheduler.IsIn .waiting []
      { deadline := some (t.scheduler.time + t.scheduler.quiet) } := by
    refine ⟨rfl, rfl, ?_, hhandles, huncancelled⟩
    rw [pending_drained hpending, if_pos hsaved, decide_eq_false hnow]
  by_cases hquiet : t.scheduler.time < t.scheduler.time + t.scheduler.quiet
  · exact beginTimes_play_of_held hin hquiet (by simpa using hunsent) hheld
  · -- there is no quiet period, and the pass is due as soon as time passes
    have hdue : t.scheduler.time + t.scheduler.quiet ≤ t.scheduler.time + span := by omega
    obtain ⟨after, hexpire, hafter, -⟩ := leads_expire worker hin (Nat.le_add_right _ _) hdue
    have hcome : t.scheduler.time + t.scheduler.quiet ≤
        endTime t.scheduler.time (.wait span :: rest) := Nat.le_trans hdue (le_endTime _ rest)
    rw [beginTimes_play_of_leads hexpire ⟨hafter.queue, hafter.pending⟩ hunsent,
      List.filter_cons, if_pos (decide_eq_true hcome)]
    rfl

/-- Saves alone make for no pass, if the last handle is given up before. -/
theorem play_drained_of_deserted (hpending : t.scheduler.pending = {})
    (huncancelled : t.scheduler.cancelled = false) (hnow : .now ∉ t.scheduler.queue)
    (hunsent : ClientAct.save ∉ rest) {gone : Nat}
    (hgone : gone ∈ desertedAt t.scheduler.handles t.scheduler.time (.wait span :: rest))
    (hearly : gone < t.scheduler.time + t.scheduler.quiet) :
    (t.drained.play worker (.wait span :: rest)).scheduler.IsForlorn ∧
      (t.drained.play worker (.wait span :: rest)).scheduler.beginTimes =
        t.scheduler.beginTimes := by
  have hwants : t.drained.scheduler.pending =
      { deadline := if .saved ∈ t.scheduler.queue
          then some (t.scheduler.time + t.scheduler.quiet) else none } := by
    rw [pending_drained hpending, decide_eq_false hnow]
  by_cases hhandles : t.scheduler.handles = 0
  · have hforlorn : t.drained.scheduler.IsForlorn :=
      ⟨hhandles, congrArg Pending.immediate hwants, List.not_mem_nil, .inl rfl⟩
    exact play_of_isForlorn hforlorn _
  · refine play_of_deserted ⟨rfl, rfl, hwants, hhandles, huncancelled⟩ (by simpa using hunsent)
      hgone fun d hd => ?_
    split at hd
    · cases hd
      exact hearly
    · cases hd

/-- Without requests no pass starts. -/
theorem beginTimes_drained_of_nil (hpending : t.scheduler.pending = {})
    (hqueue : t.scheduler.queue = []) (hunsent : ClientAct.save ∉ rest) :
    (t.drained.play worker (.wait span :: rest)).scheduler.beginTimes =
      t.scheduler.beginTimes := by
  have hsated : t.drained.scheduler.IsSated := by
    refine ⟨rfl, ?_⟩
    rw [pending_drained hpending, hqueue]
    rfl
  exact beginTimes_play_of_isSated hsated (by simpa using hunsent)

end

/-! ## Whole runs -/

/-- After a pass of a scheduler that was not cancelled, with the given requests in the queue and a
client that sends nothing more but lets time pass and may copy and give up handles:

* if one of the requests is to be met at once, exactly one more pass starts, and it starts now;
* if all of them are saves and a handle is left when the quiet period is over, exactly one more pass
  starts, one quiet period from now;
* if all of them are saves and the last handle is given up before that, the scheduler stops and no
  pass starts;
* if there are none, no pass starts.

A client that gives up its last handle just when the quiet period is over is left out. -/
theorem passes_coalesced (worker : Worker) (s : Scheduler) (events : List ScheduleEvent)
    (t : Timeline) (acts : List ClientAct) (hwaits : s.phase = .waiting)
    (hrun : s.run? (events ++ [.deliver]) = some t.scheduler)
    (huncancelled : t.scheduler.cancelled = false)
    (hwait : ∃ span, ClientAct.wait span ∈ acts) (hunsent : ClientAct.save ∉ acts) :
    let due := t.scheduler.time + t.scheduler.quiet
    let gone := desertedAt t.scheduler.handles t.scheduler.time acts
    (t.play worker acts).scheduler.time = endTime t.scheduler.time acts ∧
    (.now ∈ t.scheduler.queue →
      (t.play worker acts).scheduler.beginTimes =
        t.scheduler.beginTimes ++ [t.scheduler.time]) ∧
    (.now ∉ t.scheduler.queue → t.scheduler.queue ≠ [] → (∀ d ∈ gone, due < d) →
      (t.play worker acts).scheduler.beginTimes =
        t.scheduler.beginTimes ++ [due].filter (· ≤ (t.play worker acts).scheduler.time)) ∧
    (.now ∉ t.scheduler.queue → (∃ d ∈ gone, d < due) →
      (t.play worker acts).scheduler.beginTimes = t.scheduler.beginTimes ∧
        ∀ span, (t.play worker (acts ++ [.wait span])).scheduler.phase = .stopped) ∧
    (t.scheduler.queue = [] →
      (t.play worker acts).scheduler.beginTimes = t.scheduler.beginTimes) := by
  intro due gone
  obtain ⟨hphase, hpending⟩ := Scheduler.pending_of_run?_deliver hwaits hrun
  obtain ⟨handles, span, rest, hunsent', hplay, htimes⟩ :=
    exists_play_drained worker hphase huncancelled hwait hunsent
  obtain ⟨hend, hgone⟩ := htimes t.scheduler.time
  let u := t.withHandles handles
  refine ⟨time_play worker t acts, ?_, ?_, ?_, ?_⟩
  · intro hnow
    rw [hplay]
    exact beginTimes_drained_of_now (t := u) hpending hnow hunsent'
  · intro hnow hnonempty hheld
    have hheld' : ∀ d ∈ desertedAt handles t.scheduler.time (.wait span :: rest), due < d :=
      hgone ▸ hheld
    rw [time_play, hend, hplay]
    exact beginTimes_drained_of_held (t := u) hpending huncancelled hnow hnonempty hunsent' hheld'
  · rintro hnow ⟨d, hd, hearly⟩
    have hd' : d ∈ desertedAt handles t.scheduler.time (.wait span :: rest) := hgone ▸ hd
    obtain ⟨hforlorn, hbegins⟩ :=
      play_drained_of_deserted (t := u) hpending huncancelled hnow hunsent' hd' hearly
    rw [← hplay] at hforlorn hbegins
    refine ⟨hbegins, fun span' => ?_⟩
    have hlast : t.play worker (acts ++ [.wait span']) =
        (t.play worker acts).sleep worker span' := List.foldl_append
    rw [hlast]
    exact phase_sleep_of_isForlorn hforlorn span'
  · intro hqueue
    rw [hplay]
    exact beginTimes_drained_of_nil (t := u) hpending hqueue hunsent'

/-- A scheduler with one handle and a quiet period of three. -/
def attended : Scheduler := { pipeline := { root := ⟨[]⟩ }, quiet := 3 }

/-- A failing pass that takes two, during which requests are sent and other things happen. -/
def passWith (requests : List Trigger) (others : List ScheduleEvent) : List ScheduleEvent :=
  [.send .now, .receive, .begin] ++ requests.map .send ++ others ++
    [.elapse 2, .settle (.error (.notFound [])), .deliver]

/-- Saves around a request to be met at once make for one pass, and so do saves alone, but not if
both handles are given up in the quiet period. -/
theorem passes_coalesced_mixed_and_saves :
    (∃ returned, attended.run? (passWith [.saved, .now, .saved] []) = some returned ∧
      (play (fun _ => { span := 4 }) { scheduler := returned }
        [.wait 1, .wait 20]).scheduler.beginTimes = [0, 2]) ∧
    ∃ returned, attended.run? (passWith [.saved, .saved] []) = some returned ∧
      (play (fun _ => { span := 4 }) { scheduler := returned }
        [.wait 1, .wait 20]).scheduler.beginTimes = [0, 5] ∧
      (play (fun _ => { span := 4 }) { scheduler := returned }
        [.share, .wait 1, .release, .wait 1, .release, .wait 20]).scheduler.beginTimes = [0] := by
  have hmixed : Trigger.now ∈ [.saved, .now, .saved] := by decide
  have hsaves : Trigger.now ∉ [.saved, .saved] := by decide
  constructor
  · refine ⟨_, rfl, ?_⟩
    have hpasses := passes_coalesced (fun _ => { span := 4 }) attended
      (passWith [.saved, .now, .saved] []).dropLast { scheduler := _ } [.wait 1, .wait 20]
      rfl rfl rfl ⟨1, List.mem_cons_self⟩ (by simp)
    exact hpasses.2.1 hmixed
  · refine ⟨_, rfl, ?_, ?_⟩
    · have hpasses := passes_coalesced (fun _ => { span := 4 }) attended
        (passWith [.saved, .saved] []).dropLast { scheduler := _ } [.wait 1, .wait 20]
        rfl rfl rfl ⟨1, List.mem_cons_self⟩ (by simp)
      have hbegins := hpasses.2.2.1 hsaves (List.cons_ne_nil _ _) nofun
      exact hbegins.trans (congrArg (fun now => [0] ++ [5].filter (· ≤ now)) hpasses.1)
    · have hpasses := passes_coalesced (fun _ => { span := 4 }) attended
        (passWith [.saved, .saved] []).dropLast { scheduler := _ }
        [.share, .wait 1, .release, .wait 1, .release, .wait 20]
        rfl rfl rfl ⟨1, by simp⟩ (by simp)
      exact (hpasses.2.2.2.1 hsaves ⟨4, rfl, by decide⟩).1

/-- A save during a pass makes for no other pass if the last handle is given up before the pass is
over, although nothing was cancelled. -/
theorem save_lost_without_handles :
    ∃ returned, attended.run? (passWith [.saved] [.release]) = some returned ∧
      returned.cancelled = false ∧ returned.queue = [.saved] ∧
      (play (fun _ => {}) { scheduler := returned } [.wait 100]).scheduler.beginTimes =
        returned.beginTimes := by
  exact ⟨_, rfl, rfl, rfl, rfl⟩

end Timeline

end Deadwood
