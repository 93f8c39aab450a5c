import Deadwood.Proofs.Schedule.Client
import Mathlib.Data.List.Chain

/-!
# Saves and the passes they lead to

A client that saves files makes a scheduler start a pass one quiet period after each save that is
followed by no other save within that period, as long as it keeps a handle.

* `passTimes`, `startTimes` : when passes start, for a sequence of saves and for a client's acts;
* `HasHeard` : all that the scheduler remembers between two acts of the client is the last save;
* `HasHeard.sleep`, `HasHeard.sleep_pass`, `HasHeard.save` : what one act of the client leads to;
* `beginTimes_play` : what all its acts lead to.
-/

namespace Deadwood

/-! ## Clients -/

/-- Saving at the given times, and letting so much time pass in the end. -/
def savesAt (span now : Nat) : List Nat → List ClientAct
  | [] => [.wait span]
  | time :: rest => .wait (time - now) :: .save :: savesAt span time rest

/-- Every sequence of times in order is that of a client's saves. -/
theorem saveTimes_savesAt (span : Nat) {now : Nat} {times : List Nat}
    (h : (now :: times).Pairwise (· ≤ ·)) : saveTimes now (savesAt span now times) = times := by
  induction times generalizing now with
  | nil => rfl
  | cons time rest ih =>
    obtain ⟨hnow, hrest⟩ := List.pairwise_cons.mp h
    have htime : now + (time - now) = time := Nat.add_sub_cancel' (hnow time List.mem_cons_self)
    rw [savesAt, saveTimes, saveTimes, htime, ih hrest]

theorem add_le_endTime_savesAt (span : Nat) {now : Nat} {times : List Nat}
    (h : (now :: times).Pairwise (· ≤ ·)) :
    ∀ time ∈ now :: times, time + span ≤ endTime now (savesAt span now times) := by
  induction times generalizing now with
  | nil =>
    intro time hmem
    rw [List.mem_singleton.mp hmem]
    exact Nat.le_refl _
  | cons first rest ih =>
    obtain ⟨hnow, hrest⟩ := List.pairwise_cons.mp h
    have hfirst : now ≤ first := hnow first List.mem_cons_self
    rw [savesAt, endTime, endTime, Nat.add_sub_cancel' hfirst]
    intro time hmem
    rcases List.mem_cons.mp hmem with rfl | hmem
    · have hlater := ih hrest first List.mem_cons_self
      omega
    · exact ih hrest time hmem

/-- A client that only saves keeps its handles. -/
theorem desertedAt_savesAt {handles : Nat} (hheld : handles ≠ 0) (start span now : Nat)
    (times : List Nat) : desertedAt handles start (savesAt span now times) = none := by
  induction times generalizing start now with
  | nil =>
    rw [savesAt, desertedAt_wait hheld]
    obtain ⟨handles, rfl⟩ := Nat.exists_eq_succ_of_ne_zero hheld
    rfl
  | cons time rest ih =>
    rw [savesAt, desertedAt_wait hheld, desertedAt_save]
    exact ih _ time

/-! ## The saves that lead to passes -/

/-- When passes start, for saves at the given times: one quiet period after each save that no other
save follows within it. -/
def passTimes (quiet : Nat) : List Nat → List Nat
  | [] => []
  | [time] => [time + quiet]
  | time :: next :: rest =>
    if time + quiet < next then (time + quiet) :: passTimes quiet (next :: rest)
    else passTimes quiet (next :: rest)

/-- A save that no other save follows within the quiet period leads to a pass. -/
theorem passTimes_cons {quiet time : Nat} {rest : List Nat}
    (h : ∀ next ∈ rest.head?, time + quiet < next) :
    passTimes quiet (time :: rest) = (time + quiet) :: passTimes quiet rest := by
  cases rest with
  | nil => rfl
  | cons next rest => exact if_pos (h next rfl)

theorem passTimes_cons_cons {quiet time next : Nat} {rest : List Nat} (h : next ≤ time + quiet) :
    passTimes quiet (time :: next :: rest) = passTimes quiet (next :: rest) :=
  if_neg (Nat.not_lt.mpr h)

theorem exists_of_mem_passTimes {quiet start : Nat} {times : List Nat}
    (h : start ∈ passTimes quiet times) : ∃ time ∈ times, time + quiet = start := by
  fun_induction passTimes quiet times with
  | case1 => cases h
  | case2 time => exact ⟨time, List.mem_cons_self, (List.mem_singleton.mp h).symm⟩
  | case3 time next rest hgap ih =>
    rcases List.mem_cons.mp h with rfl | h
    · exact ⟨time, List.mem_cons_self, rfl⟩
    · obtain ⟨time', hmem, hstart⟩ := ih h
      exact ⟨time', List.mem_cons_of_mem _ hmem, hstart⟩
  | case4 time next rest hgap ih =>
    obtain ⟨time', hmem, hstart⟩ := ih h
    exact ⟨time', List.mem_cons_of_mem _ hmem, hstart⟩

/-- A burst of saves leads to one pass, one quiet period after the last of them. -/
theorem passTimes_burst {quiet : Nat} {times : List Nat} (hnonempty : times ≠ [])
    (h : times.IsChain fun time next => next < time + quiet) :
    passTimes quiet times = [times.getLast hnonempty + quiet] := by
  fun_induction passTimes quiet times with
  | case1 => exact absurd rfl hnonempty
  | case2 time => rfl
  | case3 time next rest hgap ih =>
    have := (List.isChain_cons_cons.mp h).1
    omega
  | case4 time next rest hgap ih =>
    have hrest : next :: rest ≠ [] := List.cons_ne_nil _ _
    rw [ih hrest (List.isChain_cons_cons.mp h).2, List.getLast_cons hrest]

/-- Saves that are further apart than the quiet period lead to one pass each. -/
theorem passTimes_spaced {quiet : Nat} {times : List Nat}
    (h : times.IsChain fun time next => time + quiet < next) :
    passTimes quiet times = times.map (· + quiet) := by
  fun_induction passTimes quiet times with
  | case1 => rfl
  | case2 time => rfl
  | case3 time next rest hgap ih =>
    rw [ih (List.isChain_cons_cons.mp h).2]
    rfl
  | case4 time next rest hgap ih => exact absurd (List.isChain_cons_cons.mp h).1 hgap

/-! ## What a client's acts foretell -/

/-- When passes start by what a client does, the last save before its acts being given: one for each
save that leads to one, but none after the acts and none after the last handle is given up. -/
def startTimes (quiet handles : Nat) (last : Option Nat) (now : Nat) (acts : List ClientAct) :
    List Nat :=
  (passTimes quiet (last.toList ++ saveTimes now acts)).filter fun start =>
    start ≤ endTime now acts ∧ ∀ d ∈ desertedAt handles now acts, start < d

/-- No save comes just when the quiet period of the one before it ends, and the last handle is not
given up just when a pass would start. -/
structure Untied (quiet handles : Nat) (last : Option Nat) (now : Nat) (acts : List ClientAct) :
    Prop where
  gaps : (last.toList ++ saveTimes now acts).IsChain fun time next => next ≠ time + quiet
  gone : ∀ d ∈ desertedAt handles now acts,
    d ∉ passTimes quiet (last.toList ++ saveTimes now acts)

section

variable {quiet handles now span saved : Nat} {last : Option Nat} {rest : List ClientAct}

/-- While the quiet period lasts nothing changes by waiting. -/
theorem startTimes_wait (hheld : handles ≠ 0) :
    startTimes quiet handles last now (.wait span :: rest) =
      startTimes quiet handles last (now + span) rest := by
  unfold startTimes
  rw [desertedAt_wait hheld]
  rfl

theorem Untied.wait (hheld : handles ≠ 0)
    (h : Untied quiet handles last now (.wait span :: rest)) :
    Untied quiet handles last (now + span) rest :=
  ⟨h.gaps, desertedAt_wait hheld now span rest ▸ h.gone⟩

/-- The next save comes after the quiet period that is over, and not just when it ends. -/
theorem Untied.passTimes_eq (h : Untied quiet handles (some saved) now rest)
    (hover : saved + quiet ≤ now) :
    passTimes quiet (saved :: saveTimes now rest) =
      (saved + quiet) :: passTimes quiet (saveTimes now rest) := by
  refine passTimes_cons fun next hnext => ?_
  have hlater := le_of_mem_saveTimes (List.mem_of_head? hnext)
  have hnot := (List.isChain_cons.mp h.gaps).1 next hnext
  omega

/-- When the quiet period is over by now its pass has started, whatever comes next. -/
theorem Untied.startTimes_of_over (h : Untied quiet handles (some saved) now rest)
    (hover : saved + quiet ≤ now) :
    startTimes quiet handles (some saved) now rest =
      (saved + quiet) :: startTimes quiet handles none now rest := by
  have hpasses := h.passTimes_eq hover
  have hkept : saved + quiet ≤ endTime now rest ∧
      ∀ d ∈ desertedAt handles now rest, saved + quiet < d := by
    refine ⟨Nat.le_trans hover (le_endTime now rest), fun d hd => ?_⟩
    have hlater := le_of_mem_desertedAt hd
    have hnot : d ≠ saved + quiet := by
      rintro rfl
      refine h.gone _ hd ?_
      rw [Option.toList_some, List.singleton_append, hpasses]
      exact List.mem_cons_self
    omega
  unfold startTimes
  rw [Option.toList_some, List.singleton_append, hpasses, List.filter_cons,
    if_pos (decide_eq_true hkept)]
  rfl

theorem Untied.of_over (h : Untied quiet handles (some saved) now rest)
    (hover : saved + quiet ≤ now) : Untied quiet handles none now rest := by
  refine ⟨(List.isChain_cons.mp h.gaps).2, fun d hd hmem => h.gone d hd ?_⟩
  rw [Option.toList_some, List.singleton_append, h.passTimes_eq hover]
  exact List.mem_cons_of_mem _ hmem

/-- A save takes the place of the one before, if the quiet period of that one is not over. -/
theorem passTimes_save (hunmet : ∀ time ∈ last, now < time + quiet) :
    passTimes quiet (last.toList ++ saveTimes now (.save :: rest)) =
      passTimes quiet ((some now).toList ++ saveTimes now rest) := by
  cases last with
  | none => rfl
  | some time => exact passTimes_cons_cons (Nat.le_of_lt (hunmet time rfl))

theorem startTimes_save (hunmet : ∀ time ∈ last, now < time + quiet) :
    startTimes quiet handles last now (.save :: rest) =
      startTimes quiet handles (some now) now rest := by
  unfold startTimes
  rw [passTimes_save hunmet, desertedAt_save]
  rfl

theorem Untied.save (hunmet : ∀ time ∈ last, now < time + quiet)
    (h : Untied quiet handles last now (.save :: rest)) :
    Untied quiet handles (some now) now rest := by
  obtain ⟨hgaps, hgone⟩ := h
  rw [passTimes_save hunmet, desertedAt_save] at hgone
  refine ⟨?_, hgone⟩
  cases last with
  | none => exact hgaps
  | some time => exact (List.isChain_cons.mp hgaps).2

/-- Without a handle no pass starts that is not due yet. -/
theorem startTimes_deserted (hquiet : 0 < quiet) (hunmet : ∀ time ∈ last, now < time + quiet) :
    startTimes quiet 0 last now rest = [] := by
  refine List.filter_eq_nil_iff.mpr fun start hstart hkept => ?_
  have hearly : start < now := (decide_eq_true_iff.mp hkept).2 now (by cases rest <;> rfl)
  obtain ⟨time, htime, rfl⟩ := exists_of_mem_passTimes hstart
  rcases List.mem_append.mp htime with hlast | hsaved
  · have := hunmet time (Option.mem_toList.mp hlast)
    omega
  · have := le_of_mem_saveTimes hsaved
    omega

end

namespace Timeline

/-! ## What the scheduler remembers -/

/-- The scheduler waits and has heard of saves only: the last one for which no pass has started was
at the given time, and its quiet period is not over. -/
structure HasHeard (t : Timeline) (last : Option Nat) : Prop where
  waits : ∃ queue pending, t.scheduler.IsIn .waiting queue pending ∧
    pending.immediate = false ∧ .now ∉ queue ∧
    (pending.absorbAll t.scheduler.quiet t.scheduler.time queue).deadline =
      last.map (· + t.scheduler.quiet)
  unmet : ∀ time ∈ last, t.scheduler.time < time + t.scheduler.quiet

section

variable {t : Timeline} {last : Option Nat}

theorem hasHeard_none (h : t.scheduler.IsIn .waiting [] {}) : t.HasHeard none :=
  ⟨⟨[], {}, h, rfl, List.not_mem_nil, rfl⟩, by simp⟩

/-- A scheduler that has taken in all requests remembers when the quiet period ends. -/
theorem hasHeard_of_isIn
    (h : t.scheduler.IsIn .waiting [] { deadline := last.map (· + t.scheduler.quiet) })
    (hunmet : ∀ time ∈ last, t.scheduler.time < time + t.scheduler.quiet) : t.HasHeard last :=
  ⟨⟨[], _, h, rfl, List.not_mem_nil, rfl⟩, hunmet⟩

/-- The scheduler takes in the saves it has been sent before it does anything else, and has time
for a pass after that. -/
theorem HasHeard.leads (worker : Worker) (h : t.HasHeard last) {horizon : Nat}
    (hhorizon : t.scheduler.time ≤ horizon) :
    ∃ count after, Leads worker horizon count t after t.scheduler.time [] ∧
      after.scheduler.IsIn .waiting [] { deadline := last.map (· + t.scheduler.quiet) } ∧
      count + (if last.isSome then 4 else 0) ≤ work t.scheduler := by
  obtain ⟨queue, pending, hin, himmediate, hnow, hdeadline⟩ := h.waits
  obtain ⟨after, hleads, hafter⟩ :=
    leads_receives worker hin (.inr ⟨rfl, himmediate, hnow⟩) rfl hhorizon
  have himmediate' :
      (pending.absorbAll t.scheduler.quiet t.scheduler.time queue).immediate = false := by
    rw [Pending.absorbAll_immediate, himmediate, Bool.false_or, List.contains_eq_mem]
    exact decide_eq_false hnow
  have hheard : pending.absorbAll t.scheduler.quiet t.scheduler.time queue =
      { deadline := last.map (· + t.scheduler.quiet) } := by
    rw [← hdeadline, ← himmediate']
  refine ⟨queue.length, after, hleads, hheard ▸ hafter, ?_⟩
  -- A deadline is there already, or a save in the queue leads to one.
  simp only [work, hin.queue, hin.pending, hin.phase, himmediate]
  cases queue with
  | nil =>
    have hdeadline : pending.deadline = last.map (· + t.scheduler.quiet) := hdeadline
    rw [hdeadline, Option.isSome_map]
    omega
  | cons x rest =>
    rw [List.length_cons]
    split <;> split <;> omega

/-- As long as the quiet period lasts nothing happens while time passes. -/
theorem HasHeard.sleep (worker : Worker) (h : t.HasHeard last) {span : Nat}
    (hspan : ∀ time ∈ last, t.scheduler.time + span < time + t.scheduler.quiet) :
    (t.sleep worker span).HasHeard last ∧
      t.Later (t.sleep worker span) (t.scheduler.time + span) [] := by
  have hhorizon : t.scheduler.time ≤ t.scheduler.time + span := Nat.le_add_right _ _
  obtain ⟨count, after, hleads, hafter, hcount⟩ := h.leads worker hhorizon
  have hquiet : ∀ time e, after.next? = some (time, e) → t.scheduler.time + span < time := by
    intro time e hnext
    rw [next?_waiting hafter, Option.map_map] at hnext
    obtain ⟨saved, hsaved, heq⟩ := Option.map_eq_some_iff.mp hnext
    have hunmet := hspan saved hsaved
    cases heq
    exact Nat.lt_of_lt_of_le hunmet (Nat.le_max_left _ _)
  rw [hleads.sleep_eq (Nat.le_of_add_right_le hcount) hquiet]
  have hlater := hleads.toLater.moveTo hhorizon
  refine ⟨hasHeard_of_isIn ?_ ?_, hlater⟩
  · rw [hlater.quiet]
    exact isIn_moveTo hafter _
  · rw [hlater.time, hlater.quiet]
    exact hspan

/-- When the quiet period is over a pass starts and the save is forgotten. -/
theorem HasHeard.sleep_pass (worker : Worker) (hinstant : ∀ n, (worker n).span = 0) {saved : Nat}
    (h : t.HasHeard (some saved)) {span : Nat}
    (hspan : saved + t.scheduler.quiet ≤ t.scheduler.time + span) :
    (t.sleep worker span).HasHeard none ∧
      t.Later (t.sleep worker span) (t.scheduler.time + span)
        [saved + t.scheduler.quiet] := by
  have hhorizon : t.scheduler.time ≤ t.scheduler.time + span := Nat.le_add_right _ _
  obtain ⟨count, received, hreceive, hreceived, hcount⟩ := h.leads worker hhorizon
  have hunmet : received.scheduler.time ≤ saved + t.scheduler.quiet := by
    rw [hreceive.time]
    exact Nat.le_of_lt (h.unmet saved rfl)
  obtain ⟨passing, hexpire, hpassing, hends⟩ := leads_expire worker hreceived hunmet hspan
  have hdue : passing.due = saved + t.scheduler.quiet := by
    rw [hends, hinstant]
    rfl
  have hdueSpan : passing.due ≤ t.scheduler.time + span := hdue ▸ hspan
  obtain ⟨after, hfinish, hafter⟩ :=
    leads_finish worker hpassing (Nat.le_of_eq (hexpire.time.trans hdue.symm)) hdueSpan
  have hleads := hreceive.trans (hexpire.trans hfinish)
  have hquiet : ∀ time e, after.next? = some (time, e) → t.scheduler.time + span < time := by
    intro time e hnext
    rw [next?_waiting hafter] at hnext
    cases hnext
  have hwork : count + 4 ≤ work t.scheduler := hcount
  rw [hleads.sleep_eq (by rw [List.length_nil]; omega) hquiet]
  exact ⟨hasHeard_none (isIn_moveTo hafter _), hleads.toLater.moveTo hdueSpan⟩

/-- A save is heard, and those before it for which no pass has started are forgotten. -/
theorem HasHeard.save (h : t.HasHeard last) (hquiet : 0 < t.scheduler.quiet) :
    (t.happen (.send .saved)).HasHeard (some t.scheduler.time) ∧
      t.Later (t.happen (.send .saved)) t.scheduler.time [] ∧
      (t.happen (.send .saved)).scheduler.handles = t.scheduler.handles := by
  obtain ⟨queue, pending, hin, himmediate, hnow, -⟩ := h.waits
  obtain ⟨hsent, hlater⟩ := isIn_send hin (by simp) .saved
  refine ⟨⟨⟨_, pending, hsent, himmediate, ?_, ?_⟩, ?_⟩, hlater, ?_⟩
  · simpa using hnow
  · rw [hlater.time, hlater.quiet, Pending.absorbAll_deadline]
    simp
  · intro time htime
    cases htime
    rw [hlater.time, hlater.quiet]
    exact Nat.lt_add_of_pos_right hquiet
  · rw [happen_of_step (.send .saved hin.held (by simp [hin.phase]))]

/-- What the scheduler remembers does not depend on the handles, as long as one is left. -/
theorem HasHeard.withHandles (h : t.HasHeard last) {handles : Nat} (hheld : handles ≠ 0) :
    (t.withHandles handles).HasHeard last := by
  obtain ⟨queue, pending, hin, hrest⟩ := h.waits
  exact ⟨⟨queue, pending, ⟨hin.phase, hin.queue, hin.pending, hheld, hin.uncancelled⟩, hrest⟩,
    h.unmet⟩

/-- Without a handle the scheduler is left alone. -/
theorem HasHeard.isForlorn (h : t.HasHeard last) : (t.withHandles 0).scheduler.IsForlorn := by
  obtain ⟨queue, pending, hin, himmediate, hnow, -⟩ := h.waits
  exact ⟨rfl, hin.pending ▸ himmediate, hin.queue ▸ hnow, .inl hin.phase⟩

theorem HasHeard.held (h : t.HasHeard last) : t.scheduler.handles ≠ 0 := by
  obtain ⟨queue, pending, hin, -⟩ := h.waits
  exact hin.held

end

/-! ## Whole runs -/

/-- While a client acts passes start when its acts foretell. -/
theorem beginTimes_play (worker : Worker) (hinstant : ∀ n, (worker n).span = 0) {t : Timeline}
    {last : Option Nat} (h : t.HasHeard last) (hquiet : 0 < t.scheduler.quiet)
    (acts : List ClientAct)
    (huntied : Untied t.scheduler.quiet t.scheduler.handles last t.scheduler.time acts) :
    (t.play worker acts).scheduler.beginTimes = t.scheduler.beginTimes ++
      startTimes t.scheduler.quiet t.scheduler.handles last t.scheduler.time acts := by
  induction acts generalizing t last with
  | nil =>
    cases last with
    | none => exact (List.append_nil _).symm
    | some saved =>
      have hlate : ¬saved + t.scheduler.quiet ≤ t.scheduler.time := by
        have := h.unmet saved rfl
        omega
      simp [play, startTimes, saveTimes, endTime, passTimes, hlate]
  | cons act rest ih =>
    -- What the rest of the acts leads to, from where the first act has led with the same handles.
    have hthen : ∀ {after : Timeline} {last' : Option Nat} {now : Nat} {begins : List Nat},
        after.HasHeard last' → t.Later after now begins →
        after.scheduler.handles = t.scheduler.handles →
        Untied t.scheduler.quiet t.scheduler.handles last' now rest →
        (after.play worker rest).scheduler.beginTimes = t.scheduler.beginTimes ++ (begins ++
          startTimes t.scheduler.quiet t.scheduler.handles last' now rest) := by
      intro after last' now begins hheard hlater hhandles huntied'
      rw [← hlater.quiet, ← hlater.time, ← hhandles] at huntied' ⊢
      rw [ih hheard (hlater.quiet ▸ hquiet) huntied', hlater.begins, List.append_assoc]
    -- With another number of handles the scheduler remembers the same, or it is left alone.
    have halone : ∀ {handles : Nat}, t.perform worker act = t.withHandles handles →
        saveTimes t.scheduler.time (act :: rest) = saveTimes t.scheduler.time rest →
        endTime t.scheduler.time (act :: rest) = endTime t.scheduler.time rest →
        desertedAt t.scheduler.handles t.scheduler.time (act :: rest) =
          desertedAt handles t.scheduler.time rest →
        (t.play worker (act :: rest)).scheduler.beginTimes = t.scheduler.beginTimes ++
          startTimes t.scheduler.quiet t.scheduler.handles last t.scheduler.time
            (act :: rest) := by
      intro handles hperform hsaves hend hdeserted
      have huntied' : Untied t.scheduler.quiet handles last t.scheduler.time rest :=
        ⟨hsaves ▸ huntied.gaps, hsaves ▸ hdeserted ▸ huntied.gone⟩
      rw [play_cons, hperform, startTimes, hsaves, hend, hdeserted, ← startTimes]
      by_cases hhandles : handles = 0
      · subst hhandles
        rw [(play_of_isForlorn h.isForlorn rest).2, startTimes_deserted hquiet h.unmet,
          List.append_nil]
        rfl
      · exact ih (h.withHandles hhandles) hquiet huntied'
    cases act with
    | wait span =>
      have hwaited := huntied.wait h.held
      rw [startTimes_wait h.held, play_cons, perform]
      by_cases hpass : ∃ saved ∈ last, saved + t.scheduler.quiet ≤ t.scheduler.time + span
      · obtain ⟨saved, rfl, hover⟩ := hpass
        obtain ⟨hheard, hlater⟩ := h.sleep_pass worker hinstant hover
        rw [hwaited.startTimes_of_over hover]
        exact hthen hheard hlater (handles_sleep worker t span) (hwaited.of_over hover)
      · have hspan : ∀ saved ∈ last, t.scheduler.time + span < saved + t.scheduler.quiet :=
          fun saved hsaved => Nat.lt_of_not_le fun hle => hpass ⟨saved, hsaved, hle⟩
        obtain ⟨hheard, hlater⟩ := h.sleep worker hspan
        exact hthen hheard hlater (handles_sleep worker t span) hwaited
    | save =>
      obtain ⟨hheard, hlater, hhandles⟩ := h.save hquiet
      rw [startTimes_save h.unmet, play_cons, perform]
      exact hthen hheard hlater hhandles (huntied.save h.unmet)
    | share =>
      obtain ⟨handles, hshare, hdeserted⟩ := happen_share t
      exact halone hshare rfl rfl (hdeserted _ rest)
    | release =>
      obtain ⟨handles, hrelease, hdeserted⟩ := happen_release t
      exact halone hrelease rfl rfl (hdeserted _ rest)

/-- A scheduler at rest whose passes take no time starts passes at exactly the times that a client's
saves say: one quiet period after each save that is the last or that the next one follows later than
that, as long as the client keeps a handle. A client that gives up its last handle just when a pass
would start is left out. There are clients for all times in order, and after the last quiet period
all these passes have started. A burst of saves leads to a single pass, saves that are far apart to
one each. -/
theorem passes_debounced (worker : Worker) (t : Timeline) (times : List Nat)
    (hrest : t.scheduler.IsIn .waiting [] {}) (hquiet : 0 < t.scheduler.quiet)
    (hinstant : ∀ n, (worker n).span = 0) (hnonempty : times ≠ [])
    (hsorted : (t.scheduler.time :: times).Pairwise (· ≤ ·))
    (hgaps : times.IsChain fun time next => next ≠ time + t.scheduler.quiet) :
    (∀ acts, saveTimes t.scheduler.time acts = times →
      let gone := desertedAt t.scheduler.handles t.scheduler.time acts
      (∀ d ∈ gone, d ∉ passTimes t.scheduler.quiet times) →
      (t.play worker acts).scheduler.beginTimes =
        t.scheduler.beginTimes ++ (passTimes t.scheduler.quiet times).filter fun start =>
          start ≤ (t.play worker acts).scheduler.time ∧ ∀ d ∈ gone, start < d) ∧
    (∃ acts, saveTimes t.scheduler.time acts = times ∧
      (t.play worker acts).scheduler.beginTimes =
        t.scheduler.beginTimes ++ passTimes t.scheduler.quiet times) ∧
    ((times.IsChain fun time next => next < time + t.scheduler.quiet) →
      passTimes t.scheduler.quiet times = [times.getLast hnonempty + t.scheduler.quiet]) ∧
    ((times.IsChain fun time next => time + t.scheduler.quiet < next) →
      passTimes t.scheduler.quiet times = times.map (· + t.scheduler.quiet)) := by
  have hruns : ∀ acts, saveTimes t.scheduler.time acts = times →
      (∀ d ∈ desertedAt t.scheduler.handles t.scheduler.time acts,
        d ∉ passTimes t.scheduler.quiet times) →
      (t.play worker acts).scheduler.beginTimes = t.scheduler.beginTimes ++
        startTimes t.scheduler.quiet t.scheduler.handles none t.scheduler.time acts := by
    rintro acts rfl hgone
    exact beginTimes_play worker hinstant (hasHeard_none hrest) hquiet acts ⟨hgaps, hgone⟩
  refine ⟨?_, ?_, passTimes_burst hnonempty, passTimes_spaced⟩
  · rintro acts rfl gone hgone
    rw [time_play]
    exact hruns acts rfl hgone
  · have hacts := saveTimes_savesAt t.scheduler.quiet hsorted
    have hkept := desertedAt_savesAt hrest.held t.scheduler.time t.scheduler.quiet
      t.scheduler.time times
    refine ⟨_, hacts, ?_⟩
    have hcome : ∀ start ∈ passTimes t.scheduler.quiet times,
        start ≤ endTime t.scheduler.time
          (savesAt t.scheduler.quiet t.scheduler.time times) := by
      intro start hstart
      obtain ⟨time, htime, rfl⟩ := exists_of_mem_passTimes hstart
      exact add_le_endTime_savesAt _ hsorted time (List.mem_cons_of_mem _ htime)
    rw [hruns _ hacts (by simp [hkept]), startTimes, hacts, hkept]
    congr 1
    exact List.filter_eq_self.mpr fun start hstart => decide_eq_true ⟨hcome start hstart, nofun⟩

/-- Two saves close to each other lead to one pass, and a third one to its own, but not if the last
handle is given up in its quiet period. -/
theorem passes_debounced_pair_and_single :
    let t : Timeline := { scheduler := { pipeline := { root := ⟨[]⟩ }, quiet := 3 } }
    (t.play (fun _ => {}) [.wait 2, .save, .wait 1, .save, .wait 7, .save,
      .wait 3]).scheduler.beginTimes = [6, 13] ∧
    (t.play (fun _ => {}) [.share, .wait 2, .save, .wait 1, .save, .release, .wait 7, .save,
      .wait 2, .release, .wait 5]).scheduler.beginTimes = [6] := by
  intro t
  have hpasses := passes_debounced (fun _ => {}) t [2, 3, 10]
    ⟨rfl, rfl, rfl, Nat.one_ne_zero, rfl⟩ (by decide) (fun _ => rfl) (by decide) (by decide)
    (by decide)
  constructor
  · rw [hpasses.1 _ rfl (by decide)]
    decide
  · rw [hpasses.1 _ rfl (by decide)]
    decide

end Timeline

end Deadwood
