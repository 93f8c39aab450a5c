import Deadwood.Proofs.Schedule.Requests
import Deadwood.Proofs.Schedule.Timeline

/-!
# Letting time pass

While time passes the scheduler does one thing after another, at most as many as `work` says. This
module shows that the bound cuts nothing off: all that is due is done (`reach`), and it makes no
difference in how many portions time is let pass.

* `exists_step_of_next?` : what is next can happen;
* `reach_induction` : what holds where nothing is due, and before a thing that is due if it holds
  after it, holds always;
* `reach_reach` : what is due up to a time is due up to any later time, and done first;
* `sleep_sleep` : two portions of time are one.
-/

namespace Deadwood

/-- Whether an event is something that the scheduler does by itself. -/
def ScheduleEvent.isOwn : ScheduleEvent → Bool
  | .receive | .begin | .expire | .settle _ | .deliver | .resume | .abort | .stop => true
  | .elapse _ | .send _ | .share | .release | .cancel => false

/-- How much of a pass is ahead in a phase. -/
def Phase.work : Phase → Nat
  | .waiting => 1
  | .passing => 4
  | .delivering _ => 3
  | .draining => 2
  | .stopped => 0

namespace Timeline

/-! ## Every thing done is work done -/

theorem work_eq (s : Scheduler) :
    work s = 5 * s.queue.length + 4 * s.pending.weight + s.phase.work := by
  unfold work Pending.weight
  cases s.pending.immediate <;> cases s.pending.deadline.isSome <;> cases s.phase <;> rfl

/-- What the scheduler does by itself leaves less work. -/
theorem work_lt_of_step {s s' : Scheduler} {e : ScheduleEvent} (h : s.Step e s')
    (hown : e.isOwn = true) : work s' < work s := by
  rw [work_eq, work_eq]
  cases h with
  | receive hqueue _ =>
    rename_i x rest _
    have hweight := Pending.weight_absorb_le s.quiet s.time s.pending x
    have hlength : s.queue.length = rest.length + 1 := by rw [hqueue, List.length_cons]
    dsimp only
    omega
  | begin hphase hwanted =>
    have hweight : 1 ≤ s.pending.weight := by simp [Pending.weight, hwanted]
    have hrest : ({} : Pending).weight = 0 := rfl
    simp only [Scheduler.startPass, hphase, hrest, Phase.work]
    omega
  | expire hphase hunwanted hdeadline _ =>
    simp [Scheduler.startPass, Pending.weight, Phase.work, hphase, hunwanted, hdeadline]
  | settle _ hphase | deliver hphase | resume hphase _ =>
    rw [hphase]
    exact Nat.lt_succ_self _
  | abort hphase _ | stop hphase _ _ =>
    simp only [Scheduler.halt, hphase, Phase.work, List.length_nil]
    omega
  | _ => cases hown

/-- What the scheduler does by itself takes no time. -/
theorem time_eq_of_step {s s' : Scheduler} {e : ScheduleEvent} (h : s.Step e s')
    (hown : e.isOwn = true) : s'.time = s.time := by
  cases h with
  | elapse => cases hown
  | _ => rfl

variable {t : Timeline} {time : Nat} {e : ScheduleEvent}

/-- What is next can happen, not before the present. -/
theorem exists_step_of_next? (h : t.next? = some (time, e)) :
    t.scheduler.time ≤ time ∧ e.isOwn = true ∧ ∃ s, (t.moveTo time).scheduler.Step e s := by
  simp only [next?] at h
  split at h
  case _ hphase =>
    split at h
    case _ hwanted =>
      cases h
      exact ⟨Nat.le_refl _, rfl, _, .begin hphase hwanted⟩
    case _ hunwanted =>
      have hunwanted : t.scheduler.pending.immediate = false := eq_false_of_ne_true hunwanted
      split at h
      case _ hcancelled =>
        cases h
        exact ⟨Nat.le_refl _, rfl, _, .stop hphase hunwanted (.inl hcancelled)⟩
      case _ =>
        split at h
        case _ hqueue =>
          cases h
          cases hrequests : t.scheduler.queue with
          | nil =>
            rw [hrequests] at hqueue
            cases hqueue
          | cons x rest =>
            exact ⟨Nat.le_refl _, rfl, _, .receive hrequests (.inl ⟨hphase, hunwanted⟩)⟩
        case _ hqueue =>
          have hempty : t.scheduler.queue = [] := by simpa using hqueue
          split at h
          case _ hdeserted =>
            cases h
            have hnone : t.scheduler.handles = 0 := by simpa using hdeserted
            exact ⟨Nat.le_refl _, rfl, _, .stop hphase hunwanted (.inr ⟨hnone, hempty⟩)⟩
          case _ =>
            obtain ⟨d, hdeadline, heq⟩ := Option.map_eq_some_iff.mp h
            cases heq
            have hmoved : d ≤ (t.moveTo (max d t.scheduler.time)).scheduler.time :=
              Nat.le_trans (Nat.le_max_left _ _) (Nat.le_max_left _ _)
            exact ⟨Nat.le_max_right _ _, rfl, _, .expire hphase hunwanted hdeadline hmoved⟩
  case _ hphase =>
    split at h
    case _ hcancelled =>
      cases h
      exact ⟨Nat.le_refl _, rfl, _, .abort hphase hcancelled⟩
    case _ =>
      cases h
      exact ⟨Nat.le_max_right _ _, rfl, _, .settle _ hphase⟩
  case _ hphase =>
    cases h
    exact ⟨Nat.le_refl _, rfl, _, .deliver hphase⟩
  case _ hphase =>
    cases h
    cases hrequests : t.scheduler.queue with
    | nil => exact ⟨Nat.le_refl _, rfl, _, .resume hphase hrequests⟩
    | cons x rest => exact ⟨Nat.le_refl _, rfl, _, .receive hrequests (.inr hphase)⟩
  case _ => cases h

/-- What is next leaves less work. -/
theorem work_act_lt (worker : Worker) (h : t.next? = some (time, e)) :
    work (t.act worker time e).scheduler < work t.scheduler := by
  obtain ⟨-, hown, s, hstep⟩ := exists_step_of_next? h
  have hless : work s < work (t.moveTo time).scheduler := work_lt_of_step hstep hown
  rw [scheduler_act worker hstep]
  exact hless

/-! ## All that is due -/

/-- Nothing that the scheduler does by itself is due up to a time. -/
def IsQuiet (t : Timeline) (horizon : Nat) : Prop :=
  ∀ time e, t.next? = some (time, e) → horizon < time

/-- Something is next and due, or nothing is due. -/
theorem exists_due_or_isQuiet (t : Timeline) (horizon : Nat) :
    (∃ time e, t.next? = some (time, e) ∧ time ≤ horizon) ∨ t.IsQuiet horizon := by
  by_cases hdue : ∃ time e, t.next? = some (time, e) ∧ time ≤ horizon
  · exact .inl hdue
  · exact .inr fun time e hnext => Nat.lt_of_not_le fun hle => hdue ⟨time, e, hnext, hle⟩

/-- What becomes of a timeline when all is done that is due up to a time. -/
def reach (worker : Worker) (horizon : Nat) (t : Timeline) : Timeline :=
  advance worker horizon (work t.scheduler) t

section

variable {worker : Worker} {horizon : Nat}

/-- Every bound that is large enough gives the same. -/
theorem advance_eq_reach {fuel : Nat} (hfuel : work t.scheduler ≤ fuel) :
    advance worker horizon fuel t = reach worker horizon t := by
  induction fuel using Nat.strongRecOn generalizing t with
  | ind fuel ih =>
    rcases exists_due_or_isQuiet t horizon with ⟨time, e, hnext, hdue⟩ | hquiet
    · have hless := work_act_lt worker hnext
      match fuel, hwork : work t.scheduler with
      | 0, _ => omega
      | _, 0 => omega
      | fuel + 1, work + 1 =>
        rw [reach, hwork, advance_of_next? worker hnext hdue, advance_of_next? worker hnext hdue,
          ih fuel (by omega) (by omega), ih work (by omega) (by omega)]
    · rw [reach, advance_of_quiet worker hquiet, advance_of_quiet worker hquiet]

/-- What is next and due is done first. -/
theorem reach_of_next? (hnext : t.next? = some (time, e)) (hdue : time ≤ horizon) :
    reach worker horizon t = reach worker horizon (t.act worker time e) := by
  rw [← advance_eq_reach (Nat.le_succ _), advance_of_next? worker hnext hdue,
    advance_eq_reach (Nat.le_of_lt (work_act_lt worker hnext))]

theorem reach_of_isQuiet (hquiet : t.IsQuiet horizon) : reach worker horizon t = t :=
  advance_of_quiet worker hquiet _

/-- What holds where nothing is due, and holds before a thing that is due if it holds after it,
holds always. -/
theorem reach_induction {P : Timeline → Prop} (worker : Worker) (horizon : Nat)
    (hquiet : ∀ t : Timeline, t.IsQuiet horizon → P t)
    (hact : ∀ (t : Timeline) (time : Nat) (e : ScheduleEvent), t.next? = some (time, e) →
      time ≤ horizon → P (t.act worker time e) → P t)
    (t : Timeline) : P t := by
  -- the work that is left is what grows less
  induction hwork : work t.scheduler using Nat.strongRecOn generalizing t with
  | ind n ih =>
    subst hwork
    rcases exists_due_or_isQuiet t horizon with ⟨time, e, hnext, hdue⟩ | hquiet'
    · exact hact t time e hnext hdue (ih _ (work_act_lt worker hnext) _ rfl)
    · exact hquiet t hquiet'

/-- When all is done that is due, nothing is due any more. -/
theorem isQuiet_reach (worker : Worker) (horizon : Nat) (t : Timeline) :
    (reach worker horizon t).IsQuiet horizon := by
  induction t using reach_induction worker horizon with
  | hquiet t hquiet => rwa [reach_of_isQuiet hquiet]
  | hact t time e hnext hdue ih => rwa [reach_of_next? hnext hdue]

/-- The clock does not go past what is due. -/
theorem time_reach_le (htime : t.scheduler.time ≤ horizon) :
    (reach worker horizon t).scheduler.time ≤ horizon := by
  induction t using reach_induction worker horizon with
  | hquiet t hquiet => rwa [reach_of_isQuiet hquiet]
  | hact t time e hnext hdue ih =>
    rw [reach_of_next? hnext hdue]
    refine ih ?_
    obtain ⟨hlate, hown, s, hstep⟩ := exists_step_of_next? hnext
    have hmoved : (t.moveTo time).scheduler.time = time := Nat.max_eq_left hlate
    rw [scheduler_act worker hstep, time_eq_of_step hstep hown, hmoved]
    exact hdue

/-- What is due up to a time is due up to any later time, and done first. -/
theorem reach_reach {horizon' : Nat} (hle : horizon ≤ horizon') (t : Timeline) :
    reach worker horizon' (reach worker horizon t) = reach worker horizon' t := by
  induction t using reach_induction worker horizon with
  | hquiet t hquiet => rw [reach_of_isQuiet hquiet]
  | hact t time e hnext hdue ih =>
    rw [reach_of_next? hnext hdue, ih, ← reach_of_next? hnext (Nat.le_trans hdue hle)]

/-- What leads on changes nothing about what is reached. -/
theorem reach_eq_of_leads {count : Nat} {after : Timeline} {begins : List Nat}
    (h : Leads worker horizon count t after time begins) :
    reach worker horizon t = reach worker horizon after := by
  let fuel := work t.scheduler + work after.scheduler
  have hbefore : advance worker horizon (fuel + count) t = reach worker horizon t :=
    advance_eq_reach (by omega)
  have hafter : advance worker horizon fuel after = reach worker horizon after :=
    advance_eq_reach (by omega)
  rw [← hbefore, h.advance, hafter]

end

/-! ## Portions of time -/

theorem moveTo_moveTo (t : Timeline) {now time : Nat} (hle : now ≤ time) :
    (t.moveTo now).moveTo time = t.moveTo time := by
  simp only [moveTo, ← Nat.max_assoc, Nat.max_eq_left hle]

/-- Moving the clock puts off what would have been done earlier, and changes nothing else. -/
theorem next?_moveTo (t : Timeline) (now : Nat) :
    (t.moveTo now).next? = t.next?.map fun p => (max p.1 now, p.2) := by
  have hnow : max now t.scheduler.time = max t.scheduler.time now := Nat.max_comm _ _
  simp only [next?, moveTo, hnow]
  cases t.scheduler.phase with
  | waiting =>
    simp only [apply_ite (Option.map _), Option.map_some, Option.map_map, Function.comp_def,
      Nat.max_assoc]
  | passing => simp only [apply_ite (Option.map _), Option.map_some, Nat.max_assoc]
  | delivering | draining => rfl
  | stopped => rfl

/-- Where nothing is due before a time, moving the clock there makes no difference for what is done
later. -/
theorem reach_moveTo (worker : Worker) {now horizon : Nat} (hquiet : t.IsQuiet now)
    (hle : now ≤ horizon) :
    (reach worker horizon (t.moveTo now)).moveTo horizon =
      (reach worker horizon t).moveTo horizon := by
  rcases exists_due_or_isQuiet t horizon with ⟨time, e, hnext, hdue⟩ | hrest
  · have hlater : now ≤ time := Nat.le_of_lt (hquiet time e hnext)
    have hnext' : (t.moveTo now).next? = some (time, e) := by
      rw [next?_moveTo, hnext, Option.map_some, Nat.max_eq_left hlater]
    have hact : (t.moveTo now).act worker time e = t.act worker time e := by
      unfold act
      rw [moveTo_moveTo t hlater]
    rw [reach_of_next? hnext hdue, reach_of_next? hnext' hdue, hact]
  · have hrest' : (t.moveTo now).IsQuiet horizon := by
      intro time e hnext
      rw [next?_moveTo] at hnext
      obtain ⟨⟨time', e'⟩, hnext', heq⟩ := Option.map_eq_some_iff.mp hnext
      cases heq
      exact Nat.lt_of_lt_of_le (hrest _ _ hnext') (Nat.le_max_left _ _)
    rw [reach_of_isQuiet hrest, reach_of_isQuiet hrest', moveTo_moveTo t hle]

theorem time_sleep (worker : Worker) (t : Timeline) (span : Nat) :
    (t.sleep worker span).scheduler.time = t.scheduler.time + span :=
  Nat.max_eq_left (time_reach_le (Nat.le_add_right _ _))

/-- Two portions of time are one. -/
theorem sleep_sleep (worker : Worker) (t : Timeline) (span span' : Nat) :
    (t.sleep worker span).sleep worker span' = t.sleep worker (span + span') := by
  let now := t.scheduler.time + span
  let reached := reach worker now t
  have hle : now ≤ now + span' := Nat.le_add_right _ _
  calc (t.sleep worker span).sleep worker span'
      = (reach worker (now + span') (reached.moveTo now)).moveTo (now + span') := by
        rw [sleep, time_sleep]
        rfl
    _ = (reach worker (now + span') reached).moveTo (now + span') :=
        reach_moveTo worker (isQuiet_reach worker now t) hle
    _ = (reach worker (now + span') t).moveTo (now + span') := by
        rw [reach_reach hle]
    _ = t.sleep worker (span + span') := by
        rw [sleep, ← Nat.add_assoc]
        rfl

end Timeline

end Deadwood
