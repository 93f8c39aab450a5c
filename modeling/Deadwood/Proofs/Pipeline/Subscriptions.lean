import Deadwood.Pipeline.Subscriptions

/-!
# Subscriptions lose nothing

What subscriptions are told, in terms of what happened: passes, providers, subscriptions and calls
may interleave in any way. A subscription is told strictly increasing generations, each that of the
snapshot that is current when it is told. It can be told of one at once iff a pass was applied after
the one it was last told of, or, if it has been told of none, after its provider was made. So no
failure is told, and the last pass always is.
-/

namespace Deadwood

/-! ## What happened -/

namespace BroadcastEvent

/-- Whether a report is applied. -/
def isPass : BroadcastEvent → Bool
  | .settle (.ok _) => true
  | _ => false

/-- Whether a provider is made. -/
def isProvide : BroadcastEvent → Bool
  | .provide => true
  | _ => false

/-- Whether a call of a subscription returns. -/
def isAnswerOf (i : Nat) : BroadcastEvent → Bool
  | .call j .answer => j == i
  | _ => false

/-- The provider that a new subscription is made through. -/
def through? : BroadcastEvent → Option Nat
  | .subscribe provider => some provider
  | _ => none

end BroadcastEvent

open BroadcastEvent (isPass isProvide isAnswerOf through?)

/-- The number of passes that were applied. -/
def passes (es : List BroadcastEvent) : Nat := es.countP isPass

/-- How many passes had been applied at each event of a kind, if there were `n` before. -/
def passesFrom (kind : BroadcastEvent → Bool) (n : Nat) : List BroadcastEvent → List Nat
  | [] => []
  | e :: rest => (if kind e then [n] else []) ++ passesFrom kind (n + e.isPass.toNat) rest

/-- How many passes had been applied at each event of a kind. -/
def passesAt (kind : BroadcastEvent → Bool) (es : List BroadcastEvent) : List Nat :=
  passesFrom kind 0 es

/-- The providers through which the subscriptions were made. -/
def subscribedThrough (es : List BroadcastEvent) : List Nat := es.filterMap through?

theorem passes_concat (es : List BroadcastEvent) (e : BroadcastEvent) :
    passes (es ++ [e]) = passes es + e.isPass.toNat := by
  rw [passes, List.countP_append, List.countP_singleton, ← passes]
  cases e.isPass <;> rfl

theorem passes_cons (e : BroadcastEvent) (es : List BroadcastEvent) :
    passes (e :: es) = e.isPass.toNat + passes es := by
  rw [passes, List.countP_cons, ← passes]
  cases e.isPass <;> simp [Nat.add_comm]

theorem passesFrom_concat (kind : BroadcastEvent → Bool) (n : Nat) (es : List BroadcastEvent)
    (e : BroadcastEvent) :
    passesFrom kind n (es ++ [e]) =
      passesFrom kind n es ++ if kind e then [n + passes es] else [] := by
  induction es generalizing n with
  | nil => simp [passesFrom, passes]
  | cons d es ih =>
    rw [List.cons_append, passesFrom, passesFrom, ih, passes_cons, Nat.add_assoc,
      List.append_assoc]

theorem passesAt_concat (kind : BroadcastEvent → Bool) (es : List BroadcastEvent)
    (e : BroadcastEvent) :
    passesAt kind (es ++ [e]) = passesAt kind es ++ if kind e then [passes es] else [] := by
  rw [passesAt, passesFrom_concat, Nat.zero_add, ← passesAt]

theorem passesAt_concat_of_not {kind : BroadcastEvent → Bool} {e : BroadcastEvent}
    (h : kind e = false) (es : List BroadcastEvent) :
    passesAt kind (es ++ [e]) = passesAt kind es := by
  rw [passesAt_concat, h]
  exact List.append_nil _

theorem le_of_mem_passesFrom {kind : BroadcastEvent → Bool} {n m : Nat} {es : List BroadcastEvent}
    (h : m ∈ passesFrom kind n es) : m ≤ n + passes es := by
  induction es generalizing n with
  | nil => cases h
  | cons e es ih =>
    rw [passes_cons]
    rcases List.mem_append.mp h with h | h
    · split at h
      · rw [List.mem_singleton.mp h]
        omega
      · cases h
    · have hle := ih h
      omega

theorem le_passes_of_mem_passesAt {kind : BroadcastEvent → Bool} {m : Nat}
    {es : List BroadcastEvent} (h : m ∈ passesAt kind es) : m ≤ passes es := by
  have hle := le_of_mem_passesFrom h
  omega

theorem subscribedThrough_concat (es : List BroadcastEvent) (e : BroadcastEvent) :
    subscribedThrough (es ++ [e]) = subscribedThrough es ++ e.through?.toList := by
  rw [subscribedThrough, List.filterMap_append, ← subscribedThrough]
  cases h : e.through? <;> simp [h]

/-! ## One subscription -/

namespace Subscription

/-- The generation that a subscription was last told of, or the given one if it was told of none. -/
def heard (sub : Subscription) (base : Nat) : Nat := sub.told.getLastD base

theorem heard_concat (reader : Reader) (phase : AskPhase) (told : List Nat) (n base : Nat) :
    heard ⟨reader, phase, told ++ [n]⟩ base = n :=
  List.getLastD_concat ..

/-- What a subscription has been told increases from the number of passes that there were when its
provider was made. Its reader has seen the last of these and no more, unless a call has noticed a
newer version. -/
structure IsAbreast (sub : Subscription) (base now : Nat) : Prop where
  increasing : (base :: sub.told).Pairwise (· < ·)
  le_heard : ∀ n ∈ base :: sub.told, n ≤ sub.heard base
  seen_le : sub.reader.seen ≤ now
  seen_eq : sub.phase ≠ .woken → sub.reader.seen = sub.heard base
  lt_seen : sub.phase = .woken → sub.heard base < sub.reader.seen

variable {sub sub' : Subscription} {base now : Nat}

/-- A new subscription has seen what the reader of its provider has. -/
theorem isAbreast_new (h : base ≤ now) : IsAbreast { reader := ⟨base⟩ } base now where
  increasing := List.pairwise_singleton _ _
  le_heard := List.forall_mem_singleton.mpr (Nat.le_refl base)
  seen_le := h
  seen_eq := fun _ => rfl
  lt_seen := fun hphase => nomatch hphase

theorem IsAbreast.mono (h : sub.IsAbreast base now) {later : Nat} (hle : now ≤ later) :
    sub.IsAbreast base later :=
  { h with seen_le := Nat.le_trans h.seen_le hle }

/-- What is told behind a version that was noticed continues what was told before. -/
theorem IsAbreast.answer (h : sub.IsAbreast base now) (hphase : sub.phase = .woken) :
    IsAbreast ⟨⟨now⟩, .idle, sub.told ++ [now]⟩ base now := by
  have hlt : ∀ n ∈ base :: sub.told, n < now := by
    intro n hn
    have hheard := h.le_heard n hn
    have hseen := h.lt_seen hphase
    have hnow := h.seen_le
    omega
  refine ⟨?_, ?_, Nat.le_refl now, ?_, fun hwoken => nomatch hwoken⟩
  · show (base :: sub.told ++ [now]).Pairwise (· < ·)
    rw [List.pairwise_append]
    refine ⟨h.increasing, List.pairwise_singleton _ _, ?_⟩
    intro n hn m hm
    rw [List.mem_singleton.mp hm]
    exact hlt n hn
  · intro n hn
    rw [heard_concat]
    rcases List.mem_append.mp (show n ∈ base :: sub.told ++ [now] from hn) with hn | hn
    · exact Nat.le_of_lt (hlt n hn)
    · exact Nat.le_of_eq (List.mem_singleton.mp hn)
  · intro _
    rw [heard_concat]

/-- One step of a call keeps this, and tells the current generation iff the call returns. -/
theorem IsAbreast.step {current : Snapshot} {e : AskEvent} (h : sub.IsAbreast base now)
    (hcurrent : current.generation = now) (hstep : sub.step? now current e = some sub') :
    sub'.IsAbreast base now ∧
      sub'.told = sub.told ++ if e = .answer then [now] else [] := by
  cases e <;> simp only [step?] at hstep
  case ask =>
    split at hstep <;> cases hstep
    case _ hphase =>
      refine ⟨⟨h.increasing, h.le_heard, h.seen_le, ?_, fun hwoken => nomatch hwoken⟩, ?_⟩
      · intro _
        exact h.seen_eq (by rw [hphase]; decide)
      · simp
  case wake =>
    split at hstep <;> cases hstep
    case _ hphase hnew =>
      have hseen := h.seen_eq (by rw [hphase]; decide)
      have hle := h.seen_le
      have hne : sub.reader.seen ≠ now := by simpa using hnew
      refine ⟨⟨h.increasing, h.le_heard, Nat.le_refl now, fun hwoken => absurd rfl hwoken, ?_⟩, ?_⟩
      · intro _
        show sub.heard base < now
        omega
      · simp
  case answer =>
    split at hstep <;> cases hstep
    case _ hphase =>
      rw [hcurrent]
      exact ⟨h.answer hphase, rfl⟩
  case abandon =>
    split at hstep <;> cases hstep
    case _ hphase =>
      refine ⟨⟨h.increasing, h.le_heard, h.seen_le, ?_, fun hwoken => nomatch hwoken⟩, ?_⟩
      · intro _
        exact h.seen_eq (by rw [hphase]; decide)
      · simp

/-- A call has noticed, or can notice, a new version iff there is a pass that was not told of. -/
theorem IsAbreast.woken_or_ne_iff (h : sub.IsAbreast base now) :
    sub.phase = .woken ∨ sub.reader.seen ≠ now ↔ sub.heard base < now := by
  have hle := h.seen_le
  by_cases hphase : sub.phase = .woken
  · have hlt := h.lt_seen hphase
    exact iff_of_true (Or.inl hphase) (by omega)
  · have heq := h.seen_eq hphase
    constructor
    · rintro (hwoken | hne)
      · exact absurd hwoken hphase
      · omega
    · intro hlt
      exact Or.inr (by omega)

end Subscription

/-! ## Steps -/

namespace Broadcast

/-- The rules by which events change a pipeline and those who follow it. -/
inductive Step : Broadcast → BroadcastEvent → Broadcast → Prop where
  | pass (s : Broadcast) (report : Report) :
      Step s (.settle (.ok report))
        { s with pipeline := (s.pipeline.apply report).1, version := s.version + 1 }
  | fail (s : Broadcast) (failure : Failure) : Step s (.settle (.error failure)) s
  | provide (s : Broadcast) : Step s .provide { s with providers := s.providers ++ [⟨s.version⟩] }
  | look {s : Broadcast} {i : Nat} {reader : Reader} (hreader : s.providers[i]? = some reader) :
      Step s (.look i) s
  | subscribe {s : Broadcast} {i : Nat} {reader : Reader}
      (hreader : s.providers[i]? = some reader) :
      Step s (.subscribe i) { s with subscriptions := s.subscriptions ++ [{ reader }] }
  | call {s : Broadcast} {i : Nat} {e : AskEvent} {sub sub' : Subscription}
      (hsub : s.subscriptions[i]? = some sub)
      (hstep : sub.step? s.version s.pipeline.current e = some sub') :
      Step s (.call i e) { s with subscriptions := s.subscriptions.set i sub' }

/-- What an event makes of a state follows one of the rules. -/
theorem step_of_step? {s s' : Broadcast} {e : BroadcastEvent} (h : s.step? e = some s') :
    Step s e s' := by
  cases e <;> simp only [step?] at h
  case settle outcome =>
    cases outcome with
    | ok report => cases h; exact .pass s report
    | error failure => cases h; exact .fail s failure
  case provide => cases h; exact .provide s
  case look i =>
    split at h <;> cases h
    case _ hreader => exact .look hreader
  case subscribe i =>
    split at h <;> cases h
    case _ hreader => exact .subscribe hreader
  case call i e =>
    split at h
    case _ hsub =>
      split at h <;> cases h
      case _ hstep => exact .call hsub hstep
    case _ => cases h

/-! ## The invariant -/

/-- What happened to a subscription accounts for what it has been told and has seen. -/
def Accounts (es : List BroadcastEvent) (i : Nat) (sub : Subscription) : Prop :=
  ∃ provider base, (subscribedThrough es)[i]? = some provider ∧
    (passesAt isProvide es)[provider]? = some base ∧
    sub.told = passesAt (isAnswerOf i) es ∧ sub.IsAbreast base (passes es)

/-- What happened accounts for the state: the version and the generation are the number of passes,
the readers of providers are as they were made, and each subscription is accounted for. -/
structure Follows (s : Broadcast) (es : List BroadcastEvent) : Prop where
  version : s.version = passes es
  generation : s.pipeline.current.generation = passes es
  providers : s.providers = (passesAt isProvide es).map Reader.mk
  length : s.subscriptions.length = (subscribedThrough es).length
  accounts : ∀ i sub, s.subscriptions[i]? = some sub → Accounts es i sub
  unanswered : ∀ i, s.subscriptions[i]? = none → passesAt (isAnswerOf i) es = []

theorem follows_new (root : Path) (settings : FindingSettings) :
    ({ pipeline := { root, settings } } : Broadcast).Follows [] :=
  ⟨rfl, rfl, rfl, rfl, fun _ _ h => absurd h (by simp), fun _ _ => rfl⟩

theorem getElem?_append_of_some {α : Type} {xs : List α} {i : Nat} {a : α} (h : xs[i]? = some a)
    (ys : List α) : (xs ++ ys)[i]? = some a :=
  (List.getElem?_append_left (List.getElem?_eq_some_iff.mp h).1).trans h

/-- Whatever happens elsewhere leaves a subscription accounted for. -/
theorem Accounts.concat {es : List BroadcastEvent} {i : Nat} {sub : Subscription}
    (h : Accounts es i sub) {e : BroadcastEvent} (he : isAnswerOf i e = false) :
    Accounts (es ++ [e]) i sub := by
  obtain ⟨provider, base, hprovider, hbase, htold, habreast⟩ := h
  refine ⟨provider, base, ?_, ?_, ?_, habreast.mono ?_⟩
  · rw [subscribedThrough_concat]
    exact getElem?_append_of_some hprovider _
  · rw [passesAt_concat]
    exact getElem?_append_of_some hbase _
  · rw [passesAt_concat_of_not he]
    exact htold
  · rw [passes_concat]
    omega

/-- A step of its own call leaves a subscription accounted for. -/
theorem Accounts.call {es : List BroadcastEvent} {i : Nat} {sub sub' : Subscription}
    (h : Accounts es i sub) {current : Snapshot} (hcurrent : current.generation = passes es)
    {e : AskEvent} (hstep : sub.step? (passes es) current e = some sub') :
    Accounts (es ++ [.call i e]) i sub' := by
  obtain ⟨provider, base, hprovider, hbase, htold, habreast⟩ := h
  obtain ⟨habreast', htold'⟩ := habreast.step hcurrent hstep
  refine ⟨provider, base, ?_, ?_, ?_, ?_⟩
  · rw [subscribedThrough_concat]
    exact getElem?_append_of_some hprovider _
  · rw [passesAt_concat]
    exact getElem?_append_of_some hbase _
  · rw [passesAt_concat, htold', htold]
    cases e <;> simp [isAnswerOf]
  · rw [passes_concat]
    exact habreast'

/-- The invariant after one more event, from what the event changes: a pass raises the version and
the generation, a new provider has seen the version, and a new subscription is one more. -/
theorem Follows.concat {s s' : Broadcast} {es : List BroadcastEvent} (h : s.Follows es)
    {e : BroadcastEvent} (hversion : s'.version = s.version + (isPass e).toNat)
    (hgeneration : s'.pipeline.current.generation =
      s.pipeline.current.generation + (isPass e).toNat)
    (hproviders : s'.providers = s.providers ++ if isProvide e then [⟨s.version⟩] else [])
    (hlength : s'.subscriptions.length = s.subscriptions.length + (through? e).toList.length)
    (haccounts : ∀ i sub, s'.subscriptions[i]? = some sub → Accounts (es ++ [e]) i sub)
    (hunanswered : ∀ i, s'.subscriptions[i]? = none →
      s.subscriptions[i]? = none ∧ isAnswerOf i e = false) :
    s'.Follows (es ++ [e]) where
  version := by rw [hversion, passes_concat, h.version]
  generation := by rw [hgeneration, passes_concat, h.generation]
  providers := by
    rw [hproviders, passesAt_concat, List.map_append, h.providers, h.version]
    cases isProvide e <;> rfl
  length := by rw [hlength, subscribedThrough_concat, List.length_append, h.length]
  accounts := haccounts
  unanswered := by
    intro i hnone
    obtain ⟨hbefore, hother⟩ := hunanswered i hnone
    rw [passesAt_concat_of_not hother]
    exact h.unanswered i hbefore

/-- An event at which no call returns and no subscription is made. -/
theorem Follows.concat_of_same {s s' : Broadcast} {es : List BroadcastEvent} (h : s.Follows es)
    {e : BroadcastEvent} (hversion : s'.version = s.version + (isPass e).toNat)
    (hgeneration : s'.pipeline.current.generation =
      s.pipeline.current.generation + (isPass e).toNat)
    (hproviders : s'.providers = s.providers ++ if isProvide e then [⟨s.version⟩] else [])
    (hsame : s'.subscriptions = s.subscriptions) (hthrough : through? e = none)
    (hanswer : ∀ i, isAnswerOf i e = false) : s'.Follows (es ++ [e]) := by
  apply h.concat hversion hgeneration hproviders
  · rw [hsame, hthrough]
    rfl
  · intro i sub hsub
    rw [hsame] at hsub
    exact (h.accounts i sub hsub).concat (hanswer i)
  · intro i hnone
    rw [hsame] at hnone
    exact ⟨hnone, hanswer i⟩

/-- What the reader of a provider has seen are the passes that there were when it was made. -/
theorem Follows.base_of_provider {s : Broadcast} {es : List BroadcastEvent} (h : s.Follows es)
    {i : Nat} {reader : Reader} (hreader : s.providers[i]? = some reader) :
    (passesAt isProvide es)[i]? = some reader.seen := by
  rw [h.providers, List.getElem?_map] at hreader
  obtain ⟨base, hbase, rfl⟩ := Option.map_eq_some_iff.mp hreader
  exact hbase

/-- A new subscription is accounted for by its provider. -/
theorem Follows.subscribe {s : Broadcast} {es : List BroadcastEvent} (h : s.Follows es) {i : Nat}
    {reader : Reader} (hreader : s.providers[i]? = some reader) :
    ({ s with subscriptions := s.subscriptions ++ [{ reader }] } : Broadcast).Follows
      (es ++ [.subscribe i]) := by
  apply h.concat rfl rfl (List.append_nil _).symm
  · exact List.length_append
  · intro j sub hsub
    by_cases hj : j < s.subscriptions.length
    · rw [List.getElem?_append_left hj] at hsub
      exact (h.accounts j sub hsub).concat rfl
    · -- the new subscription is the last one, and it was never answered before
      have hnone : s.subscriptions[j]? = none := List.getElem?_eq_none (by omega)
      obtain ⟨hjlt, -⟩ := List.getElem?_eq_some_iff.mp hsub
      have hlast : j = s.subscriptions.length := by
        rw [List.length_append, List.length_singleton] at hjlt
        omega
      subst hlast
      rw [List.getElem?_concat_length] at hsub
      cases hsub
      have hbase := h.base_of_provider hreader
      refine ⟨i, reader.seen, ?_, ?_, ?_, ?_⟩
      · rw [subscribedThrough_concat, h.length]
        exact List.getElem?_concat_length
      · rw [passesAt_concat_of_not rfl]
        exact hbase
      · rw [passesAt_concat_of_not rfl]
        exact (h.unanswered _ hnone).symm
      · rw [passes_concat]
        exact Subscription.isAbreast_new (le_passes_of_mem_passesAt (List.mem_of_getElem? hbase))
  · intro j hnone
    rw [List.getElem?_eq_none_iff] at hnone ⊢
    rw [List.length_append] at hnone
    exact ⟨by omega, rfl⟩

/-- A step of a call changes its own subscription. -/
theorem Follows.call {s : Broadcast} {es : List BroadcastEvent} (h : s.Follows es) {i : Nat}
    {e : AskEvent} {sub sub' : Subscription} (hsub : s.subscriptions[i]? = some sub)
    (hstep : sub.step? s.version s.pipeline.current e = some sub') :
    ({ s with subscriptions := s.subscriptions.set i sub' } : Broadcast).Follows
      (es ++ [.call i e]) := by
  have hlt : i < s.subscriptions.length := (List.getElem?_eq_some_iff.mp hsub).1
  have hother : ∀ {j : Nat}, i ≠ j → isAnswerOf j (.call i e) = false := by
    intro j hne
    cases e with
    | answer => exact beq_false_of_ne hne
    | ask | wake | abandon => rfl
  apply h.concat rfl rfl (List.append_nil _).symm
  · exact List.length_set
  · intro j sub₁ hsub₁
    by_cases hij : i = j
    · subst hij
      rw [List.getElem?_set_self hlt] at hsub₁
      cases hsub₁
      rw [h.version] at hstep
      exact (h.accounts i sub hsub).call h.generation hstep
    · rw [List.getElem?_set_ne hij] at hsub₁
      exact (h.accounts j sub₁ hsub₁).concat (hother hij)
  · intro j hnone
    have hij : i ≠ j := by
      rintro rfl
      rw [List.getElem?_set_self hlt] at hnone
      cases hnone
    rw [List.getElem?_set_ne hij] at hnone
    exact ⟨hnone, hother hij⟩

/-- One step keeps the invariant. -/
theorem Step.follows {s s' : Broadcast} {e : BroadcastEvent} (h : Step s e s')
    {es : List BroadcastEvent} (hs : s.Follows es) : s'.Follows (es ++ [e]) := by
  have hsame : s.providers = s.providers ++ [] := (List.append_nil _).symm
  cases h with
  | pass report => exact hs.concat_of_same rfl rfl hsame rfl rfl fun _ => rfl
  | fail failure => exact hs.concat_of_same rfl rfl hsame rfl rfl fun _ => rfl
  | provide => exact hs.concat_of_same rfl rfl rfl rfl rfl fun _ => rfl
  | look hreader => exact hs.concat_of_same rfl rfl hsame rfl rfl fun _ => rfl
  | subscribe hreader => exact hs.subscribe hreader
  | call hsub hstep => exact hs.call hsub hstep

/-! ## Runs -/

theorem run?_cons {s s' : Broadcast} {e : BroadcastEvent} {es : List BroadcastEvent}
    (h : s.run? (e :: es) = some s') : ∃ m, s.step? e = some m ∧ m.run? es = some s' := by
  rw [run?, Option.bind_eq_some_iff] at h
  exact h

/-- A run can be cut anywhere. -/
theorem run?_append {s s' : Broadcast} {es fs : List BroadcastEvent}
    (h : s.run? (es ++ fs) = some s') : ∃ m, s.run? es = some m ∧ m.run? fs = some s' := by
  induction es generalizing s with
  | nil => exact ⟨s, rfl, h⟩
  | cons e es ih =>
    obtain ⟨n, hstep, hrun⟩ := run?_cons h
    obtain ⟨m, hfirst, hsecond⟩ := ih hrun
    refine ⟨m, ?_, hsecond⟩
    rw [run?, hstep]
    exact hfirst

/-- A run keeps the invariant. -/
theorem follows_of_run? {s s' : Broadcast} {es : List BroadcastEvent} (h : s.run? es = some s')
    {before : List BroadcastEvent} (hs : s.Follows before) : s'.Follows (before ++ es) := by
  induction es generalizing s before with
  | nil =>
    cases h
    rw [List.append_nil]
    exact hs
  | cons e es ih =>
    obtain ⟨m, hstep, hrun⟩ := run?_cons h
    have hlast := ih hrun ((step_of_step? hstep).follows hs)
    rw [List.append_assoc] at hlast
    exact hlast

/-! ## Calls that can return at once -/

/-- What has to happen before a call returns: the call is made if there is none, it notices a new
version if it has not, and it returns. -/
def remaining : AskPhase → List AskEvent
  | .idle => [.ask, .wake, .answer]
  | .waiting => [.wake, .answer]
  | .woken => [.answer]

theorem step?_call {s : Broadcast} {i : Nat} {sub : Subscription}
    (hsub : s.subscriptions[i]? = some sub) (e : AskEvent) :
    s.step? (.call i e) =
      (sub.step? s.version s.pipeline.current e).map fun sub' =>
        { s with subscriptions := s.subscriptions.set i sub' } := by
  rw [step?, hsub]
  dsimp only
  cases sub.step? s.version s.pipeline.current e <;> rfl

/-- The state after a call of a subscription has returned. -/
def afterAnswer (s : Broadcast) (i : Nat) (sub : Subscription) : Broadcast :=
  let told := sub.told ++ [s.pipeline.current.generation]
  { s with subscriptions := s.subscriptions.set i ⟨⟨s.version⟩, .idle, told⟩ }

theorem run?_answer {s : Broadcast} {i : Nat} {sub : Subscription}
    (hsub : s.subscriptions[i]? = some sub) (hphase : sub.phase = .woken) :
    s.run? [.call i .answer] = some (s.afterAnswer i sub) := by
  rw [run?, step?_call hsub, Subscription.step?, hphase]
  rfl

theorem run?_wake {s : Broadcast} {i : Nat} {sub : Subscription}
    (hsub : s.subscriptions[i]? = some sub) (hphase : sub.phase = .waiting) :
    s.run? [.call i .wake, .call i .answer] =
      if sub.reader.seen ≠ s.version then some (s.afterAnswer i sub) else none := by
  have hlt : i < s.subscriptions.length := (List.getElem?_eq_some_iff.mp hsub).1
  rw [run?, step?_call hsub, Subscription.step?, hphase]
  by_cases hne : sub.reader.seen = s.version
  · have hseen : (sub.reader.seen != s.version) = false := by simpa using hne
    rw [hseen, if_neg (not_not_intro hne)]
    rfl
  · have hseen : (sub.reader.seen != s.version) = true := by simpa using hne
    rw [hseen, if_pos hne]
    show run? _ _ = _
    rw [run?_answer (List.getElem?_set_self hlt) rfl]
    simp [afterAnswer]

/-- Nothing else has to happen for a call to return iff it has noticed a new version or there is
one to notice, and then it returns the current generation. -/
theorem run?_remaining {s : Broadcast} {i : Nat} {sub : Subscription}
    (hsub : s.subscriptions[i]? = some sub) :
    s.run? ((remaining sub.phase).map (.call i)) =
      if sub.phase = .woken ∨ sub.reader.seen ≠ s.version then some (s.afterAnswer i sub)
      else none := by
  have hlt : i < s.subscriptions.length := (List.getElem?_eq_some_iff.mp hsub).1
  cases hphase : sub.phase with
  | woken =>
    rw [if_pos (Or.inl rfl)]
    exact run?_answer hsub hphase
  | waiting =>
    simp only [reduceCtorEq, false_or]
    exact run?_wake hsub hphase
  | idle =>
    simp only [reduceCtorEq, false_or]
    show run? s [.call i .ask, .call i .wake, .call i .answer] = _
    rw [run?, step?_call hsub, Subscription.step?, hphase]
    show run? _ _ = _
    rw [run?_wake (List.getElem?_set_self hlt) rfl]
    simp [afterAnswer]

/-- A reader that asks for news in one go is told of the latest pass iff there is one that its
subscription was not told of. -/
theorem Follows.poll_eq {s : Broadcast} {es : List BroadcastEvent} (h : s.Follows es)
    {sub : Subscription} {base : Nat} (habreast : sub.IsAbreast base (passes es))
    (hphase : sub.phase ≠ .woken) :
    sub.reader.poll s.pipeline.current true =
      if sub.heard base < passes es then (⟨passes es⟩, .updated (passes es))
      else (sub.reader, .pending) := by
  have hseen := habreast.seen_eq hphase
  have hle := habreast.seen_le
  rw [Reader.poll, h.generation]
  by_cases hlt : sub.heard base < passes es
  · have hne : (sub.reader.seen != passes es) = true := by
      rw [bne_iff_ne]
      omega
    rw [if_pos hne, if_pos hlt]
  · have heq : sub.reader.seen = passes es := by omega
    rw [heq, if_neg hlt]
    simp

/-! ## Whole runs -/

/-- For passes that end with a report or in a failure, providers that are made and look at the
snapshot, subscriptions made through them, and calls of these, in any order from a new pipeline on:
the current generation is at any time the number of passes that were applied, and a new reader has
seen the version that is current. Each subscription has been told of the passes that had been
applied when its calls returned, and these increase from what its provider's reader had seen when it
was made. It can be told of a pass without anything else happening iff one was applied after what it
was last told of, or else after that reader was made; it is then told of the latest one; and asking
in one go does the same. -/
theorem subscriptions_lose_nothing (root : Path) (settings : FindingSettings)
    (es : List BroadcastEvent) (s : Broadcast)
    (h : ({ pipeline := { root, settings } } : Broadcast).run? es = some s) :
    (∀ before after, es = before ++ after →
      ∃ s₁, ({ pipeline := { root, settings } } : Broadcast).run? before = some s₁ ∧
        s₁.run? after = some s ∧ s₁.pipeline.current.generation = passes before ∧
        Reader.new s₁.pipeline.current = ⟨s₁.version⟩) ∧
    ∀ i sub, s.subscriptions[i]? = some sub →
      ∃ provider base, (subscribedThrough es)[i]? = some provider ∧
        (passesAt isProvide es)[provider]? = some base ∧
        sub.told = passesAt (isAnswerOf i) es ∧
        (base :: sub.told).Pairwise (· < ·) ∧
        ((s.run? ((remaining sub.phase).map (.call i))).isSome = true ↔
          sub.told.getLastD base < passes es) ∧
        (∀ s', s.run? ((remaining sub.phase).map (.call i)) = some s' →
          ∃ sub', s'.subscriptions[i]? = some sub' ∧ sub'.told = sub.told ++ [passes es]) ∧
        (sub.phase ≠ .woken → sub.reader.poll s.pipeline.current true =
          if sub.told.getLastD base < passes es then (⟨passes es⟩, .updated (passes es))
          else (sub.reader, .pending)) := by
  have hfollows := follows_of_run? h (follows_new root settings)
  rw [List.nil_append] at hfollows
  constructor
  · rintro before after rfl
    obtain ⟨s₁, hbefore, hafter⟩ := run?_append h
    have hfollows₁ := follows_of_run? hbefore (follows_new root settings)
    refine ⟨s₁, hbefore, hafter, hfollows₁.generation, ?_⟩
    rw [Reader.new, hfollows₁.generation, hfollows₁.version]
  · intro i sub hsub
    obtain ⟨provider, base, hprovider, hbase, htold, habreast⟩ := hfollows.accounts i sub hsub
    have hrun := run?_remaining hsub
    rw [hfollows.version] at hrun
    simp only [habreast.woken_or_ne_iff] at hrun
    refine ⟨provider, base, hprovider, hbase, htold, habreast.increasing, ?_, ?_,
      hfollows.poll_eq habreast⟩
    · rw [hrun]
      exact Option.isSome_ite
    · intro s' hs'
      have hlt : i < s.subscriptions.length := (List.getElem?_eq_some_iff.mp hsub).1
      rw [hrun] at hs'
      split at hs' <;> cases hs'
      refine ⟨_, List.getElem?_set_self hlt, ?_⟩
      show sub.told ++ [s.pipeline.current.generation] = _
      rw [hfollows.generation]

/-- A failure, two passes of which the second lands while a call has noticed the first, a second
provider, one more pass, and a second subscription through the first provider with a call that is
given up. -/
def interleaving : List BroadcastEvent :=
  [.provide, .subscribe 0, .call 0 .ask, .settle (.error (.notFound [])), .settle (.ok {}),
    .call 0 .wake, .settle (.ok {}), .call 0 .answer, .provide, .look 1, .settle (.ok {}),
    .subscribe 0, .call 1 .ask, .call 1 .abandon]

/-- Both can be told of the third pass; the first was told of the second only. -/
theorem subscriptions_lose_nothing_interleaving :
    ∃ s, ({ pipeline := { root := .ofText "/w" } } : Broadcast).run? interleaving = some s ∧
      s.subscriptions = [⟨⟨2⟩, .idle, [2]⟩, ⟨⟨0⟩, .idle, []⟩] ∧
      s.pipeline.current.generation = 3 ∧
      Reader.poll ⟨2⟩ s.pipeline.current true = (⟨3⟩, .updated 3) ∧
      (s.run? [.call 1 .ask, .call 1 .wake, .call 1 .answer]).isSome = true := by
  have hruns : (({ pipeline := { root := .ofText "/w" } } : Broadcast).run? interleaving).any
      (fun s => s.subscriptions == [⟨⟨2⟩, .idle, [2]⟩, ⟨⟨0⟩, .idle, []⟩]) = true := by
    decide +kernel
  obtain ⟨s, hrun, hsubs⟩ := (Option.any_eq_true _ _).mp hruns
  have hsubs := beq_iff_eq.mp hsubs
  obtain ⟨hgeneration, htold⟩ :=
    subscriptions_lose_nothing (.ofText "/w") {} interleaving s hrun
  obtain ⟨_, -, hend, hcurrent, -⟩ := hgeneration interleaving [] (List.append_nil _).symm
  cases hend
  obtain ⟨_, base, hprovider, hbase, -, -, -, -, hpoll⟩ := htold 0 _ (by rw [hsubs]; rfl)
  obtain ⟨_, base', hprovider', hbase', -, -, hready, -⟩ := htold 1 _ (by rw [hsubs]; rfl)
  cases hprovider
  cases hbase
  cases hprovider'
  cases hbase'
  exact ⟨s, hrun, hsubs, hcurrent, hpoll (by decide), hready.mpr (by decide)⟩

end Broadcast

end Deadwood
