import Mathlib.Data.List.DropRight
import Deadwood.Proofs.Path.Join

/-!
# What is left of a path below a base

A base is taken off a path by its components, but what is left is a piece of the path's own
spelling. Its components are those of the path behind the components of the base, so a base and
what is left below it give the path back, up to spelling.

* `components_joinSlashes` : the components of a path that is put together from segments;
* `components_afterComponents`, `components_withoutIdleEnd` : the two ways to cut a path;
* `components_of_stripBase?` : what is left of a path below a base.
-/

namespace Deadwood.Path

/-! ## Segments put together -/

/-- There is no slash inside a segment. -/
theorem slash_notMem_of_mem_splitSlashes {bs s : List UInt8} (h : s ∈ splitSlashes bs) :
    slash ∉ s := by
  induction bs generalizing s with
  | nil =>
    rw [splitSlashes, List.mem_singleton] at h
    rw [h]
    exact List.not_mem_nil
  | cons b bs ih =>
    rw [splitSlashes] at h
    split at h
    case _ =>
      rcases List.mem_cons.mp h with rfl | h
      · exact List.not_mem_nil
      · exact ih h
    case _ hb =>
      have hne : slash ≠ b := fun heq => hb (by rw [heq, beq_self_eq_true])
      obtain ⟨t, rest, hsplit⟩ := List.exists_cons_of_ne_nil (splitSlashes_ne_nil bs)
      rw [hsplit] at h ih
      rcases List.mem_cons.mp h with rfl | h
      · exact List.not_mem_cons_of_ne_of_not_mem hne (ih List.mem_cons_self)
      · exact ih (List.mem_cons_of_mem _ h)

theorem splitSlashes_of_notMem {s : List UInt8} (h : slash ∉ s) : splitSlashes s = [s] := by
  induction s with
  | nil => rfl
  | cons b s ih =>
    obtain ⟨hb, hs⟩ := not_or.mp (mt List.mem_cons.mpr h)
    rw [splitSlashes, if_neg (by simpa using Ne.symm hb), ih hs]

/-- Segments that were put together are told apart again. -/
theorem splitSlashes_joinSlashes {segments : List (List UInt8)} (hne : segments ≠ [])
    (h : ∀ s ∈ segments, slash ∉ s) : splitSlashes (joinSlashes segments) = segments := by
  induction segments with
  | nil => exact absurd rfl hne
  | cons s rest ih =>
    obtain ⟨hs, hrest⟩ := List.forall_mem_cons.mp h
    cases rest with
    | nil => exact splitSlashes_of_notMem hs
    | cons t rest =>
      rw [joinSlashes, splitSlashes_append, splitSlashes_of_notMem hs,
        ih (List.cons_ne_nil _ _) hrest]
      rfl

/-- Segments behind a slash each are told apart again; in front of the first slash is nothing. -/
theorem splitSlashes_flatMap {segments : List (List UInt8)} (h : ∀ s ∈ segments, slash ∉ s) :
    splitSlashes (segments.flatMap (slash :: ·)) = [] :: segments := by
  induction segments with
  | nil => rfl
  | cons s rest ih =>
    obtain ⟨hs, hrest⟩ := List.forall_mem_cons.mp h
    have hbehind := ih hrest
    rw [List.flatMap_cons, List.cons_append, splitSlashes, if_pos (beq_self_eq_true slash)]
    cases rest with
    | nil => rw [List.flatMap_nil, List.append_nil, splitSlashes_of_notMem hs]
    | cons t rest =>
      rw [List.flatMap_cons, List.cons_append, splitSlashes, if_pos (beq_self_eq_true slash),
        List.cons.injEq] at hbehind
      rw [List.flatMap_cons, List.cons_append, splitSlashes_append, splitSlashes_of_notMem hs,
        hbehind.2]
      rfl

/-- There is no slash in the spelling of a step. -/
theorem slash_notMem_bytes {p : Path} {c : Component} (h : c ∈ p.steps) : slash ∉ c.bytes := by
  obtain ⟨segment, hsegment, hc⟩ := List.mem_filterMap.mp h
  rw [Component.ofSegment?, Option.ite_none_left_eq_some] at hc
  obtain ⟨-, hc⟩ := hc
  split at hc
  case _ =>
    cases hc
    decide
  case _ =>
    cases hc
    exact slash_notMem_of_mem_splitSlashes hsegment

/-- No step is lost or made up when segments are put together. -/
theorem steps_joinSlashes {segments : List (List UInt8)} (h : ∀ s ∈ segments, slash ∉ s) :
    (⟨joinSlashes segments⟩ : Path).steps = segments.filterMap Component.ofSegment? := by
  cases segments with
  | nil => rfl
  | cons s rest => rw [steps, splitSlashes_joinSlashes (List.cons_ne_nil _ _) h]

/-- A path that is put together from segments has their steps and no start, if the first one is not
idle. -/
theorem components_joinSlashes {segments : List (List UInt8)} (h : ∀ s ∈ segments, slash ∉ s)
    (hhead : ∀ s, segments.head? = some s → isIdle s = false) :
    (⟨joinSlashes segments⟩ : Path).components = segments.filterMap Component.ofSegment? := by
  have hanchor : (⟨joinSlashes segments⟩ : Path).anchor = .none := by
    cases segments with
    | nil => rfl
    | cons s rest =>
      have hs : isIdle s = false := hhead s rfl
      have hne : s ≠ [] := fun heq => by rw [heq] at hs; cases hs
      have hdot : s ≠ [dot] := fun heq => by rw [heq] at hs; cases hs
      rw [anchor, parse, splitSlashes_joinSlashes (List.cons_ne_nil _ _) h]
      split
      case _ heq => exact absurd (List.cons.inj heq).1 hne
      case _ b _ heq =>
        have hb : ¬(b == dot) = true := fun hb => by
          rw [beq_iff_eq.mp hb] at heq
          exact hdot (List.cons.inj heq).1
        rw [if_neg hb]
      case _ => rfl
  rw [components_eq, hanchor, steps_joinSlashes h]
  rfl

/-! ## Idle segments -/

theorem ofSegment?_eq_none_iff {segment : List UInt8} :
    Component.ofSegment? segment = none ↔ isIdle segment = true := by
  unfold Component.ofSegment?
  split
  case _ h => simp [h]
  case _ h => split <;> simp [h]

/-- Idle segments at the front are no steps. -/
theorem filterMap_dropWhile_isIdle (segments : List (List UInt8)) :
    (segments.dropWhile isIdle).filterMap Component.ofSegment? =
      segments.filterMap Component.ofSegment? := by
  induction segments with
  | nil => rfl
  | cons s rest ih =>
    rw [List.dropWhile_cons]
    split
    case _ hs => rw [ih, List.filterMap_cons, ofSegment?_eq_none_iff.mpr hs]
    case _ => rfl

/-- Idle segments at the end are no steps. -/
theorem filterMap_trimEnd (segments : List (List UInt8)) :
    (trimEnd segments).filterMap Component.ofSegment? =
      segments.filterMap Component.ofSegment? := by
  rw [trimEnd, List.filterMap_reverse, filterMap_dropWhile_isIdle, List.filterMap_reverse,
    List.reverse_reverse]

/-- Dropping components drops as many steps. -/
theorem filterMap_dropComponents (n : Nat) (segments : List (List UInt8)) :
    (dropComponents n segments).filterMap Component.ofSegment? =
      (segments.filterMap Component.ofSegment?).drop n := by
  induction n generalizing segments with
  | zero => rfl
  | succ n ih =>
    rw [dropComponents, ← filterMap_dropWhile_isIdle segments]
    have hhead := List.head?_dropWhile_not isIdle segments
    cases hrest : segments.dropWhile isIdle with
    | nil => rfl
    | cons s rest =>
      -- the first segment that is not idle is the step that goes
      rw [hrest] at hhead
      obtain ⟨c, hc⟩ := Option.ne_none_iff_exists'.mp
        (mt ofSegment?_eq_none_iff.mp (ne_true_of_eq_false hhead))
      rw [List.filterMap_cons, hc, List.drop_succ_cons]
      exact ih rest

theorem dropComponents_suffix (n : Nat) (segments : List (List UInt8)) :
    dropComponents n segments <:+ segments := by
  induction n generalizing segments with
  | zero => exact List.suffix_refl _
  | succ n ih =>
    rw [dropComponents]
    have hsuffix := List.dropWhile_suffix isIdle (l := segments)
    split
    case _ => exact List.nil_suffix
    case _ s rest hrest =>
      rw [hrest] at hsuffix
      exact (ih rest).trans ((List.suffix_cons s rest).trans hsuffix)

theorem trimEnd_isPrefix (segments : List (List UInt8)) : trimEnd segments <+: segments :=
  List.rdropWhile_prefix isIdle segments

/-- What stands at the front stays there when the end is trimmed. -/
theorem head?_of_head?_trimEnd {segments : List (List UInt8)} {s : List UInt8}
    (h : (trimEnd segments).head? = some s) : segments.head? = some s := by
  obtain ⟨rest, hrest⟩ := trimEnd_isPrefix segments
  rw [← hrest, List.head?_append, h]
  rfl

/-! ## Cutting a path -/

theorem slash_notMem_of_mem_body {p : Path} {s : List UInt8} (h : s ∈ p.body) : slash ∉ s := by
  unfold body parse at h
  split at h
  case _ t rest hsplit =>
    exact slash_notMem_of_mem_splitSlashes (by rw [hsplit]; exact List.mem_cons_of_mem _ h)
  case _ b rest hsplit =>
    split at h
    · exact slash_notMem_of_mem_splitSlashes (by rw [hsplit]; exact List.mem_cons_of_mem _ h)
    · exact slash_notMem_of_mem_splitSlashes (by rw [hsplit]; exact h)
  case _ => exact slash_notMem_of_mem_splitSlashes h

/-- The segments of a path behind some of its components, without idle ones at either end, are put
together to a path with their steps. -/
theorem components_joinSlashes_trimEnd (p : Path) (n : Nat) :
    (⟨joinSlashes (trimEnd ((dropComponents n p.body).dropWhile isIdle))⟩ : Path).components =
      (p.body.filterMap Component.ofSegment?).drop n := by
  have hsuffix : (dropComponents n p.body).dropWhile isIdle <:+ p.body :=
    (List.dropWhile_suffix isIdle).trans (dropComponents_suffix n p.body)
  rw [components_joinSlashes, filterMap_trimEnd, filterMap_dropWhile_isIdle,
    filterMap_dropComponents]
  · intro s hs
    exact slash_notMem_of_mem_body (hsuffix.mem ((trimEnd_isPrefix _).mem hs))
  · intro s hs
    have hhead := List.head?_dropWhile_not isIdle (dropComponents n p.body)
    rw [head?_of_head?_trimEnd hs] at hhead
    exact hhead

/-- What is left of a path after some components has the components behind them. -/
theorem components_afterComponents (p : Path) {n : Nat} (hn : n ≠ 0) :
    (p.afterComponents n).components = p.components.drop n := by
  obtain ⟨n, rfl⟩ := Nat.exists_eq_succ_of_ne_zero hn
  unfold afterComponents components
  cases hanchor : p.anchor with
  | none => exact components_joinSlashes_trimEnd p (n + 1)
  | root | here => exact components_joinSlashes_trimEnd p n

/-- A path without a start is empty or begins with a segment that is not idle. -/
theorem body_of_anchor_none {p : Path} (h : p.anchor = .none) :
    p.body = [[]] ∨ ∃ s rest, p.body = s :: rest ∧ isIdle s = false := by
  rw [anchor, parse] at h
  rw [body, parse]
  match hsplit : splitSlashes p.bytes with
  | [] => exact absurd hsplit (splitSlashes_ne_nil _)
  | [[]] => exact Or.inl rfl
  | [] :: t :: rest =>
    rw [hsplit] at h
    cases h
  | [b] :: rest =>
    by_cases hb : b = dot
    · rw [hsplit, hb] at h
      cases h
    · exact Or.inr ⟨[b], rest, by simp [hb], by simp [isIdle, hb]⟩
  | (b :: c :: s) :: rest => exact Or.inr ⟨_, rest, rfl, by simp [isIdle]⟩

/-- A path without idle segments at its end is the same path. -/
theorem components_withoutIdleEnd (p : Path) : p.withoutIdleEnd.components = p.components := by
  have hslash : ∀ s ∈ trimEnd p.body, slash ∉ s := fun s hs =>
    slash_notMem_of_mem_body ((trimEnd_isPrefix _).mem hs)
  have hp : p.components = p.anchor.components ++ p.body.filterMap Component.ofSegment? := rfl
  rw [withoutIdleEnd, hp, ← filterMap_trimEnd p.body, ← steps_joinSlashes hslash]
  cases hanchor : p.anchor with
  | root =>
    have habsolute : (⟨slash :: joinSlashes (trimEnd p.body)⟩ : Path).isAbsolute = true :=
      isAbsolute_iff.mpr ⟨_, rfl⟩
    rw [Anchor.write, components_of_isAbsolute habsolute]
    rfl
  | here =>
    cases htrim : trimEnd p.body with
    | nil => rfl
    | cons s rest =>
      let bs := joinSlashes (s :: rest)
      have hsplit : splitSlashes (dot :: slash :: bs) = [dot] :: splitSlashes bs :=
        splitSlashes_append [dot] bs
      change (⟨dot :: slash :: bs⟩ : Path).components = _
      unfold components anchor body parse
      rw [hsplit]
      rfl
  | none =>
    rw [Anchor.write, components_joinSlashes hslash, steps_joinSlashes hslash]
    · rfl
    · intro s hs
      rcases body_of_anchor_none hanchor with hempty | ⟨t, rest, hbody, ht⟩
      · rw [hempty] at hs
        cases hs
      · have hhead := head?_of_head?_trimEnd hs
        rw [hbody, List.head?_cons, Option.some.injEq] at hhead
        rw [← hhead, ht]

/-- What is left of a path below a base has the components behind those of the base. -/
theorem components_of_stripBase? {base p q : Path} (h : stripBase? base p = some q) :
    q.components = p.components.drop base.components.length := by
  rw [stripBase?] at h
  split at h
  case _ =>
    split at h
    case _ hcount =>
      cases h
      rw [components_withoutIdleEnd, beq_iff_eq.mp hcount, List.drop_zero]
    case _ hcount =>
      cases h
      exact components_afterComponents p (by simpa using hcount)
  case _ => cases h

/-- What is left of a path below an absolute base is relative. -/
theorem isAbsolute_of_stripBase? {base p q : Path} (hbase : base.isAbsolute = true)
    (h : stripBase? base p = some q) : q.isAbsolute = false := by
  have hsteps : ∀ c ∈ q.components, c ∈ p.steps := by
    rw [components_of_stripBase? h, components_of_isAbsolute hbase, List.length_cons,
      components_eq p]
    intro c hc
    -- the start is one component at most, and at least one goes
    cases hanchor : p.anchor with
    | root | here | none =>
      rw [hanchor] at hc
      exact List.mem_of_mem_drop hc
  rw [isAbsolute, beq_eq_false_iff_ne]
  intro hroot
  have hmem := hsteps _ (root_mem_components.mpr hroot)
  cases ofSegment?_bytes hmem

/-- A path that continues a base has something left below it: what it continues the base with. -/
theorem exists_stripBase?_of_components {base p : Path} {rest : List Component}
    (h : p.components = base.components ++ rest) :
    ∃ q, stripBase? base p = some q ∧ q.components = rest := by
  have hprefix : base.components.isPrefixOf p.components = true := by
    rw [List.isPrefixOf_iff_prefix, h]
    exact List.prefix_append _ _
  obtain ⟨q, hq⟩ : ∃ q, stripBase? base p = some q := by
    rw [stripBase?, if_pos hprefix]
    split
    · exact ⟨_, rfl⟩
    · exact ⟨_, rfl⟩
  refine ⟨q, hq, ?_⟩
  rw [components_of_stripBase? hq, h, List.drop_left]

end Deadwood.Path
