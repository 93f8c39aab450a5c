import Deadwood.Path.Map

/-!
# What a map finds

In a map from paths a path has at most one entry, so what is found under a path after a change is
what the change put there.

* `get?_of_mem` : every entry is found;
* `get?_alter` : what is found under any path after a change;
* `get?_foldl_insert` : what is found after putting in a whole list of entries.
-/

namespace Deadwood

namespace PathMap

variable {α : Type}

/-! ## Lists of entries -/

theorem valueAt?_cons (q : Path) (e : Path × α) (rest : List (Path × α)) :
    valueAt? q (e :: rest) = if e.1.same q then some e.2 else valueAt? q rest := by
  unfold valueAt?
  rw [List.find?_cons]
  split <;> simp_all

/-- What is found does not depend on how the path is spelled. -/
theorem valueAt?_congr (entries : List (Path × α)) {p q : Path} (h : p.same q = true) :
    valueAt? p entries = valueAt? q entries := by
  unfold valueAt?
  congr 2
  funext e
  rw [Path.same_comm, Path.same_congr_left h, Path.same_comm]

/-- Nothing is found under a path that comes before all entries. -/
theorem valueAt?_eq_none_of_lt {entries : List (Path × α)} {q : Path}
    (h : ∀ e ∈ entries, compare q e.1 = .lt) : valueAt? q entries = none := by
  induction entries with
  | nil => rfl
  | cons e rest ih =>
    have hne : e.1.same q = false := by
      rw [Path.same_comm]
      exact Path.same_eq_false_of_lt (h e List.mem_cons_self)
    rw [valueAt?_cons, hne]
    exact ih fun b hb => h b (List.mem_cons_of_mem _ hb)

/-- What is found after all values were replaced. -/
theorem valueAt?_map {β : Type} (g : α → β) (entries : List (Path × α)) (q : Path) :
    valueAt? q (entries.map fun e => (e.1, g e.2)) = (valueAt? q entries).map g := by
  induction entries with
  | nil => rfl
  | cons e rest ih =>
    rw [List.map_cons, valueAt?_cons, valueAt?_cons, ih]
    split <;> rfl

namespace OrderedEntries

variable {entries : List (Path × α)}

/-- No entry comes after the one at the end of a list in order. -/
theorem compare_getLast? (h : OrderedEntries entries) {last : Path × α}
    (hlast : entries.getLast? = some last) {e : Path × α} (he : e ∈ entries) :
    compare e.1 last.1 ≠ .gt := by
  obtain ⟨front, rfl⟩ := List.getLast?_eq_some_iff.mp hlast
  rcases List.mem_append.mp he with he | he
  · rw [(List.pairwise_append.mp h).2.2 e he last List.mem_cons_self]
    decide
  · rw [List.mem_singleton.mp he, Path.compare_eq_iff_same.mpr (Path.same_refl _)]
    decide

/-- Replacing values keeps a list of entries in order. -/
theorem map {β : Type} (h : OrderedEntries entries) (g : α → β) :
    OrderedEntries (entries.map fun e => (e.1, g e.2)) :=
  List.pairwise_map.mpr h

/-- Behind the entry of a path there is no other one of it. -/
theorem valueAt?_tail {e : Path × α} {rest : List (Path × α)} (h : OrderedEntries (e :: rest))
    {q : Path} (hq : e.1.same q = true) : valueAt? q rest = none := by
  rw [← valueAt?_congr rest hq]
  exact valueAt?_eq_none_of_lt (List.pairwise_cons.mp h).1

/-- Every entry is found. -/
theorem valueAt?_of_mem (h : OrderedEntries entries) {e : Path × α} (he : e ∈ entries) :
    valueAt? e.1 entries = some e.2 := by
  induction entries with
  | nil => cases he
  | cons a rest ih =>
    obtain ⟨hhead, hrest⟩ := List.pairwise_cons.mp h
    rw [valueAt?_cons]
    rcases List.mem_cons.mp he with rfl | he
    · rw [Path.same_refl, if_pos rfl]
    · rw [Path.same_eq_false_of_lt (hhead e he)]
      exact ih hrest he

/-- The values under a path are the one that is found. -/
theorem filter_same (h : OrderedEntries entries) (q : Path) :
    (entries.filter (·.1.same q)).map (·.2) = (valueAt? q entries).toList := by
  induction entries with
  | nil => rfl
  | cons e rest ih =>
    have hrest := ih (List.Pairwise.of_cons h)
    rw [List.filter_cons, valueAt?_cons]
    by_cases hq : e.1.same q = true
    · rw [h.valueAt?_tail hq] at hrest
      rw [if_pos hq, if_pos hq, List.map_cons, hrest]
      rfl
    · rw [if_neg hq, if_neg hq, hrest]

/-- What is found after the value under a path was changed. -/
theorem valueAt?_alterEntries (h : OrderedEntries entries) (p : Path) (f : Option α → α)
    (q : Path) :
    valueAt? q (PathMap.alterEntries p f entries) =
      if p.same q then some (f (valueAt? p entries)) else valueAt? q entries := by
  induction entries with
  | nil => exact valueAt?_cons q (p, f none) []
  | cons a rest ih =>
    obtain ⟨hhead, hrest⟩ := List.pairwise_cons.mp h
    rw [PathMap.alterEntries]
    split
    case _ hlt =>
      -- `p` comes before all entries, so nothing is found under it yet
      have hnone : valueAt? p (a :: rest) = none :=
        valueAt?_eq_none_of_lt (h.lt_of_lt_head hlt)
      rw [valueAt?_cons, hnone]
    case _ heq =>
      have hsame : p.same a.1 = true := Path.compare_eq_iff_same.mp heq
      rw [valueAt?_cons, valueAt?_cons, valueAt?_cons, Path.same_comm a.1 p, hsame,
        ← Path.same_congr_left hsame]
      split <;> rfl
    case _ hgt =>
      have hne : a.1.same p = false :=
        Path.same_eq_false_of_lt (Std.OrientedCmp.lt_of_gt hgt)
      rw [valueAt?_cons, valueAt?_cons, valueAt?_cons, ih hrest, hne]
      by_cases ha : a.1.same q = true
      · have hpq : p.same q = false := by
          rw [Path.same_comm, ← Path.same_congr_left ha, hne]
        rw [hpq]
        simp [ha]
      · simp [ha]

end OrderedEntries

/-! ## Maps -/

@[simp] theorem get?_empty (q : Path) : (empty : PathMap α).get? q = none := rfl

/-- What is found does not depend on how the path is spelled. -/
theorem get?_congr (m : PathMap α) {p q : Path} (h : p.same q = true) : m.get? p = m.get? q :=
  valueAt?_congr m.entries h

/-- What is found stands in an entry of that path. -/
theorem exists_mem_of_get? {m : PathMap α} {q : Path} {x : α} (h : m.get? q = some x) :
    ∃ e ∈ m.entries, e.1.same q = true ∧ e.2 = x := by
  obtain ⟨e, he, hx⟩ := Option.map_eq_some_iff.mp h
  exact ⟨e, List.mem_of_find?_eq_some he, by simpa using List.find?_some he, hx⟩

/-- Every entry is found. -/
theorem get?_of_mem {m : PathMap α} {e : Path × α} (he : e ∈ m.entries) :
    m.get? e.1 = some e.2 :=
  m.ordered.valueAt?_of_mem he

/-- What is found after the value under a path was changed. -/
theorem get?_alter (m : PathMap α) (p : Path) (f : Option α → α) (q : Path) :
    (m.alter p f).get? q = if p.same q then some (f (m.get? p)) else m.get? q :=
  m.ordered.valueAt?_alterEntries p f q

/-- What is found after a value was put in. -/
theorem get?_insert (m : PathMap α) (p : Path) (x : α) (q : Path) :
    (m.insert p x).get? q = if p.same q then some x else m.get? q := get?_alter m p _ q

/-! ## Many changes -/

/-- What holds of all paths of a map and of the changed ones holds of all paths after the
changes. -/
theorem forall_foldl_alter {β : Type} {P : Path → Prop} (key : β → Path)
    (change : β → Option α → α) {xs : List β} (hxs : ∀ x ∈ xs, P (key x)) {m : PathMap α}
    (hm : ∀ e ∈ m.entries, P e.1) :
    ∀ e ∈ (xs.foldl (fun m x => m.alter (key x) (change x)) m).entries, P e.1 := by
  induction xs generalizing m with
  | nil => exact hm
  | cons x xs ih =>
    obtain ⟨hx, hxs⟩ := List.forall_mem_cons.mp hxs
    refine ih hxs fun e he => ?_
    rcases mem_alterEntries he with hkey | ⟨y, hy⟩
    · rw [hkey]
      exact hx
    · exact hm (e.1, y) hy

/-- After putting in the entries of an ordered list, they are found before what was there. -/
theorem get?_foldl_insert {entries : List (Path × α)} (he : OrderedEntries entries)
    (m : PathMap α) (q : Path) :
    (entries.foldl (fun m e => m.insert e.1 e.2) m).get? q =
      (valueAt? q entries).or (m.get? q) := by
  induction entries generalizing m with
  | nil => rfl
  | cons e rest ih =>
    have hrest : OrderedEntries rest := List.Pairwise.of_cons he
    rw [List.foldl_cons, ih hrest, get?_insert, valueAt?_cons]
    by_cases hq : e.1.same q = true
    · simp [hq, he.valueAt?_tail hq]
    · simp [hq]

end PathMap

end Deadwood
