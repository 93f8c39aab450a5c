import Deadwood.Proofs.Path.Map

/-!
# What a map lists

Beside what is found under one path, a map shows all of its paths and all of its values. A path is
listed in the spelling in which it came first, and a change of the value under one path leaves all
other values as they were.

* `find?_paths_foldl_alter` : the spelling of every path, after many changes;
* `perm_values_foldl_push` : the values of a map of lists, after many additions;
* `length_values_alter` : the number of values in a map of lists, after a change.
-/

namespace Deadwood

namespace PathMap

variable {α : Type}

/-! ## Paths -/

/-- Nothing is found under a path iff it is not listed. -/
theorem get?_eq_none_iff {m : PathMap α} {q : Path} :
    m.get? q = none ↔ m.paths.find? (·.same q) = none := by
  simp [get?, valueAt?, paths, List.find?_eq_none]

theorem fst_mem_paths {m : PathMap α} {e : Path × α} (he : e ∈ m.entries) : e.1 ∈ m.paths :=
  List.mem_map.mpr ⟨e, he, rfl⟩

/-- A path is listed in one spelling only. -/
theorem find?_paths_of_mem {m : PathMap α} {p : Path} (hp : p ∈ m.paths) :
    m.paths.find? (·.same p) = some p := by
  obtain ⟨entries, h⟩ := m
  unfold paths at hp ⊢
  induction entries with
  | nil => cases hp
  | cons a rest ih =>
    obtain ⟨hhead, hrest⟩ := List.pairwise_cons.mp h
    rw [List.map_cons, List.find?_cons]
    rcases List.mem_cons.mp hp with rfl | hp
    · rw [Path.same_refl]
    · obtain ⟨e, he, rfl⟩ := List.mem_map.mp hp
      rw [Path.same_eq_false_of_lt (hhead e he)]
      exact ih hrest hp

/-- After a change of the value under a path, a path is spelled as before, and the changed one as it
was given if it is new. -/
theorem find?_paths_alterEntries {entries : List (Path × α)} (h : OrderedEntries entries)
    (p : Path) (f : Option α → α) (q : Path) :
    ((alterEntries p f entries).map (·.1)).find? (·.same q) =
      (entries.map (·.1) ++ [p]).find? (·.same q) := by
  induction entries with
  | nil => rfl
  | cons a rest ih =>
    have hrest : OrderedEntries rest := List.Pairwise.of_cons h
    rw [alterEntries, List.find?_append]
    split
    case _ hlt =>
      by_cases hq : p.same q = true
      · -- no path of the list is the new one
        have hother : ∀ r ∈ (a :: rest).map (·.1), ¬r.same q = true := by
          intro r hr
          obtain ⟨e, he, rfl⟩ := List.mem_map.mp hr
          rw [Path.same_comm, ← Path.same_congr_left hq,
            Path.same_eq_false_of_lt (h.lt_of_lt_head hlt e he)]
          exact Bool.false_ne_true
        rw [List.find?_eq_none.mpr hother, Option.none_or, List.map_cons, List.find?_cons,
          List.find?_cons, hq]
      · have hnone : [p].find? (·.same q) = none := List.find?_cons_of_neg hq
        rw [hnone, Option.or_none]
        exact List.find?_cons_of_neg hq
    case _ heq =>
      have hsame : p.same a.1 = true := Path.compare_eq_iff_same.mp heq
      rw [List.map_cons, List.map_cons, List.find?_cons]
      by_cases hq : a.1.same q = true
      · rw [hq]
        rfl
      · have hnone : [p].find? (·.same q) = none := by
          refine List.find?_cons_of_neg ?_
          rwa [Path.same_congr_left hsame]
        rw [hnone, Option.or_none]
    case _ hgt =>
      rw [List.map_cons, List.map_cons, List.find?_cons, List.find?_cons, ih hrest,
        List.find?_append]
      cases a.1.same q <;> rfl

/-- After changes of the values under many paths, a path is spelled as before, and a new one as in
the first change of it. -/
theorem find?_paths_foldl_alter {β : Type} (key : β → Path) (change : β → Option α → α)
    (xs : List β) (m : PathMap α) (q : Path) :
    (xs.foldl (fun m x => m.alter (key x) (change x)) m).paths.find? (·.same q) =
      (m.paths ++ xs.map key).find? (·.same q) := by
  induction xs generalizing m with
  | nil => rw [List.map_nil, List.append_nil, List.foldl_nil]
  | cons x xs ih =>
    have hfirst : (m.alter (key x) (change x)).paths.find? (·.same q) =
        (m.paths ++ [key x]).find? (·.same q) :=
      find?_paths_alterEntries m.ordered (key x) (change x) q
    rw [List.foldl_cons, ih, List.find?_append, hfirst,
      ← List.find?_append, List.append_assoc]
    rfl

/-! ## Values -/

/-- All values of a map of lists, in the order of their paths. -/
def values (m : PathMap (List α)) : List α := m.entries.flatMap (·.2)

/-- Adding a value to the list under a path adds this one and changes no other. -/
theorem perm_values_push (m : PathMap (List α)) (p : Path) (x : α) :
    (m.push p x).values.Perm (m.values ++ [x]) := by
  change ((alterEntries p (fun old => old.getD [] ++ [x]) m.entries).flatMap (·.2)).Perm
    (m.entries.flatMap (·.2) ++ [x])
  induction m.entries with
  | nil => exact .refl _
  | cons a rest ih =>
    rw [alterEntries]
    split
    case _ => exact List.perm_append_comm
    case _ =>
      simp only [List.flatMap_cons, Option.getD_some, List.append_assoc]
      exact List.perm_append_comm.append_left a.2
    case _ =>
      rw [List.flatMap_cons, List.flatMap_cons, List.append_assoc]
      exact ih.append_left a.2

/-- Adding values adds just these. -/
theorem perm_values_foldl_push {β : Type} (key : β → Path) (value : β → α) (xs : List β)
    (m : PathMap (List α)) :
    (xs.foldl (fun m x => m.push (key x) (value x)) m).values.Perm
      (m.values ++ xs.map value) := by
  induction xs generalizing m with
  | nil => rw [List.map_nil, List.append_nil, List.foldl_nil]
  | cons x xs ih =>
    have hfirst := (perm_values_push m (key x) (value x)).append_right (xs.map value)
    rw [List.append_assoc] at hfirst
    exact (ih _).trans hfirst

/-- Changing the list under a path changes the number of values by what that list grows. -/
theorem length_values_alter (m : PathMap (List α)) (p : Path) (f : Option (List α) → List α) :
    (m.alter p f).values.length + ((m.get? p).getD []).length =
      m.values.length + (f (m.get? p)).length := by
  obtain ⟨entries, h⟩ := m
  change ((alterEntries p f entries).flatMap (·.2)).length +
      ((valueAt? p entries).getD []).length =
    (entries.flatMap (·.2)).length + (f (valueAt? p entries)).length
  induction entries with
  | nil => simp [alterEntries, valueAt?]
  | cons a rest ih =>
    have hrest : OrderedEntries rest := List.Pairwise.of_cons h
    rw [alterEntries]
    split
    case _ hlt =>
      have hnone : valueAt? p (a :: rest) = none :=
        valueAt?_eq_none_of_lt (h.lt_of_lt_head hlt)
      rw [hnone, Option.getD_none, List.length_nil]
      simp only [List.flatMap_cons, List.length_append]
      omega
    case _ heq =>
      have hsame : a.1.same p = true := by
        rw [Path.same_comm]
        exact Path.compare_eq_iff_same.mp heq
      rw [valueAt?_cons, if_pos hsame]
      simp only [List.flatMap_cons, List.length_append, Option.getD_some]
      omega
    case _ hgt =>
      have hne : a.1.same p = false :=
        Path.same_eq_false_of_lt (Std.OrientedCmp.lt_of_gt hgt)
      have hlength := ih hrest
      rw [valueAt?_cons, hne, if_neg Bool.false_ne_true]
      simp only [List.flatMap_cons, List.length_append]
      omega

end PathMap

end Deadwood
