import Deadwood.Path.Basic

/-!
# The order of paths

Paths are compared through their components, so that two spellings of one path are equal in the
order and no others are.

* `Path.same_iff` : two spellings are of one path iff they have the same components;
* `Path.compare_eq_iff_same` : the order does not tell apart exactly the spellings of one path.
-/

namespace Deadwood

namespace Path

/-! ## Components in order -/

instance : Std.TransOrd Component :=
  inferInstanceAs
    (Std.TransCmp (compareLex (compareOn Component.rank) (compareOn Component.label)))

/-- A component is determined by its kind and its name. -/
theorem Component.eq_of_rank_of_label {a b : Component} (hrank : a.rank = b.rank)
    (hlabel : a.label = b.label) : a = b := by
  cases a <;> cases b <;> simp_all [Component.rank, Component.label]

instance : Std.LawfulEqOrd Component where
  compare_self := Std.ReflOrd.compare_self
  eq_of_compare {a b} h := by
    have hboth : compare a.rank b.rank = .eq ∧ compare a.label b.label = .eq :=
      Ordering.then_eq_eq.mp h
    exact Component.eq_of_rank_of_label (Std.LawfulEqOrd.eq_of_compare hboth.1)
      (Std.LawfulEqOrd.eq_of_compare hboth.2)

/-! ## Paths in order -/

instance : Std.TransOrd Path :=
  inferInstanceAs (Std.TransCmp (compareOn Path.components))

/-- Two spellings are of one path iff they have the same components. -/
theorem same_iff {p q : Path} : p.same q = true ↔ p.components = q.components := by
  unfold same
  exact beq_iff_eq

@[simp] theorem same_refl (p : Path) : p.same p = true := same_iff.mpr rfl

theorem same_comm (p q : Path) : p.same q = q.same p := by
  rw [Bool.eq_iff_iff, same_iff, same_iff]
  exact eq_comm

/-- Another spelling of a path can take its place in a comparison. -/
theorem same_congr_left {p q : Path} (h : p.same q = true) (r : Path) :
    p.same r = q.same r := by
  rw [Bool.eq_iff_iff, same_iff, same_iff, same_iff.mp h]

/-- The order does not tell apart exactly the spellings of one path. -/
theorem compare_eq_iff_same {p q : Path} : compare p q = .eq ↔ p.same q = true := by
  rw [same_iff]
  exact Std.LawfulEqOrd.compare_eq_iff_eq (a := p.components) (b := q.components)

/-- Another spelling of a path has its place in the order. -/
theorem compare_congr_left {p q : Path} (h : p.same q = true) (r : Path) :
    compare p r = compare q r := by
  change compare p.components r.components = compare q.components r.components
  rw [same_iff.mp h]

/-- A path is not another spelling of one that comes after it. -/
theorem same_eq_false_of_lt {p q : Path} (h : compare p q = .lt) : p.same q = false := by
  rw [← Bool.not_eq_true, ← compare_eq_iff_same, h]
  decide

end Path

end Deadwood
