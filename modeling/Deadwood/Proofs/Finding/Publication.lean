import Deadwood.Finding.Publication
import Deadwood.Proofs.Path.Map

/-!
# What a publication plan holds

In the plan between two tables every file of the new table has its new findings, every other file of
the old table the empty list, and there is nothing else.
-/

namespace Deadwood

open PathMap

namespace Publication

/-- The table of a plan, with both of its halves as lists of entries. -/
theorem planTable_eq (previous next : FindingTable) :
    planTable previous next =
      next.entries.foldl (fun m e => m.insert e.1 e.2)
        ((previous.entries.map fun e => (e.1, ([] : List Finding))).foldl
          (fun m e => m.insert e.1 e.2) empty) := by
  unfold planTable paths
  rw [List.foldl_map, List.foldl_map]

/-- A plan has the new findings of a file if there are any, and else clears a file that had
findings. -/
theorem get?_planTable (previous next : FindingTable) (q : Path) :
    (planTable previous next).get? q =
      (next.get? q).or ((previous.get? q).map fun _ => []) := by
  have hblank : OrderedEntries (previous.entries.map fun e => (e.1, ([] : List Finding))) :=
    previous.ordered.map fun _ => []
  have hfound := valueAt?_map (fun _ => ([] : List Finding)) previous.entries q
  rw [planTable_eq, get?_foldl_insert next.ordered, get?_foldl_insert hblank, hfound, get?_empty,
    Option.or_none]
  rfl

/-- A plan shows the findings of the new table and nothing else. -/
theorem getD_get?_planTable (previous next : FindingTable) (q : Path) :
    ((planTable previous next).get? q).getD [] = (next.get? q).getD [] := by
  rw [get?_planTable]
  cases next.get? q with
  | some findings => rfl
  | none => cases previous.get? q <;> rfl

/-- What holds of all files of two tables holds of all files of the plan between them. -/
theorem forall_planTable {P : Path → Prop} {previous next : FindingTable}
    (hp : ∀ e ∈ previous.entries, P e.1) (hn : ∀ e ∈ next.entries, P e.1) :
    ∀ e ∈ (planTable previous next).entries, P e.1 := by
  unfold planTable paths
  rw [List.foldl_map]
  refine forall_foldl_alter Prod.fst (fun e _ => e.2) hn ?_
  exact forall_foldl_alter Prod.fst (fun _ _ => []) hp (List.forall_mem_nil _)

end Publication

end Deadwood
