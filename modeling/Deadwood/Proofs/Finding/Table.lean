import Deadwood.Proofs.Finding.Publication

/-!
# What the findings of a report are

The table of a report is built by adding one finding after another, each under the file it is about.
What it holds for a path is found without building it: the findings of the unused functions of that
path, then those of its comments, both in report order and whatever the spelling of the file.
-/

namespace Deadwood

open PathMap

namespace FindingTable

/-- What a table holds for a path, after a finding was added to it. -/
theorem getD_get?_push (t : FindingTable) (file : Path) (finding : Finding) (q : Path) :
    ((t.push file finding).get? q).getD [] =
      (t.get? q).getD [] ++ if file.same q then [finding] else [] := by
  rw [push, get?_alter]
  by_cases hq : file.same q = true
  · rw [if_pos hq, if_pos hq, get?_congr t hq, Option.getD_some]
  · rw [if_neg hq, if_neg hq, List.append_nil]

/-- What a table holds for a path, after a finding was added for each item of a list: those of the
items about this path come behind, in the order of the list. -/
theorem getD_get?_foldl_push {β : Type} (file : β → Path) (finding : β → Finding) (xs : List β)
    (t : FindingTable) (q : Path) :
    ((xs.foldl (fun t x => t.push (file x) (finding x)) t).get? q).getD [] =
      (t.get? q).getD [] ++ (xs.filter fun x => (file x).same q).map finding := by
  induction xs generalizing t with
  | nil => exact (List.append_nil _).symm
  | cons x xs ih =>
    rw [List.foldl_cons, ih, getD_get?_push, List.append_assoc]
    congr 1
    by_cases hx : (file x).same q = true
    · rw [if_pos hx, List.filter_cons, if_pos hx, List.map_cons, List.singleton_append]
    · rw [if_neg hx, List.filter_cons, if_neg hx, List.nil_append]

/-- The findings of a report for a path: its unused functions, then its comments. -/
theorem getD_findings?_ofReport (settings : FindingSettings) (r : Report) (q : Path) :
    ((ofReport settings r).findings? q).getD [] =
      (r.unusedIn q).map FunctionRecord.finding ++
        (r.comments.filter (·.file.same q)).map (CommentRecord.finding settings) := by
  rw [findings?, ofReport, getD_get?_foldl_push CommentRecord.file,
    getD_get?_foldl_push FunctionRecord.file]
  rfl

/-- What holds of all files of a report holds of all files of its table. -/
theorem forall_ofReport {P : Path → Prop} (settings : FindingSettings) {r : Report}
    (hfunctions : ∀ f ∈ r.functions, P f.file) (hcomments : ∀ c ∈ r.comments, P c.file) :
    ∀ e ∈ (ofReport settings r).entries, P e.1 := by
  have hunused : ∀ f ∈ r.unused, P f.file := fun f hf => hfunctions f (List.mem_filter.mp hf).1
  unfold ofReport
  refine forall_foldl_alter CommentRecord.file
    (fun c old => old.getD [] ++ [c.finding settings]) hcomments ?_
  exact forall_foldl_alter FunctionRecord.file (fun f old => old.getD [] ++ [f.finding]) hunused
    (List.forall_mem_nil _)

/-- The warnings of a report for a path are those about its unused functions. -/
theorem filter_warning_ofReport (settings : FindingSettings) (r : Report) (q : Path) :
    (((ofReport settings r).findings? q).getD []).filter (·.severity == .warning) =
      (r.unusedIn q).map FunctionRecord.finding := by
  have hfunctions : ∀ x ∈ (r.unusedIn q).map FunctionRecord.finding,
      (x.severity == .warning) = true := by
    intro x hx
    obtain ⟨f, -, rfl⟩ := List.mem_map.mp hx
    rfl
  have hcomments : ∀ x ∈ (r.comments.filter (·.file.same q)).map (CommentRecord.finding settings),
      ¬(x.severity == .warning) = true := by
    intro x hx
    obtain ⟨c, -, rfl⟩ := List.mem_map.mp hx
    exact Bool.false_ne_true
  rw [getD_findings?_ofReport, List.filter_append, List.filter_eq_self.mpr hfunctions,
    List.filter_eq_nil_iff.mpr hcomments, List.append_nil]

end FindingTable

end Deadwood
