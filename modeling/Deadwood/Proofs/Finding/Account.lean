import Deadwood.Proofs.Finding.Table
import Deadwood.Proofs.Path.Entries
import Deadwood.Proofs.Text.Blank

/-!
# The findings of a report, in full

The table of a report is built in two rounds, one for the unused functions and one for the comments,
and the files of the two rounds may be spelled in many ways. This module says what it holds without
building it: which files it lists and how they are spelled, what it holds for each, and that no
finding is lost or there twice.

* `CommentRecord.finding_eq` : what a hint says;
* `find?_paths_ofReport` : which files are listed, and in which spelling;
* `perm_values_ofReport` : which findings there are in all;
* `ofReport_exact` : all of it together.
-/

namespace Deadwood

/-- The unused functions of a report are those without uses. -/
theorem Report.filter_usageCount (r : Report) :
    (r.functions.filter fun f => f.usageCount = 0) = r.unused := by
  refine List.filter_congr fun f _ => ?_
  rw [FunctionRecord.isUnused, beq_eq_decide]

/-! ## Messages -/

/-- A hint shows the code without the white space around it, if that is wanted and there is more
than white space. -/
theorem CommentRecord.finding_eq (settings : FindingSettings) (c : CommentRecord) :
    c.finding settings =
      ⟨.hint, c.line,
        if settings.includeSnippet = true ∧ c.content.toList.all Text.isBlank = false then
          "Commented-out code: " ++ Text.trim c.content
        else "Commented-out code"⟩ := by
  have hshown : (settings.includeSnippet && !(Text.trim c.content).isEmpty) = true ↔
      settings.includeSnippet = true ∧ c.content.toList.all Text.isBlank = false := by
    rw [Bool.and_eq_true, Bool.not_eq_true', ← Bool.not_eq_true, String.isEmpty_iff,
      (Text.trims_trim c.content).eq_empty_iff, ← List.all_eq_true, Bool.not_eq_true]
  unfold finding
  simp only [hshown]
  rfl

namespace FindingTable

open PathMap

/-! ## Files -/

/-- The files of the findings of a report, in the order in which they are added. -/
def filesOf (r : Report) : List Path := r.unused.map (·.file) ++ r.comments.map (·.file)

/-- A file is listed in the spelling in which it was added first. -/
theorem find?_paths_ofReport (settings : FindingSettings) (r : Report) (q : Path) :
    (ofReport settings r).paths.find? (·.same q) = (filesOf r).find? (·.same q) := by
  let warned : FindingTable := r.unused.foldl (fun t f => t.push f.file f.finding) .empty
  have hfunctions : warned.paths.find? (·.same q) =
      (r.unused.map (·.file)).find? (·.same q) :=
    find?_paths_foldl_alter FunctionRecord.file (fun f old => old.getD [] ++ [f.finding]) r.unused
      .empty q
  have hcomments : (ofReport settings r).paths.find? (·.same q) =
      (warned.paths ++ r.comments.map (·.file)).find? (·.same q) :=
    find?_paths_foldl_alter CommentRecord.file
      (fun c old => old.getD [] ++ [c.finding settings]) r.comments warned q
  rw [hcomments, filesOf, List.find?_append, List.find?_append, hfunctions]

theorem mem_filesOf {r : Report} {p : Path} :
    p ∈ filesOf r ↔ (∃ f ∈ r.unused, f.file = p) ∨ ∃ c ∈ r.comments, c.file = p := by
  simp [filesOf]

/-- A report has no findings for a path iff none of its unused functions and comments is there. -/
theorem findings?_ofReport_eq_none (settings : FindingSettings) (r : Report) (q : Path) :
    (ofReport settings r).findings? q = none ↔
      (∀ f ∈ r.unused, f.file.same q = false) ∧ ∀ c ∈ r.comments, c.file.same q = false := by
  rw [findings?, get?_eq_none_iff, find?_paths_ofReport, List.find?_eq_none]
  simp [mem_filesOf, or_imp, forall_and]

/-- Every file that is listed has a finding. -/
theorem ne_nil_of_mem_ofReport {settings : FindingSettings} {r : Report} {e : Path × List Finding}
    (he : e ∈ (ofReport settings r).entries) : e.2 ≠ [] := by
  have hfound : (ofReport settings r).findings? e.1 = some e.2 := get?_of_mem he
  have hall := getD_findings?_ofReport settings r e.1
  rw [hfound, Option.getD_some] at hall
  intro hnil
  rw [hnil, eq_comm, List.append_eq_nil_iff, List.map_eq_nil_iff, List.map_eq_nil_iff,
    List.filter_eq_nil_iff, Report.unusedIn, List.filter_eq_nil_iff] at hall
  have hnone : (ofReport settings r).findings? e.1 = none := by
    rw [findings?_ofReport_eq_none]
    simpa using hall
  rw [hfound] at hnone
  cases hnone

/-! ## Findings -/

/-- The findings of a report are those of its unused functions and comments, each once. -/
theorem perm_values_ofReport (settings : FindingSettings) (r : Report) :
    (ofReport settings r).values.Perm
      (r.unused.map FunctionRecord.finding ++ r.comments.map (CommentRecord.finding settings)) := by
  have hfunctions :=
    perm_values_foldl_push FunctionRecord.file FunctionRecord.finding r.unused .empty
  have hcomments := perm_values_foldl_push CommentRecord.file (CommentRecord.finding settings)
    r.comments (r.unused.foldl (fun t f => t.push f.file f.finding) .empty)
  exact hcomments.trans (hfunctions.append_right _)

/-- Unused functions make for warnings and comments for hints. -/
theorem countP_values_ofReport (settings : FindingSettings) (r : Report) (severity : Severity) :
    (ofReport settings r).values.countP (·.severity == severity) =
      match severity with
      | .warning => r.unused.length
      | .hint => r.comments.length := by
  rw [(perm_values_ofReport settings r).countP_eq, List.countP_append, List.countP_map,
    List.countP_map]
  cases severity with
  | warning | hint => simp [Function.comp_def, FunctionRecord.finding, CommentRecord.finding_eq]

theorem total_ofReport (settings : FindingSettings) (r : Report) :
    (ofReport settings r).total = r.unused.length + r.comments.length := by
  have hlength := (perm_values_ofReport settings r).length_eq
  rwa [List.length_append, List.length_map, List.length_map] at hlength

/-! ## All of it together -/

/-- What the table of a report holds.

* A path has no findings iff no unused function and no comment is there.
* Else it has the warnings of its unused functions and then the hints of its comments, both in
  report order and on their own lines. A hint shows the code, without the white space around it, iff
  that is wanted and there is more than white space.
* Files are listed in strict path order, so none twice, each in the spelling of the first record
  that was added for it and with what is found for it, which is not nothing.
* There are as many warnings as unused functions and as many hints as comments. -/
theorem ofReport_exact (settings : FindingSettings) (r : Report) :
    let unused := r.functions.filter fun f => f.usageCount = 0
    (∀ p, (ofReport settings r).findings? p = none ↔
      (∀ f ∈ r.functions, f.usageCount = 0 → f.file.same p = false) ∧
        ∀ c ∈ r.comments, c.file.same p = false) ∧
    (∀ p findings, (ofReport settings r).findings? p = some findings →
      findings =
        ((unused.filter (·.file.same p)).map fun f => ⟨.warning, f.line, "Unused function"⟩) ++
          (r.comments.filter (·.file.same p)).map fun c =>
            ⟨.hint, c.line,
              if settings.includeSnippet = true ∧ c.content.toList.all Text.isBlank = false then
                "Commented-out code: " ++ Text.trim c.content
              else "Commented-out code"⟩) ∧
    (∀ c ∈ r.comments, Text.Trims c.content (Text.trim c.content)) ∧
    (ofReport settings r).paths.Pairwise
      (fun p q => compare p q = .lt ∧ p.same q = false) ∧
    (∀ e ∈ (ofReport settings r).entries,
      (unused.map (·.file) ++ r.comments.map (·.file)).find? (·.same e.1) = some e.1 ∧
        (ofReport settings r).findings? e.1 = some e.2 ∧ e.2 ≠ []) ∧
    ((ofReport settings r).entries.flatMap (·.2)).countP (·.severity == .warning) =
      unused.length ∧
    ((ofReport settings r).entries.flatMap (·.2)).countP (·.severity == .hint) =
      r.comments.length ∧
    (ofReport settings r).total = unused.length + r.comments.length := by
  intro unused
  have hunused : unused = r.unused := r.filter_usageCount
  rw [hunused]
  refine ⟨?_, ?_, fun c _ => Text.trims_trim c.content, ?_, ?_,
    countP_values_ofReport settings r .warning, countP_values_ofReport settings r .hint,
    total_ofReport settings r⟩
  · intro p
    rw [findings?_ofReport_eq_none, ← r.filter_usageCount]
    simp only [List.mem_filter, decide_eq_true_eq, and_imp]
  · intro p findings hfound
    have hall := getD_findings?_ofReport settings r p
    rw [hfound, Option.getD_some] at hall
    rw [hall, Report.unusedIn, funext (CommentRecord.finding_eq settings)]
    rfl
  · refine List.pairwise_map.mpr (List.Pairwise.imp ?_ (ofReport settings r).ordered)
    intro a b hlt
    exact ⟨hlt, Path.same_eq_false_of_lt hlt⟩
  · intro e he
    have hspelled := find?_paths_of_mem (fst_mem_paths he)
    rw [find?_paths_ofReport] at hspelled
    exact ⟨hspelled, get?_of_mem he, ne_nil_of_mem_ofReport he⟩

end FindingTable

end Deadwood
