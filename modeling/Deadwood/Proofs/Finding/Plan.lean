import Deadwood.Proofs.Finding.Account

/-!
# Publication plans, in full

A plan between two tables is built in two rounds as well: it first clears all files of the old table
and then puts in all files of the new one, which may be spelled differently. This module says what
comes out: which files the plan names and how they are spelled, and what it has for each.

* `find?_paths_planTable` : which files a plan names, and in which spelling;
* `plan_exact` : all of it together.
-/

namespace Deadwood

open PathMap

namespace Publication

/-! ## Files -/

/-- A plan names the files of both tables, each in the spelling of the old table if it is there. -/
theorem find?_paths_planTable (previous next : FindingTable) (q : Path) :
    (planTable previous next).paths.find? (·.same q) =
      (previous.paths ++ next.paths).find? (·.same q) := by
  let cleared : FindingTable := previous.paths.foldl (fun m p => m.insert p []) .empty
  have hold : cleared.paths.find? (·.same q) =
      (previous.paths.map fun p => p).find? (·.same q) :=
    find?_paths_foldl_alter (fun p => p) (fun _ _ => []) previous.paths .empty q
  have hnew : (planTable previous next).paths.find? (·.same q) =
      (cleared.paths ++ next.paths).find? (·.same q) :=
    find?_paths_foldl_alter Prod.fst (fun e _ => e.2) next.entries cleared q
  rw [hnew, List.find?_append, hold, List.map_id', ← List.find?_append]

/-- A path is named by a plan iff it is in one of the two tables. -/
theorem exists_mem_paths_planTable (previous next : FindingTable) (q : Path) :
    (∃ p ∈ (planTable previous next).paths, p.same q = true) ↔
      (∃ p ∈ previous.paths, p.same q = true) ∨ ∃ p ∈ next.paths, p.same q = true := by
  have hfound := congrArg Option.isSome (find?_paths_planTable previous next q)
  rw [List.find?_append, Option.isSome_or] at hfound
  rw [← List.find?_isSome, ← List.find?_isSome, ← List.find?_isSome, hfound, Bool.or_eq_true]

/-! ## Lists -/

/-- The list of a file in a plan is the new one, empty if there is none. -/
theorem snd_eq_of_mem_planTable {previous next : FindingTable} {e : Path × List Finding}
    (he : e ∈ (planTable previous next).entries) : e.2 = (next.findings? e.1).getD [] := by
  have hfound := get?_of_mem he
  have hlist := getD_get?_planTable previous next e.1
  rw [hfound, Option.getD_some] at hlist
  exact hlist

/-- The table of a report lists just the files for which it has something. -/
theorem getD_findings?_ofReport_ne_nil (settings : FindingSettings) (r : Report) (q : Path) :
    ((FindingTable.ofReport settings r).findings? q).getD [] ≠ [] ↔
      ∃ p ∈ (FindingTable.ofReport settings r).paths, p.same q = true := by
  match hfound : (FindingTable.ofReport settings r).findings? q with
  | none =>
    have hunlisted := List.find?_eq_none.mp (get?_eq_none_iff.mp hfound)
    refine iff_of_false (fun hne => hne rfl) ?_
    rintro ⟨p, hp, hsame⟩
    exact hunlisted p hp hsame
  | some findings =>
    obtain ⟨e, he, hsame, rfl⟩ := exists_mem_of_get? hfound
    exact iff_of_true (FindingTable.ne_nil_of_mem_ofReport he) ⟨e.1, fst_mem_paths he, hsame⟩

/-! ## All of it together -/

/-- What a plan between two tables holds.

* Its files are in strict path order and are those of the two tables.
* The list of a file is the one of the new table, and empty if that does not have the file.
* A file is spelled as in the old table if it is there, and else as in the new one.
* If the new table is that of a report, the files with a list that is not empty are those of the new
  table. -/
theorem plan_exact (previous next : FindingTable) :
    (plan previous next).Pairwise (fun a b => compare a.file b.file = .lt) ∧
    (∀ q, (∃ a ∈ plan previous next, a.file.same q = true) ↔
      (∃ p ∈ previous.paths, p.same q = true) ∨ ∃ p ∈ next.paths, p.same q = true) ∧
    (∀ a ∈ plan previous next,
      a.findings = (next.findings? a.file).getD [] ∧
        (previous.paths ++ next.paths).find? (·.same a.file) = some a.file) ∧
    ∀ settings r, next = .ofReport settings r → ∀ a ∈ plan previous next,
      (a.findings ≠ [] ↔ ∃ p ∈ next.paths, p.same a.file = true) := by
  refine ⟨List.pairwise_map.mpr (planTable previous next).ordered, ?_, ?_, ?_⟩
  · intro q
    rw [← exists_mem_paths_planTable]
    simp [plan, paths]
  · intro a ha
    obtain ⟨e, he, rfl⟩ := List.mem_map.mp ha
    have hspelled := find?_paths_of_mem (fst_mem_paths he)
    rw [find?_paths_planTable] at hspelled
    exact ⟨snd_eq_of_mem_planTable he, hspelled⟩
  · rintro settings r rfl a ha
    obtain ⟨e, he, rfl⟩ := List.mem_map.mp ha
    rw [snd_eq_of_mem_planTable he]
    exact getD_findings?_ofReport_ne_nil settings r e.1

/-- Two unused functions in two files. -/
def older : Report where
  functions := [⟨"foo", .ofText "/w/a.py", 1, 0, none⟩, ⟨"bar", .ofText "/w/b.py", 1, 0, none⟩]

/-- One of them is gone, the file of the other one is spelled in another way. -/
def newer : Report where
  functions := [⟨"bar", .ofText "/w//b.py", 2, 0, none⟩]

/-- A file that stays is published in its old spelling with its new list. -/
theorem plan_exact_respelled :
    let previous : FindingTable := .ofReport {} older
    let next : FindingTable := .ofReport {} newer
    let kept : Publication := ⟨.ofText "/w/b.py", [⟨.warning, 2, "Unused function"⟩]⟩
    kept ∈ plan previous next ∧
      (previous.paths ++ next.paths).find? (·.same kept.file) = some kept.file ∧
      ∃ p ∈ next.paths, p.same kept.file = true := by
  intro previous next kept
  have hkept : kept ∈ plan previous next := by decide +kernel
  obtain ⟨-, -, hentries, hreport⟩ := plan_exact previous next
  exact ⟨hkept, (hentries kept hkept).2,
    (hreport {} newer rfl kept hkept).mp (List.cons_ne_nil _ _)⟩

end Publication

end Deadwood
