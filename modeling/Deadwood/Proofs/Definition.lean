import Deadwood.Definition
import Deadwood.Proofs.Path.Map

/-!
# What the index of a report finds

The index is built by adding the functions of a report in order, each one taking the place of what
was on its line of its file before. So it finds the last function of the report that is defined
there, however the file is spelled.
-/

namespace Deadwood

open PathMap

/-- Whether a function is defined on a line of a file. -/
def FunctionRecord.isAt (f : FunctionRecord) (file : Path) (line : UInt32) : Bool :=
  f.file.same file && f.line == line

theorem FunctionRecord.isAt_iff {f : FunctionRecord} {file : Path} {line : UInt32} :
    f.isAt file line = true ↔ f.file.same file = true ∧ f.line = line := by
  rw [isAt, Bool.and_eq_true, beq_iff_eq]

namespace DefinitionIndex

/-! ## Lines of one file -/

theorem lookup_cons_ite {α : Type} (e : UInt32 × α) (rest : List (UInt32 × α)) (l : UInt32) :
    (e :: rest).lookup l = if e.1 = l then some e.2 else rest.lookup l := by
  rw [List.lookup_cons]
  by_cases hl : e.1 = l
  · rw [if_pos hl, hl, beq_self_eq_true]
  · rw [if_neg hl, beq_false_of_ne (Ne.symm hl)]

/-- What is under a line after a value was put under one. -/
theorem lookup_setLine {α : Type} (line : UInt32) (x : α) (lines : List (UInt32 × α))
    (l : UInt32) :
    (setLine line x lines).lookup l = if line = l then some x else lines.lookup l := by
  induction lines with
  | nil => exact lookup_cons_ite (line, x) [] l
  | cons e rest ih =>
    rw [setLine]
    split
    case _ heq =>
      rw [beq_iff_eq] at heq
      rw [lookup_cons_ite, lookup_cons_ite, heq]
      by_cases hl : line = l
      · rw [if_pos hl, if_pos hl]
      · rw [if_neg hl, if_neg hl, if_neg hl]
    case _ hne =>
      rw [beq_iff_eq] at hne
      rw [lookup_cons_ite, lookup_cons_ite, ih]
      by_cases hl : e.1 = l
      · have hline : line ≠ l := fun h => hne (hl.trans h.symm)
        rw [if_pos hl, if_neg hline, if_pos hl]
      · rw [if_neg hl, if_neg hl]

/-! ## Functions of a report -/

/-- What an index finds after a definition was added. -/
theorem lookup_add (index : DefinitionIndex) (f : FunctionRecord) (file : Path) (line : UInt32) :
    (index.add f).lookup file line =
      if f.isAt file line then some f else index.lookup file line := by
  unfold lookup add FunctionRecord.isAt
  rw [get?_alter]
  by_cases hfile : f.file.same file = true
  · rw [if_pos hfile, hfile, Bool.true_and, Option.bind_eq_bind, Option.bind_some, lookup_setLine,
      get?_congr index.files hfile]
    simp only [beq_iff_eq]
    by_cases hline : f.line = line
    · rw [if_pos hline, if_pos hline]
    · -- a file without definitions has none on the line either
      rw [if_neg hline, if_neg hline]
      cases index.files.get? file <;> rfl
  · rw [if_neg hfile, eq_false_of_ne_true hfile, Bool.false_and, if_neg Bool.false_ne_true]

/-- What an index finds after functions were added one after another: the last one of them that is
defined there comes before what was there. -/
theorem lookup_foldl_add (index : DefinitionIndex) (fs : List FunctionRecord) (file : Path)
    (line : UInt32) :
    (fs.foldl add index).lookup file line =
      (fs.filter (·.isAt file line)).getLast?.or (index.lookup file line) := by
  induction fs generalizing index with
  | nil => rfl
  | cons f fs ih =>
    rw [List.foldl_cons, ih, lookup_add, List.filter_cons]
    by_cases hf : f.isAt file line = true
    · rw [if_pos hf, if_pos hf, List.getLast?_cons]
      cases (fs.filter (·.isAt file line)).getLast? <;> rfl
    · rw [if_neg hf, if_neg hf]

/-- A rebuilt index finds the last function of the report that is defined there, whatever it held
before. -/
theorem lookup_rebuild (index : DefinitionIndex) (r : Report) (file : Path) (line : UInt32) :
    (index.rebuild r).lookup file line = (r.functions.filter (·.isAt file line)).getLast? := by
  have hcleared : index.clear.lookup file line = none := rfl
  rw [rebuild, lookup_foldl_add, hcleared, Option.or_none]

end DefinitionIndex

end Deadwood
