import Mathlib.Data.Finset.Card
import Mathlib.Data.List.Induction
import Deadwood.Hover
import Deadwood.Proofs.Definition
import Deadwood.Proofs.Path.Entries

/-!
# What a rebuilt index shows

A rebuilt index knows the functions of the last report only. Where several of them are defined on
one line, it knows the last of these, and a hover is about that one or about none.

* `DefinitionIndex.size_rebuild` : how many definitions an index holds;
* `Report.isLastAt_iff` : which function is the last on a line;
* `DefinitionIndex.rebuild_exact` : what a rebuilt index finds, counts and shows.
-/

namespace Deadwood

/-! ## The last function on a line -/

/-- Where a function is defined, however its file is spelled. -/
def FunctionRecord.place (f : FunctionRecord) : List Path.Component × UInt32 :=
  (f.file.components, f.line)

theorem FunctionRecord.isAt_iff_place {f g : FunctionRecord} :
    f.isAt g.file g.line = true ↔ f.place = g.place := by
  rw [isAt_iff, Path.same_iff, place, place, Prod.mk.injEq]

/-- A function is the last one of a report that is defined on a line of a file. -/
def Report.IsLastAt (r : Report) (file : Path) (line : UInt32) (f : FunctionRecord) : Prop :=
  ∃ before after, r.functions = before ++ f :: after ∧
    (f.file.same file = true ∧ f.line = line) ∧
    ∀ g ∈ after, ¬(g.file.same file = true ∧ g.line = line)

theorem Report.isLastAt_iff {r : Report} {file : Path} {line : UInt32} {f : FunctionRecord} :
    r.IsLastAt file line f ↔ (r.functions.filter (·.isAt file line)).getLast? = some f := by
  simp only [IsLastAt, ← FunctionRecord.isAt_iff]
  constructor
  · rintro ⟨before, after, hr, hf, hafter⟩
    rw [hr, List.filter_append, List.filter_cons, if_pos hf, List.filter_eq_nil_iff.mpr hafter,
      List.getLast?_concat]
  · intro hlast
    obtain ⟨earlier, hfilter⟩ := List.getLast?_eq_some_iff.mp hlast
    obtain ⟨front, back, hr, -, hback⟩ := List.filter_eq_append_iff.mp hfilter
    obtain ⟨between, after, hsplit, -, hf, hafter⟩ := List.filter_eq_cons_iff.mp hback
    refine ⟨front ++ between, after, ?_, hf, List.filter_eq_nil_iff.mp hafter⟩
    rw [hr, hsplit, List.append_assoc]

/-- A hover is about the function that the index finds, and there is one iff that has the name under
the cursor. -/
theorem Hover.at?_eq_some_iff {index : DefinitionIndex} {file : Path} {line : UInt32}
    {word text : String} :
    at? index file line word = some text ↔
      ∃ f, index.lookup file line = some f ∧ f.name = word ∧ text = render f := by
  unfold at?
  cases index.lookup file line with
  | none => simp
  | some f =>
    constructor
    · intro hshown
      obtain ⟨hname, htext⟩ := Option.ite_none_right_eq_some.mp hshown
      exact ⟨f, rfl, beq_iff_eq.mp hname, (Option.some.inj htext).symm⟩
    · rintro ⟨g, hg, rfl, rfl⟩
      cases hg
      exact if_pos (beq_self_eq_true _)

namespace DefinitionIndex

open PathMap

/-! ## The number of definitions -/

/-- Putting a value under a line adds an entry if there was none. -/
theorem length_setLine {α : Type} (line : UInt32) (x : α) (lines : List (UInt32 × α)) :
    (setLine line x lines).length =
      lines.length + if (lines.lookup line).isSome then 0 else 1 := by
  induction lines with
  | nil => rfl
  | cons e rest ih =>
    rw [setLine, lookup_cons_ite]
    by_cases hl : e.1 = line
    · rw [if_pos (beq_iff_eq.mpr hl), if_pos hl]
      rfl
    · rw [if_neg (mt beq_iff_eq.mp hl), if_neg hl, List.length_cons, List.length_cons, ih]
      omega

/-- Adding a function adds a definition if there was none at its place. -/
theorem size_add (index : DefinitionIndex) (f : FunctionRecord) :
    (index.add f).size = index.size + if (index.lookup f.file f.line).isSome then 0 else 1 := by
  have hvalues : (index.add f).size + ((index.files.get? f.file).getD []).length =
      index.size + (setLine f.line f ((index.files.get? f.file).getD [])).length :=
    length_values_alter index.files f.file fun lines => setLine f.line f (lines.getD [])
  have hlookup : ((index.files.get? f.file).getD []).lookup f.line =
      index.lookup f.file f.line := by
    unfold lookup
    cases index.files.get? f.file <;> rfl
  rw [length_setLine, hlookup] at hvalues
  omega

/-- An index finds a function at a place iff one of those that were added is there. -/
theorem isSome_lookup_foldl_add (fs : List FunctionRecord) (f : FunctionRecord) :
    ((fs.foldl add empty).lookup f.file f.line).isSome = true ↔
      f.place ∈ fs.map FunctionRecord.place := by
  have hnone : empty.lookup f.file f.line = none := rfl
  rw [lookup_foldl_add, hnone, Option.or_none, List.getLast?_isSome, ne_eq,
    List.filter_eq_nil_iff]
  simp [FunctionRecord.isAt_iff_place]

/-- An index holds one definition for each place where a function of the report is. -/
theorem size_rebuild (index : DefinitionIndex) (r : Report) :
    (index.rebuild r).size = (r.functions.map FunctionRecord.place).toFinset.card := by
  have hcleared : index.clear = empty := rfl
  rw [rebuild, hcleared]
  -- the last function that was added is the one that may have taken the place of another
  induction r.functions using List.reverseRecOn with
  | nil => rfl
  | append_singleton fs f ih =>
    rw [List.foldl_append, List.foldl_cons, List.foldl_nil, size_add, ih,
      List.map_append, List.toFinset_append, List.map_singleton, List.toFinset_cons,
      List.toFinset_nil, Finset.union_insert, Finset.union_empty]
    by_cases hplace : f.place ∈ fs.map FunctionRecord.place
    · rw [if_pos ((isSome_lookup_foldl_add fs f).mpr hplace),
        Finset.insert_eq_of_mem (List.mem_toFinset.mpr hplace)]
      rfl
    · rw [if_neg (mt (isSome_lookup_foldl_add fs f).mp hplace),
        Finset.card_insert_of_notMem (mt List.mem_toFinset.mp hplace)]

/-! ## What is found and shown -/

/-- What an index holds once it was rebuilt, whatever it held before.

* It finds the last function of the report on a line of a file, and nothing iff there is none.
* It holds one definition for each place where a function of the report is.
* There is a hover for a word iff it is the name of that last function, whatever the names of the
  functions before it, and the text is about that function. -/
theorem rebuild_exact (index : DefinitionIndex) (r : Report) :
    (∀ file line f, (index.rebuild r).lookup file line = some f ↔ r.IsLastAt file line f) ∧
    (∀ file line, (index.rebuild r).lookup file line = none ↔
      ∀ f ∈ r.functions, ¬(f.file.same file = true ∧ f.line = line)) ∧
    (index.rebuild r).size =
      (r.functions.map fun f => (f.file.components, f.line)).toFinset.card ∧
    ∀ file line word text, Hover.at? (index.rebuild r) file line word = some text ↔
      ∃ f, r.IsLastAt file line f ∧ f.name = word ∧ text = Hover.render f := by
  have hlookup : ∀ file line f,
      (index.rebuild r).lookup file line = some f ↔ r.IsLastAt file line f := by
    intro file line f
    rw [lookup_rebuild, Report.isLastAt_iff]
  refine ⟨hlookup, ?_, size_rebuild index r, ?_⟩
  · intro file line
    rw [lookup_rebuild, List.getLast?_eq_none_iff, List.filter_eq_nil_iff]
    simp only [FunctionRecord.isAt_iff]
  · intro file line word text
    simp only [← hlookup]
    exact Hover.at?_eq_some_iff

end DefinitionIndex

end Deadwood
