import Deadwood.Hover
import Deadwood.Lens
import Deadwood.Proofs.Definition
import Deadwood.Proofs.Finding.Table

/-!
# Three views of a report

An editor shows a report in three ways: as findings, as lenses and as hovers. Each is read off the
report on a way of its own: findings from a table in which comments stand between the functions,
lenses straight from the list of functions, hovers from the index of definitions. They agree on
which functions are unused.

* `Lens.lines_inFile` : the lenses of a file are on the lines of its warnings;
* `Hover.saysUnused_render` : what the text of a hover says of its function;
* `Report.Separated.hover_eq` : a function that is alone on its line has a hover about itself;
* `Report.views_agree` : the three views together.
-/

namespace Deadwood

/-! ## Lenses and findings -/

/-- The lenses of a file are on the lines of its warnings, in the same order. -/
theorem Lens.lines_inFile (settings : FindingSettings) (r : Report) (file : Path) :
    (Lens.inFile r file).map (·.line) =
      ((((FindingTable.ofReport settings r).findings? file).getD []).filter
        (·.severity == .warning)).map (·.line) := by
  rw [FindingTable.filter_warning_ofReport, Lens.inFile, List.map_map, List.map_map]
  rfl

/-! ## Hovers -/

namespace Hover

/-- A text says of a name that it is unused. -/
def SaysUnused (name text : String) : Prop :=
  ∃ rest, text = "**" ++ name ++ "** is unused, " ++ rest

/-- Behind the name, the text about a function goes on in one of two ways. -/
theorem render_eq (f : FunctionRecord) :
    ∃ rest, render f =
      if f.usageCount == 0 then "**" ++ f.name ++ "** is unused, " ++ rest
      else "**" ++ f.name ++ "** used " ++ rest := by
  unfold render
  extract_lets defined times used
  split
  case _ =>
    refine ⟨s!"defined at \x60{defined}\x60", ?_⟩
    simp only [toString, ← String.toList_inj, String.toList_append, List.append_assoc]
    rfl
  case _ =>
    obtain ⟨rest, hused⟩ : ∃ rest, used = "**" ++ f.name ++ "** used " ++ rest := by
      refine ⟨s!"{f.usageCount.toNat} {times}, defined at \x60{defined}\x60", ?_⟩
      simp only [used, toString, ← String.toList_inj, String.toList_append, List.append_assoc]
    split
    case _ site _ =>
      refine ⟨rest ++ s!", last used at \x60{location site.file site.line}\x60", ?_⟩
      simp only [hused, toString, ← String.toList_inj, String.toList_append, List.append_assoc]
    case _ => exact ⟨rest, hused⟩

/-- The text about a function says that it is unused iff it is. -/
theorem saysUnused_render (f : FunctionRecord) :
    SaysUnused f.name (render f) ↔ f.isUnused = true := by
  obtain ⟨rest, hrender⟩ := render_eq f
  rw [hrender]
  split
  case _ hunused => exact ⟨fun _ => hunused, fun _ => ⟨rest, rfl⟩⟩
  case _ hused =>
    refine ⟨?_, fun hunused => absurd hunused hused⟩
    rintro ⟨other, hother⟩
    simp only [← String.toList_inj, String.toList_append, List.append_assoc,
      List.append_cancel_left_eq] at hother
    cases hother

end Hover

/-! ## Functions that are alone on their lines -/

namespace Report

/-- No two functions of a report are defined on one line of one file. -/
def Separated (r : Report) : Prop :=
  r.functions.Pairwise fun f g => ¬(f.line = g.line ∧ f.file.same g.file = true)

instance (r : Report) : Decidable r.Separated :=
  inferInstanceAs (Decidable (r.functions.Pairwise _))

/-- A function of such a report is the only one on its line of its file. -/
theorem Separated.filter_isAt {r : Report} (h : r.Separated) {f : FunctionRecord}
    (hf : f ∈ r.functions) : r.functions.filter (·.isAt f.file f.line) = [f] := by
  let there := r.functions.filter (·.isAt f.file f.line)
  have hmem (g : FunctionRecord) (hg : g ∈ there) :
      g.file.same f.file = true ∧ g.line = f.line :=
    FunctionRecord.isAt_iff.mp (List.mem_filter.mp hg).2
  have hfthere : f ∈ there :=
    List.mem_filter.mpr ⟨hf, FunctionRecord.isAt_iff.mpr ⟨Path.same_refl _, rfl⟩⟩
  have hpairs : there.Pairwise fun f g => ¬(f.line = g.line ∧ f.file.same g.file = true) :=
    List.Pairwise.filter _ h
  change there = [f]
  match hthere : there with
  | [] =>
    rw [hthere] at hfthere
    cases hfthere
  | [g] =>
    rw [hthere] at hfthere
    rw [List.mem_singleton.mp hfthere]
  | g :: g' :: rest =>
    rw [hthere] at hpairs
    have hg := hmem g (by rw [hthere]; exact List.mem_cons_self)
    have hg' := hmem g' (by rw [hthere]; exact List.mem_cons_of_mem _ List.mem_cons_self)
    refine absurd ⟨?_, ?_⟩ ((List.pairwise_cons.mp hpairs).1 g' List.mem_cons_self)
    · rw [hg.2, hg'.2]
    · rw [Path.same_congr_left hg.1, Path.same_comm, hg'.1]

/-- A function of such a report has a lens on its line iff it is unused. -/
theorem Separated.mem_lines_inFile {r : Report} (h : r.Separated) {f : FunctionRecord}
    (hf : f ∈ r.functions) :
    f.line ∈ (Lens.inFile r f.file).map (·.line) ↔ f.isUnused = true := by
  simp only [Lens.inFile, unusedIn, unused, List.map_map, List.mem_map, List.mem_filter,
    Function.comp_apply]
  constructor
  · rintro ⟨g, ⟨⟨hg, hunused⟩, hfile⟩, hline⟩
    have hthere : g ∈ r.functions.filter (·.isAt f.file f.line) :=
      List.mem_filter.mpr ⟨hg, FunctionRecord.isAt_iff.mpr ⟨hfile, hline⟩⟩
    rw [h.filter_isAt hf, List.mem_singleton] at hthere
    rw [← hthere]
    exact hunused
  · intro hunused
    exact ⟨f, ⟨⟨hf, hunused⟩, Path.same_refl _⟩, rfl⟩

/-- A function of such a report has a hover about itself. -/
theorem Separated.hover_eq {r : Report} (h : r.Separated) {f : FunctionRecord}
    (hf : f ∈ r.functions) :
    Hover.at? (.ofReport r) f.file f.line f.name = some (Hover.render f) := by
  have hlookup : (DefinitionIndex.ofReport r).lookup f.file f.line = some f := by
    rw [DefinitionIndex.ofReport, DefinitionIndex.lookup_rebuild, h.filter_isAt hf]
    rfl
  rw [Hover.at?, hlookup]
  exact if_pos (beq_self_eq_true f.name)

/-- The three views of a report agree: the lenses of a file are on the lines of its warnings, in the
same order and as often; and where no two functions are defined on one line, every function has a
hover, which says that the function is unused iff there is a lens on its line. -/
theorem views_agree (r : Report) :
    (∀ (settings : FindingSettings) (file : Path),
      (Lens.inFile r file).map (·.line) =
        ((((FindingTable.ofReport settings r).findings? file).getD []).filter
          (·.severity == .warning)).map (·.line)) ∧
    (r.Separated → ∀ f ∈ r.functions, ∃ text,
      Hover.at? (.ofReport r) f.file f.line f.name = some text ∧
        (Hover.SaysUnused f.name text ↔ f.line ∈ (Lens.inFile r f.file).map (·.line))) := by
  constructor
  · intro settings file
    exact Lens.lines_inFile settings r file
  · intro hseparated f hf
    refine ⟨Hover.render f, hseparated.hover_eq hf, ?_⟩
    rw [Hover.saysUnused_render, hseparated.mem_lines_inFile hf]

/-- A used function. -/
def busy : FunctionRecord := ⟨"busy", .ofText "/w/a.py", 3, 2, none⟩

/-- An unused function of the same file, which is spelled in another way. -/
def spare : FunctionRecord := ⟨"spare", .ofText "/w//a.py", 5, 0, none⟩

/-- A report on both functions and on a comment beside them. -/
def mixed : Report where
  functions := [busy, spare]
  comments := [⟨.ofText "/w/./a.py", 4, "x = 1"⟩]

theorem views_agree_mixed :
    mixed.Separated ∧ busy ∈ mixed.functions ∧ spare ∈ mixed.functions ∧
      (∃ text, Hover.at? (.ofReport mixed) busy.file busy.line busy.name = some text ∧
        ¬Hover.SaysUnused busy.name text) ∧
      ∃ text, Hover.at? (.ofReport mixed) spare.file spare.line spare.name = some text ∧
        Hover.SaysUnused spare.name text := by
  have hseparated : mixed.Separated := by decide +kernel
  have hbusy : busy ∈ mixed.functions := List.mem_cons_self
  have hspare : spare ∈ mixed.functions := List.mem_cons_of_mem _ List.mem_cons_self
  obtain ⟨about, habout, hbusyLens⟩ := (views_agree mixed).2 hseparated busy hbusy
  obtain ⟨text, htext, hspareLens⟩ := (views_agree mixed).2 hseparated spare hspare
  have hnone : busy.line ∉ (Lens.inFile mixed busy.file).map (·.line) := by decide +kernel
  have hlens : spare.line ∈ (Lens.inFile mixed spare.file).map (·.line) := by decide +kernel
  exact ⟨hseparated, hbusy, hspare, ⟨about, habout, mt hbusyLens.mp hnone⟩,
    text, htext, hspareLens.mpr hlens⟩

end Report

end Deadwood
