import Deadwood.Proofs.Editor.Contents
import Deadwood.Proofs.Finding.Account
import Deadwood.Proofs.Report.RoundTrip

/-!
# From the bytes of a report to lines in the editor

The lines of a report count from one, those of an editor from zero. The way from one to the other
takes one away and, for the end of a range, adds it again, which is right for every line but zero.
A report that could be read has no such line, in whatever form it was written, so its findings and
lenses stand where they belong.

* `Report.consistent_of_decode` : what is known of a report that could be read;
* `decoded_lines_placed` : where its lines stand in the editor.
-/

namespace Deadwood

/-! ## Reports that could be read -/

namespace Report

/-- A report that could be read comes from one without a line that is zero. -/
theorem exists_of_decode {document : List UInt8} {r : Report} (h : decode document = .ok r) :
    ∃ raw, lineFlaw? raw = none ∧ raw.withoutStaleUses = r := by
  cases hread : Json.read document with
  | error fault =>
    rw [decode, decodeRaw, hread] at h
    cases h
  | ok x =>
    obtain ⟨-, raw, -, hlines, hnormal⟩ := (decode_eq_ok hread).mp h
    exact ⟨raw, hlines, by rw [← normalize_eq_withoutStaleUses, hnormal]⟩

/-- Dropping last uses adds no lines. -/
theorem mem_lines_of_withoutStaleUses {r : Report} {l : NumberedLine}
    (h : l ∈ r.withoutStaleUses.lines) : l ∈ r.lines := by
  rw [lines, List.mem_append, List.mem_flatMap] at h ⊢
  rcases h with ⟨f, hf, hl⟩ | hcomment
  · left
    obtain ⟨g, hg, rfl⟩ := List.mem_map.mp hf
    refine ⟨g, hg, ?_⟩
    rw [linesOf, List.mem_cons] at hl ⊢
    rcases hl with rfl | hlast
    · exact Or.inl rfl
    · right
      dsimp only at hlast
      split at hlast
      · cases hlast
      · exact hlast
  · exact Or.inr hcomment

/-- Every report that could be read is consistent. -/
theorem consistent_of_decode {document : List UInt8} {r : Report} (h : decode document = .ok r) :
    r.Consistent := by
  obtain ⟨raw, hlines, rfl⟩ := exists_of_decode h
  constructor
  · intro l hl
    rw [lineFlaw?_eq_find?, Option.map_eq_none_iff, List.find?_eq_none] at hlines
    simpa using hlines l (mem_lines_of_withoutStaleUses hl)
  · intro f hf hcount
    obtain ⟨g, -, rfl⟩ := List.mem_map.mp hf
    exact if_pos hcount

namespace Consistent

variable {r : Report} (h : r.Consistent)
include h

theorem one_le_function {f : FunctionRecord} (hf : f ∈ r.functions) : 1 ≤ f.line := by
  refine Editor.one_le_of_ne_zero (h.lines_ne_zero ⟨.function f.name, f.file, f.line⟩ ?_)
  exact List.mem_append_left _ (List.mem_flatMap.mpr ⟨f, hf, List.mem_cons_self⟩)

theorem one_le_lastUse {f : FunctionRecord} (hf : f ∈ r.functions) {site : UsageSite}
    (hsite : f.lastUsed = some site) : 1 ≤ site.line := by
  refine Editor.one_le_of_ne_zero (h.lines_ne_zero ⟨.lastUse f.name, site.file, site.line⟩ ?_)
  refine List.mem_append_left _ (List.mem_flatMap.mpr ⟨f, hf, List.mem_cons_of_mem _ ?_⟩)
  simp [hsite]

theorem one_le_comment {c : CommentRecord} (hc : c ∈ r.comments) : 1 ≤ c.line := by
  refine Editor.one_le_of_ne_zero (h.lines_ne_zero ⟨.comment, c.file, c.line⟩ ?_)
  exact List.mem_append_right _ (List.mem_map.mpr ⟨c, hc, rfl⟩)

/-- The findings of a consistent report are on lines that count from one. -/
theorem one_le_finding (settings : FindingSettings) {e : Path × List Finding}
    (he : e ∈ (FindingTable.ofReport settings r).entries) {finding : Finding}
    (hfinding : finding ∈ e.2) : 1 ≤ finding.line := by
  have hvalue : finding ∈ (FindingTable.ofReport settings r).values :=
    List.mem_flatMap.mpr ⟨e, he, hfinding⟩
  rw [(FindingTable.perm_values_ofReport settings r).mem_iff, List.mem_append, List.mem_map,
    List.mem_map] at hvalue
  rcases hvalue with ⟨f, hf, rfl⟩ | ⟨c, hc, rfl⟩
  · exact h.one_le_function (List.mem_filter.mp hf).1
  · exact h.one_le_comment hc

/-- The lenses of a consistent report are on lines that count from one. -/
theorem one_le_lens {file : Path} {lens : Lens} (hlens : lens ∈ Lens.inFile r file) :
    1 ≤ lens.line := by
  obtain ⟨f, hf, rfl⟩ := List.mem_map.mp hlens
  exact h.one_le_function (List.mem_filter.mp (List.mem_filter.mp hf).1).1

end Consistent

end Report

open Editor

/-- All lines of a report that could be read count from one, and no function without uses has a
last use. So the diagnostic about a finding covers exactly the line of the finding, from one less
to the line itself when counted from zero, and every lens is at the start of its line; the editor is
sent these ranges. -/
theorem decoded_lines_placed (document : List UInt8) (r : Report)
    (h : Report.decode document = .ok r) :
    (∀ f ∈ r.functions, 1 ≤ f.line ∧ (∀ site, f.lastUsed = some site → 1 ≤ site.line) ∧
      (f.usageCount = 0 → f.lastUsed = none)) ∧
    (∀ c ∈ r.comments, 1 ≤ c.line) ∧
    (∀ settings, ∀ e ∈ (FindingTable.ofReport settings r).entries, ∀ finding ∈ e.2,
      (Diagnostic.ofFinding finding).range = ⟨⟨finding.line - 1, 0⟩, ⟨finding.line, 0⟩⟩ ∧
      HasRange (Diagnostic.ofFinding finding).toJson ⟨⟨finding.line - 1, 0⟩, ⟨finding.line, 0⟩⟩ ∧
      (finding.line - 1).toNat + 1 = finding.line.toNat) ∧
    ∀ file, ∀ lens ∈ Lens.inFile r file,
      lensRange lens = ⟨⟨lens.line - 1, 0⟩, ⟨lens.line - 1, 0⟩⟩ ∧
      HasRange (lensJson lens) ⟨⟨lens.line - 1, 0⟩, ⟨lens.line - 1, 0⟩⟩ ∧
      (lens.line - 1).toNat + 1 = lens.line.toNat := by
  have hr := Report.consistent_of_decode h
  refine ⟨fun f hf => ⟨hr.one_le_function hf, fun site => hr.one_le_lastUse hf,
    hr.lastUsed_eq_none f hf⟩, fun c hc => hr.one_le_comment hc, ?_, ?_⟩
  · intro settings e he finding hfinding
    have hline := hr.one_le_finding settings he hfinding
    have hrange : (Diagnostic.ofFinding finding).range = _ := lineRange_eq hline
    exact ⟨hrange, hrange ▸ hasRange_toJson _, toNat_sub_one hline⟩
  · intro file lens hlens
    have hline := hr.one_le_lens hlens
    have hrange := lensRange_eq hline
    exact ⟨hrange, hrange ▸ hasRange_lensJson lens, toNat_sub_one hline⟩

/-- A report all of whose records are lists of fields, with the last line there is and with a last
use of a function without uses. -/
def fieldLists : Json :=
  .array [
    .array [
      .array [.string "f", .string "a.py", .nat 4294967295, .nat 0,
        .array [.string "b.py", .nat 3]],
      .array [.string "g", .string "a.py", .nat 2, .nat 1, .array [.string "b.py", .nat 1]]],
    .array [.array [.string "a.py", .nat 1]]]

theorem decoded_lines_placed_fieldLists :
    let r : Report :=
      { functions := [⟨"f", .ofText "a.py", 4294967295, 0, none⟩,
          ⟨"g", .ofText "a.py", 2, 1, some ⟨.ofText "b.py", 1⟩⟩]
        comments := [⟨.ofText "a.py", 1, ""⟩] }
    Report.decode fieldLists.toBytes = .ok r ∧
      (∃ e ∈ (FindingTable.ofReport {} r).entries, ∃ finding ∈ e.2,
        finding.line = 4294967295 ∧
        (Diagnostic.ofFinding finding).range = ⟨⟨4294967294, 0⟩, ⟨4294967295, 0⟩⟩) ∧
      ∃ lens ∈ Lens.inFile r (.ofText "a.py"),
        lensRange lens = ⟨⟨4294967294, 0⟩, ⟨4294967294, 0⟩⟩ := by
  intro r
  have hreadable : Json.Readable (122 + 5) fieldLists := by
    simp only [fieldLists, Json.readable_array_iff, List.forall_mem_cons, List.not_mem_nil,
      false_implies, implies_true, and_true]
    exact ⟨⟨⟨.string .., .string .., .nat _ (by decide), .nat _ (by decide), .string ..,
      .nat _ (by decide)⟩, .string .., .string .., .nat _ (by decide), .nat _ (by decide),
      .string .., .nat _ (by decide)⟩, .string .., .nat _ (by decide)⟩
  have hdecode : Report.decode fieldLists.toBytes = .ok r :=
    (Report.decode_eq_ok (Json.read_toBytes hreadable)).mpr ⟨rfl, _, rfl, rfl, by decide +kernel⟩
  obtain ⟨-, -, hfindings, hlenses⟩ := decoded_lines_placed _ r hdecode
  have hentry : ∃ e ∈ (FindingTable.ofReport {} r).entries, ∃ finding ∈ e.2,
      finding.line = 4294967295 := by decide +kernel
  obtain ⟨e, he, finding, hfinding, hline⟩ := hentry
  have hrange := (hfindings {} e he finding hfinding).1
  rw [hline] at hrange
  refine ⟨hdecode, ⟨e, he, finding, hfinding, hline, hrange⟩, ⟨4294967295, unusedMessage⟩, ?_, ?_⟩
  · decide +kernel
  · exact (hlenses (.ofText "a.py") _ (by decide +kernel)).1

end Deadwood
