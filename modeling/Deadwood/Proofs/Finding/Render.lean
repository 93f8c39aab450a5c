import Mathlib.Data.String.Basic
import Deadwood.Finding.Render
import Deadwood.Proofs.Finding.Account

/-!
# The lines of a scan

A scan prints a text for every finding, each with a line feed behind it. Neither the name of a file
nor the code in a hint is escaped, so a finding takes as many lines as its text has. It takes one
line, as it should, just where no file that is listed and no code that is shown has a line feed of
its own.

* `splitOn_flatMap_concat` : the lines of texts that are written one after another;
* `feed_mem_lineText` : where a line feed in the text of a finding comes from;
* `splitOn_renderText_iff` : the lines of a whole scan.
-/

namespace Deadwood

namespace Text

/-! ## Texts with a mark behind them -/

/-- Texts that are written one after another, each with a mark behind it, are cut at the marks into
the parts of each of them, and nothing is left. -/
theorem splitOn_flatMap_concat (mark : Char) (texts : List (List Char)) :
    (texts.flatMap (· ++ [mark])).splitOn mark = texts.flatMap (·.splitOn mark) ++ [[]] := by
  induction texts with
  | nil => rfl
  | cons text texts ih =>
    rw [List.flatMap_cons, List.flatMap_cons, List.append_assoc, List.singleton_append,
      List.splitOn_append_cons_self, ih, List.append_assoc]

/-- No part has the mark at which the text was cut. -/
theorem notMem_of_mem_splitOn {mark : Char} {cs part : List Char}
    (h : part ∈ cs.splitOn mark) : mark ∉ part := by
  induction cs generalizing part with
  | nil =>
    rw [List.splitOn_nil, List.mem_singleton] at h
    subst h
    exact List.not_mem_nil
  | cons c cs ih =>
    rw [List.splitOn_cons_eq_if_modifyHead] at h
    split at h
    · rcases List.mem_cons.mp h with rfl | hpart
      · exact List.not_mem_nil
      · exact ih hpart
    · next hne =>
      -- the character goes to the front of the first part
      cases hparts : cs.splitOn mark with
      | nil => exact absurd hparts (List.splitOn_ne_nil mark cs)
      | cons first rest =>
        rw [hparts] at h ih
        rcases List.mem_cons.mp h with rfl | hpart
        · intro hmark
          rcases List.mem_cons.mp hmark with rfl | hmark
          · exact hne (beq_self_eq_true _)
          · exact ih List.mem_cons_self hmark
        · exact ih (List.mem_cons_of_mem first hpart)

/-- Texts with a mark behind each of them are the parts of what is written iff no text has a mark of
its own. -/
theorem splitOn_flatMap_concat_eq_iff (mark : Char) (texts : List (List Char)) :
    (texts.flatMap (· ++ [mark])).splitOn mark = texts ++ [[]] ↔
      ∀ text ∈ texts, mark ∉ text := by
  constructor
  · intro h text htext
    have hpart : text ∈ (texts.flatMap (· ++ [mark])).splitOn mark := by
      rw [h]
      exact List.mem_append_left _ htext
    exact notMem_of_mem_splitOn hpart
  · intro h
    have hparts : texts.flatMap (·.splitOn mark) = texts := by
      rw [List.flatMap_congr fun text htext => List.splitOn_eq_singleton (h text htext)]
      exact List.flatMap_singleton' texts
    rw [splitOn_flatMap_concat, hparts]

end Text

namespace FindingTable

/-! ## The text of a finding -/

/-- The text about one finding. -/
def lineText (file : Path) (f : Finding) : String :=
  s!"{file.text}:{f.line.toNat}: {f.severity.word}: {f.message}"

/-- The findings with their files, in the order of the table. -/
def located (t : FindingTable) : List (Path × Finding) :=
  t.entries.flatMap fun e => e.2.map fun f => (e.1, f)

theorem renderLine_eq (file : Path) (f : Finding) :
    renderLine file f = lineText file f ++ "\n" := rfl

/-- A scan prints the texts of the findings in the order of the table, each with a line feed behind
it. -/
theorem toList_renderText (t : FindingTable) :
    (renderText t).toList =
      (t.located.map fun e => (lineText e.1 e.2).toList).flatMap (· ++ ['\n']) := by
  rw [renderText, String.toList_join, located, List.flatMap_map]
  simp only [List.flatMap_assoc, List.flatMap_map, renderLine_eq, String.toList_append]
  rfl

theorem feed_notMem_toDigits (n : Nat) : '\n' ∉ Nat.toDigits 10 n := by
  intro h
  have hdigit := Nat.isDigit_of_mem_toDigits (by decide) (by decide) h
  cases hdigit

theorem feed_notMem_word (severity : Severity) : '\n' ∉ severity.word.toList := by
  cases severity with
  | warning | hint => decide

/-- A line feed in the text of a finding is one of its file or of its message. -/
theorem feed_mem_lineText {file : Path} {f : Finding} :
    '\n' ∈ (lineText file f).toList ↔ '\n' ∈ file.text.toList ∨ '\n' ∈ f.message.toList := by
  have htext (s : String) : toString s = s := rfl
  simp [lineText, htext, feed_notMem_toDigits, feed_notMem_word]

/-- A line feed in the message of a hint is one of the code that it shows. -/
theorem feed_mem_message {settings : FindingSettings} {c : CommentRecord} :
    '\n' ∈ (c.finding settings).message.toList ↔
      settings.includeSnippet = true ∧ '\n' ∈ (Text.trim c.content).toList := by
  have hplain : '\n' ∉ commentedMessage.toList := by decide
  unfold CommentRecord.finding
  dsimp only
  split
  · next hshown =>
    rw [Bool.and_eq_true] at hshown
    simp [hplain, hshown.1]
  · next hhidden =>
    refine iff_of_false hplain ?_
    rintro ⟨hwanted, hfeed⟩
    -- code that is wanted but not shown is empty
    apply hhidden
    rw [hwanted, Bool.true_and, Bool.not_eq_true', ← Bool.not_eq_true, String.isEmpty_iff]
    intro hempty
    rw [hempty] at hfeed
    cases hfeed

/-! ## Whole tables -/

theorem length_located (t : FindingTable) : t.located.length = t.total := by
  simp [located, total, List.length_flatMap]

/-- If every file that is listed has a finding, then all findings with their files have a property
of both iff all files and all findings do. -/
theorem forall_mem_located {t : FindingTable} (hne : ∀ e ∈ t.entries, e.2 ≠ [])
    (P : Path → Prop) (Q : Finding → Prop) :
    (∀ e ∈ t.located, P e.1 ∧ Q e.2) ↔ (∀ p ∈ t.paths, P p) ∧ ∀ f ∈ t.values, Q f := by
  have hmem (p : Path) (f : Finding) :
      (p, f) ∈ t.located ↔ ∃ e ∈ t.entries, e.1 = p ∧ f ∈ e.2 := by
    simp [located]
  constructor
  · intro h
    refine ⟨?_, ?_⟩
    · intro p hp
      obtain ⟨e, he, rfl⟩ := List.mem_map.mp hp
      obtain ⟨f, hf⟩ := List.exists_mem_of_ne_nil e.2 (hne e he)
      exact (h (e.1, f) ((hmem e.1 f).mpr ⟨e, he, rfl, hf⟩)).1
    · intro f hf
      obtain ⟨e, he, hf⟩ := List.mem_flatMap.mp hf
      exact (h (e.1, f) ((hmem e.1 f).mpr ⟨e, he, rfl, hf⟩)).2
  · rintro ⟨hpaths, hfindings⟩ ⟨p, f⟩ hpf
    obtain ⟨e, he, rfl, hf⟩ := (hmem p f).mp hpf
    exact ⟨hpaths e.1 (PathMap.fst_mem_paths he), hfindings f (List.mem_flatMap.mpr ⟨e, he, hf⟩)⟩

/-- The messages about a report have no line feed iff the code that they show has none. -/
theorem feed_notMem_messages_iff (settings : FindingSettings) (r : Report) :
    (∀ f ∈ (ofReport settings r).values, '\n' ∉ f.message.toList) ↔
      (settings.includeSnippet = true →
        ∀ c ∈ r.comments, '\n' ∉ (Text.trim c.content).toList) := by
  have hunused : '\n' ∉ unusedMessage.toList := by decide
  have hperm := perm_values_ofReport settings r
  constructor
  · intro h hwanted c hc hfeed
    have hmem : c.finding settings ∈ (ofReport settings r).values :=
      hperm.mem_iff.mpr (List.mem_append_right _ (List.mem_map_of_mem hc))
    exact h _ hmem (feed_mem_message.mpr ⟨hwanted, hfeed⟩)
  · intro h f hf
    rcases List.mem_append.mp (hperm.mem_iff.mp hf) with hf | hf
    · obtain ⟨g, -, rfl⟩ := List.mem_map.mp hf
      exact hunused
    · obtain ⟨c, hc, rfl⟩ := List.mem_map.mp hf
      intro hfeed
      obtain ⟨hwanted, hcode⟩ := feed_mem_message.mp hfeed
      exact h hwanted c hc hcode

/-- The lines of a scan. There is a text for every finding, files in path order and the findings of
a file in the order of its list. The printed text is cut at its line feeds into the lines of these
texts, and ends with a line feed. The lines are these texts themselves, one for each finding, iff no
file that is listed has a line feed in its name and no code that is shown has one. -/
theorem splitOn_renderText_iff (settings : FindingSettings) (r : Report) :
    let t := ofReport settings r
    let texts := t.located.map fun e =>
      s!"{e.1.text}:{e.2.line.toNat}: {e.2.severity.word}: {e.2.message}".toList
    texts.length = t.total ∧
    t.paths.Pairwise (fun p q => compare p q = .lt) ∧
    (renderText t).toList.splitOn '\n' = texts.flatMap (·.splitOn '\n') ++ [[]] ∧
    ((renderText t).toList.splitOn '\n' = texts ++ [[]] ↔
      (∀ p ∈ t.paths, '\n' ∉ p.text.toList) ∧
        (settings.includeSnippet = true →
          ∀ c ∈ r.comments, '\n' ∉ (Text.trim c.content).toList)) := by
  intro t texts
  have htexts : (renderText t).toList = texts.flatMap (· ++ ['\n']) := toList_renderText t
  have hlines : (∀ text ∈ texts, '\n' ∉ text) ↔
      ∀ e ∈ t.located, '\n' ∉ e.1.text.toList ∧ '\n' ∉ e.2.message.toList := by
    rw [List.forall_mem_map]
    refine forall_congr' fun e => imp_congr_right fun _ => ?_
    rw [← not_or]
    exact not_congr feed_mem_lineText
  refine ⟨?_, ?_, ?_, ?_⟩
  · rw [List.length_map, length_located]
  · exact List.pairwise_map.mpr (ofReport settings r).ordered
  · rw [htexts, Text.splitOn_flatMap_concat]
  · rw [htexts, Text.splitOn_flatMap_concat_eq_iff, hlines,
      forall_mem_located (fun e he => ne_nil_of_mem_ofReport he)
        (fun p => '\n' ∉ p.text.toList) (fun f => '\n' ∉ f.message.toList),
      feed_notMem_messages_iff]

/-- A piece of code of two lines that is commented out. -/
def twoLineComment : Report where
  comments := [⟨.ofText "a.py", 3, "# x = 1\n# y = 2\n"⟩]

/-- The one finding about it takes two lines. -/
theorem two_lines_for_one_finding :
    let t := ofReport {} twoLineComment
    let texts := t.located.map fun e =>
      s!"{e.1.text}:{e.2.line.toNat}: {e.2.severity.word}: {e.2.message}".toList
    t.total = 1 ∧
    (renderText t).toList.splitOn '\n' =
      ["a.py:3: hint: Commented-out code: # x = 1".toList, "# y = 2".toList, []] ∧
    (renderText t).toList.splitOn '\n' ≠ texts ++ [[]] := by
  decide +kernel

end FindingTable

end Deadwood
