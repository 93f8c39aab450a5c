import Deadwood.Pipeline.Basic

/-!
# Generations

What a pipeline has shown is determined by the reports that were applied to it: the snapshot of
generation `g` is built from report number `g` alone, and the update that installed it carries the
plan from the generation before. Both are given here in closed form, and applying one more report
is shown to continue them.
-/

namespace Deadwood

/-- The snapshot of a generation, when reports have been applied to a new pipeline in this
order. -/
def Snapshot.ofReports (settings : FindingSettings) (reports : List Report) : Nat → Snapshot
  | 0 => {}
  | g + 1 => .build settings (g + 1) (reports[g]?.getD {})

/-- The update that installs a generation: its snapshot, and the plan from the one before. -/
def Update.ofReports (settings : FindingSettings) (reports : List Report) (g : Nat) : Update where
  snapshot := .ofReports settings reports g
  publications :=
    Publication.plan (Snapshot.ofReports settings reports (g - 1)).findings
      (Snapshot.ofReports settings reports g).findings

@[simp] theorem Snapshot.generation_ofReports (settings : FindingSettings)
    (reports : List Report) (g : Nat) :
    (Snapshot.ofReports settings reports g).generation = g := by
  cases g <;> rfl

/-- The last snapshot is built from the last report. -/
theorem Snapshot.ofReports_length (settings : FindingSettings) (reports : List Report) :
    Snapshot.ofReports settings reports reports.length =
      match reports.getLast? with
      | none => {}
      | some report => .build settings reports.length report := by
  rcases List.eq_nil_or_concat reports with rfl | ⟨before, report, rfl⟩
  · rfl
  · rw [List.concat_eq_append, List.getLast?_concat, List.length_append, List.length_singleton,
      Snapshot.ofReports, List.getElem?_concat_length]
    rfl

/-- Later reports do not touch the snapshots of earlier generations. -/
theorem Snapshot.ofReports_append (settings : FindingSettings) (reports more : List Report)
    {g : Nat} (hg : g ≤ reports.length) :
    Snapshot.ofReports settings (reports ++ more) g = Snapshot.ofReports settings reports g := by
  cases g with
  | zero => rfl
  | succ g =>
    rw [Snapshot.ofReports, Snapshot.ofReports, List.getElem?_append_left (by omega)]

/-- Later reports do not touch the updates of earlier generations. -/
theorem Update.ofReports_append (settings : FindingSettings) (reports more : List Report)
    {g : Nat} (hg : g ≤ reports.length) :
    Update.ofReports settings (reports ++ more) g = Update.ofReports settings reports g := by
  have hprevious : g - 1 ≤ reports.length := by omega
  rw [Update.ofReports, Update.ofReports, Snapshot.ofReports_append settings reports more hg,
    Snapshot.ofReports_append settings reports more hprevious]

/-- The updates of all generations, oldest first. -/
def Update.history (settings : FindingSettings) (reports : List Report) : List Update :=
  (List.range' 1 reports.length).map (Update.ofReports settings reports)

/-- One more report adds its own update to those before. -/
theorem Update.history_concat (settings : FindingSettings) (reports : List Report)
    (report : Report) :
    Update.history settings (reports ++ [report]) =
      Update.history settings reports ++
        [Update.ofReports settings (reports ++ [report]) (reports.length + 1)] := by
  unfold Update.history
  rw [List.length_append, List.length_singleton, List.range'_1_concat, List.map_append,
    List.map_singleton, Nat.add_comm 1]
  congr 1
  apply List.map_congr_left
  intro g hg
  have hle : g ≤ reports.length := by
    have := List.mem_range'_1.mp hg
    omega
  exact Update.ofReports_append settings reports [report] hle

/-- The updates are those of the generations from one on, in this order. -/
theorem Update.generations_history (settings : FindingSettings) (reports : List Report) :
    (Update.history settings reports).map Update.generation = List.range' 1 reports.length := by
  unfold Update.history
  rw [List.map_map]
  conv => rhs; rw [← List.map_id (List.range' 1 reports.length)]
  apply List.map_congr_left
  intro g _
  exact Snapshot.generation_ofReports settings reports g

namespace Pipeline

/-- A pipeline to which reports have been applied in this order since it was new. -/
structure HasApplied (p : Pipeline) (settings : FindingSettings) (reports : List Report) :
    Prop where
  settings_eq : p.settings = settings
  current_eq : p.current = .ofReports settings reports reports.length

/-- A new pipeline has had no report. -/
theorem hasApplied_new (root : Path) (settings : FindingSettings) :
    HasApplied { root, settings } settings [] := ⟨rfl, rfl⟩

/-- Applying a report installs the snapshot of the next generation. -/
theorem HasApplied.apply {p : Pipeline} {settings : FindingSettings} {reports : List Report}
    (h : p.HasApplied settings reports) (report : Report) :
    (p.apply report).1.HasApplied settings (reports ++ [report]) := by
  refine ⟨h.settings_eq, ?_⟩
  rw [apply_current, h.current_eq, h.settings_eq, Snapshot.generation_ofReports,
    List.length_append, List.length_singleton, Snapshot.ofReports, List.getElem?_concat_length]
  rfl

/-- Applying a report gives the update of the next generation. -/
theorem HasApplied.update_eq {p : Pipeline} {settings : FindingSettings} {reports : List Report}
    (h : p.HasApplied settings reports) (report : Report) :
    (p.apply report).2 =
      Update.ofReports settings (reports ++ [report]) (reports.length + 1) := by
  have hnext := (h.apply report).current_eq
  rw [List.length_append, List.length_singleton] at hnext
  have hprevious := Snapshot.ofReports_append settings reports [report] (Nat.le_refl _)
  rw [Update.ofReports, ← hnext, Nat.add_sub_cancel, hprevious, ← h.current_eq]
  rfl

end Pipeline

end Deadwood
