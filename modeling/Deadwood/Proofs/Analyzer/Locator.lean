import Deadwood.Analyzer.Locator
import Deadwood.Command.Basic
import Deadwood.Proofs.Path.Strip

/-!
# Where the analyzer of a command line is found

Three layers move a path: an option takes it from the current directory, an explicit place or a
candidate is taken from the directory of installation, and joining replaces what stands before an
absolute path. A path that was made absolute by the first layer is left alone by the two others, so
that no path is moved twice.

* `Path.isTakenFrom_absolute`, `Path.isTakenFrom_join` : what it means to take a path from a
  directory;
* `Locator.resolve_eq_ok_iff`, `Locator.resolve_eq_error_iff` : which of the places is taken;
* `AnalyzerOptions.spares_apply` : settings without an option stay as they are;
* `Locator.found_from_options` : all layers together.
-/

namespace Deadwood

/-! ## Absolute paths -/

namespace Path

theorem isAbsolute_of_mem_steps {p : Path} {c : Component} (h : c ∈ p.steps) :
    (⟨c.bytes⟩ : Path).isAbsolute = false := by
  rw [← Bool.not_eq_true, isAbsolute_iff]
  rintro ⟨rest, hbytes⟩
  apply slash_notMem_bytes h
  rw [show c.bytes = slash :: rest from hbytes]
  exact List.mem_cons_self

/-- The spelling of a step is a path of that one step. -/
theorem steps_of_mem_steps {p : Path} {c : Component} (h : c ∈ p.steps) :
    (⟨c.bytes⟩ : Path).steps = [c] := by
  rw [steps, splitSlashes_of_notMem (slash_notMem_bytes h), List.filterMap_cons,
    ofSegment?_bytes h, List.filterMap_nil]

/-- Without its start a path has its steps left. -/
theorem filter_components (p : Path) :
    (p.components.filter fun c => c != .root && c != .here) = p.steps := by
  have hsteps : (p.steps.filter fun c => c != .root && c != .here) = p.steps := by
    rw [List.filter_eq_self]
    intro c hc
    have hbytes := ofSegment?_bytes hc
    cases c with
    | root | here => cases hbytes
    | up | name s => rfl
  rw [components_eq, List.filter_append, hsteps]
  cases p.anchor <;> rfl

/-- Steps that are joined one by one to an absolute path follow its own. -/
theorem foldl_join_steps {p : Path} {cs : List Component} (hcs : ∀ c ∈ cs, c ∈ p.steps)
    {start : Path} (hstart : start.isAbsolute = true) :
    let full := (cs.map Component.bytes).foldl (fun q name => q.join ⟨name⟩) start
    full.isAbsolute = true ∧ full.steps = start.steps ++ cs := by
  induction cs generalizing start with
  | nil => exact ⟨hstart, (List.append_nil _).symm⟩
  | cons c cs ih =>
    obtain ⟨hc, hcs⟩ := List.forall_mem_cons.mp hcs
    obtain ⟨habsolute, hsteps⟩ := ih hcs (isAbsolute_join hstart ⟨c.bytes⟩)
    refine ⟨habsolute, hsteps.trans ?_⟩
    rw [steps_join start (isAbsolute_of_mem_steps hc), steps_of_mem_steps hc, List.append_assoc,
      List.singleton_append]

/-- A path from the root, taken from a directory: an absolute path does not see the directory, and
the steps of a relative one follow it. -/
def IsTakenFrom (dir p q : Path) : Prop :=
  q.isAbsolute = true ∧
    q.components = if p.isAbsolute then p.components else dir.components ++ p.steps

/-- It is enough to know the steps, since all starts are at the root. -/
theorem isTakenFrom_of_steps {dir p q : Path} (hdir : dir.isAbsolute = true)
    (hq : q.isAbsolute = true)
    (hsteps : q.steps = (if p.isAbsolute then [] else dir.steps) ++ p.steps) :
    IsTakenFrom dir p q := by
  refine ⟨hq, ?_⟩
  rw [components_of_isAbsolute hq, hsteps]
  cases hp : p.isAbsolute with
  | true =>
    rw [if_pos rfl, if_pos rfl, components_of_isAbsolute hp]
    rfl
  | false =>
    rw [if_neg Bool.false_ne_true, if_neg Bool.false_ne_true, components_of_isAbsolute hdir]
    rfl

theorem isTakenFrom_join {dir : Path} (hdir : dir.isAbsolute = true) (p : Path) :
    IsTakenFrom dir p (dir.join p) := by
  apply isTakenFrom_of_steps hdir (isAbsolute_join hdir p)
  cases hp : p.isAbsolute with
  | true =>
    rw [join, if_pos hp]
    rfl
  | false => exact steps_join dir hp

/-- A path that is not empty is taken from the current directory. -/
theorem isTakenFrom_absolute {cwd p : Path} (hcwd : cwd.isAbsolute = true) (hp : p.bytes ≠ []) :
    IsTakenFrom cwd p (cwd.absolute p) := by
  suffices h : (cwd.absolute p).isAbsolute = true ∧
      (cwd.absolute p).steps = (if p.isAbsolute then [] else cwd.steps) ++ p.steps from
    isTakenFrom_of_steps hcwd h.1 h.2
  rw [absolute, if_neg (by simpa using hp), filter_components]
  dsimp only
  -- the walk begins at the current directory, or at the root with one slash or two
  generalize hstart : (if !p.isAbsolute then cwd else _) = start
  have hfacts : start.isAbsolute = true ∧
      start.steps = if p.isAbsolute then [] else cwd.steps := by
    rw [← hstart]
    cases p.isAbsolute with
    | false => exact ⟨hcwd, rfl⟩
    | true =>
      simp only [Bool.not_true, Bool.false_eq_true, if_false, if_true]
      split
      · exact ⟨rfl, rfl⟩
      · exact ⟨rfl, rfl⟩
  obtain ⟨habsolute, hsteps⟩ := foldl_join_steps (fun c hc => hc) (p := p) hfacts.1
  rw [hfacts.2] at hsteps
  split
  · -- a slash at the end is an empty path joined to the rest
    refine ⟨isAbsolute_join habsolute _, ?_⟩
    rw [steps_join _ rfl, hsteps]
    exact List.append_nil _
  · exact ⟨habsolute, hsteps⟩

end Path

/-! ## The first file -/

namespace Locator

/-- A path is a file, and none of those before it is one. -/
def IsFirstFile (tree : FileTree) (probes : List Path) (p : Path) : Prop :=
  ∃ before after, probes = before ++ p :: after ∧ tree.isFile p = true ∧
    ∀ q ∈ before, tree.isFile q = false

theorem resolve_eq_ok_iff {l : Locator} {tree : FileTree} {p : Path} :
    l.resolve tree = .ok p ↔ IsFirstFile tree l.probes p := by
  have hfind : l.probes.find? tree.isFile = some p ↔ IsFirstFile tree l.probes p := by
    rw [List.find?_eq_some_iff_append]
    constructor
    · rintro ⟨hfile, before, after, hprobes, hbefore⟩
      exact ⟨before, after, hprobes, hfile, fun q hq => by simpa using hbefore q hq⟩
    · rintro ⟨before, after, hprobes, hfile, hbefore⟩
      exact ⟨hfile, before, after, hprobes, fun q hq => by simpa using hbefore q hq⟩
  rw [← hfind, resolve]
  cases l.probes.find? tree.isFile <;> simp

theorem resolve_eq_error_iff {l : Locator} {tree : FileTree} {e : Failure} :
    l.resolve tree = .error e ↔
      e = .notFound l.probes ∧ ∀ q ∈ l.probes, tree.isFile q = false := by
  have hfind : l.probes.find? tree.isFile = none ↔ ∀ q ∈ l.probes, tree.isFile q = false := by
    simp
  rw [← hfind, resolve]
  cases l.probes.find? tree.isFile with
  | none => simp [eq_comm]
  | some p => simp

end Locator

/-! ## Options over settings -/

namespace AnalyzerOptions

/-- Settings for which no option is given are the same before and after. -/
structure Spares (o : AnalyzerOptions) (s t : Settings) : Prop where
  path : o.analyzer = none → t.analyzer.path = s.analyzer.path
  installDir : o.installDir = none → t.analyzer.installDir = s.analyzer.installDir
  runtime : o.runtime = none → o.noRuntime = false → t.analyzer.runtime = s.analyzer.runtime
  candidates : t.analyzer.candidates = s.analyzer.candidates
  timeoutSecs : o.timeout = none → t.analyzer.timeoutSecs = s.analyzer.timeoutSecs
  debounceMs : t.debounceMs = s.debounceMs
  findings : o.noSnippets = false → t.findings = s.findings

theorem spares_apply (o : AnalyzerOptions) (cwd : Path) (s : Settings) :
    o.Spares s (o.apply cwd s) where
  path h := by rw [apply, h]; rfl
  installDir h := by rw [apply, h]; rfl
  runtime h hno := by rw [apply, h, hno]; rfl
  candidates := rfl
  timeoutSecs h := by rw [apply, h]; rfl
  debounceMs := rfl
  findings h := by rw [apply, h]; rfl

theorem path_apply {o : AnalyzerOptions} {p : Path} (h : o.analyzer = some p) (cwd : Path)
    (s : Settings) : (o.apply cwd s).analyzer.path = some (cwd.absolute p) := by
  rw [apply, h]
  rfl

theorem installDir_apply {o : AnalyzerOptions} {d : Path} (h : o.installDir = some d) (cwd : Path)
    (s : Settings) : (o.apply cwd s).analyzer.installDir = some (cwd.absolute d) := by
  rw [apply, h]
  rfl

end AnalyzerOptions

/-! ## From the command line to the analyzer -/

namespace Locator

theorem probes_ofSettings_of_path {a : AnalyzerSettings} {p : Path} (h : a.path = some p)
    (hp : p.isAbsolute = true) (home : Path) : (ofSettings home a).probes = [p] := by
  have hprobes : (ofSettings home a).probes = [(a.baseDir home).join p] := by
    rw [ofSettings, h, probes]
  rw [hprobes, Path.join, if_pos hp]

theorem probes_ofSettings_of_candidates {a : AnalyzerSettings} {dir : Path} (hpath : a.path = none)
    (hdir : a.installDir = some dir) (home : Path) :
    (ofSettings home a).probes = a.candidates.map dir.join := by
  rw [ofSettings, hpath, probes, AnalyzerSettings.baseDir, hdir]
  rfl

/-- Where the analyzer is looked for after options were put over settings that name no place for
it. An explicit place is taken from the current directory and is the only one, whatever the
directory of installation and the candidates are. Without one, a directory of installation is taken
from the current directory, and the candidates from there, each in its turn. The first of the places
that is a file is taken; if none is, all of them are reported. -/
theorem found_from_options (cwd home : Path) (tree : FileTree) (s : Settings)
    (o : AnalyzerOptions) (hcwd : cwd.isAbsolute = true) (hpath : s.analyzer.path = none)
    (hpaths : ∀ p, o.analyzer = some p ∨ o.installDir = some p → p.bytes ≠ []) :
    let t := o.apply cwd s
    let l := ofSettings home t.analyzer
    (∀ p, o.analyzer = some p →
      l.probes = [cwd.absolute p] ∧ Path.IsTakenFrom cwd p (cwd.absolute p)) ∧
    (∀ d, o.analyzer = none → o.installDir = some d →
      let dir := cwd.absolute d
      Path.IsTakenFrom cwd d dir ∧ l.probes = s.analyzer.candidates.map dir.join ∧
      ∀ c ∈ s.analyzer.candidates, (c.isAbsolute = true → dir.join c = c) ∧
        Path.IsTakenFrom dir c (dir.join c)) ∧
    (∀ p, l.resolve tree = .ok p ↔ IsFirstFile tree l.probes p) ∧
    (∀ e, l.resolve tree = .error e ↔
      e = .notFound l.probes ∧ ∀ q ∈ l.probes, tree.isFile q = false) ∧
    o.Spares s t := by
  intro t l
  have hspares := o.spares_apply cwd s
  refine ⟨?_, ?_, fun p => resolve_eq_ok_iff, fun e => resolve_eq_error_iff, hspares⟩
  · intro p hp
    have htaken := Path.isTakenFrom_absolute hcwd (hpaths p (.inl hp))
    exact ⟨probes_ofSettings_of_path (AnalyzerOptions.path_apply hp cwd s) htaken.1 home, htaken⟩
  · intro d hnone hd dir
    have htaken : Path.IsTakenFrom cwd d dir :=
      Path.isTakenFrom_absolute hcwd (hpaths d (.inr hd))
    have hnowhere : t.analyzer.path = none := (hspares.path hnone).trans hpath
    refine ⟨htaken, ?_, ?_⟩
    · rw [← hspares.candidates]
      exact probes_ofSettings_of_candidates hnowhere (AnalyzerOptions.installDir_apply hd cwd s)
        home
    · intro c _
      exact ⟨fun hc => if_pos hc, Path.isTakenFrom_join htaken.1 c⟩

theorem found_from_options_bothWays :
    let cwd := Path.ofText "/home/u"
    let home := Path.ofText "/opt/bin"
    let candidates := [Path.ofText "cli.py", Path.ofText "/opt/cli.py"]
    let s : Settings := { analyzer := { candidates, installDir := some (Path.ofText "ext") } }
    let explicit : AnalyzerOptions :=
      { analyzer := some (Path.ofText "./my//cli.py"), installDir := some (Path.ofText "lib") }
    let installed : AnalyzerOptions :=
      { installDir := some (Path.ofText "lib/"), timeout := some 5 }
    cwd.isAbsolute = true ∧ s.analyzer.path = none ∧
      (ofSettings home (explicit.apply cwd s).analyzer).probes = [Path.ofText "/home/u/my/cli.py"] ∧
      (ofSettings home (installed.apply cwd s).analyzer).probes =
        [Path.ofText "/home/u/lib/cli.py", Path.ofText "/opt/cli.py"] ∧
      installed.Spares s (installed.apply cwd s) := by
  intro cwd home candidates s explicit installed
  have hcwd : cwd.isAbsolute = true := by decide
  have hexplicit : ∀ p, explicit.analyzer = some p ∨ explicit.installDir = some p →
      p.bytes ≠ [] := by
    rintro p (hp | hp) <;> cases hp <;> decide
  have hinstalled : ∀ p, installed.analyzer = some p ∨ installed.installDir = some p →
      p.bytes ≠ [] := by
    rintro p (hp | hp) <;> cases hp
    decide
  obtain ⟨hsingle, -⟩ := found_from_options cwd home {} s explicit hcwd rfl hexplicit
  obtain ⟨-, hall, -, -, hspares⟩ := found_from_options cwd home {} s installed hcwd rfl hinstalled
  refine ⟨hcwd, rfl, ?_, ?_, hspares⟩
  · rw [(hsingle _ rfl).1]
    decide
  · rw [(hall _ rfl rfl).2.1]
    decide

end Locator

end Deadwood
