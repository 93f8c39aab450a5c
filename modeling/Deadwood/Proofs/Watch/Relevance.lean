import Deadwood.Proofs.Path.Strip
import Deadwood.Watch.Relevance

/-!
# Names that count below a watched root

Whether a change matters is decided by the names of the changed path. Below the root only the names
behind the root count, so that a project may itself lie in a directory with an ignored name; of a
path that is not below the root all names count. Taking the root off a path that was joined to it
gives back the steps of the relative path, however the two are spelled.

* `any_isIgnored_iff` : the check of the components as a statement about names;
* `isRelevant_of_components`, `isRelevant_outside` : paths below the root and others;
* `isRelevant_exact` : which changes matter.
-/

namespace Deadwood.Watch

/-! ## Ignored names -/

/-- An ignored name is among the components of a path. -/
def NamesIgnored (p : Path) : Prop :=
  ∃ s ∈ ignoredNames, Path.Component.name (Text.Utf8.encode s) ∈ p.components

instance (p : Path) : Decidable (NamesIgnored p) :=
  inferInstanceAs (Decidable (∃ s ∈ ignoredNames, _))

theorem isIgnored_iff {c : Path.Component} :
    isIgnored c = true ↔ ∃ s ∈ ignoredNames, c = .name (Text.Utf8.encode s) := by
  cases c with
  | name bytes =>
    rw [isIgnored, List.contains_iff_mem, List.mem_map]
    constructor
    · rintro ⟨s, hs, rfl⟩
      exact ⟨s, hs, rfl⟩
    · rintro ⟨s, hs, hname⟩
      exact ⟨s, hs, (Path.Component.name.inj hname).symm⟩
  | root | here | up =>
    constructor
    · intro h
      cases h
    · rintro ⟨s, -, hname⟩
      cases hname

theorem any_isIgnored_iff {p : Path} : p.components.any isIgnored = true ↔ NamesIgnored p := by
  rw [List.any_eq_true]
  constructor
  · rintro ⟨c, hc, hignored⟩
    obtain ⟨s, hs, rfl⟩ := isIgnored_iff.mp hignored
    exact ⟨s, hs, hc⟩
  · rintro ⟨s, hs, hmem⟩
    exact ⟨_, hmem, isIgnored_iff.mpr ⟨s, hs, rfl⟩⟩

/-- Where a path starts is no name. -/
theorem any_isIgnored_steps (p : Path) : p.steps.any isIgnored = p.components.any isIgnored := by
  rw [Path.components_eq, List.any_append]
  cases p.anchor <;> rfl

/-- Joining neither loses nor adds a name. -/
theorem namesIgnored_join (p : Path) {q : Path} (hq : q.isAbsolute = false) :
    NamesIgnored (p.join q) ↔ NamesIgnored p ∨ NamesIgnored q := by
  have hany : (p.join q).components.any isIgnored =
      (p.components.any isIgnored || q.components.any isIgnored) := by
    rw [← any_isIgnored_steps, Path.steps_join p hq, List.any_append, any_isIgnored_steps,
      any_isIgnored_steps]
  rw [← any_isIgnored_iff, hany, Bool.or_eq_true, any_isIgnored_iff, any_isIgnored_iff]

/-! ## Paths below the root and others -/

/-- Of a path that continues the root only the continuation counts. -/
theorem isRelevant_of_components {root p : Path} {rest : List Path.Component}
    (h : p.components = root.components ++ rest) : isRelevant root p = !rest.any isIgnored := by
  obtain ⟨q, hq, hrest⟩ := Path.exists_stripBase?_of_components h
  rw [isRelevant, hq, Option.getD_some, hrest]

/-- Of a path that does not continue the root everything counts. -/
theorem isRelevant_outside {root p : Path} (h : ¬root.components <+: p.components) :
    isRelevant root p = !p.components.any isIgnored := by
  rw [isRelevant, Path.stripBase?, if_neg (by rwa [List.isPrefixOf_iff_prefix])]
  rfl

/-- How root and path are spelled does not matter. -/
theorem isRelevant_congr {root other p q : Path} (hroot : other.same root = true)
    (hpath : q.same p = true) : isRelevant other q = isRelevant root p := by
  rw [Path.same_iff] at hroot hpath
  by_cases hbelow : root.components <+: p.components
  · obtain ⟨rest, hrest⟩ := hbelow
    have hrest' : q.components = other.components ++ rest := by rw [hpath, hroot, hrest]
    rw [isRelevant_of_components hrest.symm, isRelevant_of_components hrest']
  · have hbelow' : ¬other.components <+: q.components := by rwa [hroot, hpath]
    rw [isRelevant_outside hbelow, isRelevant_outside hbelow', hpath]

/-- Below the root the names of the relative path count. -/
theorem isRelevant_join_iff (root : Path) {rel : Path} (hrel : rel.isAbsolute = false) :
    isRelevant root (root.join rel) = true ↔ ¬NamesIgnored rel := by
  have hjoin := Path.components_join_eq root hrel
  suffices h : isRelevant root (root.join rel) = !rel.components.any isIgnored by
    rw [h, Bool.not_eq_true', ← Bool.not_eq_true, any_isIgnored_iff]
  by_cases hroot : root.bytes = []
  · -- the empty root has no components, and the joined path is the relative one
    have hnone : root.components = [] := by
      rw [show root = ⟨[]⟩ by rw [← hroot]]
      rfl
    have hall : (root.join rel).components = root.components ++ rel.components := by
      rw [hjoin, hroot, hnone]
      rfl
    exact isRelevant_of_components hall
  · rw [if_neg (by simpa using hroot)] at hjoin
    rw [isRelevant_of_components hjoin, any_isIgnored_steps]

/-! ## Which changes matter -/

/-- A change below the root matters iff the relative path has no ignored name, whatever names the
root has; so nothing matters below a path that does not, and no other spelling of root or path
changes the answer. A change elsewhere matters iff the whole path has no ignored name. -/
theorem isRelevant_exact (root rel : Path) (hrel : rel.isAbsolute = false) :
    (isRelevant root (root.join rel) = true ↔ ¬NamesIgnored rel) ∧
    (isRelevant root (root.join rel) = false →
      ∀ s : Path, s.isAbsolute = false → isRelevant root ((root.join rel).join s) = false) ∧
    (∀ path other path' : Path, other.same root = true → path'.same path = true →
      isRelevant other path' = isRelevant root path) ∧
    (∀ path : Path, ¬root.components <+: path.components →
      (isRelevant root path = true ↔ ¬NamesIgnored path)) := by
  refine ⟨isRelevant_join_iff root hrel, ?_, ?_, ?_⟩
  · intro hirrelevant s hs
    have hnamed : NamesIgnored rel := by
      rw [← Bool.not_eq_true, isRelevant_join_iff root hrel, not_not] at hirrelevant
      exact hirrelevant
    -- the steps of `rel` stay in front of those of `s`, and with them the ignored name
    have hlonger : NamesIgnored (rel.join s) := (namesIgnored_join rel hs).mpr (.inl hnamed)
    have hrelative := Path.isAbsolute_join_of_relative hrel hs
    rw [isRelevant_congr (Path.same_refl root) (Path.same_join_join root hrel hs),
      ← Bool.not_eq_true, isRelevant_join_iff root hrelative, not_not]
    exact hlonger
  · intro path other path' hroot hpath
    exact isRelevant_congr hroot hpath
  · intro path hpath
    rw [isRelevant_outside hpath, Bool.not_eq_true', ← Bool.not_eq_true, any_isIgnored_iff]

theorem isRelevant_exact_unluckyRoot :
    let root := Path.ofText "/srv//target/./venv/"
    let other := Path.ofText "/srv/target/venv"
    let rel := Path.ofText "./lib//node_modules"
    let s := Path.ofText "../a.py"
    let outside := Path.ofText "/srv/target/a.py"
    rel.isAbsolute = false ∧ s.isAbsolute = false ∧ other.same root = true ∧
      (isRelevant root (root.join rel) = true ↔ ¬NamesIgnored rel) ∧
      isRelevant root (root.join rel) = false ∧
      isRelevant root ((root.join rel).join s) = false ∧
      isRelevant other (other.join s) = isRelevant root (other.join s) ∧
      ¬root.components <+: outside.components ∧
      (isRelevant root outside = true ↔ ¬NamesIgnored outside) := by
  intro root other rel s outside
  have hrel : rel.isAbsolute = false := by decide
  have hs : s.isAbsolute = false := by decide
  have hroot : other.same root = true := by decide
  have houtside : ¬root.components <+: outside.components := by decide
  have hirrelevant : isRelevant root (root.join rel) = false := by decide
  obtain ⟨hbelow, hdown, hspelled, helsewhere⟩ := isRelevant_exact root rel hrel
  exact ⟨hrel, hs, hroot, hbelow, hirrelevant, hdown hirrelevant s hs,
    hspelled _ _ _ hroot (Path.same_refl _), houtside, helsewhere outside houtside⟩

end Deadwood.Watch
