import Deadwood.Proofs.Path.Map

/-!
# Components of joined paths

A path is its start followed by steps: the segments between its slashes that carry a meaning. A
relative path below an absolute one adds its steps, whether or not it starts at an explicit dot; so
the spellings of one path stay spellings of one path below any directory.

* `same_iff_anchor_steps` : two spellings are of one path iff starts and steps agree;
* `isAbsolute_join` : what is joined to an absolute path is absolute;
* `steps_join` : the steps of a relative path follow those of the path it is joined to;
* `same_join` : below an absolute path, spellings of one path stay so;
* `components_join_eq` : the components of a relative path below any other;
* `same_join_join` : two relative paths can be joined first.
-/

namespace Deadwood.Path

/-! ## Segments -/

theorem splitSlashes_ne_nil (bs : List UInt8) : splitSlashes bs ≠ [] := by
  cases bs with
  | nil => exact List.cons_ne_nil _ _
  | cons b bs =>
    rw [splitSlashes]
    split
    · exact List.cons_ne_nil _ _
    · split <;> exact List.cons_ne_nil _ _

/-- A slash ends the segments before it. -/
theorem splitSlashes_append (bs cs : List UInt8) :
    splitSlashes (bs ++ slash :: cs) = splitSlashes bs ++ splitSlashes cs := by
  induction bs with
  | nil => simp [splitSlashes]
  | cons b bs ih =>
    rw [List.cons_append, splitSlashes, splitSlashes, ih]
    split
    · rfl
    · cases h : splitSlashes bs with
      | nil => exact absurd h (splitSlashes_ne_nil bs)
      | cons s rest => rfl

/-- A byte that is no slash begins the first segment. -/
theorem exists_splitSlashes_cons {b : UInt8} (hb : b ≠ slash) (bs : List UInt8) :
    ∃ s rest, splitSlashes (b :: bs) = (b :: s) :: rest := by
  obtain ⟨s, rest, hs⟩ := List.exists_cons_of_ne_nil (splitSlashes_ne_nil bs)
  exact ⟨s, rest, by simp [splitSlashes, hb, hs]⟩

/-! ## Starts and steps -/

/-- The components of a path after its start. -/
def steps (p : Path) : List Component := (splitSlashes p.bytes).filterMap Component.ofSegment?

/-- The start of a path is no step of it. -/
theorem components_eq (p : Path) : p.components = p.anchor.components ++ p.steps := by
  unfold components anchor body steps parse
  congr 1
  split
  case _ s rest h =>
    rw [h]
    rfl
  case _ b rest h =>
    rw [h]
    split
    case _ hdot =>
      rw [beq_iff_eq] at hdot
      rw [hdot]
      rfl
    case _ => rfl
  case _ => rfl

/-- A path is absolute iff it is spelled with a slash at the front. -/
theorem isAbsolute_iff {p : Path} : p.isAbsolute = true ↔ ∃ rest, p.bytes = slash :: rest := by
  unfold isAbsolute anchor parse
  cases p.bytes with
  | nil => simp [splitSlashes]
  | cons b bs =>
    by_cases hb : b = slash
    · obtain ⟨s, rest, hs⟩ := List.exists_cons_of_ne_nil (splitSlashes_ne_nil bs)
      simp [splitSlashes, hb, hs]
    · obtain ⟨s, rest, hsplit⟩ := exists_splitSlashes_cons hb bs
      rw [hsplit]
      cases s with
      | nil =>
        by_cases hdot : b = dot
        · simp [hdot, dot, slash]
        · simp [hb, hdot]
      | cons c s => simp [hb]

/-- A step is the one that its own spelling stands for. -/
theorem ofSegment?_bytes {p : Path} {c : Component} (h : c ∈ p.steps) :
    Component.ofSegment? c.bytes = some c := by
  obtain ⟨segment, -, hsegment⟩ := List.mem_filterMap.mp h
  by_cases hidle : isIdle segment = true
  · rw [Component.ofSegment?, if_pos hidle] at hsegment
    cases hsegment
  · by_cases hup : segment = [dot, dot]
    · rw [hup] at hsegment
      cases hsegment
      rfl
    · have hname : Component.ofSegment? segment = some (.name segment) := by
        rw [Component.ofSegment?, if_neg hidle, if_neg (by simpa using hup)]
      rw [hname] at hsegment
      cases hsegment
      exact hname

/-- A path has the root among its components iff it starts there. -/
theorem root_mem_components {p : Path} : Component.root ∈ p.components ↔ p.anchor = .root := by
  have hsteps : Component.root ∉ p.steps := fun h => by cases ofSegment?_bytes h
  rw [components_eq, List.mem_append, or_iff_left hsteps]
  cases p.anchor <;> simp [Anchor.components]

/-- A path has a dot among its components iff it starts there. -/
theorem here_mem_components {p : Path} : Component.here ∈ p.components ↔ p.anchor = .here := by
  have hsteps : Component.here ∉ p.steps := fun h => by cases ofSegment?_bytes h
  rw [components_eq, List.mem_append, or_iff_left hsteps]
  cases p.anchor <;> simp [Anchor.components]

/-- Two spellings are of one path iff their starts and their steps agree. -/
theorem same_iff_anchor_steps {p q : Path} :
    p.same q = true ↔ p.anchor = q.anchor ∧ p.steps = q.steps := by
  rw [same_iff]
  constructor
  · intro h
    have hroot : p.anchor = .root ↔ q.anchor = .root := by
      rw [← root_mem_components, ← root_mem_components, h]
    have hhere : p.anchor = .here ↔ q.anchor = .here := by
      rw [← here_mem_components, ← here_mem_components, h]
    have hanchor : p.anchor = q.anchor := by
      cases hp : p.anchor <;> cases hq : q.anchor <;> simp_all
    rw [components_eq, components_eq, hanchor] at h
    exact ⟨hanchor, List.append_cancel_left h⟩
  · rintro ⟨hanchor, hsteps⟩
    rw [components_eq, components_eq, hanchor, hsteps]

theorem components_of_isAbsolute {p : Path} (h : p.isAbsolute = true) :
    p.components = .root :: p.steps := by
  rw [components_eq, beq_iff_eq.mp h]
  rfl

/-! ## Joining -/

/-- What is joined to an absolute path is absolute. -/
theorem isAbsolute_join {p : Path} (h : p.isAbsolute = true) (q : Path) :
    (p.join q).isAbsolute = true := by
  obtain ⟨rest, hp⟩ := isAbsolute_iff.mp h
  unfold join
  split
  · assumption
  · split
    · exact isAbsolute_iff.mpr ⟨rest ++ q.bytes, by rw [hp, List.cons_append]⟩
    · exact isAbsolute_iff.mpr ⟨rest ++ slash :: q.bytes, by rw [hp, List.cons_append]⟩

/-- A slash at the end adds no step: it leaves an empty segment behind it. -/
theorem steps_append_slash (bs : List UInt8) :
    (⟨bs ++ [slash]⟩ : Path).steps = (⟨bs⟩ : Path).steps := by
  rw [steps, splitSlashes_append, List.filterMap_append, steps]
  exact List.append_nil _

/-- The steps of a relative path follow those of the path it is joined to. -/
theorem steps_join (p : Path) {q : Path} (h : q.isAbsolute = false) :
    (p.join q).steps = p.steps ++ q.steps := by
  unfold join
  rw [if_neg (by rw [h]; exact Bool.false_ne_true)]
  split
  case _ hend =>
    simp only [Bool.or_eq_true, List.isEmpty_iff, beq_iff_eq] at hend
    rcases hend with hempty | hslash
    · rw [steps, hempty, steps, hempty]
      rfl
    · obtain ⟨front, hfront⟩ := List.getLast?_eq_some_iff.mp hslash
      have hp : p.steps = (⟨front⟩ : Path).steps := by
        rw [← steps_append_slash front, ← hfront]
      rw [hp, steps, hfront, List.append_assoc, List.singleton_append, splitSlashes_append,
        List.filterMap_append, steps, steps]
  case _ => rw [steps, splitSlashes_append, List.filterMap_append, steps, steps]

/-- Below an absolute path, spellings of one path stay spellings of one path. -/
theorem same_join {p q r : Path} (h : q.same r = true) (hp : p.isAbsolute = true) :
    (p.join q).same (p.join r) = true := by
  obtain ⟨hanchor, hsteps⟩ := same_iff_anchor_steps.mp h
  cases hq : q.isAbsolute with
  | true =>
    have hr : r.isAbsolute = true := by rw [← hq, isAbsolute, isAbsolute, hanchor]
    rw [join, if_pos hq, join, if_pos hr]
    exact h
  | false =>
    have hr : r.isAbsolute = false := by rw [← hq, isAbsolute, isAbsolute, hanchor]
    have hroot := beq_iff_eq.mp (isAbsolute_join hp q)
    have hroot' := beq_iff_eq.mp (isAbsolute_join hp r)
    refine same_iff_anchor_steps.mpr ⟨by rw [hroot, hroot'], ?_⟩
    rw [steps_join p hq, steps_join p hr, hsteps]

/-! ## Joining to any path -/

/-- What stands behind a slash does not change where a path starts, unless the slash is its first
byte. -/
theorem anchor_append_slash {bs : List UInt8} (h : bs ≠ []) (cs : List UInt8) :
    (⟨bs ++ slash :: cs⟩ : Path).anchor = (⟨bs⟩ : Path).anchor := by
  cases bs with
  | nil => exact absurd rfl h
  | cons b bs =>
    by_cases hb : b = slash
    · have hlong : (⟨b :: bs ++ slash :: cs⟩ : Path).isAbsolute = true :=
        isAbsolute_iff.mpr ⟨bs ++ slash :: cs, by rw [hb, List.cons_append]⟩
      have hshort : (⟨b :: bs⟩ : Path).isAbsolute = true := isAbsolute_iff.mpr ⟨bs, by rw [hb]⟩
      rw [beq_iff_eq.mp hlong, beq_iff_eq.mp hshort]
    · obtain ⟨s, rest, hsplit⟩ := exists_splitSlashes_cons hb bs
      unfold anchor parse
      rw [splitSlashes_append, hsplit]
      cases s with
      | nil => by_cases hdot : b = dot <;> simp [hdot]
      | cons c s => rfl

/-- A relative path below the empty one stays as it is. -/
theorem join_of_empty {p q : Path} (hp : p.bytes = []) (hq : q.isAbsolute = false) :
    p.join q = q := by
  rw [join, if_neg (by rw [hq]; exact Bool.false_ne_true), hp]
  rfl

theorem bytes_join_ne_nil {p : Path} (hp : p.bytes ≠ []) {q : Path} (hq : q.isAbsolute = false) :
    (p.join q).bytes ≠ [] := by
  rw [join, if_neg (by rw [hq]; exact Bool.false_ne_true)]
  split
  · exact List.append_ne_nil_of_left_ne_nil hp q.bytes
  · exact List.append_ne_nil_of_left_ne_nil hp (slash :: q.bytes)

/-- A path that is not empty says where a relative path below it starts. -/
theorem anchor_join {p q : Path} (hp : p.bytes ≠ []) (hq : q.isAbsolute = false) :
    (p.join q).anchor = p.anchor := by
  unfold join
  rw [if_neg (by rw [hq]; exact Bool.false_ne_true)]
  split
  case _ hend =>
    simp only [Bool.or_eq_true, List.isEmpty_iff, beq_iff_eq] at hend
    obtain ⟨front, hfront⟩ := List.getLast?_eq_some_iff.mp (hend.resolve_left hp)
    have hsplit : p = ⟨front ++ [slash]⟩ := by rw [← hfront]
    rw [hsplit, List.append_assoc, List.singleton_append]
    cases front with
    | nil =>
      -- nothing stands before the slash: both paths start at the root
      have hroot := isAbsolute_iff (p := ⟨[] ++ slash :: q.bytes⟩).mpr ⟨q.bytes, rfl⟩
      rw [beq_iff_eq.mp hroot]
      rfl
    | cons b bs =>
      rw [anchor_append_slash (List.cons_ne_nil b bs), anchor_append_slash (List.cons_ne_nil b bs)]
  case _ => exact anchor_append_slash hp q.bytes

/-- A relative path below a relative one is relative. -/
theorem isAbsolute_join_of_relative {p q : Path} (hp : p.isAbsolute = false)
    (hq : q.isAbsolute = false) : (p.join q).isAbsolute = false := by
  by_cases hempty : p.bytes = []
  · rwa [join_of_empty hempty hq]
  · rwa [isAbsolute, anchor_join hempty hq]

/-- The components of a relative path below any other. Only below the empty path it keeps a dot at
its front. -/
theorem components_join_eq (p : Path) {q : Path} (hq : q.isAbsolute = false) :
    (p.join q).components =
      if p.bytes.isEmpty then q.components else p.components ++ q.steps := by
  by_cases hp : p.bytes = []
  · rw [join_of_empty hp hq, hp]
    rfl
  · rw [components_eq, anchor_join hp hq, steps_join p hq, ← List.append_assoc, ← components_eq,
      if_neg (by simpa using hp)]

/-- Of three paths, the last two can be joined first. -/
theorem same_join_join (p : Path) {q r : Path} (hq : q.isAbsolute = false)
    (hr : r.isAbsolute = false) : ((p.join q).join r).same (p.join (q.join r)) = true := by
  have hqr := isAbsolute_join_of_relative hq hr
  by_cases hp : p.bytes = []
  · rw [join_of_empty hp hq, join_of_empty hp hqr, same_refl]
  · have hpq := bytes_join_ne_nil hp hq
    refine same_iff_anchor_steps.mpr ⟨?_, ?_⟩
    · rw [anchor_join hpq hr, anchor_join hp hq, anchor_join hp hqr]
    · rw [steps_join _ hr, steps_join p hq, steps_join p hqr, steps_join q hr, List.append_assoc]

end Deadwood.Path
