import Deadwood.Path.Order

/-!
# Maps from paths

An association of values with paths in path order. Two spellings of one path are one key, shown
in the spelling that came first. A map carries the proof that its entries are in strictly increasing
path order, so that a path has at most one entry.
-/

namespace Deadwood

namespace PathMap

variable {α : Type}

/-! ## Lists of entries -/

/-- The entries of a list are in strictly increasing path order. -/
def OrderedEntries (entries : List (Path × α)) : Prop :=
  entries.Pairwise fun a b => compare a.1 b.1 = .lt

/-- The value under a path in a list of entries, however the path is spelled. -/
def valueAt? (p : Path) (entries : List (Path × α)) : Option α :=
  (entries.find? fun e => e.1.same p).map (·.2)

/-- Sets the value under a path to `f` of what is there, in the place that keeps the order. -/
def alterEntries (p : Path) (f : Option α → α) : List (Path × α) → List (Path × α)
  | [] => [(p, f none)]
  | (q, x) :: rest => match compare p q with
    | .lt => (p, f none) :: (q, x) :: rest
    | .eq => (q, f (some x)) :: rest
    | .gt => (q, x) :: alterEntries p f rest

/-- A path in the list after a change was there before or is the changed one. -/
theorem mem_alterEntries {p : Path} {f : Option α → α} {entries : List (Path × α)}
    {e : Path × α} (h : e ∈ alterEntries p f entries) :
    e.1 = p ∨ ∃ x, (e.1, x) ∈ entries := by
  induction entries with
  | nil =>
    rw [alterEntries, List.mem_singleton] at h
    exact Or.inl (by rw [h])
  | cons a rest ih =>
    rw [alterEntries] at h
    split at h
    · rcases List.mem_cons.mp h with rfl | h
      · exact Or.inl rfl
      · exact Or.inr ⟨e.2, h⟩
    · rcases List.mem_cons.mp h with rfl | h
      · exact Or.inr ⟨a.2, List.mem_cons_self⟩
      · exact Or.inr ⟨e.2, List.mem_cons_of_mem _ h⟩
    · rcases List.mem_cons.mp h with rfl | h
      · exact Or.inr ⟨a.2, List.mem_cons_self⟩
      · rcases ih h with h | ⟨x, hx⟩
        · exact Or.inl h
        · exact Or.inr ⟨x, List.mem_cons_of_mem _ hx⟩

namespace OrderedEntries

/-- What comes before the first entry comes before all. -/
theorem lt_of_lt_head {p : Path} {a : Path × α} {rest : List (Path × α)}
    (h : OrderedEntries (a :: rest)) (hlt : compare p a.1 = .lt) :
    ∀ e ∈ a :: rest, compare p e.1 = .lt := by
  intro e he
  rcases List.mem_cons.mp he with rfl | he
  · exact hlt
  · exact Std.TransCmp.lt_trans hlt ((List.pairwise_cons.mp h).1 e he)

/-- Changing the value under a path keeps a list of entries in order. -/
theorem alterEntries {entries : List (Path × α)} (h : OrderedEntries entries)
    (p : Path) (f : Option α → α) : OrderedEntries (alterEntries p f entries) := by
  induction entries with
  | nil => exact List.pairwise_singleton _ _
  | cons a rest ih =>
    obtain ⟨hhead, hrest⟩ := List.pairwise_cons.mp h
    rw [PathMap.alterEntries]
    split
    case _ hlt => exact List.pairwise_cons.mpr ⟨h.lt_of_lt_head hlt, h⟩
    case _ heq => exact List.pairwise_cons.mpr ⟨hhead, hrest⟩
    case _ hgt =>
      refine List.pairwise_cons.mpr ⟨?_, ih hrest⟩
      intro b hb
      rcases mem_alterEntries hb with hb | ⟨x, hx⟩
      · rw [hb]
        exact Std.OrientedCmp.lt_of_gt hgt
      · exact hhead (b.1, x) hx

end OrderedEntries

end PathMap

/-- Values under paths, in path order. -/
structure PathMap (α : Type) where
  entries : List (Path × α)
  ordered : PathMap.OrderedEntries entries
deriving DecidableEq, Repr

namespace PathMap

variable {α : Type}

/-! ## Maps -/

/-- The map without entries. -/
def empty : PathMap α := ⟨[], .nil⟩

instance : Inhabited (PathMap α) := ⟨empty⟩

/-- The value under a path, however it is spelled. -/
def get? (m : PathMap α) (p : Path) : Option α := valueAt? p m.entries

/-- Sets the value under a path to `f` of what is there. -/
def alter (m : PathMap α) (p : Path) (f : Option α → α) : PathMap α :=
  ⟨alterEntries p f m.entries, m.ordered.alterEntries p f⟩

/-- Puts a value under a path; the spelling of a path that is present stays. -/
def insert (m : PathMap α) (p : Path) (x : α) : PathMap α :=
  m.alter p fun _ => x

/-- The paths, in order. -/
def paths (m : PathMap α) : List Path := m.entries.map (·.1)

/-- Whether there is no entry. -/
def isEmpty (m : PathMap α) : Bool := m.entries.isEmpty

/-- Adds a value at the end of the list under a path. -/
def push (m : PathMap (List α)) (p : Path) (x : α) : PathMap (List α) :=
  m.alter p fun old => old.getD [] ++ [x]

end PathMap

end Deadwood
