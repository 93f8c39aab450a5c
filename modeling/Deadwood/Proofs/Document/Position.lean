import Mathlib.Data.List.DropRight
import Deadwood.Document.Position

/-!
# The position of a cut

A cut divides a text into what stands before it and what stands after it. Its position is read off
the part before it: the number of line ends there, and the UTF-16 units behind the last of them.
Finding the place of that position in the text undoes this (`after_append_of_positionOf`), for
every mix of line ends and characters, unless the cut tears the two characters of one line end
apart.
-/

namespace Deadwood.Document

/-- The number of line ends in a text; a carriage return and a line feed behind it are one. -/
def lineEnds : List Char → Nat
  | [] => 0
  | '\r' :: '\n' :: cs => lineEnds cs + 1
  | c :: cs => if isLineEnd c then lineEnds cs + 1 else lineEnds cs

/-- The part of a text behind its last line end. -/
def lastLine (cs : List Char) : List Char := cs.rtakeWhile fun c => !isLineEnd c

/-- The number of UTF-16 units of a text. -/
def unitCount : List Char → Nat
  | [] => 0
  | c :: cs => units c + unitCount cs

/-- A position is that of a cut behind a text. -/
structure PositionOf (p : Position) (before : List Char) : Prop where
  line_eq : p.line.toNat = lineEnds before
  character_eq : p.character.toNat = unitCount (lastLine before)

/-- A cut tears apart the carriage return and the line feed of one line end. -/
def TearsLineEnd (before after : List Char) : Prop :=
  before.getLast? = some '\r' ∧ after.head? = some '\n'

instance (before after : List Char) : Decidable (TearsLineEnd before after) :=
  inferInstanceAs (Decidable (_ ∧ _))

/-- Whether a cut tears a line end apart does not depend on what stands further in front. -/
theorem TearsLineEnd.cons {a b : List Char} (h : TearsLineEnd a b) (c : Char) :
    TearsLineEnd (c :: a) b := by
  refine ⟨?_, h.2⟩
  rw [List.getLast?_cons, h.1]
  rfl

/-! ## Lines -/

/-- Going to a later line passes a pair as one line end. -/
theorem dropLines_succ_pair (n : Nat) (cs : List Char) :
    dropLines (n + 1) ('\r' :: '\n' :: cs) = dropLines n cs := by
  rw [dropLines]

theorem dropLines_succ_cons (n : Nat) {c : Char} {cs : List Char}
    (h : c = '\r' → cs.head? ≠ some '\n') :
    dropLines (n + 1) (c :: cs) =
      if isLineEnd c then dropLines n cs else dropLines (n + 1) cs := by
  rw [dropLines]
  rintro rest rfl rfl
  exact h rfl rfl

/-- A text without line ends is its own last line. -/
theorem lastLine_eq_self {cs : List Char} (h : ∀ c ∈ cs, isLineEnd c = false) :
    lastLine cs = cs := by
  unfold lastLine
  rw [List.rtakeWhile_eq_self_iff]
  intro c hc
  rw [h c hc]
  rfl

/-- What stands before a line end does not matter for the last line. -/
theorem lastLine_append_cons (cs : List Char) {c : Char} (hc : isLineEnd c = true)
    (ds : List Char) : lastLine (cs ++ c :: ds) = lastLine ds := by
  unfold lastLine List.rtakeWhile
  have hreverse : (cs ++ c :: ds).reverse = ds.reverse ++ c :: cs.reverse := by simp
  rw [hreverse, List.takeWhile_append]
  split
  case _ hall =>
    rw [List.takeWhile_cons, hc]
    have hself : ds.reverse.takeWhile (fun c => !isLineEnd c) = ds.reverse :=
      (List.takeWhile_sublist _).eq_of_length hall
    rw [hself]
    simp
  case _ => rfl

/-- There is no line end in the last line. -/
theorem isLineEnd_of_mem_lastLine {cs : List Char} {c : Char} (h : c ∈ lastLine cs) :
    isLineEnd c = false := by
  have hkept := List.mem_rtakeWhile_imp h
  simpa using hkept

/-- A text has no line ends iff none of its characters is one. -/
theorem lineEnds_eq_zero_iff {cs : List Char} :
    lineEnds cs = 0 ↔ ∀ c ∈ cs, isLineEnd c = false := by
  fun_induction lineEnds cs with
  | case1 => simp
  | case2 cs ih =>
    have hfirst : isLineEnd '\r' = true := rfl
    simp [hfirst]
  | case3 c cs _ hend ih => simp [hend]
  | case4 c cs _ hinner ih => simp [hinner, ih]

/-- Leaving out a character that ends no line, or all that stands before a later line end, keeps the
last line. -/
theorem lastLine_cons_of_lineEnds_pos {cs : List Char} (h : lineEnds cs ≠ 0) (c : Char) :
    lastLine (c :: cs) = lastLine cs := by
  have hsome : ∃ d ∈ cs, isLineEnd d = true := by
    by_contra hnone
    apply h
    rw [lineEnds_eq_zero_iff]
    intro d hd
    exact Bool.eq_false_iff.mpr fun hend => hnone ⟨d, hd, hend⟩
  obtain ⟨d, hd, hend⟩ := hsome
  obtain ⟨older, newer, rfl⟩ := List.append_of_mem hd
  rw [lastLine_append_cons older hend, ← List.cons_append, lastLine_append_cons (c :: older) hend]

/-- Going past all line ends before a cut leads to the last line before it. -/
theorem dropLines_append {a b : List Char} (hcut : ¬ TearsLineEnd a b) :
    dropLines (lineEnds a) (a ++ b) = lastLine a ++ b := by
  fun_induction lineEnds a with
  | case1 => rw [dropLines]; rfl
  | case2 a ih =>
    have hrest : ¬ TearsLineEnd a b := fun h => hcut ((h.cons '\n').cons '\r')
    rw [List.cons_append, List.cons_append, dropLines_succ_pair, ih hrest]
    exact congrArg (· ++ b) (lastLine_append_cons ['\r'] rfl a).symm
  | case3 c a hpair hend ih =>
    have hrest : ¬ TearsLineEnd a b := fun h => hcut (h.cons c)
    -- a carriage return here is followed by no line feed, neither in `a` nor behind the cut
    have hnext : c = '\r' → (a ++ b).head? ≠ some '\n' := by
      rintro rfl
      cases a with
      | nil => exact fun hhead => hcut ⟨rfl, hhead⟩
      | cons d a =>
        intro hhead
        exact hpair a rfl (by simpa using hhead)
    rw [List.cons_append, dropLines_succ_cons _ hnext, if_pos hend, ih hrest]
    exact congrArg (· ++ b) (lastLine_append_cons [] hend a).symm
  | case4 c a hpair hinner ih =>
    have hrest : ¬ TearsLineEnd a b := fun h => hcut (h.cons c)
    have hnext : c = '\r' → (a ++ b).head? ≠ some '\n' := by
      rintro rfl
      exact absurd rfl hinner
    by_cases hends : lineEnds a = 0
    · -- the cut is in the first line
      have hfirst : ∀ d ∈ c :: a, isLineEnd d = false := by
        rintro d (_ | ⟨_, hd⟩)
        · exact Bool.eq_false_iff.mpr hinner
        · exact lineEnds_eq_zero_iff.mp hends d hd
      rw [hends, lastLine_eq_self hfirst, dropLines]
    · obtain ⟨n, hn⟩ := Nat.exists_eq_succ_of_ne_zero hends
      rw [lastLine_cons_of_lineEnds_pos hends, ← ih hrest, hn, List.cons_append,
        dropLines_succ_cons _ hnext, if_neg hinner]

/-! ## Columns -/

theorem units_pos (c : Char) : 0 < units c := by
  unfold units
  split <;> decide

/-- Going past the units of a text without line ends passes just this text. -/
theorem dropColumns_append {a : List Char} (h : ∀ c ∈ a, isLineEnd c = false) (b : List Char) :
    dropColumns (unitCount a) (a ++ b) = b := by
  induction a with
  | nil => exact dropColumns.eq_1 b
  | cons c a ih =>
    have hinner : isLineEnd c = false := h c List.mem_cons_self
    have hcount : unitCount (c :: a) = units c + unitCount a := rfl
    obtain ⟨n, hn⟩ := Nat.exists_eq_succ_of_ne_zero
      (show unitCount (c :: a) ≠ 0 by have := units_pos c; omega)
    have hleft : n + 1 - units c = unitCount a := by omega
    rw [hn, List.cons_append, dropColumns, hinner, if_neg Bool.false_ne_true, hleft]
    exact ih fun d hd => h d (List.mem_cons_of_mem c hd)

/-! ## Cuts -/

/-- The place of the position of a cut is the cut. -/
theorem after_append_of_positionOf {p : Position} {a b : List Char} (hp : PositionOf p a)
    (hcut : ¬ TearsLineEnd a b) : after p (a ++ b) = b := by
  unfold after
  rw [hp.line_eq, hp.character_eq, dropLines_append hcut]
  exact dropColumns_append (fun _ => isLineEnd_of_mem_lastLine) b

theorem before_append (a b : List Char) : before (a ++ b) b = a := by
  unfold before
  rw [List.length_append, Nat.add_sub_cancel]
  exact List.take_left

/-- Replacing the part between the positions of two cuts replaces just what is between the
cuts. -/
theorem replace_of_positionOf {range : Range} {a b c : List Char}
    (hstart : PositionOf range.start a) (hstop : PositionOf range.stop (a ++ b))
    (hfirst : ¬ TearsLineEnd a (b ++ c)) (hsecond : ¬ TearsLineEnd (a ++ b) c)
    (new : List Char) : replace range new (a ++ b ++ c) = a ++ new ++ c := by
  have hstop' := after_append_of_positionOf hstop hsecond
  have hstart' := after_append_of_positionOf hstart hfirst
  rw [← List.append_assoc] at hstart'
  have hbefore : before (a ++ b ++ c) (b ++ c) = a := by
    rw [List.append_assoc, before_append]
  simp only [replace, hstop', hstart', hbefore, List.length_append]
  rw [if_pos (by omega)]

end Deadwood.Document
