import Deadwood.Document.Word
import Deadwood.Proofs.Document.Offset

/-!
# Two ways to count lines

Lines are counted in two ways. For changes, a line ends at a line feed, at a carriage return, or at
the pair of both; the word under the cursor is looked for in lines that end at line feeds only, with
the carriage return before one. As long as every carriage return has a line feed behind it, both
ways find the same line, and a position stands for the same byte of it. The first carriage return
without a line feed behind it tells them apart.

* `line?_eq_getElem?` : the lines that end at line feeds;
* `dropFeeds_eq_dropLines`, `dropColumns_line_append` : where the two ways agree;
* `exists_first_return` : where they part;
* `columns_agree` : both together.
-/

namespace Deadwood.Document

open Text.Utf8 (size)

/-! ## Lines that end at line feeds -/

/-- A line without the carriage return at its end. -/
def dropReturn (line : List Char) : List Char :=
  if line.getLast? == some '\r' then line.dropLast else line

/-- The lines of a text. It is split at its line feeds, and each of them takes a carriage return
before it away; what is behind the last one is a line if it is not empty. -/
def lines (cs : List Char) : List (List Char) :=
  let parts := cs.splitOn '\n'
  parts.dropLast.map dropReturn ++ (parts.getLast?.filter (!·.isEmpty)).toList

theorem lines_of_notMem {cs : List Char} (h : '\n' ∉ cs) :
    lines cs = if cs.isEmpty then [] else [cs] := by
  rw [lines, List.splitOn_eq_singleton h]
  cases cs <;> rfl

theorem lines_append {a : List Char} (h : '\n' ∉ a) (rest : List Char) :
    lines (a ++ '\n' :: rest) = dropReturn a :: lines rest := by
  rw [lines, List.splitOn_append_cons_self_of_not_mem h,
    List.dropLast_cons_of_ne_nil (List.splitOn_ne_nil _ _),
    List.getLast?_cons_of_ne_nil (List.splitOn_ne_nil _ _)]
  rfl

/-- A text has no line feed or is cut by its first one. -/
theorem feed_cases (cs : List Char) :
    '\n' ∉ cs ∨ ∃ a rest, '\n' ∉ a ∧ cs = a ++ '\n' :: rest := by
  by_cases h : '\n' ∈ cs
  · obtain ⟨a, rest, hsplit, ha⟩ := List.eq_append_cons_of_mem h
    exact Or.inr ⟨a, rest, ha, hsplit⟩
  · exact Or.inl h

theorem all_ne_feed {a : List Char} (h : '\n' ∉ a) : ∀ c ∈ a, (c != '\n') = true := by
  intro c hc
  rw [bne_iff_ne]
  rintro rfl
  exact h hc

theorem firstLine_of_notMem {cs : List Char} (h : '\n' ∉ cs) : firstLine cs = cs := by
  rw [firstLine, List.takeWhile_eq_self_iff.mpr (all_ne_feed h)]
  simp

theorem firstLine_append {a : List Char} (h : '\n' ∉ a) (rest : List Char) :
    firstLine (a ++ '\n' :: rest) = dropReturn a := by
  have hline : (a ++ '\n' :: rest).takeWhile (· != '\n') = a := by
    rw [List.takeWhile_append_of_pos (all_ne_feed h), List.takeWhile_cons]
    exact List.append_nil a
  have hlength : a.length < (a ++ '\n' :: rest).length := by simp
  rw [firstLine, hline, decide_eq_true hlength]
  rfl

theorem dropFeeds_nil (n : Nat) : dropFeeds n [] = [] := by
  cases n <;> rfl

theorem dropFeeds_succ_of_notMem {cs : List Char} (h : '\n' ∉ cs) (n : Nat) :
    dropFeeds (n + 1) cs = [] := by
  rw [dropFeeds, List.dropWhile_eq_nil_iff.mpr (all_ne_feed h)]

theorem dropFeeds_succ_append {a : List Char} (h : '\n' ∉ a) (n : Nat) (rest : List Char) :
    dropFeeds (n + 1) (a ++ '\n' :: rest) = dropFeeds n rest := by
  rw [dropFeeds, List.dropWhile_append_of_pos (all_ne_feed h)]
  rfl

theorem line?_eq (n : Nat) (cs : List Char) :
    line? n cs =
      if (dropFeeds n cs).isEmpty then none else some (firstLine (dropFeeds n cs)) := by
  unfold line?
  cases dropFeeds n cs <;> rfl

/-- A line is found by its number. -/
theorem line?_eq_getElem? (n : Nat) (cs : List Char) : line? n cs = (lines cs)[n]? := by
  induction n generalizing cs with
  | zero =>
    rw [line?_eq, dropFeeds]
    rcases feed_cases cs with hnone | ⟨a, rest, ha, rfl⟩
    · rw [lines_of_notMem hnone, firstLine_of_notMem hnone]
      cases cs <;> rfl
    · rw [lines_append ha, firstLine_append ha]
      cases a <;> rfl
  | succ n ih =>
    rcases feed_cases cs with hnone | ⟨a, rest, ha, rfl⟩
    · rw [line?_eq, dropFeeds_succ_of_notMem hnone, lines_of_notMem hnone]
      cases cs <;> rfl
    · rw [lines_append ha, List.getElem?_cons_succ, ← ih, line?_eq, line?_eq,
        dropFeeds_succ_append ha]

/-! ## Carriage returns without a line feed -/

/-- Some carriage return of a text has no line feed behind it. -/
def HasLoneReturn (cs : List Char) : Prop :=
  ∃ a b, cs = a ++ '\r' :: b ∧ b.head? ≠ some '\n'

theorem hasLoneReturn_cons {c : Char} {cs : List Char} :
    HasLoneReturn (c :: cs) ↔ c = '\r' ∧ cs.head? ≠ some '\n' ∨ HasLoneReturn cs := by
  constructor
  · rintro ⟨_ | ⟨d, a⟩, b, hsplit, hhead⟩
    · obtain ⟨rfl, rfl⟩ := List.cons.inj hsplit
      exact Or.inl ⟨rfl, hhead⟩
    · obtain ⟨rfl, rfl⟩ := List.cons.inj hsplit
      exact Or.inr ⟨a, b, rfl, hhead⟩
  · rintro (⟨rfl, hhead⟩ | ⟨a, b, rfl, hhead⟩)
    · exact ⟨[], cs, rfl, hhead⟩
    · exact ⟨c :: a, b, rfl, hhead⟩

theorem not_hasLoneReturn_nil : ¬HasLoneReturn [] := by
  rintro ⟨a, b, hsplit, -⟩
  cases a <;> cases hsplit

instance decidableHasLoneReturn : (cs : List Char) → Decidable (HasLoneReturn cs)
  | [] => isFalse not_hasLoneReturn_nil
  | _ :: cs =>
    have := decidableHasLoneReturn cs
    decidable_of_iff' _ hasLoneReturn_cons

/-- Behind a carriage return that is not a lone one is a line feed. -/
theorem exists_eq_feed_cons {cs : List Char} (h : ¬HasLoneReturn ('\r' :: cs)) :
    ∃ rest, cs = '\n' :: rest := by
  rw [hasLoneReturn_cons, not_or] at h
  have hhead : cs.head? = some '\n' := by
    by_contra hne
    exact h.1 ⟨rfl, hne⟩
  exact List.head?_eq_some_iff.mp hhead

/-- A carriage return of an end part is one of the text. -/
theorem HasLoneReturn.of_suffix {cs rest : List Char} (hrest : rest <:+ cs)
    (h : HasLoneReturn rest) : HasLoneReturn cs := by
  obtain ⟨front, rfl⟩ := hrest
  obtain ⟨a, b, rfl, hhead⟩ := h
  exact ⟨front ++ a, b, (List.append_assoc ..).symm, hhead⟩

/-! ## Where the two ways agree -/

theorem dropFeeds_succ_feed (n : Nat) (cs : List Char) :
    dropFeeds (n + 1) ('\n' :: cs) = dropFeeds n cs :=
  dropFeeds_succ_append (a := []) List.not_mem_nil n cs

theorem dropFeeds_succ_cons (n : Nat) {c : Char} (hc : c ≠ '\n') (cs : List Char) :
    dropFeeds (n + 1) (c :: cs) = dropFeeds (n + 1) cs := by
  have hdrop : (c :: cs).dropWhile (· != '\n') = cs.dropWhile (· != '\n') :=
    List.dropWhile_cons_of_pos (bne_iff_ne.mpr hc)
  rw [dropFeeds, dropFeeds, hdrop]

theorem isLineEnd_iff {c : Char} : isLineEnd c = true ↔ c = '\n' ∨ c = '\r' := by
  simp [isLineEnd]

/-- Without a lone carriage return, both ways find the same line. -/
theorem dropFeeds_eq_dropLines {cs : List Char} (h : ¬HasLoneReturn cs) (n : Nat) :
    dropFeeds n cs = dropLines n cs := by
  fun_induction dropLines n cs with
  | case1 cs => rfl
  | case2 n => exact dropFeeds_nil (n + 1)
  | case3 n cs ih =>
    rw [dropFeeds_succ_cons n (by decide), dropFeeds_succ_feed]
    exact ih fun hlone => h (hlone.of_suffix (isRest_pair cs).suffix)
  | case4 n c cs hpair hend ih =>
    rcases isLineEnd_iff.mp hend with rfl | rfl
    · rw [hasLoneReturn_cons, not_or] at h
      rw [dropFeeds_succ_feed]
      exact ih h.2
    · -- a carriage return that starts no pair would be a lone one
      obtain ⟨rest, rfl⟩ := exists_eq_feed_cons h
      exact absurd rfl (hpair rest rfl)
  | case5 n c cs hpair hinner ih =>
    rw [hasLoneReturn_cons, not_or] at h
    have hc : c ≠ '\n' := fun hfeed => hinner (isLineEnd_iff.mpr (Or.inl hfeed))
    rw [dropFeeds_succ_cons n hc]
    exact ih h.2

theorem dropReturn_append (a : List Char) {b : List Char} (hb : b ≠ []) :
    dropReturn (a ++ b) = a ++ dropReturn b := by
  rw [dropReturn, dropReturn, List.getLast?_append_of_ne_nil a hb,
    List.dropLast_append_of_ne_nil hb]
  split <;> rfl

theorem dropReturn_cons {c : Char} (hc : c ≠ '\r') (line : List Char) :
    dropReturn (c :: line) = c :: dropReturn line := by
  cases line with
  | nil =>
    have hlast : ([c].getLast? == some '\r') = false := by simp [hc]
    rw [dropReturn, hlast]
    rfl
  | cons d line => exact dropReturn_append [c] (List.cons_ne_nil d line)

/-- Without a lone carriage return, a line reaches up to its line end. -/
theorem firstLine_eq_takeWhile {cs : List Char} (h : ¬HasLoneReturn cs) :
    firstLine cs = cs.takeWhile fun c => !isLineEnd c := by
  rcases feed_cases cs with hnone | ⟨a, rest, ha, rfl⟩
  · rw [firstLine_of_notMem hnone, eq_comm, List.takeWhile_eq_self_iff]
    intro c hc
    have hend : ¬isLineEnd c = true := by
      rw [isLineEnd_iff]
      rintro (rfl | rfl)
      · exact hnone hc
      · obtain ⟨a, b, rfl⟩ := List.append_of_mem hc
        refine h ⟨a, b, rfl, fun hhead => hnone ?_⟩
        simp [List.mem_of_mem_head? hhead]
    simpa using hend
  · rw [firstLine_append ha]
    induction a with
    | nil => rfl
    | cons c a ih =>
      have hinner : '\n' ∉ a := fun hmem => ha (List.mem_cons_of_mem c hmem)
      by_cases hc : c = '\r'
      · -- only a line feed can be behind it, so it is the end of the line
        subst hc
        obtain ⟨more, hmore⟩ := exists_eq_feed_cons h
        cases a with
        | nil => rfl
        | cons d a =>
          obtain ⟨rfl, -⟩ := List.cons.inj hmore
          exact absurd List.mem_cons_self hinner
      · rw [List.cons_append, hasLoneReturn_cons, not_or] at h
        have hend : isLineEnd c = false := by
          rw [← Bool.not_eq_true, isLineEnd_iff, not_or]
          exact ⟨fun hfeed => ha (hfeed ▸ List.mem_cons_self), hc⟩
        rw [dropReturn_cons hc, ih hinner h.2, List.cons_append, List.takeWhile_cons, hend]
        rfl

/-- The part of a line from a column in UTF-16 units on. -/
def dropUnits : Nat → List Char → List Char
  | 0, cs => cs
  | _ + 1, [] => []
  | n + 1, c :: cs => dropUnits (n + 1 - units c) cs

/-- Columns that are counted in a line leave what they leave of a text that starts with it. -/
theorem dropColumns_line_append {line tail : List Char} (hline : ∀ c ∈ line, isLineEnd c = false)
    (htail : ∀ c ∈ tail.head?, isLineEnd c = true) (k : Nat) :
    dropColumns k (line ++ tail) = dropUnits k line ++ tail := by
  fun_induction dropUnits k line with
  | case1 line => rw [dropColumns]
  | case2 k =>
    cases tail with
    | nil => rfl
    | cons c tail =>
      have hend : isLineEnd c = true := htail c rfl
      rw [List.nil_append, dropColumns, if_pos hend]
  | case3 k c line ih =>
    have hinner : ¬isLineEnd c = true := by
      rw [hline c List.mem_cons_self]
      exact Bool.false_ne_true
    rw [List.cons_append, dropColumns, if_neg hinner]
    exact ih fun d hd => hline d (List.mem_cons_of_mem c hd)

theorem dropUnits_suffix (k : Nat) (line : List Char) : dropUnits k line <:+ line := by
  fun_induction dropUnits k line with
  | case1 line => exact List.suffix_refl line
  | case2 k => exact List.suffix_refl []
  | case3 k c line ih => exact ih.trans (List.suffix_cons c line)

/-- The bytes that are passed before a column are those that are not left. -/
theorem passUnits_add_size (target column start : Nat) (line : List Char) :
    passUnits target column start line + size (dropUnits (target - column) line) =
      start + size line := by
  fun_induction passUnits target column start line with
  | case1 column start =>
    cases target - column <;> rfl
  | case2 column start c cs hstop => rw [Nat.sub_eq_zero_of_le hstop, dropUnits]
  | case3 column start c cs hmore ih =>
    have hunits : target - column = target - column - 1 + 1 := by omega
    have hleft : target - column - 1 + 1 - units c = target - (column + units c) := by omega
    rw [hunits, dropUnits, hleft, ih, Text.Utf8.size_cons, Nat.add_assoc]

/-- The column in bytes and the size of what it leaves make up the size of the line. -/
theorem byteColumn_add_size_dropUnits (n k : Nat) (cs : List Char) :
    byteColumn n k cs + size (dropUnits k ((line? n cs).getD [])) =
      size ((line? n cs).getD []) := by
  have hpassed := passUnits_add_size k 0 0 ((line? n cs).getD [])
  rwa [Nat.zero_add] at hpassed

/-- Counting leads to the size of what stands before the column. -/
theorem byteColumn_eq_size_before (n k : Nat) (cs : List Char) :
    let line := (line? n cs).getD []
    byteColumn n k cs = size (before line (dropUnits k line)) := by
  intro line
  have hsizes : byteColumn n k cs + size (dropUnits k line) = size line :=
    byteColumn_add_size_dropUnits n k cs
  have hsplit := congrArg size (before_append_self (dropUnits_suffix k line))
  rw [Text.Utf8.size_append] at hsplit
  omega

theorem getD_line? (n : Nat) (cs : List Char) :
    (line? n cs).getD [] = firstLine (dropFeeds n cs) := by
  rw [line?_eq]
  cases dropFeeds n cs <;> rfl

theorem after_zero (line : UInt32) (cs : List Char) :
    after ⟨line, 0⟩ cs = dropLines line.toNat cs := by
  rw [after]
  exact dropColumns.eq_1 _

/-- Without a lone carriage return, both ways find the same byte of the same line. -/
theorem columns_eq {cs : List Char} (h : ¬HasLoneReturn cs) (p : Position) :
    byteColumn p.line.toNat p.character.toNat cs = offset p cs - offset ⟨p.line, 0⟩ cs ∧
      ∃ a b, cs = a ++ (line? p.line.toNat cs).getD [] ++ b ∧
        size a = offset ⟨p.line, 0⟩ cs := by
  let rest := dropFeeds p.line.toNat cs
  let line := rest.takeWhile fun c => !isLineEnd c
  let tail := rest.dropWhile fun c => !isLineEnd c
  have hrest : rest = dropLines p.line.toNat cs := dropFeeds_eq_dropLines h p.line.toNat
  have hlone : ¬HasLoneReturn rest := by
    intro hlone
    rw [hrest] at hlone
    exact h (hlone.of_suffix (isRest_dropLines _ cs).suffix)
  have hline : (line? p.line.toNat cs).getD [] = line := by
    rw [getD_line?, firstLine_eq_takeWhile hlone]
  have hsplit : rest = line ++ tail := List.takeWhile_append_dropWhile.symm
  have hinner : ∀ c ∈ line, isLineEnd c = false := by
    intro c hc
    simpa using List.mem_takeWhile_imp hc
  have hend : ∀ c ∈ tail.head?, isLineEnd c = true := by
    intro c hc
    have hnot := List.head?_dropWhile_not (fun c => !isLineEnd c) rest
    rw [Option.mem_def.mp hc] at hnot
    simpa using hnot
  have hstart : after ⟨p.line, 0⟩ cs = line ++ tail := by rw [after_zero, ← hrest, hsplit]
  have hafter : after p cs = dropUnits p.character.toNat line ++ tail := by
    rw [after, ← hrest, hsplit, dropColumns_line_append hinner hend]
  constructor
  · have hcolumn := byteColumn_add_size_dropUnits p.line.toNat p.character.toNat cs
    have hsizes := offset_add_size_after p cs
    have hstartSizes := offset_add_size_after ⟨p.line, 0⟩ cs
    rw [hline] at hcolumn
    rw [hafter, Text.Utf8.size_append] at hsizes
    rw [hstart, Text.Utf8.size_append] at hstartSizes
    omega
  · obtain ⟨a, ha⟩ := (isRest_after ⟨p.line, 0⟩ cs).suffix
    refine ⟨a, tail, ?_, (offset_eq_size ha).symm⟩
    rw [hline, List.append_assoc, ← hstart, ha]

/-! ## Where the two ways part -/

/-- Of the carriage returns without a line feed there is a first one. -/
theorem exists_first_return {cs : List Char} (h : HasLoneReturn cs) :
    ∃ a b, cs = a ++ '\r' :: b ∧ b.head? ≠ some '\n' ∧ ¬HasLoneReturn a := by
  induction cs with
  | nil => exact absurd h not_hasLoneReturn_nil
  | cons c cs ih =>
    by_cases hfirst : c = '\r' ∧ cs.head? ≠ some '\n'
    · exact ⟨[], cs, by rw [hfirst.1]; rfl, hfirst.2, not_hasLoneReturn_nil⟩
    · obtain ⟨a, b, rfl, hb, ha⟩ := ih ((hasLoneReturn_cons.mp h).resolve_left hfirst)
      refine ⟨c :: a, b, rfl, hb, ?_⟩
      rw [hasLoneReturn_cons, not_or]
      refine ⟨?_, ha⟩
      rintro ⟨hc, hhead⟩
      refine hfirst ⟨hc, ?_⟩
      cases a with
      | nil => simp
      | cons d a => exact hhead

/-- Going past the line feeds of a text leads to its last line. -/
theorem dropFeeds_append {a : List Char} (h : ¬HasLoneReturn a) (b : List Char) :
    dropFeeds (lineEnds a) (a ++ b) = lastLine a ++ b := by
  fun_induction lineEnds a with
  | case1 => rfl
  | case2 a ih =>
    rw [List.cons_append, List.cons_append, dropFeeds_succ_cons _ (by decide), dropFeeds_succ_feed,
      ih fun hlone => h (hlone.of_suffix (isRest_pair a).suffix)]
    exact congrArg (· ++ b) (lastLine_append_cons ['\r'] rfl a).symm
  | case3 c a hpair hend ih =>
    rcases isLineEnd_iff.mp hend with rfl | rfl
    · rw [hasLoneReturn_cons, not_or] at h
      rw [List.cons_append, dropFeeds_succ_feed, ih h.2]
      exact congrArg (· ++ b) (lastLine_append_cons [] rfl a).symm
    · obtain ⟨rest, rfl⟩ := exists_eq_feed_cons h
      exact absurd rfl (hpair rest rfl)
  | case4 c a hpair hinner ih =>
    rw [hasLoneReturn_cons, not_or] at h
    have hc : c ≠ '\n' := fun hfeed => hinner (isLineEnd_iff.mpr (Or.inl hfeed))
    by_cases hends : lineEnds a = 0
    · have hline : ∀ d ∈ c :: a, isLineEnd d = false := by
        rintro d (_ | ⟨_, hd⟩)
        · exact Bool.eq_false_iff.mpr hinner
        · exact lineEnds_eq_zero_iff.mp hends d hd
      rw [hends, lastLine_eq_self hline]
      rfl
    · obtain ⟨n, hn⟩ := Nat.exists_eq_succ_of_ne_zero hends
      rw [lastLine_cons_of_lineEnds_pos hends, ← ih h.2, hn, List.cons_append,
        dropFeeds_succ_cons n hc]

/-- A lone carriage return stays in its line. -/
theorem exists_firstLine_eq {a b : List Char} (ha : '\n' ∉ a) (hb : b.head? ≠ some '\n') :
    ∃ more, firstLine (a ++ '\r' :: b) = a ++ ['\r'] ++ more := by
  rcases feed_cases b with hnone | ⟨line, rest, hline, rfl⟩
  · refine ⟨b, ?_⟩
    rw [firstLine_of_notMem (by simp [ha, hnone]), List.append_assoc]
    rfl
  · have hne : line ≠ [] := by
      rintro rfl
      exact hb rfl
    have hfeed : '\n' ∉ a ++ ['\r'] ++ line := by simp [ha, hline]
    have hsplit : a ++ '\r' :: (line ++ '\n' :: rest) =
        a ++ ['\r'] ++ line ++ '\n' :: rest := by simp
    exact ⟨dropReturn line, by rw [hsplit, firstLine_append hfeed, dropReturn_append _ hne]⟩

/-- Units are counted past a front part of a line. -/
theorem dropUnits_append (a b : List Char) (k : Nat) :
    dropUnits (unitCount a + k) (a ++ b) = dropUnits k b := by
  induction a with
  | nil => rw [unitCount, Nat.zero_add, List.nil_append]
  | cons c a ih =>
    have hpos := units_pos c
    obtain ⟨n, hn⟩ : ∃ n, unitCount (c :: a) + k = n + 1 :=
      ⟨unitCount (c :: a) + k - 1, by rw [unitCount]; omega⟩
    have hleft : n + 1 - units c = unitCount a + k := by
      rw [← hn, unitCount]
      omega
    rw [hn, List.cons_append, dropUnits, hleft, ih]

theorem unitCount_append (a b : List Char) : unitCount (a ++ b) = unitCount a + unitCount b := by
  induction a with
  | nil => rw [unitCount, Nat.zero_add, List.nil_append]
  | cons c a ih => rw [List.cons_append, unitCount, unitCount, ih, Nat.add_assoc]

theorem lineEnds_le_unitCount (cs : List Char) : lineEnds cs ≤ unitCount cs := by
  fun_induction lineEnds cs with
  | case1 => exact Nat.zero_le _
  | case2 cs ih =>
    have hfirst := units_pos '\r'
    simp only [unitCount]
    omega
  | case3 c cs _ _ ih =>
    have hfirst := units_pos c
    rw [unitCount]
    omega
  | case4 c cs _ _ ih =>
    rw [unitCount]
    omega

/-- Behind the first lone carriage return, the column in bytes is one more than what the offsets
say. -/
theorem columns_ne {a b : List Char} (ha : ¬HasLoneReturn a) (hb : b.head? ≠ some '\n')
    {p : Position} (hline : p.line.toNat = lineEnds a)
    (hcolumn : p.character.toNat = unitCount (lastLine a) + 1) :
    byteColumn p.line.toNat p.character.toNat (a ++ '\r' :: b) =
      offset p (a ++ '\r' :: b) - offset ⟨p.line, 0⟩ (a ++ '\r' :: b) + 1 := by
  let line := lastLine a
  have hinner : ∀ c ∈ line, isLineEnd c = false := fun c hc => isLineEnd_of_mem_lastLine hc
  have hfeed : '\n' ∉ line := fun hmem => absurd (hinner _ hmem) (by decide)
  obtain ⟨more, hfirst⟩ := exists_firstLine_eq hfeed hb
  have hread : (line? p.line.toNat (a ++ '\r' :: b)).getD [] = line ++ ['\r'] ++ more := by
    rw [getD_line?, hline, dropFeeds_append ha, hfirst]
  have hleft : dropUnits p.character.toNat (line ++ ['\r'] ++ more) = more := by
    rw [hcolumn, List.append_assoc, dropUnits_append]
    exact (dropUnits_append ['\r'] more 0).trans (dropUnits.eq_1 more)
  have htears : ¬TearsLineEnd a ('\r' :: b) := fun htears => absurd htears.2 (by simp)
  have hlines : dropLines p.line.toNat (a ++ '\r' :: b) = line ++ '\r' :: b := by
    rw [hline, dropLines_append htears]
  have hpast : dropUnits (unitCount line + 1) line = [] := by
    have happend := dropUnits_append line [] 1
    rwa [List.append_nil] at happend
  have hafter : after p (a ++ '\r' :: b) = '\r' :: b := by
    rw [after, hlines, hcolumn, dropColumns_line_append hinner (by simp [isLineEnd]), hpast,
      List.nil_append]
  have hbytes := byteColumn_add_size_dropUnits p.line.toNat p.character.toNat (a ++ '\r' :: b)
  have hsizes := offset_add_size_after p (a ++ '\r' :: b)
  have hstartSizes := offset_add_size_after ⟨p.line, 0⟩ (a ++ '\r' :: b)
  rw [hread, hleft, Text.Utf8.size_append, Text.Utf8.size_append] at hbytes
  rw [hafter] at hsizes
  rw [after_zero, hlines, Text.Utf8.size_append] at hstartSizes
  have hreturn : size ['\r'] = 1 := rfl
  omega

/-- A position stands for the same byte of the same line whichever way lines are counted, as long as
every carriage return of the text has a line feed behind it. Where one has none, some position
stands for two different bytes, if the positions of the text can be named at all. -/
theorem columns_agree (cs : List Char) :
    (¬HasLoneReturn cs → ∀ p : Position,
      byteColumn p.line.toNat p.character.toNat cs = offset p cs - offset ⟨p.line, 0⟩ cs ∧
        ∃ a b, cs = a ++ (line? p.line.toNat cs).getD [] ++ b ∧
          size a = offset ⟨p.line, 0⟩ cs) ∧
    (HasLoneReturn cs → unitCount cs < UInt32.size → ∃ p : Position,
      byteColumn p.line.toNat p.character.toNat cs ≠ offset p cs - offset ⟨p.line, 0⟩ cs) := by
  constructor
  · intro h p
    exact columns_eq h p
  · intro h hsize
    obtain ⟨a, b, rfl, hb, ha⟩ := exists_first_return h
    have hends := lineEnds_le_unitCount a
    have hlast : unitCount (lastLine a) ≤ unitCount a := by
      obtain ⟨front, hfront⟩ := List.rtakeWhile_suffix (fun c => !isLineEnd c) a
      have hcount := congrArg unitCount hfront
      rw [unitCount_append] at hcount
      exact Nat.le.intro ((Nat.add_comm _ _).trans hcount)
    have hcount : unitCount a + 1 ≤ unitCount (a ++ '\r' :: b) := by
      have hreturn := units_pos '\r'
      rw [unitCount_append, unitCount]
      omega
    let p : Position := ⟨.ofNat (lineEnds a), .ofNat (unitCount (lastLine a) + 1)⟩
    have hline : p.line.toNat = lineEnds a := UInt32.toNat_ofNat_of_lt (by omega)
    have hcolumn : p.character.toNat = unitCount (lastLine a) + 1 :=
      UInt32.toNat_ofNat_of_lt (by omega)
    refine ⟨p, ?_⟩
    rw [columns_ne ha hb hline hcolumn]
    omega

theorem columns_agree_pairs :
    let text := "ab\r\n\n😀x\r\n".toList
    ¬HasLoneReturn text ∧
      byteColumn 2 1 text = offset ⟨2, 1⟩ text - offset ⟨2, 0⟩ text ∧
      HasLoneReturn "ab\r\n😀\rx".toList ∧ unitCount "ab\r\n😀\rx".toList < UInt32.size ∧
      ∃ p : Position, byteColumn p.line.toNat p.character.toNat "ab\r\n😀\rx".toList ≠
        offset p "ab\r\n😀\rx".toList - offset ⟨p.line, 0⟩ "ab\r\n😀\rx".toList := by
  intro text
  have hpaired : ¬HasLoneReturn text := by decide
  have hlone : HasLoneReturn "ab\r\n😀\rx".toList := by decide
  have hsize : unitCount "ab\r\n😀\rx".toList < UInt32.size := by decide
  exact ⟨hpaired, ((columns_agree text).1 hpaired ⟨2, 1⟩).1, hlone, hsize,
    (columns_agree _).2 hlone hsize⟩

/-- A carriage return alone ends a line for changes, but not for words: a position in the second line
of the changes is in no line that words are looked for in. -/
theorem columns_differ_at_lone_return :
    ¬∀ (cs : List Char) (p : Position),
      byteColumn p.line.toNat p.character.toNat cs =
        offset p cs - offset ⟨p.line, 0⟩ cs := by
  intro h
  have hcolumn := h "x = 1\rdef foo():\r".toList ⟨1, 5⟩
  revert hcolumn
  decide

end Deadwood.Document
