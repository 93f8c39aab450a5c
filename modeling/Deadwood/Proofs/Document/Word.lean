import Deadwood.Proofs.Document.Lines

/-!
# The word at a column

A column in UTF-16 units cuts a line behind the shortest front part that reaches it, and the word
there is the run of word characters around the cut. It is found in the bytes of the line: the word
starts behind the last other character before the cut and ends at the first one behind it. No part
that is taken out of the bytes on the way starts or ends within a character.

* `exists_isShortestReaching` : where a column cuts its line;
* `sliceWord?_append` : the word in the bytes of a line that is cut;
* `wordAtUnits?_exact` : the word at a column, and the columns of a word.
-/

namespace Deadwood.Document

open Text (isWordChar IsBoundary slice? isBoundary_iff)
open Text.Utf8 (size)

/-! ## Columns -/

/-- A front part of a line is the shortest one that reaches a column, or all of the line if none
does. -/
def IsShortestReaching (k : Nat) (line front : List Char) : Prop :=
  (k ≤ unitCount front ∧
    ∀ other, other <+: line → k ≤ unitCount other → front.length ≤ other.length) ∨
  (front = line ∧ ∀ other, other <+: line → unitCount other < k)

/-- A longer line is reached one character later. -/
theorem IsShortestReaching.cons {k : Nat} {c : Char} {line front : List Char}
    (h : IsShortestReaching (k + 1 - units c) line front) :
    IsShortestReaching (k + 1) (c :: line) (c :: front) := by
  rcases h with ⟨hreach, hshortest⟩ | ⟨rfl, hnone⟩
  · left
    constructor
    · rw [unitCount]
      omega
    · rintro (_ | ⟨d, other⟩) hprefix hother
      · rw [unitCount] at hother
        omega
      · obtain ⟨rfl, htail⟩ := List.cons_prefix_cons.mp hprefix
        rw [unitCount] at hother
        exact Nat.succ_le_succ (hshortest other htail (by omega))
  · right
    refine ⟨rfl, ?_⟩
    rintro (_ | ⟨d, other⟩) hprefix
    · exact Nat.succ_pos k
    · obtain ⟨rfl, htail⟩ := List.cons_prefix_cons.mp hprefix
      have hless := hnone other htail
      rw [unitCount]
      omega

/-- A column cuts a line behind the shortest front part that reaches it. -/
theorem exists_isShortestReaching (k : Nat) (line : List Char) :
    ∃ front, line = front ++ dropUnits k line ∧ IsShortestReaching k line front := by
  fun_induction dropUnits k line with
  | case1 line =>
    exact ⟨[], rfl, Or.inl ⟨Nat.zero_le _, fun other _ _ => Nat.zero_le _⟩⟩
  | case2 k =>
    refine ⟨[], rfl, Or.inr ⟨rfl, ?_⟩⟩
    intro other hprefix
    rw [List.prefix_nil.mp hprefix]
    exact Nat.succ_pos k
  | case3 k c line ih =>
    obtain ⟨front, hsplit, hshortest⟩ := ih
    refine ⟨c :: front, ?_, hshortest.cons⟩
    rw [List.cons_append, ← hsplit]

/-- A column within a front part leaves the rest of the line. -/
theorem dropUnits_append_of_le {k : Nat} {a : List Char} (h : k ≤ unitCount a) (b : List Char) :
    dropUnits k (a ++ b) = dropUnits k a ++ b := by
  fun_induction dropUnits k a with
  | case1 a => rw [dropUnits]
  | case2 k =>
    rw [unitCount] at h
    omega
  | case3 k c a ih =>
    rw [unitCount] at h
    rw [List.cons_append, dropUnits]
    exact ih (by omega)

/-! ## Words -/

/-- The word around a cut of a line, if there is one. -/
def wordAround? (front back : List Char) : Option String :=
  let word := front.rtakeWhile isWordChar ++ back.takeWhile isWordChar
  if word.isEmpty then none else some (String.ofList word)

theorem splitAtByte?_append (done front back : List Char) :
    splitAtByte? done (size front) (front ++ back) = some (front.reverse ++ done, back) := by
  induction front generalizing done with
  | nil => rw [List.nil_append]; exact splitAtByte?.eq_1 done back
  | cons c front ih =>
    have hpos := c.utf8Size_pos
    obtain ⟨n, hn⟩ : ∃ n, size (c :: front) = n + 1 :=
      ⟨size (c :: front) - 1, by rw [Text.Utf8.size_cons]; omega⟩
    have hsize : n + 1 = c.utf8Size + size front := by rw [← hn, Text.Utf8.size_cons]
    have hleft : n + 1 - c.utf8Size = size front := by omega
    rw [hn, List.cons_append, splitAtByte?, if_pos (by omega), hleft, ih]
    simp

/-- The word at a column in bytes is the one around the cut there. -/
theorem wordInLine?_append (front back : List Char) :
    (wordInLine? (size front) (front ++ back)).map String.ofList = wordAround? front back := by
  rw [wordInLine?, splitAtByte?_append, List.append_nil, wordAround?, List.rtakeWhile]
  dsimp only
  cases (front.reverse.takeWhile isWordChar).reverse ++ back.takeWhile isWordChar <;> rfl

/-- What is behind the last character that is not of a kind is of that kind. -/
theorem rtakeWhile_append_cons {p : Char → Bool} {c : Char} (hc : p c = false) {w : List Char}
    (hw : ∀ d ∈ w, p d = true) (a : List Char) : (a ++ c :: w).rtakeWhile p = w := by
  have hreverse : (a ++ c :: w).reverse = w.reverse ++ c :: a.reverse := by simp
  rw [List.rtakeWhile, hreverse, List.takeWhile_append_of_pos (by simpa using hw),
    List.takeWhile_cons, hc]
  simp

/-- A word in a line, with what is before it and behind it: it cannot be made longer. -/
structure IsWordIn (a word b : List Char) : Prop where
  ne_nil : word ≠ []
  all : ∀ c ∈ word, isWordChar c = true
  before : ∀ c ∈ a.getLast?, isWordChar c = false
  behind : ∀ c ∈ b.head?, isWordChar c = false

/-- A cut within a word, or at one of its ends, has the word around it. -/
theorem IsWordIn.wordAround?_eq {a w v b : List Char} (h : IsWordIn a (w ++ v) b) :
    wordAround? (a ++ w) (v ++ b) = some (String.ofList (w ++ v)) := by
  have hw : ∀ c ∈ w, isWordChar c = true := fun c hc => h.all c (List.mem_append_left v hc)
  have hv : ∀ c ∈ v, isWordChar c = true := fun c hc => h.all c (List.mem_append_right w hc)
  have hfront : (a ++ w).rtakeWhile isWordChar = w := by
    rcases List.eq_nil_or_concat a with rfl | ⟨a, c, rfl⟩
    · rw [List.nil_append, List.rtakeWhile_eq_self_iff]
      exact hw
    · have hc : isWordChar c = false := h.before c (by simp)
      rw [List.concat_append]
      exact rtakeWhile_append_cons hc hw a
  have hback : (v ++ b).takeWhile isWordChar = v := by
    rw [List.takeWhile_append_of_pos hv]
    cases b with
    | nil => exact List.append_nil v
    | cons c b =>
      have hc : isWordChar c = false := h.behind c rfl
      rw [List.takeWhile_cons, hc]
      exact List.append_nil v
  have hempty : (w ++ v).isEmpty = false := by
    rw [← Bool.not_eq_true, List.isEmpty_iff]
    exact h.ne_nil
  rw [wordAround?, hfront, hback, hempty]
  rfl

/-! ## Words in the bytes of a line -/

/-- The byte offset of the first character of a kind. -/
def firstByte? (p : Char → Bool) : List Char → Option Nat
  | [] => none
  | c :: cs => if p c then some 0 else (firstByte? p cs).map (c.utf8Size + ·)

/-- The byte offset of the last character of a kind. -/
def lastByte? (p : Char → Bool) : List Char → Option Nat
  | [] => none
  | c :: cs => match lastByte? p cs with
    | some n => some (c.utf8Size + n)
    | none => if p c then some 0 else none

/-- The byte offset at which the word at the end of a front part of a line starts, if the character
before it can be taken out of the line. -/
def sliceStart? (front line : String) : Option Nat :=
  match lastByte? (!isWordChar ·) front.toList with
  | some n => (slice? line n line.utf8ByteSize).map fun rest =>
      n + (rest.toList.head?.map Char.utf8Size).getD 1
  | none => some 0

/-- The word around a byte offset of a line, taken out of the bytes of the line; `some none` says
that there is none. There is no answer at all if a part is to be taken that starts or ends within a
character. -/
def sliceWord? (column : Nat) (line : String) : Option (Option String) :=
  let column := min column line.utf8ByteSize
  if ¬IsBoundary line column then some none
  else do
    let front ← slice? line 0 column
    let start ← sliceStart? front line
    let back ← slice? line column line.utf8ByteSize
    let stop := ((firstByte? (!isWordChar ·) back.toList).map (· + column)).getD line.utf8ByteSize
    if start < stop then (slice? line start stop).map some else some none

/-- Up to the first character of a kind there are only others. -/
theorem getD_firstByte? (p : Char → Bool) (cs : List Char) :
    (firstByte? p cs).getD (size cs) = size (cs.takeWhile fun c => !p c) := by
  induction cs with
  | nil => rfl
  | cons c cs ih =>
    rw [firstByte?, List.takeWhile_cons]
    cases hc : p c with
    | true => rfl
    | false =>
      rw [Bool.not_false, if_pos rfl, if_neg Bool.false_ne_true, Text.Utf8.size_cons,
        Text.Utf8.size_cons, ← ih]
      cases firstByte? p cs <;> rfl

theorem all_of_lastByte?_eq_none {p : Char → Bool} {cs : List Char} (h : lastByte? p cs = none) :
    ∀ c ∈ cs, p c = false := by
  induction cs with
  | nil => simp
  | cons c cs ih =>
    rw [lastByte?] at h
    split at h
    · cases h
    case _ hnone =>
      split at h
      · cases h
      case _ hc =>
        rintro d (_ | ⟨_, hd⟩)
        · exact Bool.eq_false_iff.mpr hc
        · exact ih hnone d hd

/-- Behind the last character of a kind there are only others. -/
theorem exists_of_lastByte?_eq_some {p : Char → Bool} {cs : List Char} {n : Nat}
    (h : lastByte? p cs = some n) :
    ∃ a c w, cs = a ++ c :: w ∧ size a = n ∧ p c = true ∧ ∀ d ∈ w, p d = false := by
  induction cs generalizing n with
  | nil => cases h
  | cons c cs ih =>
    rw [lastByte?] at h
    split at h
    case _ m hsome =>
      cases h
      obtain ⟨a, d, w, rfl, rfl, hd, hw⟩ := ih hsome
      exact ⟨c :: a, d, w, rfl, Text.Utf8.size_cons c a, hd, hw⟩
    case _ hnone =>
      split at h
      case _ hc =>
        cases h
        exact ⟨[], c, cs, rfl, rfl, hc, all_of_lastByte?_eq_none hnone⟩
      case _ => cases h

/-- The word before a cut starts behind what is left when its characters are taken away. -/
theorem sliceStart?_eq (front back : List Char) :
    sliceStart? (.ofList front) (.ofList (front ++ back)) =
      some (size (front.rdropWhile isWordChar)) := by
  rw [sliceStart?, String.toList_ofList]
  cases hlast : lastByte? (!isWordChar ·) front with
  | none =>
    have hall : ∀ c ∈ front, isWordChar c = true := by
      simpa using all_of_lastByte?_eq_none hlast
    rw [List.rdropWhile_eq_nil_iff.mpr hall]
    rfl
  | some n =>
    obtain ⟨a, c, w, rfl, rfl, hc, hw⟩ := exists_of_lastByte?_eq_some hlast
    rw [Bool.not_eq_true'] at hc
    have hword : (a ++ c :: w).rtakeWhile isWordChar = w :=
      rtakeWhile_append_cons hc (by simpa using hw) a
    have hkept : (a ++ c :: w).rdropWhile isWordChar = a ++ [c] := by
      have hsplit := List.rdropWhile_append_rtakeWhile (p := isWordChar) (l := a ++ c :: w)
      rw [hword] at hsplit
      exact List.append_cancel_right (hsplit.trans (List.append_cons a c w))
    have hslice : slice? (.ofList (a ++ c :: w ++ back)) (size a)
        (String.ofList (a ++ c :: w ++ back)).utf8ByteSize = some (.ofList (c :: w ++ back)) := by
      have hrest := Text.slice?_ofList a (c :: w ++ back) []
      rwa [List.append_nil, ← List.append_assoc, ← Text.Utf8.utf8ByteSize_ofList (_ ++ back)]
        at hrest
    rw [hkept]
    dsimp only
    rw [hslice]
    simp

/-- The word in the bytes of a line that is cut is the one around the cut. Every part that is taken
on the way can be taken. -/
theorem sliceWord?_append (front back : List Char) :
    sliceWord? (size front) (.ofList (front ++ back)) = some (wordAround? front back) := by
  let kept := front.rdropWhile isWordChar
  let word := front.rtakeWhile isWordChar ++ back.takeWhile isWordChar
  let rest := back.dropWhile isWordChar
  have hfront : kept ++ front.rtakeWhile isWordChar = front := List.rdropWhile_append_rtakeWhile
  have hback : back.takeWhile isWordChar ++ rest = back := List.takeWhile_append_dropWhile
  have hline : front ++ back = kept ++ word ++ rest := by
    rw [← List.append_assoc kept, hfront, List.append_assoc, hback]
  have hcolumn : min (size front) (String.ofList (front ++ back)).utf8ByteSize = size front := by
    rw [Text.Utf8.utf8ByteSize_ofList, Text.Utf8.size_append]
    omega
  have hboundary : IsBoundary (.ofList (front ++ back)) (size front) :=
    isBoundary_iff.mpr ⟨.ofList front, .ofList back, String.ofList_append, by simp⟩
  have hfrontSlice : slice? (.ofList (front ++ back)) 0 (size front) = some (.ofList front) :=
    Text.slice?_ofList [] front back
  have hbackSlice : slice? (.ofList (front ++ back)) (size front)
      (String.ofList (front ++ back)).utf8ByteSize = some (.ofList back) := by
    have hslice := Text.slice?_ofList front back []
    rwa [List.append_nil, ← Text.Utf8.utf8ByteSize_ofList (front ++ back)] at hslice
  have hstop : ((firstByte? (!isWordChar ·) back).map (· + size front)).getD
      (String.ofList (front ++ back)).utf8ByteSize = size (kept ++ word) := by
    have hbytes := getD_firstByte? (!isWordChar ·) back
    simp only [Bool.not_not] at hbytes
    have hsize : size (kept ++ word) = size front + size (back.takeWhile isWordChar) := by
      rw [← Text.Utf8.size_append, ← List.append_assoc kept, hfront]
    rw [hsize, ← hbytes, Text.Utf8.utf8ByteSize_ofList, Text.Utf8.size_append]
    cases firstByte? (!isWordChar ·) back with
    | none => rfl
    | some n => exact Nat.add_comm n (size front)
  have hwordSlice : slice? (.ofList (front ++ back)) (size kept) (size (kept ++ word)) =
      some (.ofList word) := by
    rw [hline]
    exact Text.slice?_ofList kept word rest
  have hparts : sliceWord? (size front) (.ofList (front ++ back)) =
      if size kept < size (kept ++ word) then
        (slice? (.ofList (front ++ back)) (size kept) (size (kept ++ word))).map some
      else some none := by
    rw [sliceWord?]
    dsimp only
    rw [hcolumn, if_neg (not_not.mpr hboundary), hfrontSlice, hbackSlice]
    simp only [Option.bind_eq_bind, Option.bind_some, sliceStart?_eq, String.toList_ofList, hstop]
    rfl
  rw [hparts, hwordSlice, wordAround?, Text.Utf8.size_append]
  change _ = some (if word.isEmpty then none else some (String.ofList word))
  cases hword : word with
  | nil => simp
  | cons c w =>
    have hpos := c.utf8Size_pos
    rw [Text.Utf8.size_cons, if_pos (by omega)]
    rfl

/-! ## The word at a column -/

/-- Where a line is cut at a column, the column in bytes and the word are those of the cut. -/
theorem wordAtUnits?_of_cut {n k : Nat} {cs front back : List Char}
    (hline : line? n cs = some (front ++ back)) (hcut : dropUnits k (front ++ back) = back) :
    byteColumn n k cs = size front ∧ wordAtUnits? n k cs = wordAround? front back := by
  have hcolumn : byteColumn n k cs = size front := by
    rw [byteColumn_eq_size_before, hline, Option.getD_some, hcut, before_append]
  refine ⟨hcolumn, ?_⟩
  rw [wordAtUnits?, hcolumn, wordAt?, hline]
  exact wordInLine?_append front back

/-- A column of a word cuts its line within the word or at one of its ends. -/
theorem exists_cut_of_column {a word b : List Char} {k : Nat} (hstart : unitCount a ≤ k)
    (hstop : k ≤ unitCount (a ++ word)) :
    ∃ w v, word = w ++ v ∧ dropUnits k (a ++ word ++ b) = v ++ b := by
  obtain ⟨j, rfl⟩ := Nat.exists_eq_add_of_le hstart
  rw [unitCount_append] at hstop
  obtain ⟨w, hw⟩ := dropUnits_suffix j word
  refine ⟨w, dropUnits j word, hw.symm, ?_⟩
  rw [List.append_assoc, dropUnits_append, dropUnits_append_of_le (by omega)]

/-- The word that is shown for a column in UTF-16 units.

* Where there is no line, there is no word.
* A column cuts its line behind the shortest front part that reaches it, or behind the whole line;
  the column in bytes is the size of what is before the cut. The word is the longest run of word
  characters right before the cut together with the longest one right behind it, if that is not
  empty, and it is found in the bytes of the line without cutting through a character.
* Each column from the start of a word to its end has that word, also one within a character. -/
theorem wordAtUnits?_exact (cs : List Char) (n : Nat) :
    ((lines cs)[n]? = none → ∀ k, wordAtUnits? n k cs = none) ∧
    ∀ line, (lines cs)[n]? = some line →
      (∀ k, ∃ front back, line = front ++ back ∧ IsShortestReaching k line front ∧
        byteColumn n k cs = size front ∧
        sliceWord? (byteColumn n k cs) (.ofList line) = some (wordAtUnits? n k cs) ∧
        wordAtUnits? n k cs =
          let word := front.rtakeWhile isWordChar ++ back.takeWhile isWordChar
          if word.isEmpty then none else some (String.ofList word)) ∧
      ∀ a word b, line = a ++ word ++ b → IsWordIn a word b →
        ∀ k, unitCount a ≤ k → k ≤ unitCount (a ++ word) →
          wordAtUnits? n k cs = some (String.ofList word) := by
  rw [← line?_eq_getElem?]
  constructor
  · intro hnone k
    rw [wordAtUnits?, wordAt?, hnone]
  intro line hline
  constructor
  · intro k
    obtain ⟨front, hcut, hshortest⟩ := exists_isShortestReaching k line
    have hread : line? n cs = some (front ++ dropUnits k line) := by rw [hline, ← hcut]
    obtain ⟨hcolumn, hword⟩ := wordAtUnits?_of_cut (k := k) hread (by rw [← hcut])
    have hslice := sliceWord?_append front (dropUnits k line)
    rw [← hcolumn, ← hword, ← hcut] at hslice
    exact ⟨front, dropUnits k line, hcut, hshortest, hcolumn, hslice, hword⟩
  · rintro a word b rfl hin k hstart hstop
    obtain ⟨w, v, rfl, hcut⟩ := exists_cut_of_column (b := b) hstart hstop
    have hsplit : a ++ (w ++ v) ++ b = (a ++ w) ++ (v ++ b) := by simp only [List.append_assoc]
    rw [hsplit] at hline hcut
    rw [(wordAtUnits?_of_cut hline hcut).2, hin.wordAround?_eq]

/-- In the second line, behind a character of two units, stands a word that has one in it too. -/
theorem wordAtUnits?_exact_surrogate :
    let cs := "x\r\n😀(é𝐱_1)\r\n".toList
    (lines cs)[1]? = some "😀(é𝐱_1)".toList ∧ (lines cs)[2]? = none ∧
      IsWordIn "😀(".toList "é𝐱_1".toList ")".toList ∧
      wordAtUnits? 1 5 cs = some "é𝐱_1" ∧ wordAtUnits? 2 0 cs = none := by
  intro cs
  have hline : (lines cs)[1]? = some "😀(é𝐱_1)".toList := by decide
  have hnone : (lines cs)[2]? = none := by decide
  have hall : "é𝐱_1".toList.all isWordChar = true := by decide +kernel
  have hsides : isWordChar '(' = false ∧ isWordChar ')' = false := by decide +kernel
  have hin : IsWordIn "😀(".toList "é𝐱_1".toList ")".toList := by
    refine ⟨by decide, List.all_eq_true.mp hall, ?_, ?_⟩
    · rintro c ⟨⟩
      exact hsides.1
    · rintro c ⟨⟩
      exact hsides.2
  refine ⟨hline, hnone, hin, ?_, (wordAtUnits?_exact cs 2).1 hnone 0⟩
  exact ((wordAtUnits?_exact cs 1).2 _ hline).2 _ _ _ (by decide) hin 5 (by decide) (by decide)

end Deadwood.Document
