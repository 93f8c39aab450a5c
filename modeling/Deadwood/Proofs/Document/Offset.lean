import Deadwood.Proofs.Document.Sync
import Deadwood.Proofs.Text.Slice

/-!
# Offsets of positions

A position may point anywhere: beyond its line, beyond the text, or into a character of two units.
What the text has behind it is always an end part of the text that starts between two characters and
not within a line end, and of two positions the later one leaves no more. So the byte offsets that
positions stand for can be cut at, and every change of a document takes out a part between two such
offsets, whatever range the editor names and whatever the changes before it have done to the text.

* `isRest_after` : what is left behind a position;
* `after_suffix_after` : a later position leaves an end part of what an earlier one leaves;
* `TextChange.splice?_eq` : changing the bytes between the offsets of a range never fails;
* `edits_in_bounds` : all of it for the changes of an open document.
-/

namespace Deadwood

open Text (IsBoundary isBoundary_iff)

/-- Positions are ordered by their lines, and in one line by their columns. -/
instance : LE Position where
  le p q := p.line < q.line ∨ p.line = q.line ∧ p.character ≤ q.character

instance (p q : Position) : Decidable (p ≤ q) := inferInstanceAs (Decidable (_ ∨ _))

namespace Document

open Text.Utf8 (size)

/-! ## End parts of a text -/

/-- An end part of a text that starts neither within a character nor within a line end. -/
def IsRest (cs rest : List Char) : Prop := ∃ a, a ++ rest = cs ∧ ¬TearsLineEnd a rest

theorem IsRest.refl (cs : List Char) : IsRest cs cs := by
  refine ⟨[], rfl, ?_⟩
  rintro ⟨hlast, -⟩
  cases hlast

/-- Leaving out the first character tears no line end apart unless a pair starts there. -/
theorem isRest_cons {c : Char} {cs : List Char} (h : c = '\r' → cs.head? ≠ some '\n') :
    IsRest (c :: cs) cs := by
  refine ⟨[c], rfl, ?_⟩
  rintro ⟨hlast, hhead⟩
  exact h (Option.some.inj hlast) hhead

theorem isRest_pair (cs : List Char) : IsRest ('\r' :: '\n' :: cs) cs := by
  refine ⟨['\r', '\n'], rfl, ?_⟩
  rintro ⟨hlast, -⟩
  cases hlast

theorem IsRest.trans {cs ds rest : List Char} (h : IsRest cs ds) (h' : IsRest ds rest) :
    IsRest cs rest := by
  obtain ⟨a, rfl, ha⟩ := h
  obtain ⟨b, rfl, hb⟩ := h'
  refine ⟨a ++ b, List.append_assoc a b rest, ?_⟩
  rintro ⟨hlast, hhead⟩
  -- the character before the cut is in `b`, or else there is no `b`
  cases b with
  | nil =>
    rw [List.append_nil] at hlast
    exact ha ⟨hlast, hhead⟩
  | cons c b =>
    rw [List.getLast?_append, List.getLast?_cons, Option.some_or] at hlast
    exact hb ⟨by rw [List.getLast?_cons, hlast], hhead⟩

theorem IsRest.suffix {cs rest : List Char} (h : IsRest cs rest) : rest <:+ cs := by
  obtain ⟨a, hsplit, -⟩ := h
  exact ⟨a, hsplit⟩

/-! ## What positions leave -/

theorem not_isLineEnd_return {c : Char} (h : ¬isLineEnd c = true) : c ≠ '\r' := by
  rintro rfl
  exact h rfl

theorem isRest_dropLines (n : Nat) (cs : List Char) : IsRest cs (dropLines n cs) := by
  fun_induction dropLines n cs with
  | case1 cs => exact .refl cs
  | case2 => exact .refl []
  | case3 n cs ih => exact (isRest_pair cs).trans ih
  | case4 n c cs hpair hend ih =>
    refine (isRest_cons ?_).trans ih
    rintro rfl hhead
    obtain ⟨ds, rfl⟩ := List.head?_eq_some_iff.mp hhead
    exact hpair ds rfl rfl
  | case5 n c cs hpair hinner ih =>
    exact (isRest_cons fun h => absurd h (not_isLineEnd_return hinner)).trans ih

theorem isRest_dropColumns (n : Nat) (cs : List Char) : IsRest cs (dropColumns n cs) := by
  fun_induction dropColumns n cs with
  | case1 cs => exact .refl cs
  | case2 => exact .refl []
  | case3 n c cs hend => exact .refl (c :: cs)
  | case4 n c cs hinner ih =>
    exact (isRest_cons fun h => absurd h (not_isLineEnd_return hinner)).trans ih

/-- What a position leaves of a text starts neither within a character nor within a line end. -/
theorem isRest_after (p : Position) (cs : List Char) : IsRest cs (after p cs) :=
  (isRest_dropLines _ cs).trans (isRest_dropColumns _ _)

theorem dropLines_nil (n : Nat) : dropLines n [] = [] := by
  cases n <;> rfl

theorem dropColumns_nil (n : Nat) : dropColumns n [] = [] := by
  cases n <;> rfl

/-- Going to a later line can be done in two goes. -/
theorem dropLines_add (m n : Nat) (cs : List Char) :
    dropLines (m + n) cs = dropLines n (dropLines m cs) := by
  fun_induction dropLines m cs with
  | case1 cs => rw [Nat.zero_add]
  | case2 m => rw [dropLines_nil, dropLines_nil]
  | case3 m cs ih => rw [Nat.succ_add, dropLines_succ_pair, ih]
  | case4 m c cs hpair hend ih =>
    rw [Nat.succ_add, dropLines.eq_4 _ _ _ hpair, if_pos hend, ih]
  | case5 m c cs hpair hinner ih =>
    rw [Nat.succ_add, dropLines.eq_4 _ _ _ hpair, if_neg hinner, ← ih, Nat.add_right_comm]

/-- A later line starts behind each column of the line. -/
theorem dropLines_suffix_dropColumns (n k : Nat) (cs : List Char) :
    dropLines (n + 1) cs <:+ dropColumns k cs := by
  fun_induction dropColumns k cs with
  | case1 cs => exact (isRest_dropLines (n + 1) cs).suffix
  | case2 k => exact (isRest_dropLines (n + 1) []).suffix
  | case3 k c cs hend => exact (isRest_dropLines (n + 1) (c :: cs)).suffix
  | case4 k c cs hinner ih =>
    rw [dropLines_succ_cons n fun h => absurd h (not_isLineEnd_return hinner), if_neg hinner]
    exact ih

/-- A later column leaves an end part of what an earlier one leaves. -/
theorem dropColumns_suffix_dropColumns {j k : Nat} (h : j ≤ k) (cs : List Char) :
    dropColumns k cs <:+ dropColumns j cs := by
  fun_induction dropColumns j cs generalizing k with
  | case1 cs => exact (isRest_dropColumns k cs).suffix
  | case2 j => exact (isRest_dropColumns k []).suffix
  | case3 j c cs hend => exact (isRest_dropColumns k (c :: cs)).suffix
  | case4 j c cs hinner ih =>
    obtain ⟨k, rfl⟩ : ∃ i, k = i + 1 := ⟨k - 1, by omega⟩
    rw [dropColumns, if_neg hinner]
    exact ih (by omega)

/-- A later position leaves an end part of what an earlier one leaves. -/
theorem after_suffix_after {p q : Position} (h : p ≤ q) (cs : List Char) :
    after q cs <:+ after p cs := by
  unfold after
  rcases h with hline | ⟨hline, hcolumn⟩
  · have hlt : p.line.toNat < q.line.toNat := hline
    obtain ⟨n, hn⟩ : ∃ n, q.line.toNat = p.line.toNat + (n + 1) :=
      ⟨q.line.toNat - p.line.toNat - 1, by omega⟩
    rw [hn, dropLines_add]
    exact (isRest_dropColumns _ _).suffix.trans (dropLines_suffix_dropColumns n _ _)
  · rw [hline]
    exact dropColumns_suffix_dropColumns hcolumn _

/-! ## Offsets -/

/-- What stands before an end part of a text and the end part make up the text. -/
theorem before_append_self {cs rest : List Char} (h : rest <:+ cs) :
    before cs rest ++ rest = cs := by
  obtain ⟨a, rfl⟩ := h
  rw [before_append]

/-- Passing the line ends before a line leaves the text from this line on, and the bytes that were
passed are those that are not left. -/
theorem passLines_spec (target line start : Nat) (cs : List Char) :
    (passLines target line start cs).2 = dropLines (target - line) cs ∧
      (passLines target line start cs).1 + size (passLines target line start cs).2 =
        start + size cs := by
  fun_induction passLines target line start cs with
  | case1 line start => exact ⟨(dropLines_nil _).symm, rfl⟩
  | case2 line start cs hline ih =>
    obtain ⟨hrest, hsize⟩ := ih
    have hpair : target - line = target - (line + 1) + 1 := by omega
    have hbytes : size ('\r' :: '\n' :: cs) = 2 + size cs := by
      rw [Text.Utf8.size_cons, Text.Utf8.size_cons, ← Nat.add_assoc]
      rfl
    rw [hpair, dropLines_succ_pair]
    exact ⟨hrest, by omega⟩
  | case3 line start cs hline =>
    rw [Nat.sub_eq_zero_of_le (Nat.le_of_not_lt hline), dropLines]
    exact ⟨rfl, rfl⟩
  | case4 line start c cs hpair hline ih =>
    obtain ⟨hrest, hsize⟩ := ih
    have hmore : target - line = target - line - 1 + 1 := by omega
    rw [Text.Utf8.size_cons, hmore, dropLines.eq_4 _ _ _ hpair]
    refine ⟨hrest.trans ?_, by omega⟩
    split
    · rw [Nat.sub_add_eq]
    · rw [← hmore]
  | case5 line start c cs hpair hline =>
    rw [Nat.sub_eq_zero_of_le (Nat.le_of_not_lt hline), dropLines]
    exact ⟨rfl, rfl⟩

/-- The bytes that are passed before a column are those that are not left. -/
theorem passColumns_add_size (target column start : Nat) (cs : List Char) :
    passColumns target column start cs + size (dropColumns (target - column) cs) =
      start + size cs := by
  fun_induction passColumns target column start cs with
  | case1 column start => rw [dropColumns_nil]
  | case2 column start c cs hmore ih =>
    have hunits : target - column = target - column - 1 + 1 := by omega
    have hleft : target - column - 1 + 1 - units c = target - (column + units c) := by omega
    rw [hunits, dropColumns, if_neg hmore.2, hleft, ih, Text.Utf8.size_cons, Nat.add_assoc]
  | case3 column start c cs hstop =>
    have hall : dropColumns (target - column) (c :: cs) = c :: cs := by
      cases hunits : target - column with
      | zero => rw [dropColumns]
      | succ n =>
        have hend : isLineEnd c = true := by
          by_contra hinner
          exact hstop ⟨by omega, hinner⟩
        rw [dropColumns, if_pos hend]
    rw [hall]

/-- The offset of a position and the size of what it leaves make up the size of the text. -/
theorem offset_add_size_after (p : Position) (cs : List Char) :
    offset p cs + size (after p cs) = size cs := by
  obtain ⟨hrest, hsize⟩ := passLines_spec p.line.toNat 0 0 cs
  have hafter : after p cs = dropColumns p.character.toNat (passLines p.line.toNat 0 0 cs).2 := by
    rw [hrest]
    rfl
  have hcolumns := passColumns_add_size p.character.toNat 0 (passLines p.line.toNat 0 0 cs).1
    (passLines p.line.toNat 0 0 cs).2
  rw [hsize, Nat.zero_add] at hcolumns
  rw [hafter]
  exact hcolumns

/-- Counting leads to the size of what stands before the place. -/
theorem offset_eq_size_before (p : Position) (cs : List Char) :
    offset p cs = size (before cs (after p cs)) := by
  have hsizes := offset_add_size_after p cs
  have hsplit := congrArg size (before_append_self (isRest_after p cs).suffix)
  rw [Text.Utf8.size_append] at hsplit
  omega

/-- The offset of a position is the size of what stands before it. -/
theorem offset_eq_size {p : Position} {a cs : List Char} (h : a ++ after p cs = cs) :
    offset p cs = size a := by
  have hsizes := offset_add_size_after p cs
  have hsplit := congrArg size h
  rw [Text.Utf8.size_append] at hsplit
  omega

theorem size_le_of_suffix {cs ds : List Char} (h : cs <:+ ds) : size cs ≤ size ds := by
  obtain ⟨a, rfl⟩ := h
  rw [Text.Utf8.size_append]
  omega

/-- Later positions have later offsets. -/
theorem offset_mono {p q : Position} (h : p ≤ q) (cs : List Char) : offset p cs ≤ offset q cs := by
  have hp := offset_add_size_after p cs
  have hq := offset_add_size_after q cs
  have hsize := size_le_of_suffix (after_suffix_after h cs)
  omega

theorem offset_le_size (p : Position) (cs : List Char) : offset p cs ≤ size cs := by
  have := offset_add_size_after p cs
  omega

/-- A text can be cut at a byte offset without tearing a line end apart. -/
structure IsCut (text : String) (offset : Nat) : Prop where
  isBoundary : IsBoundary text offset
  not_tears : ∀ a b, text = a ++ b → a.utf8ByteSize = offset →
    ¬TearsLineEnd a.toList b.toList

/-- A text can be cut in front of what may be left of it. -/
theorem isCut_of_append {a b : List Char} (h : ¬TearsLineEnd a b) :
    IsCut (String.ofList (a ++ b)) (size a) := by
  constructor
  · exact isBoundary_iff.mpr ⟨.ofList a, .ofList b, String.ofList_append, by simp⟩
  · intro c d htext hsize
    have hlists : a ++ b = c.toList ++ d.toList := by
      rw [← String.toList_append, ← htext, String.toList_ofList]
    rw [← Text.Utf8.size_toList] at hsize
    obtain ⟨rfl, rfl⟩ := Text.Utf8.append_inj hlists hsize.symm
    exact h

/-- A text can be cut at the offset of each position. -/
theorem isCut_offset (p : Position) (text : String) : IsCut text (offset p text.toList) := by
  obtain ⟨a, hsplit, htears⟩ := isRest_after p text.toList
  have hcut := isCut_of_append htears
  rw [hsplit, String.ofList_toList] at hcut
  rw [offset_eq_size hsplit]
  exact hcut

/-! ## Replacing -/

/-- Replacing takes out the part between the offsets of a range, or nothing at its start if it ends
before that. -/
theorem exists_replace_eq (range : Range) (new cs : List Char) :
    ∃ a b c, cs = a ++ b ++ c ∧ size a = offset range.start cs ∧
      size (a ++ b) = max (offset range.stop cs) (offset range.start cs) ∧
      replace range new cs = a ++ new ++ c := by
  let rest := after range.start cs
  let stop := after range.stop cs
  have hrest : rest <:+ cs := (isRest_after range.start cs).suffix
  have hstop : stop <:+ cs := (isRest_after range.stop cs).suffix
  obtain ⟨a, ha⟩ := hrest
  have hbefore : before cs rest = a := by rw [← ha, before_append]
  have hstart : offset range.start cs = size a := offset_eq_size ha
  by_cases hlength : stop.length ≤ rest.length
  · obtain ⟨b, hb⟩ := List.suffix_of_suffix_length_le hstop ⟨a, ha⟩ hlength
    have hsplit : a ++ b ++ stop = cs := by rw [List.append_assoc, hb, ha]
    have hend : offset range.stop cs = size (a ++ b) := offset_eq_size hsplit
    refine ⟨a, b, stop, hsplit.symm, hstart.symm, ?_, ?_⟩
    · rw [hend, hstart, Text.Utf8.size_append]
      omega
    · show before cs rest ++ new ++ (if stop.length ≤ rest.length then stop else rest) = _
      rw [if_pos hlength, hbefore]
  · have hsuffix : rest <:+ stop :=
      List.suffix_of_suffix_length_le ⟨a, ha⟩ hstop (Nat.le_of_not_le hlength)
    have hsize : size (after range.start cs) ≤ size (after range.stop cs) :=
      size_le_of_suffix hsuffix
    have hstartSizes := offset_add_size_after range.start cs
    have hstopSizes := offset_add_size_after range.stop cs
    refine ⟨a, [], rest, ?_, hstart.symm, ?_, ?_⟩
    · rw [List.append_nil, ha]
    · rw [List.append_nil, ← hstart]
      omega
    · show before cs rest ++ new ++ (if stop.length ≤ rest.length then stop else rest) = _
      rw [if_neg hlength, hbefore]

end Document

open Document

namespace TextChange

/-- A change of a part takes out the bytes between the offsets of its range, or none if the range
ends before its start. -/
theorem exists_apply_eq (range : Range) (new text : String) :
    ∃ a b c, text = a ++ b ++ c ∧ a.utf8ByteSize = offset range.start text.toList ∧
      (a ++ b).utf8ByteSize =
        max (offset range.stop text.toList) (offset range.start text.toList) ∧
      apply ⟨some range, new⟩ text = a ++ new ++ c := by
  obtain ⟨a, b, c, htext, hstart, hstop, hreplace⟩ :=
    exists_replace_eq range new.toList text.toList
  refine ⟨.ofList a, .ofList b, .ofList c, ?_, ?_, ?_, ?_⟩
  · rw [← String.ofList_append, ← String.ofList_append, ← htext, String.ofList_toList]
  · rw [Text.Utf8.utf8ByteSize_ofList, hstart]
  · rw [← String.ofList_append, Text.Utf8.utf8ByteSize_ofList, hstop]
  · show String.ofList (replace range new.toList text.toList) = _
    rw [hreplace, String.ofList_append, String.ofList_append, String.ofList_toList]

/-- The text after a change of its bytes, if the offsets of the range allow it. -/
def splice? (change : TextChange) (text : String) : Option String :=
  match change.range with
  | some range =>
    let start := offset range.start text.toList
    let stop := max (offset range.stop text.toList) start
    Text.splice? text start stop change.text
  | none => some change.text

/-- Changing the bytes never fails and gives the text after the change. -/
theorem splice?_eq (change : TextChange) (text : String) :
    change.splice? text = some (change.apply text) := by
  obtain ⟨_ | range, new⟩ := change
  · rfl
  · obtain ⟨a, b, c, htext, hstart, hstop, happly⟩ := exists_apply_eq range new text
    rw [happly]
    show Text.splice? text _ _ new = _
    rw [← hstop, ← hstart, htext]
    exact Text.splice?_append a b c new

/-- Changing the bytes by one change after another never fails. -/
theorem foldlM_splice? (changes : List TextChange) (text : String) :
    changes.foldlM (fun text change => change.splice? text) text =
      some (changes.foldl (fun text change => change.apply text) text) := by
  induction changes generalizing text with
  | nil => rfl
  | cons change changes ih =>
    rw [List.foldlM_cons, splice?_eq, List.foldl_cons]
    exact ih _

end TextChange

/-- Edits stay within the text. Later positions have later offsets, none beyond the end of the text,
and the text can be cut at them without tearing a character or a line end apart. So the changes of
an open document can be made on its bytes, one after another: each change of a part takes out the
bytes between two offsets that are in order and at which the text can be cut, as the text is after
the changes before it, and puts the new text between what is before them and what is behind. -/
theorem edits_in_bounds (text : String) :
    (∀ p q : Position, p ≤ q →
      offset p text.toList ≤ offset q text.toList ∧
        offset q text.toList ≤ text.utf8ByteSize ∧
        IsCut text (offset p text.toList) ∧ IsCut text (offset q text.toList)) ∧
    ∀ (store : DocumentStore) (url : Url), store.text? url = some text →
      ∀ changes : List TextChange,
        (∃ new, (store.change url changes).text? url = some new ∧
          changes.foldlM (fun text change => change.splice? text) text = some new) ∧
        ∀ (done rest : List TextChange) (range : Range) (new : String),
          changes = done ++ ⟨some range, new⟩ :: rest →
          ∃ now, (store.change url done).text? url = some now ∧
            let start := offset range.start now.toList
            let stop := max (offset range.stop now.toList) start
            start ≤ stop ∧ stop ≤ now.utf8ByteSize ∧ IsCut now start ∧ IsCut now stop ∧
              ∃ a b c, now = a ++ b ++ c ∧ a.utf8ByteSize = start ∧
                (a ++ b).utf8ByteSize = stop ∧
                (store.change url (done ++ [⟨some range, new⟩])).text? url =
                  some (a ++ new ++ c) := by
  refine ⟨?_, ?_⟩
  · intro p q hle
    have hbound := offset_le_size q text.toList
    rw [Text.Utf8.size_toList] at hbound
    exact ⟨offset_mono hle _, hbound, isCut_offset p text, isCut_offset q text⟩
  · intro store url hopen changes
    have htext (edits : List TextChange) : (store.change url edits).text? url =
        some (edits.foldl (fun text change => change.apply text) text) := by
      rw [DocumentStore.text?_change, if_pos rfl, hopen, Option.map_some]
    refine ⟨⟨_, htext changes, TextChange.foldlM_splice? changes text⟩, ?_⟩
    intro done rest range new _
    let now := done.foldl (fun text change => change.apply text) text
    obtain ⟨a, b, c, hnow, hstart, hstop, happly⟩ := TextChange.exists_apply_eq range new now
    have hlater : (store.change url (done ++ [⟨some range, new⟩])).text? url =
        some (a ++ new ++ c) := by
      rw [htext, List.foldl_append]
      exact congrArg some happly
    refine ⟨now, htext done, le_max_right _ _, ?_, isCut_offset _ now, ?_, a, b, c, hnow, hstart,
      hstop, hlater⟩
    · rw [← Text.Utf8.size_toList]
      exact max_le (offset_le_size _ _) (offset_le_size _ _)
    · rcases max_choice (offset range.stop now.toList) (offset range.start now.toList) with h | h
      · rw [h]
        exact isCut_offset _ now
      · rw [h]
        exact isCut_offset _ now

/-- A change that ends before its start, which is within a surrogate pair, and one behind it that
goes beyond the end of the text. -/
def strayChanges : List TextChange :=
  [⟨some ⟨⟨1, 1⟩, ⟨0, 0⟩⟩, "é\r"⟩, ⟨some ⟨⟨2, 0⟩, ⟨7, 9⟩⟩, "!"⟩]

theorem edits_in_bounds_strayChanges :
    let text := "x\r\n😀y"
    let store : DocumentStore := ⟨[(default, text)]⟩
    (⟨1, 1⟩ : Position) ≤ ⟨7, 0⟩ ∧ IsCut text 7 ∧ IsCut text 8 ∧
      store.text? default = some text ∧
      strayChanges.foldlM (fun text change => change.splice? text) text = some "x\r\n😀é\r!" ∧
      IsCut "x\r\n😀é\ry" 10 ∧ IsCut "x\r\n😀é\ry" 11 := by
  intro text store
  have hle : (⟨1, 1⟩ : Position) ≤ ⟨7, 0⟩ := by decide
  have hopen : store.text? default = some text := by decide +kernel
  obtain ⟨hplaces, hedits⟩ := edits_in_bounds text
  obtain ⟨-, -, hp, hq⟩ := hplaces ⟨1, 1⟩ ⟨7, 0⟩ hle
  obtain ⟨⟨new, hnew, hfold⟩, hparts⟩ := hedits store default hopen strayChanges
  have hlast : (store.change default strayChanges).text? default = some "x\r\n😀é\r!" := by
    decide +kernel
  rw [hlast] at hnew
  obtain ⟨now, hnow, -, -, hstart, hstop, -⟩ :=
    hparts _ _ _ _ (show strayChanges = [_] ++ _ from rfl)
  have hfirst : (store.change default [⟨some ⟨⟨1, 1⟩, ⟨0, 0⟩⟩, "é\r"⟩]).text? default =
      some "x\r\n😀é\ry" := by
    decide +kernel
  rw [hfirst] at hnow
  cases hnow
  have hoffset : offset ⟨1, 1⟩ text.toList = 7 ∧ offset ⟨7, 0⟩ text.toList = 8 := by
    decide +kernel
  have hoffset' : offset ⟨2, 0⟩ "x\r\n😀é\ry".toList = 10 ∧
      offset ⟨7, 9⟩ "x\r\n😀é\ry".toList = 11 := by
    decide +kernel
  rw [hoffset.1] at hp
  rw [hoffset.2] at hq
  dsimp only at hstart hstop
  rw [hoffset'.1] at hstart
  rw [hoffset'.1, hoffset'.2] at hstop
  exact ⟨hle, hp, hq, hopen, hfold.trans hnew.symm, hstart, hstop⟩

end Deadwood
