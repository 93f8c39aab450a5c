import Mathlib.Data.String.Basic
import Deadwood.Text.Utf8

/-!
# Parts of a text between byte offsets

The bytes of a text can be cut only between two of its characters. A part of a text is given by two
byte offsets, and there is such a part only if the offsets are in order and the text can be cut at
both.
-/

namespace Deadwood.Text

/-! ## Sizes -/

theorem Utf8.size_eq_utf8Len (cs : List Char) : Utf8.size cs = String.utf8Len cs := by
  have hfold (n : Nat) : cs.foldl (fun n c => n + c.utf8Size) n = n + String.utf8Len cs := by
    induction cs generalizing n with
    | nil => rfl
    | cons c cs ih =>
      rw [List.foldl_cons, ih, String.utf8Len_cons]
      omega
  rw [Utf8.size, hfold, Nat.zero_add]

@[simp] theorem Utf8.size_nil : Utf8.size [] = 0 := rfl

@[simp] theorem Utf8.size_cons (c : Char) (cs : List Char) :
    Utf8.size (c :: cs) = c.utf8Size + Utf8.size cs := by
  rw [size_eq_utf8Len, size_eq_utf8Len, String.utf8Len_cons, Nat.add_comm]

@[simp] theorem Utf8.size_append (cs ds : List Char) :
    Utf8.size (cs ++ ds) = Utf8.size cs + Utf8.size ds := by
  simp only [size_eq_utf8Len, String.utf8Len_append]

/-- Only the empty text has no bytes. -/
theorem Utf8.size_eq_zero_iff {cs : List Char} : Utf8.size cs = 0 ↔ cs = [] := by
  rw [size_eq_utf8Len, String.utf8Len_eq_zero]

/-- The size of a text is the number of bytes that it is stored in. -/
theorem Utf8.size_toList (s : String) : Utf8.size s.toList = s.utf8ByteSize := by
  rw [size_eq_utf8Len, String.utf8Len_toList]

@[simp] theorem Utf8.utf8ByteSize_ofList (cs : List Char) :
    (String.ofList cs).utf8ByteSize = Utf8.size cs := by
  rw [size_eq_utf8Len, String.utf8ByteSize_ofList]

/-- Front parts of one size of a text are the same. -/
theorem Utf8.append_inj {a b c d : List Char} (h : a ++ b = c ++ d)
    (hsize : Utf8.size a = Utf8.size c) : a = c ∧ b = d := by
  obtain ⟨e, rfl, rfl⟩ | ⟨e, rfl, rfl⟩ := List.append_eq_append_iff.mp h
  · have he : e = [] := by
      rw [size_append] at hsize
      exact size_eq_zero_iff.mp (by omega)
    simp [he]
  · have he : e = [] := by
      rw [size_append] at hsize
      exact size_eq_zero_iff.mp (by omega)
    simp [he]

/-! ## Boundaries -/

/-- A text can be cut at a byte offset: it is not beyond the end and not inside a character. -/
def IsBoundary (text : String) (offset : Nat) : Prop := String.Pos.Raw.IsValid text ⟨offset⟩

instance (text : String) (offset : Nat) : Decidable (IsBoundary text offset) :=
  inferInstanceAs (Decidable (String.Pos.Raw.IsValid text ⟨offset⟩))

/-- A text can be cut where a front part of it ends. -/
theorem isBoundary_iff {text : String} {offset : Nat} :
    IsBoundary text offset ↔ ∃ a b, text = a ++ b ∧ a.utf8ByteSize = offset := by
  rw [IsBoundary, String.Pos.Raw.isValid_iff_exists_append]
  constructor
  · rintro ⟨a, b, htext, hoffset⟩
    exact ⟨a, b, htext, (congrArg String.Pos.Raw.byteIdx hoffset).symm⟩
  · rintro ⟨a, b, htext, rfl⟩
    exact ⟨a, b, htext, rfl⟩

/-! ## Parts -/

/-- The part of a text between two byte offsets, if they are in order and the text can be cut at
both. -/
def slice? (text : String) (start stop : Nat) : Option String :=
  if start ≤ stop ∧ IsBoundary text start ∧ IsBoundary text stop then
    some (String.Pos.Raw.extract text ⟨start⟩ ⟨stop⟩)
  else none

/-- Where a text consists of three parts, the one in the middle is between their ends. -/
theorem slice?_append (a b c : String) :
    slice? (a ++ b ++ c) a.utf8ByteSize (a ++ b).utf8ByteSize = some b := by
  have horder : a.utf8ByteSize ≤ (a ++ b).utf8ByteSize := by
    rw [String.utf8ByteSize_append]
    omega
  have hstart : IsBoundary (a ++ b ++ c) a.utf8ByteSize :=
    isBoundary_iff.mpr ⟨a, b ++ c, String.append_assoc, rfl⟩
  have hstop : IsBoundary (a ++ b ++ c) (a ++ b).utf8ByteSize :=
    isBoundary_iff.mpr ⟨a ++ b, c, rfl, rfl⟩
  have hextract := String.extract_of_valid a.toList b.toList c.toList
  simp only [String.utf8Len_toList, String.ofList_append, String.ofList_toList] at hextract
  rw [slice?, if_pos ⟨horder, hstart, hstop⟩, String.utf8ByteSize_append, hextract]

theorem slice?_front (a b : String) : slice? (a ++ b) 0 a.utf8ByteSize = some a := by
  have hslice := slice?_append "" a b
  rwa [String.empty_append] at hslice

theorem slice?_back (a b : String) :
    slice? (a ++ b) a.utf8ByteSize (a ++ b).utf8ByteSize = some b := by
  have hslice := slice?_append a b ""
  rwa [String.append_empty] at hslice

theorem slice?_ofList (a b c : List Char) :
    slice? (.ofList (a ++ b ++ c)) (Utf8.size a) (Utf8.size (a ++ b)) = some (.ofList b) := by
  have hslice := slice?_append (.ofList a) (.ofList b) (.ofList c)
  simpa only [← String.ofList_append, Utf8.utf8ByteSize_ofList] using hslice

/-- Puts new text in the place of the part between two byte offsets, if there is such a part. -/
def splice? (text : String) (start stop : Nat) (new : String) : Option String := do
  let _ ← slice? text start stop
  let front ← slice? text 0 start
  let back ← slice? text stop text.utf8ByteSize
  return front ++ new ++ back

theorem splice?_append (a b c new : String) :
    splice? (a ++ b ++ c) a.utf8ByteSize (a ++ b).utf8ByteSize new = some (a ++ new ++ c) := by
  have hfront := slice?_front a (b ++ c)
  rw [← String.append_assoc] at hfront
  rw [splice?, slice?_append, hfront, slice?_back]
  rfl

end Deadwood.Text
