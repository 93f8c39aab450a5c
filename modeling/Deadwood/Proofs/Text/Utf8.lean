import Deadwood.Text.Utf8

/-!
# Reading back what was written in UTF-8

The bytes of a character are read back as that character, whatever follows them, because the lead
byte says how many bytes follow and in which ranges they lie. So the bytes of any text are well
formed and are read back whole, by the strict reading and by the lossy one.
-/

namespace Deadwood.Text.Utf8

/-! ## Bytes given by their numbers -/

theorem toNat_toUInt8 {n : Nat} (h : n < 256) : n.toUInt8.toNat = n := by
  show n % 256 = n
  omega

/-- What follows a lead byte, by the number of the byte. -/
theorem followers_toUInt8 {n : Nat} (h : n < 256) :
    followers n.toUInt8 =
      if n < 0x80 then some []
      else if n < 0xC2 then none
      else if n < 0xE0 then some [tail]
      else if n = 0xE0 then some [⟨0xA0, 0xBF⟩, tail]
      else if n = 0xED then some [⟨0x80, 0x9F⟩, tail]
      else if n < 0xF0 then some [tail, tail]
      else if n = 0xF0 then some [⟨0x90, 0xBF⟩, tail, tail]
      else if n < 0xF4 then some [tail, tail, tail]
      else if n = 0xF4 then some [⟨0x80, 0x8F⟩, tail, tail]
      else none := by
  simp only [followers, UInt8.lt_iff_toNat_lt, beq_iff_eq, ← UInt8.toNat_inj, toNat_toUInt8 h]
  rfl

/-- Whether a byte lies in an interval, by the number of the byte. -/
theorem contains_toUInt8 {low high : UInt8} {n : Nat} (h : n < 256) :
    ByteRange.contains ⟨low, high⟩ n.toUInt8 = true ↔ low.toNat ≤ n ∧ n ≤ high.toNat := by
  simp only [ByteRange.contains, UInt8.le_iff_toNat_le, Bool.and_eq_true, decide_eq_true_eq,
    toNat_toUInt8 h]

theorem contains_tail {n : Nat} (h : n < 64) : tail.contains (0x80 + n).toUInt8 = true :=
  (contains_toUInt8 (by omega)).mpr ⟨by simp, by simp; omega⟩

/-! ## One character -/

/-- The number of a character is no surrogate and not beyond the last code point. -/
theorem toNat_valid (c : Char) : c.toNat < 0xD800 ∨ 0xDFFF < c.toNat ∧ c.toNat < 0x110000 :=
  c.valid

/-- Bytes lie in the wanted intervals, one by one. -/
inductive Fits : List ByteRange → List UInt8 → Prop where
  | nil : Fits [] []
  | cons {r : ByteRange} {b : UInt8} {ranges : List ByteRange} {body : List UInt8}
      (hhead : r.contains b = true) (hrest : Fits ranges body) : Fits (r :: ranges) (b :: body)

theorem Fits.length_eq {ranges : List ByteRange} {body : List UInt8} (h : Fits ranges body) :
    ranges.length = body.length := by
  induction h with
  | nil => rfl
  | cons _ _ ih => rw [List.length_cons, List.length_cons, ih]

theorem Fits.matched_eq {ranges : List ByteRange} {body : List UInt8} (h : Fits ranges body)
    (rest : List UInt8) : matched ranges (body ++ rest) = ranges.length := by
  induction h with
  | nil => cases rest <;> rfl
  | cons hhead _ ih => rw [List.cons_append, matched, hhead, if_pos rfl, ih, List.length_cons]

/-- A lead byte and the bytes that have to follow it are one character. -/
theorem next?_of_fits {lead : UInt8} {ranges : List ByteRange}
    (hlead : followers lead = some ranges) {body : List UInt8} (hfits : Fits ranges body)
    (rest : List UInt8) :
    next? (lead :: body ++ rest) =
      some (Char.ofNat (body.foldl (fun n b => n * 64 + (b.toNat - 0x80)) (leadBits lead)),
        rest) := by
  rw [List.cons_append, next?, hlead]
  dsimp only
  rw [if_pos (hfits.matched_eq rest), hfits.length_eq, List.take_left, List.drop_left]

/-- The number that the bytes of a character give back. -/
theorem leadBits_toUInt8 {n : Nat} (h : n < 256) :
    leadBits n.toUInt8 = if n < 0x80 then n else if n < 0xE0 then n - 0xC0
      else if n < 0xF0 then n - 0xE0 else n - 0xF0 := by
  rw [leadBits, toNat_toUInt8 h]

theorem fits_short {n : Nat} (h : n < 0x80) : followers n.toUInt8 = some [] := by
  rw [followers_toUInt8 (by omega), if_pos h]

/-- The second byte of a character of three bytes lies in the range that its lead byte asks for. -/
theorem fits_three {n : Nat} (hlow : 0x800 ≤ n) (hhigh : n < 0x10000)
    (hvalid : n < 0xD800 ∨ 0xDFFF < n) :
    ∃ ranges, followers (0xE0 + n / 4096).toUInt8 = some ranges ∧
      Fits ranges [(0x80 + n / 64 % 64).toUInt8, (0x80 + n % 64).toUInt8] := by
  have hsecond : 0x80 + n / 64 % 64 < 256 := by omega
  have hlast := contains_tail (n := n % 64) (by omega)
  rw [followers_toUInt8 (by omega), if_neg (by omega), if_neg (by omega), if_neg (by omega)]
  by_cases hfirst : 0xE0 + n / 4096 = 0xE0
  · refine ⟨_, if_pos hfirst, .cons ((contains_toUInt8 hsecond).mpr ⟨?_, ?_⟩) (.cons hlast .nil)⟩
    · show 0xA0 ≤ _; omega
    · show _ ≤ 0xBF; omega
  rw [if_neg hfirst]
  by_cases hsurrogate : 0xE0 + n / 4096 = 0xED
  · refine ⟨_, if_pos hsurrogate,
      .cons ((contains_toUInt8 hsecond).mpr ⟨?_, ?_⟩) (.cons hlast .nil)⟩
    · show 0x80 ≤ _; omega
    · show _ ≤ 0x9F; omega
  rw [if_neg hsurrogate, if_pos (by omega)]
  exact ⟨_, rfl, .cons (contains_tail (by omega)) (.cons hlast .nil)⟩

/-- The second byte of a character of four bytes lies in the range that its lead byte asks for. -/
theorem fits_four {n : Nat} (hlow : 0x10000 ≤ n) (hhigh : n < 0x110000) :
    ∃ ranges, followers (0xF0 + n / 262144).toUInt8 = some ranges ∧
      Fits ranges [(0x80 + n / 4096 % 64).toUInt8, (0x80 + n / 64 % 64).toUInt8,
        (0x80 + n % 64).toUInt8] := by
  have hsecond : 0x80 + n / 4096 % 64 < 256 := by omega
  have hlast : Fits [tail, tail] [(0x80 + n / 64 % 64).toUInt8, (0x80 + n % 64).toUInt8] :=
    .cons (contains_tail (by omega)) (.cons (contains_tail (by omega)) .nil)
  rw [followers_toUInt8 (by omega), if_neg (by omega), if_neg (by omega), if_neg (by omega),
    if_neg (by omega), if_neg (by omega), if_neg (by omega)]
  by_cases hfirst : 0xF0 + n / 262144 = 0xF0
  · refine ⟨_, if_pos hfirst, .cons ((contains_toUInt8 hsecond).mpr ⟨?_, ?_⟩) hlast⟩
    · show 0x90 ≤ _; omega
    · show _ ≤ 0xBF; omega
  rw [if_neg hfirst]
  by_cases hplane : 0xF0 + n / 262144 < 0xF4
  · exact ⟨_, if_pos hplane, .cons (contains_tail (by omega)) hlast⟩
  rw [if_neg hplane, if_pos (by omega)]
  refine ⟨_, rfl, .cons ((contains_toUInt8 hsecond).mpr ⟨?_, ?_⟩) hlast⟩
  · show 0x80 ≤ _; omega
  · show _ ≤ 0x8F; omega

/-- The bytes of a character are read back as that character. -/
theorem next?_encodeChar (c : Char) (rest : List UInt8) :
    next? (encodeChar c ++ rest) = some (c, rest) := by
  have hvalid := toNat_valid c
  -- it is enough that the bits in the bytes add up to the number of the character
  suffices h : ∃ n, next? (encodeChar c ++ rest) = some (Char.ofNat n, rest) ∧ n = c.toNat by
    obtain ⟨n, hnext, rfl⟩ := h
    rw [hnext, Char.ofNat_toNat]
  unfold encodeChar
  dsimp only
  split
  case _ hone =>
    refine ⟨_, next?_of_fits (fits_short hone) .nil rest, ?_⟩
    rw [List.foldl_nil, leadBits_toUInt8 (by omega), if_pos hone]
  split
  case _ htwo =>
    have hlead : followers (0xC0 + c.toNat / 64).toUInt8 = some [tail] := by
      rw [followers_toUInt8 (by omega), if_neg (by omega), if_neg (by omega), if_pos (by omega)]
    refine ⟨_, next?_of_fits hlead (.cons (contains_tail (by omega)) .nil) rest, ?_⟩
    simp only [List.foldl_cons, List.foldl_nil]
    rw [leadBits_toUInt8 (by omega), toNat_toUInt8 (by omega), if_neg (by omega),
      if_pos (by omega)]
    omega
  split
  case _ hthree =>
    obtain ⟨ranges, hlead, hfits⟩ := fits_three (by omega) hthree (by omega)
    refine ⟨_, next?_of_fits hlead hfits rest, ?_⟩
    simp only [List.foldl_cons, List.foldl_nil]
    rw [leadBits_toUInt8 (by omega), toNat_toUInt8 (by omega), toNat_toUInt8 (by omega),
      if_neg (by omega), if_neg (by omega), if_pos (by omega)]
    omega
  case _ hfour =>
    obtain ⟨ranges, hlead, hfits⟩ := fits_four (n := c.toNat) (by omega) (by omega)
    refine ⟨_, next?_of_fits hlead hfits rest, ?_⟩
    simp only [List.foldl_cons, List.foldl_nil]
    rw [leadBits_toUInt8 (by omega), toNat_toUInt8 (by omega), toNat_toUInt8 (by omega),
      toNat_toUInt8 (by omega), if_neg (by omega), if_neg (by omega), if_neg (by omega)]
    omega

/-- A character below 128 is one byte. -/
theorem encodeChar_of_lt {c : Char} (h : c.toNat < 0x80) :
    encodeChar c = [c.toNat.toUInt8] := by
  rw [encodeChar]
  exact if_pos h

/-! ## Whole texts -/

@[simp] theorem encodeList_nil : encodeList [] = [] := rfl

@[simp] theorem encodeList_cons (c : Char) (cs : List Char) :
    encodeList (c :: cs) = encodeChar c ++ encodeList cs := List.flatMap_cons

@[simp] theorem encodeList_append (cs ds : List Char) :
    encodeList (cs ++ ds) = encodeList cs ++ encodeList ds := List.flatMap_append

theorem encode_append (s t : String) : encode (s ++ t) = encode s ++ encode t := by
  rw [encode, String.toList_append, encodeList_append]
  rfl

theorem next?_nil : next? [] = none := rfl

theorem decodeFrom_encodeList (done cs : List Char) :
    decodeFrom done (encodeList cs) = (done.reverse ++ cs, []) := by
  induction cs generalizing done with
  | nil =>
    rw [decodeFrom]
    split
    · simp
    · next h => simp [next?_nil] at h
  | cons c cs ih =>
    rw [decodeFrom]
    split
    · next h => simp [next?_encodeChar] at h
    · next d rest h =>
      rw [encodeList_cons, next?_encodeChar, Option.some.injEq, Prod.mk.injEq] at h
      obtain ⟨rfl, rfl⟩ := h
      rw [ih]
      simp

/-- The bytes of a text are well formed to the end and give the text back. -/
theorem decodeFront_encodeList (cs : List Char) : decodeFront (encodeList cs) = (cs, []) := by
  rw [decodeFront, decodeFrom_encodeList]
  rfl

theorem decode?_encode (s : String) : decode? (encode s) = some s := by
  rw [decode?, encode, decodeFront_encodeList]
  simp

/-- Where the bytes begin with a character, the lossy reading takes it too. -/
theorem decodeLossyFrom_of_next? {bs rest : List UInt8} {c : Char}
    (h : next? bs = some (c, rest)) (done : List Char) :
    decodeLossyFrom done bs = decodeLossyFrom (c :: done) rest := by
  cases bs with
  | nil => simp [next?_nil] at h
  | cons b bs =>
    rw [decodeLossyFrom]
    split
    · next d others h' =>
      rw [h, Option.some.injEq, Prod.mk.injEq] at h'
      rw [h'.1, h'.2]
    · next h' => simp [h] at h'

/-- The lossy reading loses nothing of a text. -/
theorem decodeLossyFrom_encodeList (done cs : List Char) :
    decodeLossyFrom done (encodeList cs) = done.reverse ++ cs := by
  induction cs generalizing done with
  | nil =>
    rw [encodeList_nil, decodeLossyFrom]
    exact (List.append_nil _).symm
  | cons c cs ih =>
    rw [encodeList_cons, decodeLossyFrom_of_next? (next?_encodeChar c (encodeList cs)), ih]
    simp

theorem decodeLossy_encode (s : String) : decodeLossy (encode s) = s := by
  rw [decodeLossy, encode, decodeLossyFrom_encodeList]
  simp

end Deadwood.Text.Utf8
