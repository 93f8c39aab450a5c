/-!
# UTF-8

Characters as bytes and back. Reading stops at the first byte that does not begin a well formed
character, so that the length of the longest well formed beginning is known; the lossy reading
puts the replacement character in the place of every ill formed piece.
-/

namespace Deadwood.Text.Utf8

/-! ## Writing -/

/-- The bytes of one character: seven bits in the first byte of a short one, else the leading
bits in a lead byte and six bits in each byte after it. -/
def encodeChar (c : Char) : List UInt8 :=
  let n := c.toNat
  if n < 0x80 then [n.toUInt8]
  else if n < 0x800 then [(0xC0 + n / 64).toUInt8, (0x80 + n % 64).toUInt8]
  else if n < 0x10000 then
    [(0xE0 + n / 4096).toUInt8, (0x80 + n / 64 % 64).toUInt8, (0x80 + n % 64).toUInt8]
  else
    [(0xF0 + n / 262144).toUInt8, (0x80 + n / 4096 % 64).toUInt8, (0x80 + n / 64 % 64).toUInt8,
      (0x80 + n % 64).toUInt8]

/-- The bytes of a list of characters. -/
def encodeList (cs : List Char) : List UInt8 :=
  cs.flatMap encodeChar

/-- The bytes of a text. -/
def encode (s : String) : List UInt8 :=
  encodeList s.toList

/-- The number of bytes of a list of characters. -/
def size (cs : List Char) : Nat :=
  cs.foldl (fun n c => n + c.utf8Size) 0

/-! ## Reading -/

/-- A closed interval of bytes. -/
structure ByteRange where
  low : UInt8
  high : UInt8

/-- Whether a byte lies in the interval. -/
def ByteRange.contains (r : ByteRange) (b : UInt8) : Bool :=
  r.low ≤ b && b ≤ r.high

/-- The bytes that carry the low bits of a character. -/
def tail : ByteRange := ⟨0x80, 0xBF⟩

/-- What has to follow a lead byte, byte by byte; `none` if the byte leads no character. The
ranges leave out overlong forms, surrogates and numbers beyond the last code point. -/
def followers (lead : UInt8) : Option (List ByteRange) :=
  if lead < 0x80 then some []
  else if lead < 0xC2 then none
  else if lead < 0xE0 then some [tail]
  else if lead == 0xE0 then some [⟨0xA0, 0xBF⟩, tail]
  else if lead == 0xED then some [⟨0x80, 0x9F⟩, tail]
  else if lead < 0xF0 then some [tail, tail]
  else if lead == 0xF0 then some [⟨0x90, 0xBF⟩, tail, tail]
  else if lead < 0xF4 then some [tail, tail, tail]
  else if lead == 0xF4 then some [⟨0x80, 0x8F⟩, tail, tail]
  else none

/-- The bits of the character that stand in its lead byte. -/
def leadBits (lead : UInt8) : Nat :=
  let n := lead.toNat
  if n < 0x80 then n else if n < 0xE0 then n - 0xC0 else if n < 0xF0 then n - 0xE0 else n - 0xF0

/-- How many of the wanted ranges are met, in order, by the bytes at hand. -/
def matched : List ByteRange → List UInt8 → Nat
  | r :: rs, b :: bs => if r.contains b then matched rs bs + 1 else 0
  | _, _ => 0

/-- The first character of the bytes and what follows it, if the bytes begin with one. -/
def next? : List UInt8 → Option (Char × List UInt8)
  | [] => none
  | lead :: bs =>
    match followers lead with
    | none => none
    | some ranges =>
      if matched ranges bs = ranges.length then
        let bits := (bs.take ranges.length).foldl (fun n b => n * 64 + (b.toNat - 0x80))
          (leadBits lead)
        some (Char.ofNat bits, bs.drop ranges.length)
      else none

theorem length_lt_of_next? {bs rest : List UInt8} {c : Char} (h : next? bs = some (c, rest)) :
    rest.length < bs.length := by
  cases bs with
  | nil => simp [next?] at h
  | cons lead bs =>
    simp only [next?] at h
    split at h
    · simp at h
    · split at h
      · simp only [Option.some.injEq, Prod.mk.injEq] at h
        rw [← h.2, List.length_drop, List.length_cons]
        omega
      · simp at h

/-- The characters that the bytes begin with, after those already read (kept in reverse), and
the bytes from the first ill formed place on. -/
def decodeFrom (done : List Char) (bs : List UInt8) : List Char × List UInt8 :=
  match h : next? bs with
  | none => (done.reverse, bs)
  | some (c, rest) =>
    have : rest.length < bs.length := length_lt_of_next? h
    decodeFrom (c :: done) rest
termination_by bs.length

/-- The longest well formed beginning of the bytes, as characters, and the bytes after it. -/
def decodeFront (bs : List UInt8) : List Char × List UInt8 :=
  decodeFrom [] bs

/-- The text of well formed bytes. -/
def decode? (bs : List UInt8) : Option String :=
  match decodeFront bs with
  | (cs, []) => some (String.ofList cs)
  | (_, _ :: _) => none

/-- The length of the ill formed piece at the front of the bytes: a lead byte with those of its
followers that are in place, or one stray byte. -/
def strayLength : List UInt8 → Nat
  | [] => 0
  | lead :: bs => match followers lead with
    | none => 1
    | some ranges => matched ranges bs + 1

/-- The character that stands for an ill formed piece. -/
def replacement : Char := '�'

/-- The lossy reading after the characters already read, which are kept in reverse. -/
def decodeLossyFrom (done : List Char) (bs : List UInt8) : List Char :=
  match bs with
  | [] => done.reverse
  | b :: bs =>
    match h : next? (b :: bs) with
    | some (c, rest) => decodeLossyFrom (c :: done) rest
    | none => decodeLossyFrom (replacement :: done) (bs.drop (strayLength (b :: bs) - 1))
termination_by bs.length
decreasing_by
  · exact length_lt_of_next? h
  · simp only [List.length_drop, List.length_cons]
    omega

/-- The text of any bytes, with the replacement character for every ill formed piece. -/
def decodeLossy (bs : List UInt8) : String :=
  String.ofList (decodeLossyFrom [] bs)

end Deadwood.Text.Utf8
