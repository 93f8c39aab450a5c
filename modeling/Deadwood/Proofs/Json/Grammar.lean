import Deadwood.Proofs.Json.RoundTrip
import Deadwood.Proofs.Json.Schema

/-!
# The grammar of JSON documents

What a JSON document is, said by productions and not by a reader: a value with blanks around it,
where a value is a word, a number, a string, a list or an object. Whatever is read is such a
document, and of the value that was read (`isDocument_of_read`). There is one lemma for each
reading, from the leaves up: it splits the bytes at hand into those that were consumed, which are
of the production, and those that are left.
-/

namespace Deadwood.Json

open Text.Utf8

/-! ## Productions -/

/-- Nothing but blanks. -/
def IsBlank (s : List UInt8) : Prop := ∀ b ∈ s, isBlankByte b = true

/-- Nothing but digits. -/
def AreDigits (s : List UInt8) : Prop := ∀ b ∈ s, isDigit b = true

/-- The whole part of a number, which does not begin with zero unless it is zero. -/
inductive IsWholePart : List UInt8 → Prop where
  | zero : IsWholePart [48]
  | digits {b : UInt8} {ds : List UInt8} (hb : isDigit b = true) (hne : b ≠ 48)
      (hds : AreDigits ds) : IsWholePart (b :: ds)

/-- A fraction with its point, or nothing. -/
inductive IsFraction : List UInt8 → Prop where
  | none : IsFraction []
  | some {ds : List UInt8} (hne : ds ≠ []) (hds : AreDigits ds) : IsFraction (46 :: ds)

/-- The sign of an exponent, or nothing. -/
def IsSign (s : List UInt8) : Prop := s = [] ∨ s = [43] ∨ s = [45]

/-- An exponent with its letter, or nothing. -/
inductive IsExponent : List UInt8 → Prop where
  | none : IsExponent []
  | some {letter : UInt8} {sign ds : List UInt8} (hletter : letter = 101 ∨ letter = 69)
      (hsign : IsSign sign) (hne : ds ≠ []) (hds : AreDigits ds) :
      IsExponent (letter :: (sign ++ ds))

/-- A number with one more digit behind it. -/
def addDigit (n : Nat) (d : UInt8) : Nat := n * 10 + digitValue d

/-- The number that digits stand for. -/
def decimal (ds : List UInt8) : Nat := ds.foldl addDigit 0

/-- The sign of a number. -/
def minus (negative : Bool) : List UInt8 := if negative then [45] else []

/-- A number and its value. A whole number is exact; how a double precision number is rounded is
left open, but not its sign. -/
inductive IsNumber : List UInt8 → Number → Prop where
  | whole {ds : List UInt8} (hds : IsWholePart ds) : IsNumber ds (.whole (decimal ds))
  | negative {ds : List UInt8} (hds : IsWholePart ds) (hpos : 0 < decimal ds) :
      IsNumber (45 :: ds) (.whole (-(decimal ds : Int)))
  | real {ds fraction exponent : List UInt8} (negative : Bool) (hds : IsWholePart ds)
      (hfraction : IsFraction fraction) (hexponent : IsExponent exponent) (m : Magnitude) :
      IsNumber (minus negative ++ (ds ++ (fraction ++ exponent))) (.real ⟨negative, m⟩)

/-- Four digits of base sixteen and their number. -/
inductive IsHex4 : List UInt8 → Nat → Prop where
  | mk {a b c d : UInt8} {i j k l : Nat} (ha : hexValue? a = some i) (hb : hexValue? b = some j)
      (hc : hexValue? c = some k) (hd : hexValue? d = some l) :
      IsHex4 [a, b, c, d] (((i * 16 + j) * 16 + k) * 16 + l)

/-- The escapes of one letter, with the bytes that they stand for. -/
def letterEscapes : List (UInt8 × UInt8) :=
  [(34, 34), (92, 92), (47, 47), (98, 8), (102, 12), (110, 10), (114, 13), (116, 9)]

/-- One piece of a string and the bytes that it stands for: a byte that stands for itself, an
escape of one letter, or a character by its number, for which two surrogates may be needed. -/
inductive IsPiece : List UInt8 → List UInt8 → Prop where
  | plain {b : UInt8} (hb : IsPlain b) : IsPiece [b] [b]
  | letter {l b : UInt8} (h : (l, b) ∈ letterEscapes) : IsPiece [92, l] [b]
  | unit {hex : List UInt8} {n : Nat} (hhex : IsHex4 hex n) (hlow : isLowSurrogate n = false)
      (hhigh : isHighSurrogate n = false) :
      IsPiece (92 :: 117 :: hex) (encodeChar (Char.ofNat n))
  | pair {hex hex' : List UInt8} {n m : Nat} (hhex : IsHex4 hex n) (hhigh : isHighSurrogate n)
      (hhex' : IsHex4 hex' m) (hlow : isLowSurrogate m) :
      IsPiece (92 :: 117 :: (hex ++ 92 :: 117 :: hex'))
        (encodeChar (Char.ofNat (0x10000 + (n - 0xD800) * 1024 + (m - 0xDC00))))

/-- The pieces of a string in a row. -/
inductive ArePieces : List UInt8 → List UInt8 → Prop where
  | nil : ArePieces [] []
  | cons {s t bs cs : List UInt8} (hs : IsPiece s bs) (ht : ArePieces t cs) :
      ArePieces (s ++ t) (bs ++ cs)

/-- A string between its quotes. What its pieces stand for is the text in UTF-8. -/
inductive IsString : List UInt8 → String → Prop where
  | mk {s bs : List UInt8} {text : String} (hs : ArePieces s bs) (htext : decode? bs = some text) :
      IsString (34 :: (s ++ [34])) text

/-- A value with the blanks around it. -/
structure Padded where
  front : List UInt8
  core : List UInt8
  back : List UInt8
  value : Json

namespace Padded

/-- All bytes of the value and its blanks. -/
def bytes (p : Padded) : List UInt8 := p.front ++ (p.core ++ p.back)

/-- Only blanks stand around the value. -/
def IsBetweenBlanks (p : Padded) : Prop := IsBlank p.front ∧ IsBlank p.back

end Padded

/-- A member of an object: its name with the blanks around it, and its value. -/
structure PaddedMember where
  front : List UInt8
  key : List UInt8
  gap : List UInt8
  name : String
  item : Padded

namespace PaddedMember

/-- All bytes of the member, with the colon. -/
def bytes (m : PaddedMember) : List UInt8 :=
  m.front ++ (m.key ++ (m.gap ++ 58 :: m.item.bytes))

/-- The name is written with only blanks around it, and so is the value. -/
structure IsNamed (m : PaddedMember) : Prop where
  front : IsBlank m.front
  key : IsString m.key m.name
  gap : IsBlank m.gap
  item : m.item.IsBetweenBlanks

end PaddedMember

/-- Parts with a comma between each two. -/
def withCommas (parts : List (List UInt8)) : List UInt8 := List.intercalate [44] parts

/-- The bytes of one value. -/
inductive IsValue : List UInt8 → Json → Prop where
  | null : IsValue [110, 117, 108, 108] .null
  | true : IsValue [116, 114, 117, 101] (.bool true)
  | false : IsValue [102, 97, 108, 115, 101] (.bool false)
  | number {s : List UInt8} {n : Number} (hs : IsNumber s n) : IsValue s (.number n)
  | string {s : List UInt8} {text : String} (hs : IsString s text) : IsValue s (.string text)
  | emptyArray {s : List UInt8} (hs : IsBlank s) : IsValue (91 :: (s ++ [93])) (.array [])
  | array {items : List Padded} (hne : items ≠ []) (hblanks : ∀ p ∈ items, p.IsBetweenBlanks)
      (hitems : ∀ p ∈ items, IsValue p.core p.value) :
      IsValue (91 :: (withCommas (items.map (·.bytes)) ++ [93])) (.array (items.map (·.value)))
  | emptyObject {s : List UInt8} (hs : IsBlank s) : IsValue (123 :: (s ++ [125])) (.object [])
  | object {members : List PaddedMember} (hne : members ≠ []) (hnames : ∀ m ∈ members, m.IsNamed)
      (hitems : ∀ m ∈ members, IsValue m.item.core m.item.value) :
      IsValue (123 :: (withCommas (members.map (·.bytes)) ++ [125]))
        (.object (Members.ofList (members.map fun m => (m.name, m.item.value))))

/-- A document: one value and nothing else but blanks. -/
def IsDocument (s : List UInt8) (x : Json) : Prop :=
  ∃ p : Padded, p.bytes = s ∧ p.value = x ∧ p.IsBetweenBlanks ∧ IsValue p.core x

/-! ## Blanks and words -/

theorem IsBlank.append {s t : List UInt8} (hs : IsBlank s) (ht : IsBlank t) : IsBlank (s ++ t) :=
  List.forall_mem_append.mpr ⟨hs, ht⟩

/-- What is skipped is blank. -/
theorem exists_isBlank_append (s : List UInt8) :
    ∃ front, IsBlank front ∧ s = front ++ skipBlank s := by
  refine ⟨s.takeWhile isBlankByte, ?_, List.takeWhile_append_dropWhile.symm⟩
  intro b hb
  exact List.all_eq_true.mp List.all_takeWhile b hb

theorem eq_of_readLetters {letters s rest : List UInt8} (h : readLetters letters s = .ok rest) :
    s = letters ++ rest := by
  induction letters generalizing s with
  | nil =>
    rw [readLetters] at h
    exact Except.ok.inj h
  | cons l letters ih =>
    cases s with
    | nil => cases h
    | cons b s =>
      rw [readLetters] at h
      split at h
      case _ hb =>
        rw [beq_iff_eq.mp hb, ih h]
        rfl
      case _ => cases h

theorem eq_of_readWord {letters s rest : List UInt8} {x y : Json}
    (h : readWord letters x s = .ok (y, rest)) : s = letters ++ rest ∧ y = x := by
  unfold readWord at h
  split at h
  case _ => cases h
  case _ hletters =>
    cases h
    exact ⟨eq_of_readLetters hletters, rfl⟩

/-! ## Numbers -/

theorem areDigits_nil : AreDigits [] := fun _ h => absurd h List.not_mem_nil

theorem AreDigits.cons {b : UInt8} {ds : List UInt8} (hb : isDigit b = true) (hds : AreDigits ds) :
    AreDigits (b :: ds) :=
  List.forall_mem_cons.mpr ⟨hb, hds⟩

theorem AreDigits.append {ds es : List UInt8} (hds : AreDigits ds) (hes : AreDigits es) :
    AreDigits (ds ++ es) :=
  List.forall_mem_append.mpr ⟨hds, hes⟩

theorem areDigits_of_readDigits {n k m j : Nat} {s rest : List UInt8}
    (h : readDigits n k s = (m, j, rest)) :
    ∃ ds, s = ds ++ rest ∧ AreDigits ds ∧ m = ds.foldl addDigit n ∧ j = k + ds.length := by
  induction s generalizing n k with
  | nil =>
    cases h
    exact ⟨[], rfl, areDigits_nil, rfl, rfl⟩
  | cons b s ih =>
    rw [readDigits] at h
    split at h
    case _ hb =>
      obtain ⟨ds, rfl, hds, hm, hj⟩ := ih h
      refine ⟨b :: ds, rfl, .cons (Bool.and_eq_true_iff.mp hb).1 hds, hm, ?_⟩
      rw [hj, List.length_cons]
      omega
    case _ =>
      cases h
      exact ⟨[], rfl, areDigits_nil, rfl, rfl⟩

theorem areDigits_of_skipDigits {k j : Nat} {s rest : List UInt8}
    (h : skipDigits k s = (j, rest)) :
    ∃ ds, s = ds ++ rest ∧ AreDigits ds ∧ j = k + ds.length := by
  induction s generalizing k with
  | nil =>
    cases h
    exact ⟨[], rfl, areDigits_nil, rfl⟩
  | cons b s ih =>
    rw [skipDigits] at h
    split at h
    case _ hb =>
      obtain ⟨ds, rfl, hds, hj⟩ := ih h
      refine ⟨b :: ds, rfl, .cons hb hds, ?_⟩
      rw [hj, List.length_cons]
      omega
    case _ =>
      cases h
      exact ⟨[], rfl, areDigits_nil, rfl⟩

theorem areDigits_of_readExponentDigits {n : Nat} {o : Option Nat} {s rest : List UInt8}
    (h : readExponentDigits n s = (o, rest)) : ∃ ds, s = ds ++ rest ∧ AreDigits ds := by
  induction s generalizing n with
  | nil =>
    cases h
    exact ⟨[], rfl, areDigits_nil⟩
  | cons b s ih =>
    rw [readExponentDigits] at h
    dsimp only at h
    split at h
    case _ hb =>
      split at h
      case _ =>
        obtain ⟨ds, rfl, hds⟩ := ih h
        exact ⟨b :: ds, rfl, .cons hb hds⟩
      -- the digit that takes the exponent too far is consumed too
      case _ =>
        cases h
        exact ⟨[b], rfl, .cons hb areDigits_nil⟩
    case _ =>
      cases h
      exact ⟨[], rfl, areDigits_nil⟩

/-- A double precision value of a given sign. -/
def IsRealOf (negative : Bool) (n : Number) : Prop := ∃ m, n = .real ⟨negative, m⟩

theorem eq_of_finishReal {negative : Bool} {significand : Nat} {exponent : Int}
    {s rest : List UInt8} {n : Number}
    (h : finishReal negative significand exponent s = .ok (n, rest)) :
    s = rest ∧ IsRealOf negative n := by
  unfold finishReal at h
  split at h
  case _ m _ =>
    cases h
    exact ⟨rfl, m, rfl⟩
  case _ => cases h

theorem isSign_of_readSign (s : List UInt8) : ∃ sign, IsSign sign ∧ s = sign ++ (readSign s).2 := by
  cases s with
  | nil => exact ⟨[], Or.inl rfl, rfl⟩
  | cons b s =>
    rw [readSign]
    split
    case _ hb => exact ⟨[43], Or.inr (Or.inl rfl), by rw [beq_iff_eq.mp hb]; rfl⟩
    split
    case _ hb => exact ⟨[45], Or.inr (Or.inr rfl), by rw [beq_iff_eq.mp hb]; rfl⟩
    exact ⟨[], Or.inl rfl, rfl⟩

theorem isExponent_of_readExponent {negative : Bool} {significand : Nat} {start : Int}
    {s rest : List UInt8} {n : Number}
    (h : readExponent negative significand start s = .ok (n, rest)) {letter : UInt8}
    (hletter : letter = 101 ∨ letter = 69) :
    ∃ exponent, letter :: s = exponent ++ rest ∧ IsExponent exponent ∧ IsRealOf negative n := by
  obtain ⟨sign, hsign, hs⟩ := isSign_of_readSign s
  unfold readExponent at h
  dsimp only at h
  cases hafter : (readSign s).2 with
  | nil =>
    rw [hafter] at h
    cases h
  | cons b t =>
    rw [hafter] at h hs
    dsimp only at h
    split at h
    case _ => cases h
    case _ hb =>
      have hb : isDigit b = true := by simpa using hb
      -- whatever becomes of the exponent, its digits are consumed
      suffices hdigits : ∃ ds, t = ds ++ rest ∧ AreDigits ds ∧ IsRealOf negative n by
        obtain ⟨ds, rfl, hds, hreal⟩ := hdigits
        refine ⟨letter :: (sign ++ b :: ds), ?_,
          .some hletter hsign (List.cons_ne_nil b ds) (.cons hb hds), hreal⟩
        rw [hs]
        simp
      split at h
      case _ hread =>
        obtain ⟨ds, rfl, hds⟩ := areDigits_of_readExponentDigits hread
        obtain ⟨rfl, hreal⟩ := eq_of_finishReal h
        exact ⟨ds, rfl, hds, hreal⟩
      case _ hread =>
        obtain ⟨ds, rfl, hds⟩ := areDigits_of_readExponentDigits hread
        split at h
        case _ => cases h
        case _ left _ =>
          obtain ⟨es, hleft, hes, -⟩ := areDigits_of_skipDigits (Prod.eta (skipDigits 0 left)).symm
          cases h
          refine ⟨ds ++ es, ?_, hds.append hes, _, rfl⟩
          rw [List.append_assoc, ← hleft]

theorem isExponent_of_readTail {negative : Bool} {significand : Nat} {exponent : Int}
    {s rest : List UInt8} {n : Number}
    (h : readTail negative significand exponent s = .ok (n, rest)) :
    ∃ t, s = t ++ rest ∧ IsExponent t ∧ IsRealOf negative n := by
  unfold readTail at h
  split at h
  case _ =>
    obtain ⟨rfl, hreal⟩ := eq_of_finishReal h
    exact ⟨[], rfl, .none, hreal⟩
  case _ =>
    split at h
    case _ hletter => exact isExponent_of_readExponent h (by simpa using hletter)
    case _ =>
      obtain ⟨rfl, hreal⟩ := eq_of_finishReal h
      exact ⟨[], rfl, .none, hreal⟩

theorem isFraction_of_readFraction {negative : Bool} {significand : Nat} {exponent : Int}
    {s rest : List UInt8} {n : Number}
    (h : readFraction negative significand exponent s = .ok (n, rest)) :
    ∃ fraction t, 46 :: s = fraction ++ (t ++ rest) ∧ IsFraction fraction ∧ IsExponent t ∧
      IsRealOf negative n := by
  unfold readFraction at h
  obtain ⟨m, count, left, hread⟩ : ∃ m count left, readDigits significand 0 s = (m, count, left) :=
    ⟨_, _, _, rfl⟩
  obtain ⟨dropped, after, hskip⟩ : ∃ dropped after, skipDigits 0 left = (dropped, after) :=
    ⟨_, _, rfl⟩
  simp only [hread, hskip] at h
  obtain ⟨ds, rfl, hds, -, hcount⟩ := areDigits_of_readDigits hread
  obtain ⟨es, rfl, hes, hdropped⟩ := areDigits_of_skipDigits hskip
  split at h
  case _ => cases h
  case _ hsome =>
    obtain ⟨t, rfl, ht, hreal⟩ := isExponent_of_readTail h
    have hne : ds ++ es ≠ [] := by
      intro hnil
      obtain ⟨rfl, rfl⟩ := List.append_eq_nil_iff.mp hnil
      exact hsome (by rw [hcount, hdropped]; rfl)
    refine ⟨46 :: (ds ++ es), t, ?_, .some hne (hds.append hes), ht, hreal⟩
    simp

theorem isNumber_of_wholeNumber {negative : Bool} {significand : Nat} {ds s rest : List UInt8}
    {n : Number} (h : wholeNumber negative significand s = .ok (n, rest)) (hds : IsWholePart ds)
    (hvalue : significand = decimal ds) : s = rest ∧ IsNumber (minus negative ++ ds) n := by
  subst hvalue
  unfold wholeNumber at h
  cases negative with
  | false =>
    cases h
    exact ⟨rfl, .whole hds⟩
  | true =>
    rw [if_neg (by decide)] at h
    split at h
    case _ hfits =>
      cases h
      refine ⟨rfl, .negative hds ?_⟩
      exact of_decide_eq_true (Bool.and_eq_true_iff.mp hfits).1
    case _ =>
      obtain ⟨rfl, m, rfl⟩ := eq_of_finishReal h
      refine ⟨rfl, ?_⟩
      have hnumber := IsNumber.real true hds .none .none m
      rw [List.append_nil, List.append_nil] at hnumber
      exact hnumber

/-- The number whose whole part is given ends with a fraction and an exponent, or either, or
neither. -/
theorem isNumber_of_readAfterWhole {negative : Bool} {significand dropped : Nat}
    {ds s rest : List UInt8} {n : Number}
    (h : readAfterWhole negative significand dropped s = .ok (n, rest)) (hds : IsWholePart ds)
    (hvalue : dropped = 0 → significand = decimal ds) :
    ∃ t, s = t ++ rest ∧ IsNumber (minus negative ++ (ds ++ t)) n := by
  -- neither fraction nor exponent: whole iff no digit was dropped
  have hplain : (if dropped == 0 then wholeNumber negative significand s
      else finishReal negative significand dropped s) = .ok (n, rest) →
      ∃ t, s = t ++ rest ∧ IsNumber (minus negative ++ (ds ++ t)) n := by
    intro hend
    split at hend
    case _ hdropped =>
      obtain ⟨rfl, hnumber⟩ := isNumber_of_wholeNumber hend hds (hvalue (beq_iff_eq.mp hdropped))
      exact ⟨[], rfl, by rw [List.append_nil]; exact hnumber⟩
    case _ =>
      obtain ⟨rfl, m, rfl⟩ := eq_of_finishReal hend
      exact ⟨[], rfl, .real negative hds .none .none m⟩
  unfold readAfterWhole at h
  split at h
  case _ => exact hplain h
  case _ b s =>
    split at h
    case _ hpoint =>
      obtain ⟨fraction, t, hs, hfraction, ht, m, rfl⟩ := isFraction_of_readFraction h
      refine ⟨fraction ++ t, ?_, .real negative hds hfraction ht m⟩
      rw [beq_iff_eq.mp hpoint, hs, List.append_assoc]
    split at h
    case _ hletter =>
      obtain ⟨t, hs, ht, m, rfl⟩ := isExponent_of_readExponent h (by simpa using hletter)
      exact ⟨t, hs, .real negative hds .none ht m⟩
    exact hplain h

theorem isNumber_of_readUnsigned {negative : Bool} {s rest : List UInt8} {n : Number}
    (h : readUnsigned negative s = .ok (n, rest)) :
    ∃ t, s = t ++ rest ∧ IsNumber (minus negative ++ t) n := by
  unfold readUnsigned at h
  split at h
  case _ => cases h
  case _ b s =>
    split at h
    case _ => cases h
    case _ hb =>
    have hb : isDigit b = true := by simpa using hb
    split at h
    case _ hzero =>
      have hafter : readAfterWhole negative 0 0 s = .ok (n, rest) := by
        split at h
        case _ => exact h
        case _ =>
          split at h
          case _ => cases h
          case _ => exact h
      obtain ⟨t, rfl, hnumber⟩ := isNumber_of_readAfterWhole hafter .zero fun _ => rfl
      exact ⟨48 :: t, by rw [beq_iff_eq.mp hzero]; rfl, hnumber⟩
    case _ hzero =>
      obtain ⟨m, count, left, hread⟩ :
          ∃ m count left, readDigits (digitValue b) 1 s = (m, count, left) := ⟨_, _, _, rfl⟩
      obtain ⟨dropped, after, hskip⟩ : ∃ dropped after, skipDigits 0 left = (dropped, after) :=
        ⟨_, _, rfl⟩
      simp only [hread, hskip] at h
      obtain ⟨ds, rfl, hds, hm, -⟩ := areDigits_of_readDigits hread
      obtain ⟨es, rfl, hes, hdropped⟩ := areDigits_of_skipDigits hskip
      have hwhole : IsWholePart (b :: (ds ++ es)) :=
        .digits hb (by simpa using hzero) (hds.append hes)
      have hvalue : dropped = 0 → m = decimal (b :: (ds ++ es)) := by
        intro hnone
        obtain rfl : es = [] := List.eq_nil_of_length_eq_zero (by omega)
        rw [hm, List.append_nil, decimal, List.foldl_cons, addDigit, Nat.zero_mul, Nat.zero_add]
      obtain ⟨t, rfl, hnumber⟩ := isNumber_of_readAfterWhole h hwhole hvalue
      exact ⟨b :: (ds ++ es) ++ t, by simp, hnumber⟩

/-! ## Strings -/

theorem isHex4_of_readHex4 {s rest : List UInt8} {n : Nat} (h : readHex4 s = .ok (n, rest)) :
    ∃ hex, s = hex ++ rest ∧ IsHex4 hex n := by
  unfold readHex4 at h
  split at h
  case _ a b c d s =>
    split at h
    case _ ha hb hc hd =>
      cases h
      exact ⟨[a, b, c, d], rfl, .mk ha hb hc hd⟩
    case _ => cases h
  case _ => cases h

theorem eq_of_readEscapeByte {wanted : UInt8} {s rest : List UInt8}
    (h : readEscapeByte wanted s = .ok rest) : s = wanted :: rest := by
  cases s with
  | nil => cases h
  | cons b s =>
    rw [readEscapeByte] at h
    split at h
    case _ hb =>
      cases h
      rw [beq_iff_eq.mp hb]
    case _ => cases h

theorem isPiece_of_readUnicodeEscape {s bs rest : List UInt8}
    (h : readUnicodeEscape s = .ok (bs, rest)) :
    ∃ e, s = e ++ rest ∧ IsPiece (92 :: 117 :: e) bs := by
  obtain ⟨⟨n, t⟩, hfirst, hescape⟩ := bind_eq_ok.mp h
  obtain ⟨hex, rfl, hhex⟩ := isHex4_of_readHex4 hfirst
  dsimp only at hescape
  split at hescape
  case _ => cases hescape
  case _ hlow =>
    split at hescape
    case _ hhigh =>
      obtain ⟨t₁, hbackslash, hescape⟩ := bind_eq_ok.mp hescape
      obtain ⟨t₂, hletter, hescape⟩ := bind_eq_ok.mp hescape
      obtain ⟨⟨m, t₃⟩, hsecond, hpair⟩ := bind_eq_ok.mp hescape
      obtain rfl := eq_of_readEscapeByte hbackslash
      obtain rfl := eq_of_readEscapeByte hletter
      obtain ⟨hex', rfl, hhex'⟩ := isHex4_of_readHex4 hsecond
      dsimp only at hpair
      split at hpair
      case _ hlow' =>
        obtain ⟨rfl, rfl⟩ := Prod.mk.inj (pure_eq_ok.mp hpair)
        refine ⟨hex ++ 92 :: 117 :: hex', ?_, .pair hhex hhigh hhex' hlow'⟩
        simp
      case _ => cases hpair
    case _ hhigh =>
      obtain ⟨rfl, rfl⟩ := Prod.mk.inj (pure_eq_ok.mp hescape)
      refine ⟨hex, rfl, .unit hhex ?_ ?_⟩
      · simpa using hlow
      · simpa using hhigh

theorem isPiece_of_readEscape {s bs rest : List UInt8} (h : readEscape s = .ok (bs, rest)) :
    ∃ e, s = e ++ rest ∧ IsPiece (92 :: e) bs := by
  cases s with
  | nil => cases h
  | cons b s =>
    have hletter : ∀ {l c : UInt8}, (l, c) ∈ letterEscapes → (b == l) = true →
        (Except.ok ([c], s) : Reading (List UInt8)) = .ok (bs, rest) →
        ∃ e, b :: s = e ++ rest ∧ IsPiece (92 :: e) bs := by
      intro l c hmem hb heq
      cases heq
      exact ⟨[l], by rw [beq_iff_eq.mp hb]; rfl, .letter hmem⟩
    rw [readEscape] at h
    iterate 8
      split at h
      case _ hb => exact hletter (by decide) hb h
    split at h
    case _ hb =>
      obtain ⟨e, rfl, he⟩ := isPiece_of_readUnicodeEscape h
      exact ⟨117 :: e, by rw [beq_iff_eq.mp hb]; rfl, he⟩
    case _ => cases h

theorem decode?_of_finishString {done s rest : List UInt8} {text : String}
    (h : finishString done s = .ok (text, rest)) :
    s = rest ∧ decode? done.reverse = some text := by
  unfold finishString at h
  unfold decode?
  split at h
  case _ heq =>
    cases h
    rw [heq]
    exact ⟨rfl, rfl⟩
  case _ => cases h

theorem arePieces_of_readStringFrom {fuel : Nat} {done s rest : List UInt8} {text : String}
    (h : readStringFrom fuel done s = .ok (text, rest)) :
    ∃ t bs, s = t ++ 34 :: rest ∧ ArePieces t bs ∧ decode? (done.reverse ++ bs) = some text := by
  induction fuel generalizing done s with
  | zero => cases s <;> cases h
  | succ fuel ih =>
    cases s with
    | nil => cases h
    | cons b s =>
      rw [readStringFrom] at h
      split at h
      case _ hquote =>
        obtain ⟨rfl, htext⟩ := decode?_of_finishString h
        refine ⟨[], [], by rw [beq_iff_eq.mp hquote]; rfl, .nil, ?_⟩
        rw [List.append_nil]
        exact htext
      case _ hquote =>
        -- one piece is consumed, and the others follow by induction
        suffices hpiece : ∃ e cs left, b :: s = e ++ left ∧ IsPiece e cs ∧
            readStringFrom fuel (cs.reverse ++ done) left = .ok (text, rest) by
          obtain ⟨e, cs, left, hs, he, hmore⟩ := hpiece
          obtain ⟨t, bs, rfl, ht, htext⟩ := ih hmore
          refine ⟨e ++ t, cs ++ bs, ?_, .cons he ht, ?_⟩
          · rw [hs, List.append_assoc]
          · rw [List.reverse_append, List.reverse_reverse, List.append_assoc] at htext
            exact htext
        split at h
        case _ hbackslash =>
          split at h
          case _ => cases h
          case _ cs left hescape =>
            obtain ⟨e, rfl, he⟩ := isPiece_of_readEscape hescape
            exact ⟨92 :: e, cs, left, by rw [beq_iff_eq.mp hbackslash]; rfl, he, h⟩
        case _ hbackslash =>
          split at h
          case _ => cases h
          case _ hcontrol =>
            refine ⟨[b], [b], s, rfl, .plain ⟨?_, ?_, UInt8.not_lt.mp hcontrol⟩, h⟩
            · simpa using hquote
            · simpa using hbackslash

theorem isString_of_readString {s rest : List UInt8} {text : String}
    (h : readString s = .ok (text, rest)) : ∃ t, 34 :: s = t ++ rest ∧ IsString t text := by
  obtain ⟨t, bs, rfl, ht, htext⟩ := arePieces_of_readStringFrom h
  exact ⟨34 :: (t ++ [34]), by simp, .mk ht htext⟩

/-! ## Lists and objects -/

/-- A reading of values that takes blanks and then one value. -/
def ReadsValue (item : List UInt8 → Reading Json) : Prop :=
  ∀ {s rest : List UInt8} {x : Json}, item s = .ok (x, rest) →
    ∃ front core, IsBlank front ∧ IsValue core x ∧ s = front ++ (core ++ rest)

theorem withCommas_cons {s : List UInt8} {parts : List (List UInt8)} (h : parts ≠ []) :
    withCommas (s :: parts) = s ++ 44 :: withCommas parts := by
  cases parts with
  | nil => exact absurd rfl h
  | cons t parts => simp [withCommas, List.intercalate]

theorem withCommas_singleton (s : List UInt8) : withCommas [s] = s := by
  simp [withCommas, List.intercalate]

/-- Items up to the closing bracket; the blanks in front of the first of them may have been
skipped before. -/
theorem items_of_readItems {item : List UInt8 → Reading Json} (hitem : ReadsValue item)
    {fuel : Nat} {done xs : List Json} {lead s rest : List UInt8} (hlead : IsBlank lead)
    (h : readItems item fuel done s = .ok (xs, rest)) :
    ∃ items : List Padded, items ≠ [] ∧ (∀ p ∈ items, p.IsBetweenBlanks) ∧
      (∀ p ∈ items, IsValue p.core p.value) ∧ xs = done.reverse ++ items.map (·.value) ∧
      lead ++ s = withCommas (items.map (·.bytes)) ++ 93 :: rest := by
  induction fuel generalizing done lead s with
  | zero => cases h
  | succ fuel ih =>
    rw [readItems] at h
    split at h
    case _ => cases h
    case _ x left hread =>
      obtain ⟨front, core, hfront, hcore, rfl⟩ := hitem hread
      obtain ⟨back, hback, hleft⟩ := exists_isBlank_append left
      split at h
      case _ => cases h
      case _ b next hnext =>
        rw [hnext] at hleft
        -- the item that was read, with all blanks around it
        have hpads : (Padded.mk (lead ++ front) core back x).IsBetweenBlanks :=
          ⟨hlead.append hfront, hback⟩
        have hbytes : lead ++ (front ++ (core ++ left)) =
            (Padded.mk (lead ++ front) core back x).bytes ++ b :: next := by
          rw [hleft, Padded.bytes]
          simp
        split at h
        case _ hclose =>
          cases h
          refine ⟨[⟨lead ++ front, core, back, x⟩], List.cons_ne_nil _ _, ?_, ?_, ?_, ?_⟩
          · exact List.forall_mem_singleton.mpr hpads
          · exact List.forall_mem_singleton.mpr hcore
          · rw [List.reverse_cons]
            rfl
          · rw [hbytes, beq_iff_eq.mp hclose, List.map_singleton, withCommas_singleton]
        split at h
        case _ hcomma =>
          obtain ⟨gap, hgap, hafter⟩ := exists_isBlank_append next
          split at h
          case _ => cases h
          case _ c after hskip =>
            rw [hskip] at hafter
            split at h
            case _ => cases h
            case _ =>
              obtain ⟨items, hne, hblanks, hvalues, rfl, hmore⟩ := ih hgap h
              refine ⟨⟨lead ++ front, core, back, x⟩ :: items, List.cons_ne_nil _ _, ?_, ?_, ?_, ?_⟩
              · exact List.forall_mem_cons.mpr ⟨hpads, hblanks⟩
              · exact List.forall_mem_cons.mpr ⟨hcore, hvalues⟩
              · simp
              · have hparts : items.map (·.bytes) ≠ [] := by simpa using hne
                rw [hbytes, beq_iff_eq.mp hcomma, List.map_cons, withCommas_cons hparts, hafter,
                  hmore]
                simp
        case _ => cases h

theorem isValue_of_readArray {item : List UInt8 → Reading Json} (hitem : ReadsValue item)
    {s rest : List UInt8} {x : Json} (h : readArray item s = .ok (x, rest)) :
    ∃ core, IsValue core x ∧ 91 :: s = core ++ rest := by
  obtain ⟨lead, hlead, hs⟩ := exists_isBlank_append s
  unfold readArray at h
  split at h
  case _ => cases h
  case _ b next hnext =>
    rw [hnext] at hs
    split at h
    case _ hclose =>
      cases h
      refine ⟨91 :: (lead ++ [93]), .emptyArray hlead, ?_⟩
      rw [hs, beq_iff_eq.mp hclose]
      simp
    case _ =>
      split at h
      case _ => cases h
      case _ hitems =>
        cases h
        obtain ⟨items, hne, hblanks, hvalues, rfl, hbytes⟩ := items_of_readItems hitem hlead hitems
        refine ⟨91 :: (withCommas (items.map (·.bytes)) ++ [93]), .array hne hblanks hvalues, ?_⟩
        rw [hs, hbytes]
        simp

/-- A member from the opening quote of its name to the end of its value. -/
theorem isNamed_of_readMember {item : List UInt8 → Reading Json} (hitem : ReadsValue item)
    {s rest : List UInt8} {name : String} {x : Json}
    (h : readMember item s = .ok ((name, x), rest)) :
    ∃ key gap front core, IsString key name ∧ IsBlank gap ∧ IsBlank front ∧ IsValue core x ∧
      34 :: s = key ++ (gap ++ 58 :: (front ++ (core ++ rest))) := by
  unfold readMember at h
  split at h
  case _ => cases h
  case _ text left hname =>
    obtain ⟨key, hs, hkey⟩ := isString_of_readString hname
    obtain ⟨gap, hgap, hleft⟩ := exists_isBlank_append left
    split at h
    case _ => cases h
    case _ b next hnext =>
      rw [hnext] at hleft
      split at h
      case _ hcolon =>
        split at h
        case _ => cases h
        case _ hread =>
          obtain ⟨front, core, hfront, hcore, rfl⟩ := hitem hread
          cases h
          refine ⟨key, gap, front, core, hkey, hgap, hfront, hcore, ?_⟩
          rw [hs, hleft, beq_iff_eq.mp hcolon]
      case _ => cases h

/-- Members up to the closing brace, from behind the opening quote of the first name; the blanks
in front of that quote may have been skipped before. -/
theorem members_of_readMembers {item : List UInt8 → Reading Json} (hitem : ReadsValue item)
    {fuel : Nat} {done ms : Members} {lead s rest : List UInt8} (hlead : IsBlank lead)
    (h : readMembers item fuel done s = .ok (ms, rest)) :
    ∃ members : List PaddedMember, members ≠ [] ∧ (∀ m ∈ members, m.IsNamed) ∧
      (∀ m ∈ members, IsValue m.item.core m.item.value) ∧
      ms = (members.map fun m => (m.name, m.item.value)).foldl
        (fun ms m => Members.insert m.1 m.2 ms) done ∧
      lead ++ 34 :: s = withCommas (members.map (·.bytes)) ++ 125 :: rest := by
  induction fuel generalizing done lead s with
  | zero => cases h
  | succ fuel ih =>
    rw [readMembers] at h
    split at h
    case _ => cases h
    case _ name x left hread =>
      obtain ⟨key, gap, front, core, hkey, hgap, hfront, hcore, hs⟩ :=
        isNamed_of_readMember hitem hread
      obtain ⟨back, hback, hleft⟩ := exists_isBlank_append left
      dsimp only at h
      split at h
      case _ => cases h
      case _ b next hnext =>
        rw [hnext] at hleft
        -- the member that was read, with all blanks around its parts
        have hnamed : (PaddedMember.mk lead key gap name ⟨front, core, back, x⟩).IsNamed :=
          ⟨hlead, hkey, hgap, hfront, hback⟩
        have hbytes : lead ++ 34 :: s =
            (PaddedMember.mk lead key gap name ⟨front, core, back, x⟩).bytes ++ b :: next := by
          rw [hs, hleft, PaddedMember.bytes, Padded.bytes]
          simp
        split at h
        case _ hclose =>
          cases h
          refine ⟨[⟨lead, key, gap, name, ⟨front, core, back, x⟩⟩], List.cons_ne_nil _ _, ?_, ?_,
            rfl, ?_⟩
          · exact List.forall_mem_singleton.mpr hnamed
          · exact List.forall_mem_singleton.mpr hcore
          · rw [hbytes, beq_iff_eq.mp hclose, List.map_singleton, withCommas_singleton]
        split at h
        case _ hcomma =>
          obtain ⟨blank, hblank, hafter⟩ := exists_isBlank_append next
          split at h
          case _ => cases h
          case _ c after hskip =>
            rw [hskip] at hafter
            split at h
            case _ hquote =>
              obtain ⟨members, hne, hnames, hvalues, rfl, hmore⟩ := ih hblank h
              refine ⟨⟨lead, key, gap, name, ⟨front, core, back, x⟩⟩ :: members,
                List.cons_ne_nil _ _, ?_, ?_, rfl, ?_⟩
              · exact List.forall_mem_cons.mpr ⟨hnamed, hnames⟩
              · exact List.forall_mem_cons.mpr ⟨hcore, hvalues⟩
              · have hparts : members.map (·.bytes) ≠ [] := by simpa using hne
                rw [hbytes, beq_iff_eq.mp hcomma, List.map_cons, withCommas_cons hparts, hafter,
                  beq_iff_eq.mp hquote, hmore]
                simp
            case _ => split at h <;> cases h
        case _ => cases h

theorem isValue_of_readObject {item : List UInt8 → Reading Json} (hitem : ReadsValue item)
    {s rest : List UInt8} {x : Json} (h : readObject item s = .ok (x, rest)) :
    ∃ core, IsValue core x ∧ 123 :: s = core ++ rest := by
  obtain ⟨lead, hlead, hs⟩ := exists_isBlank_append s
  unfold readObject at h
  split at h
  case _ => cases h
  case _ b next hnext =>
    rw [hnext] at hs
    split at h
    case _ hclose =>
      cases h
      refine ⟨123 :: (lead ++ [125]), .emptyObject hlead, ?_⟩
      rw [hs, beq_iff_eq.mp hclose]
      simp
    split at h
    case _ hquote =>
      split at h
      case _ => cases h
      case _ hmembers =>
        cases h
        obtain ⟨members, hne, hnames, hvalues, rfl, hbytes⟩ :=
          members_of_readMembers hitem hlead hmembers
        refine ⟨123 :: (withCommas (members.map (·.bytes)) ++ [125]),
          .object hne hnames hvalues, ?_⟩
        rw [hs, beq_iff_eq.mp hquote, hbytes]
        simp
    case _ => cases h

/-! ## Values and documents -/

theorem isNumber_of_readNumber {negative : Bool} {s rest : List UInt8} {x : Json}
    (h : readNumber negative s = .ok (x, rest)) :
    ∃ core, IsValue core x ∧ minus negative ++ s = core ++ rest := by
  unfold readNumber at h
  split at h
  case _ => cases h
  case _ hread =>
    cases h
    obtain ⟨t, rfl, hnumber⟩ := isNumber_of_readUnsigned hread
    exact ⟨_, .number hnumber, (List.append_assoc ..).symm⟩

/-- The first byte that is no blank decides what a value is; only lists and objects need values
with fewer brackets around them. -/
theorem readsValue_of_inner {depth : Nat}
    (hinner : ∀ inner, depth = inner + 1 → ReadsValue (readValue inner)) :
    ReadsValue (readValue depth) := by
  intro s rest x h
  obtain ⟨front, hfront, hs⟩ := exists_isBlank_append s
  suffices hcore : ∃ core, IsValue core x ∧ skipBlank s = core ++ rest by
    obtain ⟨core, hvalue, hskip⟩ := hcore
    exact ⟨front, core, hfront, hvalue, hs.trans (by rw [hskip])⟩
  unfold readValue at h
  split at h
  case _ => cases h
  case _ b next hnext =>
    rw [hnext]
    split at h
    case _ hb =>
      obtain ⟨rfl, rfl⟩ := eq_of_readWord h
      exact ⟨[110, 117, 108, 108], .null, by rw [beq_iff_eq.mp hb]; rfl⟩
    split at h
    case _ hb =>
      obtain ⟨rfl, rfl⟩ := eq_of_readWord h
      exact ⟨[116, 114, 117, 101], .true, by rw [beq_iff_eq.mp hb]; rfl⟩
    split at h
    case _ hb =>
      obtain ⟨rfl, rfl⟩ := eq_of_readWord h
      exact ⟨[102, 97, 108, 115, 101], .false, by rw [beq_iff_eq.mp hb]; rfl⟩
    split at h
    case _ hb =>
      rw [beq_iff_eq.mp hb]
      exact isNumber_of_readNumber h
    split at h
    case _ => exact isNumber_of_readNumber h
    split at h
    case _ hb =>
      split at h
      case _ => cases h
      case _ hread =>
        cases h
        obtain ⟨t, ht, hstring⟩ := isString_of_readString hread
        exact ⟨t, .string hstring, by rw [beq_iff_eq.mp hb, ht]⟩
    split at h
    case _ hb =>
      rw [beq_iff_eq.mp hb]
      cases depth with
      | zero => cases h
      | succ inner => exact isValue_of_readArray (hinner inner rfl) h
    split at h
    case _ hb =>
      rw [beq_iff_eq.mp hb]
      cases depth with
      | zero => cases h
      | succ inner => exact isValue_of_readObject (hinner inner rfl) h
    case _ => cases h

theorem readsValue_readValue (depth : Nat) : ReadsValue (readValue depth) := by
  induction depth with
  | zero => exact readsValue_of_inner fun inner h => absurd h (Nat.succ_ne_zero inner).symm
  | succ depth ih =>
    apply readsValue_of_inner
    intro inner h
    rw [← Nat.succ.inj h]
    exact ih

/-- Whatever is read is one document, of the value that was read. -/
theorem isDocument_of_read {s : List UInt8} {x : Json} (h : read s = .ok x) : IsDocument s x := by
  unfold read at h
  split at h
  case _ => cases h
  case _ rest hread =>
    obtain ⟨front, core, hfront, hcore, rfl⟩ := readsValue_readValue maxDepth hread
    obtain ⟨back, hback, hrest⟩ := exists_isBlank_append rest
    split at h
    case _ hend =>
      cases h
      refine ⟨⟨front, core, back, x⟩, ?_, rfl, ⟨hfront, hback⟩, hcore⟩
      rw [hrest, hend, List.append_nil]
      rfl
    case _ => cases h

end Deadwood.Json
