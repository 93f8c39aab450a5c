import Deadwood.Binary64.Basic
import Deadwood.Text.Layout

/-!
# Layout of double precision numbers

Numbers are read from decimals, and written with a given number of digits behind the point, with an
exponent, or in whichever of the two ways is shorter. Everything is rounded exactly, a tie to the
even digit.
-/

namespace Deadwood

open Text (Layout)

/-- A double precision number, also one that is not finite. -/
inductive Real64 where
  | finite (x : Binary64)
  | infinite (negative : Bool)
  | undefined (negative : Bool)
deriving DecidableEq, Repr, Inhabited

namespace Real64

/-- A number with a sign from its size, infinite if there is no such size. -/
def ofMagnitude? (negative : Bool) : Option Magnitude → Real64
  | some m => .finite ⟨negative, m⟩
  | none => .infinite negative

/-- The number nearest to `numerator / denominator`. -/
def ofRatio (negative : Bool) (numerator denominator : Nat) : Real64 :=
  ofMagnitude? negative (Magnitude.ofRatio? numerator denominator)

/-- The number zero. -/
def zero : Real64 := .finite ⟨false, .zero⟩

/-- The number nearest to a whole number. -/
def ofInt (n : Int) : Real64 := ofRatio (n < 0) n.natAbs 1

/-! ## Reading -/

/-- The number that decimal digits in front of a text stand for, how many there are, and what
follows them. -/
def takeDigits : Nat → Nat → List Char → Nat × Nat × List Char
  | value, count, c :: rest =>
    if c.isDigit then takeDigits (10 * value + (c.toNat - 48)) (count + 1) rest
    else (value, count, c :: rest)
  | value, count, [] => (value, count, [])

/-- An exponent in front of a text and what follows it; none if the text has no whole exponent. -/
def takeExponent (cs : List Char) : Int × List Char :=
  match cs with
  | c :: rest =>
    if c == 'e' || c == 'E' then
      let (negative, body) := match rest with
        | '-' :: body => (true, body)
        | '+' :: body => (false, body)
        | body => (false, body)
      match takeDigits 0 0 body with
      | (_, 0, _) => (0, cs)
      | (n, _, after) => (if negative then -(n : Int) else n, after)
    else (0, cs)
  | [] => (0, cs)

/-- How far exponents of ten are looked at: beyond it a number is zero or infinite. -/
def exponentLimit : Int := 5000

/-- The number `digits * 10 ^ exponent`. -/
def ofDecimal (negative : Bool) (digits : Nat) (exponent : Int) : Real64 :=
  if digits == 0 then .finite ⟨negative, .zero⟩
  else
    let size := exponent + (Nat.toDigits 10 digits).length
    if size > exponentLimit then .infinite negative
    else if size < -exponentLimit then .finite ⟨negative, .zero⟩
    else ofRatio negative (digits * Nat.pow 10 exponent.toNat) (Nat.pow 10 (-exponent).toNat)

/-- Whether a text starts with a word in small or capital letters. -/
def startsWith (word : String) (cs : List Char) : Bool :=
  (cs.take word.length).map Char.toLower == word.toList

/-- A decimal number without sign in front of a text and what follows it, if there is one. -/
def readUnsigned? (negative : Bool) (cs : List Char) : Option (Real64 × List Char) :=
  if startsWith "infinity" cs then some (.infinite negative, cs.drop 8)
  else if startsWith "inf" cs then some (.infinite negative, cs.drop 3)
  else if startsWith "nan" cs then some (.undefined negative, cs.drop 3)
  else
    let (whole, count, rest) := takeDigits 0 0 cs
    let (digits, places, rest) := match rest with
      | '.' :: body =>
        let (digits, all, after) := takeDigits whole count body
        if all == 0 then (whole, 0, rest) else (digits, all - count, after)
      | _ => (whole, 0, rest)
    if count + places == 0 then none
    else
      let (exponent, rest) := takeExponent rest
      some (ofDecimal negative digits (exponent - places), rest)

/-- A decimal number in front of a text, perhaps with blanks and a sign before it, and what follows
it. -/
def read? (cs : List Char) : Option (Real64 × List Char) :=
  match cs.dropWhile fun c => c == ' ' || ('\t' ≤ c && c ≤ '\r') with
  | '-' :: rest => readUnsigned? true rest
  | '+' :: rest => readUnsigned? false rest
  | rest => readUnsigned? false rest

end Real64

/-! ## Writing -/

namespace Magnitude

/-- The digits of a number with a point before the last `places` ones, at least one standing before
it. -/
def pointed (places : Nat) (alternate : Bool) (digits : Nat) : List Char :=
  let ds := Nat.toDigits 10 digits
  let ds := List.replicate (places + 1 - ds.length) '0' ++ ds
  let cut := ds.length - places
  ds.take cut ++ if places == 0 && !alternate then [] else '.' :: ds.drop cut

/-- A number with so many digits behind the point. -/
def fixed (places : Nat) (alternate : Bool) (m : Magnitude) : List Char :=
  pointed places alternate (roundHalfEven (m.numerator * Nat.pow 10 places) m.denominator)

/-- The number multiplied by a power of ten and rounded. -/
def scaled (m : Magnitude) (power : Int) : Nat :=
  roundHalfEven (m.numerator * Nat.pow 10 power.toNat) (m.denominator * Nat.pow 10 (-power).toNat)

/-- The largest power of ten that is not above the number, looked for downwards. -/
def powerOfTen (m : Magnitude) : Nat → Int → Int
  | 0, p => p
  | fuel + 1, p =>
    if m.denominator * Nat.pow 10 p.toNat ≤ m.numerator * Nat.pow 10 (-p).toNat then p
    else m.powerOfTen fuel (p - 1)

/-- The digits of a number, one more than `places`, and the power of ten of the first one, after
rounding. -/
def rounded (m : Magnitude) (places : Nat) : Nat × Int :=
  if m.isZero then (0, 0)
  else
    let p := m.powerOfTen 700 309
    let digits := m.scaled (places - p)
    if Nat.pow 10 (places + 1) ≤ digits then (m.scaled (places - (p + 1)), p + 1) else (digits, p)

/-- An exponent with its sign and at least two digits. -/
def exponentText (isUpper : Bool) (p : Int) : List Char :=
  let ds := Nat.toDigits 10 p.natAbs
  (if isUpper then 'E' else 'e') :: (if p < 0 then '-' else '+') ::
    (List.replicate (2 - ds.length) '0' ++ ds)

/-- A number with one digit before the point and an exponent. -/
def scientific (places : Nat) (alternate isUpper : Bool) (m : Magnitude) : List Char :=
  let (digits, p) := m.rounded places
  pointed places alternate digits ++ exponentText isUpper p

/-- A text without the zeros at the end of its digits behind the point. -/
def dropZeros (cs : List Char) : List Char :=
  if cs.contains '.' then
    match cs.reverse.dropWhile (· == '0') with
    | '.' :: rest => rest.reverse
    | rest => rest.reverse
  else cs

/-- A number with so many digits in all, with an exponent if it is very large or small. -/
def general (precision : Nat) (alternate isUpper : Bool) (m : Magnitude) : List Char :=
  let precision := max precision 1
  let (digits, p) := m.rounded (precision - 1)
  let trim := fun cs => if alternate then cs else dropZeros cs
  if p < -4 || (precision : Int) ≤ p then
    trim (pointed (precision - 1) alternate digits) ++ exponentText isUpper p
  else trim (m.fixed ((precision : Int) - 1 - p).toNat alternate)

end Magnitude

/-- The ways to write a number. -/
inductive RealStyle where
  | fixed
  | scientific
  | general
deriving DecidableEq, Repr, Inhabited

/-- A number in a field; six digits are shown if nothing is said. -/
def Real64.layOut (l : Layout) (style : RealStyle) (isUpper : Bool) (x : Real64) : List Char :=
  let cased := fun (s : String) => (if isUpper then s.toUpper else s).toList
  let precision := l.precision.getD 6
  match x with
  | .infinite negative => l.pad (l.sign negative ++ cased "inf")
  | .undefined negative => l.pad (l.sign negative ++ cased "nan")
  | .finite ⟨negative, m⟩ =>
    let body := match style with
      | .fixed => m.fixed precision l.alternate
      | .scientific => m.scientific precision l.alternate isUpper
      | .general => m.general precision l.alternate isUpper
    l.padNumber (l.sign negative) body true

end Deadwood
