/-!
# Double precision numbers

Finite double precision numbers as a sign, a whole significand and a power of two, with correct
rounding of quotients: to the nearest number, a tie to the even significand. Everything is exact
arithmetic on whole numbers.
-/

namespace Deadwood

/-- The size of a finite double precision number: `significand * 2 ^ exponent`, the significand
below `2 ^ 53` and the exponent at least `-1074`. -/
structure Magnitude where
  significand : Nat
  exponent : Int
deriving DecidableEq, Repr, Inhabited

/-- A finite double precision number. -/
structure Binary64 where
  negative : Bool
  magnitude : Magnitude
deriving DecidableEq, Repr, Inhabited

namespace Magnitude

/-- The size of both zeros. -/
def zero : Magnitude := ⟨0, -1074⟩

/-- Whether the number is zero. -/
def isZero (m : Magnitude) : Bool := m.significand == 0

/-- A positive power of two, or one. -/
def twoPow (e : Int) : Nat := Nat.pow 2 e.toNat

/-- The numerator of the number as a fraction whose denominator is a power of two. -/
def numerator (m : Magnitude) : Nat := m.significand * twoPow m.exponent

/-- The denominator of the number as a fraction. -/
def denominator (m : Magnitude) : Nat := twoPow (-m.exponent)

/-- The whole number nearest to `num / den`, a tie going to the even one. -/
def roundHalfEven (num den : Nat) : Nat :=
  let q := num / den
  let r := num % den
  if 2 * r > den || (2 * r == den && q % 2 == 1) then q + 1 else q

/-- The exponent at which `num / den` has a significand of 53 bits, or the least exponent if the
quotient is too small for that. -/
def targetExponent (num den : Nat) : Int :=
  let guess : Int := (num.log2 : Int) - (den.log2 : Int) - 52
  let short := num * twoPow (-guess) < Nat.pow 2 52 * (den * twoPow guess)
  max (if short then guess - 1 else guess) (-1074)

/-- The number nearest to `num / den`, or `none` if that is beyond the largest finite one. -/
def ofRatio? (num den : Nat) : Option Magnitude :=
  if num == 0 then some zero
  else
    let e := targetExponent num den
    let q := roundHalfEven (num * twoPow (-e)) (den * twoPow e)
    let m : Magnitude := if q == Nat.pow 2 53 then ⟨Nat.pow 2 52, e + 1⟩ else ⟨q, e⟩
    if m.exponent > 971 then none else some m

/-- The number nearest to a whole number. -/
def ofNat? (n : Nat) : Option Magnitude := ofRatio? n 1

/-- The product, rounded; `none` beyond the largest finite number. -/
def mul? (a b : Magnitude) : Option Magnitude :=
  ofRatio? (a.numerator * b.numerator) (a.denominator * b.denominator)

/-- The quotient by a number that is not zero, rounded. -/
def div? (a b : Magnitude) : Option Magnitude :=
  ofRatio? (a.numerator * b.denominator) (a.denominator * b.numerator)

end Magnitude

end Deadwood
