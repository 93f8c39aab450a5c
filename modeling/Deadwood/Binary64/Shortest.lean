import Deadwood.Binary64.Basic

/-!
# The shortest decimal of a double precision number

Of all decimals that read back as a given number, the text takes one with the fewest digits, and
of those the nearest. Numbers from `1e-5` up to but not including `1e16` are written positionally
with at least one digit after the point, all others with an exponent of ten.
-/

namespace Deadwood

/-! ## Digits -/

/-- A decimal `digits * 10 ^ exponent`. -/
structure Decimal where
  digits : Nat
  exponent : Int
deriving DecidableEq, Repr, Inhabited

namespace Magnitude

/-- A positive power of ten, or one. -/
def tenPow (e : Int) : Nat := Nat.pow 10 e.toNat

/-- The interval of reals that round to a number, as fractions over one denominator. -/
structure Interval where
  low : Nat
  value : Nat
  high : Nat
  denominator : Nat
  closed : Bool

/-- Half the gap to the neighbours on both sides; below a power of two the gap is half as wide. The
ends themselves round to the number exactly when its significand is even. -/
def interval (m : Magnitude) : Interval :=
  let unit := twoPow m.exponent
  let narrow := m.significand == Nat.pow 2 52 && m.exponent > -1074
  let value := 4 * m.significand * unit
  { low := value - (if narrow then 1 else 2) * unit
    value := value
    high := value + 2 * unit
    denominator := 4 * twoPow (-m.exponent)
    closed := m.significand % 2 == 0 }

/-- Whether the decimal lies in the interval. -/
def Interval.contains (i : Interval) (d : Decimal) : Bool :=
  let x := d.digits * tenPow d.exponent * i.denominator
  let scale := tenPow (-d.exponent)
  if i.closed then i.low * scale ≤ x && x ≤ i.high * scale
  else i.low * scale < x && x < i.high * scale

/-- The distance of a decimal from the number itself, in units of the interval's denominator and
of the decimal's own scale. -/
def Interval.distance (i : Interval) (d : Decimal) : Nat :=
  let x := d.digits * tenPow d.exponent * i.denominator
  let v := i.value * tenPow (-d.exponent)
  (x - v) + (v - x)

/-- The largest `p` with `10 ^ p ≤ num / den`, looked for downwards from `start` with at most
`fuel` steps. -/
def leadingPower (num den : Nat) : Nat → Int → Int
  | 0, p => p
  | fuel + 1, p =>
    if tenPow p * den ≤ num * tenPow (-p) then p else leadingPower num den fuel (p - 1)

/-- The decimal nearest to the number among those with `count` digits in the interval. -/
def Interval.withDigits (i : Interval) (power : Int) (count : Nat) : Option Decimal :=
  let e := power - (count : Int) + 1
  let below := i.value * tenPow (-e) / (i.denominator * tenPow e)
  let lower : Decimal := ⟨below, e⟩
  let upper : Decimal := ⟨below + 1, e⟩
  match i.contains lower, i.contains upper with
  | true, true =>
    let (far, near) := (i.distance upper, i.distance lower)
    if far < near || (far == near && below % 2 == 1) then some upper else some lower
  | true, false => some lower
  | false, true => some upper
  | false, false => none

/-- A decimal without zeros at the end of its digits, taken off one at a time. -/
def stripZeros : Nat → Decimal → Decimal
  | 0, d => d
  | fuel + 1, d =>
    if d.digits != 0 && d.digits % 10 == 0 then stripZeros fuel ⟨d.digits / 10, d.exponent + 1⟩
    else d

/-- The shortest decimal that reads back as the number. Seventeen digits always suffice. -/
def shortest (m : Magnitude) : Decimal :=
  let i := m.interval
  let start : Int := ((m.numerator / m.denominator).log2 : Int) / 3 + 1
  let power := leadingPower i.value i.denominator 700 start
  let found := (List.range 17).findSome? fun k => i.withDigits power (k + 1)
  stripZeros 20 (found.getD ⟨m.significand, m.exponent⟩)

end Magnitude

/-! ## Text -/

namespace Binary64

/-- Writes digits positionally: the point stands after `lead` of them, which may be none or more
than there are. -/
def positional (digits : List Char) (lead : Int) : List Char :=
  if lead ≤ 0 then '0' :: '.' :: List.replicate (-lead).toNat '0' ++ digits
  else
    let n := lead.toNat
    let whole := digits.take n ++ List.replicate (n - digits.length) '0'
    let fraction := digits.drop n
    whole ++ '.' :: (if fraction.isEmpty then ['0'] else fraction)

/-- Writes digits with one of them before the point and an exponent that always has a sign. -/
def scientific (digits : List Char) (exponent : Int) : List Char :=
  let fraction := digits.drop 1
  digits.take 1 ++ (if fraction.isEmpty then [] else '.' :: fraction) ++
    ['e', if exponent < 0 then '-' else '+'] ++ (Nat.toDigits 10 exponent.natAbs)

/-- The text of a number in messages and in written values. -/
def toText (x : Binary64) : String :=
  let body :=
    if x.magnitude.isZero then ['0', '.', '0']
    else
      let d := x.magnitude.shortest
      let digits := Nat.toDigits 10 d.digits
      let exponent := d.exponent + (digits.length : Int) - 1
      if -5 ≤ exponent && exponent < 16 then positional digits (exponent + 1)
      else scientific digits exponent
  String.ofList (if x.negative then '-' :: body else body)

end Binary64

end Deadwood
