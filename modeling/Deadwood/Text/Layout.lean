/-!
# Layout of values

A value is laid out in a field of a least width, on its left or its right side. Numbers can have
their sign shown, zeros in front, a least number of digits, and the mark of their base.
-/

namespace Deadwood.Text

/-- How a value is laid out. -/
structure Layout where
  /-- Whether it stands on the left side of its field. -/
  left : Bool := false
  /-- Whether a number that is not negative gets a plus sign. -/
  plus : Bool := false
  /-- Whether a number that is not negative gets a blank for its sign. -/
  space : Bool := false
  /-- Whether the field of a number is filled with zeros. -/
  zero : Bool := false
  /-- Whether the base of a number is shown. -/
  alternate : Bool := false
  width : Nat := 0
  precision : Option Nat := none
deriving DecidableEq, Repr, Inhabited

namespace Layout

/-- The layout with a flag. -/
def withFlag (l : Layout) : Char → Layout
  | '-' => { l with left := true }
  | '+' => { l with plus := true }
  | ' ' => { l with space := true }
  | '0' => { l with zero := true }
  | '#' => { l with alternate := true }
  | _ => l

/-- The layout with a width that was given as a number; a negative one means the left side. -/
def withWidth (l : Layout) (n : Int) : Layout :=
  if n < 0 then { l with left := true, width := n.natAbs } else { l with width := n.toNat }

/-- The layout with a precision that was given as a number; a negative one means none. -/
def withPrecision (l : Layout) (n : Int) : Layout :=
  { l with precision := if n < 0 then none else some n.toNat }

/-- Characters in a field. -/
def pad (l : Layout) (cs : List Char) : List Char :=
  let blanks := List.replicate (l.width - cs.length) ' '
  if l.left then cs ++ blanks else blanks ++ cs

/-- A text in a field, cut off at the precision. -/
def text (l : Layout) (cs : List Char) : List Char :=
  l.pad (match l.precision with
    | some p => cs.take p
    | none => cs)

/-- What stands in front of a number with a sign. -/
def sign (l : Layout) (negative : Bool) : List Char :=
  if negative then ['-'] else if l.plus then ['+'] else if l.space then [' '] else []

/-- A number in a field, filled with zeros between its mark and its digits if they may stand
there. -/
def padNumber (l : Layout) (mark digits : List Char) (mayFill : Bool) : List Char :=
  if l.zero && !l.left && mayFill then
    mark ++ List.replicate (l.width - mark.length - digits.length) '0' ++ digits
  else l.pad (mark ++ digits)

/-- The digits of a number, at least as many as the precision says; zero has none if none are asked
for. -/
def digits (l : Layout) (base : Nat) (n : Nat) : List Char :=
  let ds := if n == 0 && l.precision == some 0 then [] else Nat.toDigits base n
  List.replicate (l.precision.getD 0 - ds.length) '0' ++ ds

/-- A whole number with its sign. -/
def whole (l : Layout) (n : Int) : List Char :=
  l.padNumber (l.sign (n < 0)) (l.digits 10 n.natAbs) l.precision.isNone

/-- A whole number without a sign in a base, which is 8, 10 or 16. -/
def unsigned (l : Layout) (base : Nat) (isUpper : Bool) (n : Nat) : List Char :=
  let ds := l.digits base n
  let ds := if l.alternate && base == 8 && ds.head? != some '0' then '0' :: ds else ds
  let mark := if l.alternate && base == 16 && n != 0 then ['0', 'x'] else []
  let cs := l.padNumber mark ds l.precision.isNone
  if isUpper then cs.map Char.toUpper else cs

end Layout

end Deadwood.Text
