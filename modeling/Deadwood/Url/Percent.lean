import Deadwood.Text.Utf8

/-!
# Percent encoding

Bytes that may not stand for themselves are written as a percent sign and two digits of base
sixteen. Reading leaves a percent sign that is not followed by two such digits as it is.
-/

namespace Deadwood.Url

/-- A digit of base sixteen, in upper case. -/
def upperHexDigit (n : Nat) : Char :=
  if n < 10 then Char.ofNat (48 + n) else Char.ofNat (55 + n)

/-- A byte by its number. -/
def encodeByte (b : UInt8) : List Char :=
  ['%', upperHexDigit (b.toNat / 16), upperHexDigit (b.toNat % 16)]

/-- One character: itself if it may stand for itself, else its bytes by number. A character beyond
ASCII never stands for itself. -/
def encodeChar (plain : Char → Bool) (c : Char) : List Char :=
  if c.toNat < 0x80 && plain c then [c] else (Text.Utf8.encodeChar c).flatMap encodeByte

/-- A list of characters in percent encoding. -/
def encode (plain : Char → Bool) (cs : List Char) : List Char :=
  cs.flatMap (encodeChar plain)

/-- Bytes in percent encoding; those beyond ASCII never stand for themselves. -/
def encodeBytes (plain : Char → Bool) (bytes : List UInt8) : List Char :=
  bytes.flatMap fun b =>
    if b < 0x80 && plain (Char.ofNat b.toNat) then [Char.ofNat b.toNat] else encodeByte b

/-- The value of a digit of base sixteen, in either case. -/
def hexValue? (b : UInt8) : Option Nat :=
  if 48 ≤ b && b ≤ 57 then some (b.toNat - 48)
  else if 97 ≤ b && b ≤ 102 then some (b.toNat - 87)
  else if 65 ≤ b && b ≤ 70 then some (b.toNat - 55)
  else none

/-- The byte given by the two digits at the front. -/
def escaped? : List UInt8 → Option UInt8
  | h :: l :: _ => match hexValue? h, hexValue? l with
    | some h, some l => some (h * 16 + l).toUInt8
    | _, _ => none
  | _ => none

/-- The bytes that a percent encoded text stands for. -/
def decode : List UInt8 → List UInt8
  | [] => []
  | b :: rest =>
    if b == 37 then
      match escaped? rest with
      | some x => x :: decode (rest.drop 2)
      | none => b :: decode rest
    else b :: decode rest
termination_by bs => bs.length
decreasing_by all_goals (simp only [List.length_drop, List.length_cons]; omega)

/-! ## What may stand for itself -/

/-- Whether a character is a control character. -/
def isControl (c : Char) : Bool := c.toNat < 0x20 || c.toNat == 0x7F

/-- Characters that stand for themselves where only controls do not. -/
def plainRootless (c : Char) : Bool := !isControl c

/-- Characters that stand for themselves in a fragment. -/
def plainInFragment (c : Char) : Bool :=
  !isControl c && !([' ', '"', '<', '>', '\x60'].contains c)

/-- Characters that stand for themselves in a path. -/
def plainInPath (c : Char) : Bool :=
  plainInFragment c && !(['#', '?', '\x7b', '\x7d'].contains c)

/-- Characters that stand for themselves in a name of a file that becomes part of a path. -/
def plainInName (c : Char) : Bool :=
  plainInPath c && !(['/', '%', '\\'].contains c)

/-- Characters that stand for themselves before the host, where user and password are. -/
def plainInUser (c : Char) : Bool :=
  plainInPath c && !(['/', ':', ';', '=', '@', '[', '\\', ']', '^', '|'].contains c)

/-- Characters that stand for themselves in a query; in special URLs the apostrophe does not. -/
def plainInQuery (special : Bool) (c : Char) : Bool :=
  !isControl c && !([' ', '"', '#', '<', '>'].contains c) && !(special && c == '\'')

end Deadwood.Url
