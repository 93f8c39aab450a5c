import Deadwood.Text.Utf8

/-!
# Octets

Programs of the system handle bytes as if they were characters. A text of octets has a character
for each byte, whose code is the byte, so that such texts are read and compared like any other.
-/

namespace Deadwood.Text.Octets

/-- The character that stands for a byte. -/
def ofByte (b : UInt8) : Char := Char.ofNat b.toNat

/-- The byte that a character stands for. -/
def toByte (c : Char) : UInt8 := c.toNat.toUInt8

/-- Bytes as characters. -/
def listOf (bytes : List UInt8) : List Char := bytes.map ofByte

/-- Bytes as a text of octets. -/
def ofBytes (bytes : List UInt8) : String := String.ofList (listOf bytes)

/-- The bytes of characters. -/
def bytesOf (cs : List Char) : List UInt8 := cs.map toByte

/-- The bytes of a text of octets. -/
def toBytes (s : String) : List UInt8 := bytesOf s.toList

/-- The octets of a text. -/
def ofText (s : String) : String := ofBytes (Utf8.encode s)

end Deadwood.Text.Octets
