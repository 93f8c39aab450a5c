import Deadwood.Text.Utf8

/-!
# Positions in a text

An editor names a place in a text by a line and a column, both counted from zero, the column in
units of UTF-16. A line ends at a line feed, a carriage return, or the pair of both. A position
beyond the end of its line stands for the end of the line, one beyond the last line for the end
of the text, and one inside a character for the end of that character.
-/

namespace Deadwood

/-- A place in a text. -/
structure Position where
  line : UInt32
  character : UInt32
deriving DecidableEq, Repr, Inhabited

/-- A part of a text. -/
structure Range where
  start : Position
  stop : Position
deriving DecidableEq, Repr, Inhabited

namespace Document

/-- The number of UTF-16 units of a character. -/
def units (c : Char) : Nat := if c.toNat < 0x10000 then 1 else 2

/-- Whether a character ends a line, by itself or as part of a pair. -/
def isLineEnd (c : Char) : Bool := c == '\n' || c == '\r'

/-- The text from the start of a line on; the number counts the line ends before it. -/
def dropLines : Nat → List Char → List Char
  | 0, cs => cs
  | _ + 1, [] => []
  | n + 1, '\r' :: '\n' :: cs => dropLines n cs
  | n + 1, c :: cs => if isLineEnd c then dropLines n cs else dropLines (n + 1) cs

/-- The text from a column of its first line on. -/
def dropColumns : Nat → List Char → List Char
  | 0, cs => cs
  | _ + 1, [] => []
  | n + 1, c :: cs => if isLineEnd c then c :: cs else dropColumns (n + 1 - units c) cs

/-- The text from a place on. -/
def after (p : Position) (cs : List Char) : List Char :=
  dropColumns p.character.toNat (dropLines p.line.toNat cs)

/-- The part of a text before a given end part of it. -/
def before (cs rest : List Char) : List Char := cs.take (cs.length - rest.length)

/-! ## Offsets -/

/-- Passes the line ends before a line and counts them, and the bytes on the way; gives the bytes
and the text that is left. -/
def passLines (target : Nat) : Nat → Nat → List Char → Nat × List Char
  | _, offset, [] => (offset, [])
  | line, offset, '\r' :: '\n' :: cs =>
    if line < target then passLines target (line + 1) (offset + 2) cs
    else (offset, '\r' :: '\n' :: cs)
  | line, offset, c :: cs =>
    if line < target then
      passLines target (if isLineEnd c then line + 1 else line) (offset + c.utf8Size) cs
    else (offset, c :: cs)

/-- Passes the units before a column and counts them, and the bytes on the way; the end of the line
is not passed. -/
def passColumns (target : Nat) : Nat → Nat → List Char → Nat
  | _, offset, [] => offset
  | column, offset, c :: cs =>
    if column < target ∧ ¬isLineEnd c then
      passColumns target (column + units c) (offset + c.utf8Size) cs
    else offset

/-- How many bytes of a text stand before a place: its line is looked for first, and then its column
in what is left. Formalises `offset_at`. -/
def offset (p : Position) (cs : List Char) : Nat :=
  let (start, rest) := passLines p.line.toNat 0 0 cs
  passColumns p.character.toNat 0 start rest

/-! ## Replacing -/

/-- Puts new text in the place of a part. If the end of the part is before its start, nothing is
taken out. -/
def replace (range : Range) (new cs : List Char) : List Char :=
  let rest := after range.start cs
  let stop := after range.stop cs
  before cs rest ++ new ++ (if stop.length ≤ rest.length then stop else rest)

end Document

end Deadwood
