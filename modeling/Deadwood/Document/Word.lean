import Deadwood.Document.Position
import Deadwood.Text.WordChar

/-!
# The word under the cursor

Here lines end at line feeds only, a carriage return before one being part of the line end. The
word at a column is the run of word characters around it.
-/

namespace Deadwood.Document

/-! ## Lines -/

/-- The text after a number of line feeds. -/
def dropFeeds : Nat → List Char → List Char
  | 0, cs => cs
  | n + 1, cs => match cs.dropWhile (· != '\n') with
    | [] => []
    | _ :: rest => dropFeeds n rest

/-- The line at the front of a text. -/
def firstLine (cs : List Char) : List Char :=
  let line := cs.takeWhile (· != '\n')
  if line.length < cs.length && line.getLast? == some '\r' then line.dropLast else line

/-- The line with a number; a line feed at the end of the text starts no further line. -/
def line? (n : Nat) (cs : List Char) : Option (List Char) :=
  match dropFeeds n cs with
  | [] => none
  | c :: rest => some (firstLine (c :: rest))

/-! ## Columns -/

/-- Passes the units of a line before a column and counts them, and the bytes on the way. -/
def passUnits (target : Nat) : Nat → Nat → List Char → Nat
  | _, bytes, [] => bytes
  | column, bytes, c :: cs =>
    if target ≤ column then bytes
    else passUnits target (column + units c) (bytes + c.utf8Size) cs

/-- The column in bytes of a column in UTF-16 units; a line that is not there is empty. Formalises
`utf16_col_to_byte_col`. -/
def byteColumn (line column : Nat) (cs : List Char) : Nat :=
  passUnits column 0 0 ((line? line cs).getD [])

/-! ## Words -/

/-- Splits a line at a column in bytes: what is before it, in reverse, and what is after; `none`
inside a character. A column beyond the end is the end. -/
def splitAtByte? (done : List Char) : Nat → List Char → Option (List Char × List Char)
  | 0, cs => some (done, cs)
  | _ + 1, [] => some (done, [])
  | n + 1, c :: cs =>
    if c.utf8Size ≤ n + 1 then splitAtByte? (c :: done) (n + 1 - c.utf8Size) cs else none

/-- The word around a column in bytes of a line. -/
def wordInLine? (column : Nat) (line : List Char) : Option (List Char) :=
  match splitAtByte? [] column line with
  | none => none
  | some (before, after) =>
    match (before.takeWhile Text.isWordChar).reverse ++ after.takeWhile Text.isWordChar with
    | [] => none
    | word => some word

/-- The word around a column in bytes of a line of a text. Formalises `get_word_from_content`. -/
def wordAt? (line column : Nat) (cs : List Char) : Option String :=
  match line? line cs with
  | none => none
  | some l => (wordInLine? column l).map String.ofList

/-- The word around a column in UTF-16 units of a line of a text. -/
def wordAtUnits? (line column : Nat) (cs : List Char) : Option String :=
  wordAt? line (byteColumn line column cs) cs

end Deadwood.Document
