import Deadwood.Shell.Glob

/-!
# Fields

What has been expanded of a word: characters that stand for themselves, and stretches that are to be
split. Splitting gives the fields of the word.
-/

namespace Deadwood.Shell

/-- A character of an expanded word, or the mark of a quotation, which keeps an empty field. -/
inductive Glyph where
  | char (c : Char) (quoted : Bool)
  | quote
deriving DecidableEq, Repr, Inhabited

namespace Glyph

/-- The character of a glyph with its mark. -/
def marked? : Glyph → Option Marked
  | .char c quoted => some (c, quoted)
  | .quote => none

/-- The text of glyphs. -/
def text (gs : List Glyph) : String :=
  String.ofList (gs.filterMap fun g => g.marked?.map Prod.fst)

/-- The characters of a text as glyphs. -/
def ofText (quoted : Bool) (s : String) : List Glyph := s.toList.map fun c => .char c quoted

end Glyph

/-- How a stretch of an expanded word is split. -/
inductive Stretch where
  /-- Not at all. -/
  | fixed
  /-- At the characters between fields. -/
  | split
  /-- Only where one value ends and the next one begins. -/
  | values
deriving DecidableEq, Repr, Inhabited

/-- A stretch of an expanded word. -/
structure Piece where
  glyphs : List Glyph
  kind : Stretch := .fixed
deriving DecidableEq, Repr, Inhabited

/-- The text of pieces. -/
def pieceText (ps : List Piece) : String := Glyph.text (ps.flatMap (·.glyphs))

/-- The character between two values. -/
def valueEnd : Char := '\x00'

/-- The characters between fields, if nothing else is said. -/
def defaultSeparators : String := " \t\n"

/-- The state of splitting. -/
structure Splitter where
  /-- The finished fields, last first. -/
  fields : List (List Glyph) := []
  /-- The field at work, last glyph first. -/
  field : List Glyph := []
  /-- Whether blanks after a field are being dropped. -/
  dropping : Bool := false
  /-- Whether the last stretch, and the one before it, was split between values only. -/
  ofValues : Bool := false
  afterValues : Bool := false
deriving Inhabited

namespace Splitter

/-- Adds a glyph to the field at work. -/
def add (s : Splitter) (g : Glyph) : Splitter :=
  { s with field := g :: s.field, dropping := false }

/-- Ends the field at work. -/
def finish (s : Splitter) (dropping : Bool) : Splitter :=
  { s with fields := s.field.reverse :: s.fields, field := [], dropping }

/-- Takes the next glyph of a stretch that is split at separators. -/
def step (separators : String) (s : Splitter) (g : Glyph) : Splitter :=
  match g with
  | .quote => s.add g
  | .char c _ =>
    let isSeparator := c == valueEnd || separators.toList.contains c
    let isBlank := isSeparator && (c == valueEnd || defaultSeparators.toList.contains c)
    if s.dropping then
      if isBlank then s
      else if isSeparator then { s with dropping := false }
      else s.add g
    else if isSeparator then
      let dropping := isBlank && !(s.afterValues || s.ofValues)
      if s.field.isEmpty && dropping then s else s.finish dropping
    else s.add g

/-- Takes a stretch. -/
def piece (separators : String) (s : Splitter) (p : Piece) : Splitter :=
  let begin := { s with dropping := false, afterValues := s.ofValues }
  match p.kind with
  | .fixed => { s with field := p.glyphs.reverse ++ s.field }
  | .split => p.glyphs.foldl (step separators) { begin with ofValues := false }
  | .values => p.glyphs.foldl (step "") { begin with ofValues := true }

/-- The fields at the end. -/
def results (s : Splitter) : List (List Glyph) :=
  (if s.ofValues || !s.field.isEmpty then s.field.reverse :: s.fields else s.fields).reverse

end Splitter

/-- The fields of an expanded word. -/
def splitFields (separators : String) (ps : List Piece) : List (List Glyph) :=
  (ps.foldl (Splitter.piece separators) {}).results

/-! ## Lines of input -/

/-- A text without blanks at its end, as far as they are separators and were not quoted. -/
def dropEndBlanks (separators : String) (gs : List Marked) : List Marked :=
  (gs.reverse.dropWhile fun m =>
    !m.2 && separators.toList.contains m.1 && defaultSeparators.toList.contains m.1).reverse

/-- A line with the blanks in front of it dropped. -/
def dropStartBlanks (separators : String) (gs : List Marked) : List Marked :=
  gs.dropWhile fun m =>
    !m.2 && separators.toList.contains m.1 && defaultSeparators.toList.contains m.1

/-- The first field of a line, and what follows it with its separators. -/
def firstField (separators : String) (gs : List Marked) : List Marked × List Marked :=
  let isSeparator := fun (m : Marked) => !m.2 && separators.toList.contains m.1
  (gs.takeWhile (!isSeparator ·), gs.dropWhile (!isSeparator ·))

/-- What follows the separators behind a field: blanks with at most one other separator. -/
def afterField (separators : String) (gs : List Marked) : List Marked :=
  match dropStartBlanks separators gs with
  | m :: rest =>
    if !m.2 && separators.toList.contains m.1 then dropStartBlanks separators rest else m :: rest
  | [] => []

/-- The last field of a line: all of it, without the separator at its end if it is the only one
besides blanks. -/
def lastField (separators : String) (gs : List Marked) : List Marked :=
  let (field, rest) := firstField separators gs
  if (afterField separators rest).isEmpty then field else dropEndBlanks separators gs

/-- The values of so many variables from a line. -/
def lineFields (separators : String) : Nat → List Marked → List String
  | 0, _ => []
  | 1, gs => [String.ofList ((lastField separators gs).map Prod.fst)]
  | count + 1, gs =>
    let (field, rest) := firstField separators gs
    String.ofList (field.map Prod.fst) :: lineFields separators count (afterField separators rest)

end Deadwood.Shell
