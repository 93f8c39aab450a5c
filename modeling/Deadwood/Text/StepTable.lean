import Deadwood.Text.RangeTable

/-!
# Functions of characters given by tables

A property of code points is kept as the increasing list of the places where its value changes, and
a mapping of code points as the list of the runs that it maps. Both are written as texts: entries
have blanks or line ends between them, and a colon parts the place of an entry, in base sixteen,
from what stands there.
-/

namespace Deadwood.Text

/-! ## Numbers -/

/-- The value of a digit of base sixteen in lower case. -/
def hexDigit (c : Char) : Nat := if c.isDigit then c.toNat - 48 else c.toNat - 87

/-- The number that digits of base sixteen stand for. -/
def ofHex (cs : List Char) : Nat := cs.foldl (fun n c => 16 * n + hexDigit c) 0

/-- The number that digits of base ten stand for. -/
def ofDecimal (cs : List Char) : Nat := cs.foldl (fun n c => 10 * n + (c.toNat - 48)) 0

/-- Cuts a text at every place where a character stands. -/
def splitAt (c : Char) : List Char → List (List Char)
  | [] => [[]]
  | d :: ds =>
    if d == c then [] :: splitAt c ds
    else match splitAt c ds with
      | [] => [[d]]
      | s :: rest => (d :: s) :: rest

/-- The entries of a table that is written as a text. -/
def entriesOf (s : String) : List (List Char) :=
  ((splitAt '\n' s.toList).flatMap (splitAt ' ')).filter (!·.isEmpty)

/-! ## Steps -/

/-- A function of code points that changes its value at given places only. -/
structure StepTable (α : Type) where
  starts : Array Nat
  values : Array α

namespace StepTable

variable {α : Type}

/-- The value at a code point: the one of the last place at or below it. -/
def value? (t : StepTable α) (x : Nat) : Option α :=
  match RangeTable.countFrom t.starts x 0 t.starts.size with
  | 0 => none
  | k + 1 => t.values[k]?

/-- The table of entries in increasing order. -/
def ofList (entries : List (Nat × α)) : StepTable α :=
  ⟨(entries.map (·.1)).toArray, (entries.map (·.2)).toArray⟩

/-- The table that a text stands for. -/
def ofString (read : List Char → α) (s : String) : StepTable α :=
  ofList ((entriesOf s).map fun entry =>
    let (place, value) := entry.span (· != ':')
    (ofHex place, read (value.drop 1)))

end StepTable

/-! ## Runs -/

/-- A run of code points, every one of them or every second one, with their image. The image of the
first one is given; where a run has several, the image moves along with them. -/
structure CodeRun where
  first : Nat
  last : Nat
  step : Nat
  image : List Nat

namespace CodeRun

/-- The image of a code point, if the run has it. -/
def image? (r : CodeRun) (x : Nat) : Option (List Nat) :=
  if r.first ≤ x && x ≤ r.last && (x - r.first) % r.step == 0 then
    some (r.image.map (· + (x - r.first)))
  else none

/-- The run that a text stands for. The last code point stands behind a dash, and the step between
two of them behind a slash; the image has points in it. -/
def ofList (cs : List Char) : CodeRun :=
  let (places, image) := cs.span (· != ':')
  let (range, step) := places.span (· != '/')
  let (first, last) := range.span (· != '-')
  { first := ofHex first
    last := ofHex (if last.isEmpty then first else last.drop 1)
    step := if step.isEmpty then 1 else ofHex (step.drop 1)
    image := ((splitAt '.' (image.drop 1)).filter (!·.isEmpty)).map ofHex }

end CodeRun

/-- A mapping of code points, by its runs. -/
abbrev CodeMap := StepTable CodeRun

namespace CodeMap

/-- The image of a code point, if it is mapped. -/
def image? (t : CodeMap) (x : Nat) : Option (List Nat) :=
  (StepTable.value? t x).bind (·.image? x)

/-- The mapping that a text stands for, its runs in increasing order. -/
def ofString (s : String) : CodeMap :=
  StepTable.ofList ((entriesOf s).map fun entry =>
    let run := CodeRun.ofList entry
    (run.first, run))

end CodeMap

end Deadwood.Text
