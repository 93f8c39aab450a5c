import Deadwood.Regex.Basic

/-!
# Instructions of an editor of streams

An editor reads lines one after another, does to each what its instructions say, and writes what
comes of it. An instruction is meant for the lines that its addresses pick.
-/

namespace Deadwood.Utility.Edit

/-- An expression to be looked for; without one it is the expression looked for last. -/
structure Pattern where
  regex : Option Regex := none
  foldsCase : Bool := false
  hasLines : Bool := false

instance : Inhabited Pattern := ⟨{}⟩

/-- Which lines are picked. -/
inductive Address where
  | line (n : Nat)
  /-- The last line. -/
  | last
  /-- A line and every so many lines after it. -/
  | step (first span : Nat)
  | fits (p : Pattern)
  /-- So many lines more, as the end of a range. -/
  | more (count : Nat)
  /-- The next line whose number is a multiple, as the end of a range. -/
  | multiple (n : Nat)
deriving Inhabited

/-- What a replacement is made of. -/
inductive Part where
  | text (cs : List Char)
  /-- What a group has fitted; group zero is the whole part. -/
  | group (n : Nat)
  /-- From here on, or for one character, letters change their case. -/
  | casing (way : Char)
deriving DecidableEq, Repr, Inhabited

/-- A substitution. -/
structure Substitution where
  pattern : Pattern
  parts : List Part
  isGlobal : Bool := false
  prints : Bool := false
  /-- Which of the parts that fit is the first to be replaced. -/
  number : Nat := 1
  /-- The file to which a changed line is written. -/
  file : Option String := none

instance : Inhabited Substitution := ⟨{ pattern := {}, parts := [] }⟩

/-- What is to be done. -/
inductive Deed where
  /-- Skips what stands between brackets, up to a place. -/
  | skipTo (place : Nat)
  | nothing
  /-- Goes to a place, or to the end; always, or only after a substitution has or has not been made
  since the line was read. -/
  | jump (condition : Option Bool) (label : String)
  | append (text : List Char)
  | insert (text : List Char)
  | change (text : List Char)
  | delete
  /-- Deletes the first line and starts anew without reading one. -/
  | deleteFirst
  | getHeld
  | addHeld
  | hold
  | addToHeld
  | exchange
  /-- Shows the line with what cannot be seen in it, in lines of a length. -/
  | reveal (width : Option Nat)
  | next
  | addNext
  | print
  | printFirst
  | quit (status : Nat)
  | leave (status : Nat)
  | readFile (name : String)
  | readLine (name : String)
  | writeFile (name : String)
  | writeFirst (name : String)
  | showNumber
  | showName
  | clear
  | substitute (s : Substitution)
  | exchangeChars (pairs : List (Char × Char))
deriving Inhabited

/-- An instruction. -/
structure Instruction where
  first : Option Address := none
  second : Option Address := none
  isNegated : Bool := false
  deed : Deed
deriving Inhabited

/-- Instructions with the places of the labels. -/
structure Script where
  instructions : Array Instruction := #[]
  labels : List (String × Nat) := []
  /-- Whether nothing is written unless it is asked for. -/
  isQuiet : Bool := false
deriving Inhabited

/-- Where a script comes from. -/
inductive Origin where
  | argument (number : Nat)
  | file (name : String)
deriving DecidableEq, Repr, Inhabited

/-- What is wrong with a script, and where. -/
structure Mistake where
  origin : Origin
  /-- How many characters, or lines of a file, have been read. -/
  place : Nat
  words : String
deriving DecidableEq, Repr, Inhabited

/-- The words for a mistake. -/
def Mistake.message (m : Mistake) : String :=
  match m.origin with
  | .argument n => s!"-e expression #{n}, char {m.place}: {m.words}"
  | .file name => s!"file {name} line {m.place}: {m.words}"

end Deadwood.Utility.Edit
