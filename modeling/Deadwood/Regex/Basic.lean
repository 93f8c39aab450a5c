/-!
# Regular expressions

Expressions that fit parts of a line. Of all parts that an expression fits, the one that starts
first counts, and of those the longest one. Groups remember what they have fitted.
-/

namespace Deadwood

/-- A regular expression. -/
inductive Regex where
  | empty
  | char (c : Char)
  | any
  /-- A character that passes a test. -/
  | set (test : Char → Bool)
  /-- The start of the line. -/
  | start
  /-- The end of the line. -/
  | finish
  /-- A place with a word on one side only, or nowhere such a place. -/
  | wordEdge (isThere : Bool)
  | wordStart
  | wordEnd
  | seq (first second : Regex)
  | alt (first second : Regex)
  | times (body : Regex) (least : Nat) (most : Option Nat)
  | group (number : Nat) (body : Regex)
  /-- What a group has fitted before. -/
  | again (number : Nat)

instance : Inhabited Regex := ⟨.empty⟩

namespace Regex

/-- Whether an expression refers to what a group has fitted. -/
def hasAgain : Regex → Bool
  | .again _ => true
  | .seq a b => a.hasAgain || b.hasAgain
  | .alt a b => a.hasAgain || b.hasAgain
  | .times a _ _ => a.hasAgain
  | .group _ a => a.hasAgain
  | _ => false

/-- How large an expression is. -/
def size : Regex → Nat
  | .seq a b => a.size + b.size + 1
  | .alt a b => a.size + b.size + 1
  | .times a _ _ => a.size + 1
  | .group _ a => a.size + 1
  | _ => 1

/-- A line that expressions are fitted to. -/
structure Subject where
  text : Array Char
  /-- Whether small and capital letters are the same. -/
  foldsCase : Bool := false
  /-- Whether the line starts before the first character, so that its start does not count. -/
  isInside : Bool := false
  /-- Whether there are several lines, each with a start and an end of its own. -/
  hasLines : Bool := false
deriving DecidableEq, Repr, Inhabited

/-- Whether a character belongs to a word. -/
def isWordChar (c : Char) : Bool := c.isAlphanum || c == '_'

namespace Subject

/-- Whether there is a character of a word at a place. -/
def isWordAt (s : Subject) (place : Nat) : Bool := (s.text[place]?).any isWordChar

/-- Whether there is a character of a word before a place. -/
def isWordBefore (s : Subject) (place : Nat) : Bool := 0 < place && s.isWordAt (place - 1)

/-- Whether a character passes a test, in either case if that does not matter. -/
def passes (s : Subject) (test : Char → Bool) (c : Char) : Bool :=
  test c || (s.foldsCase && (test c.toLower || test c.toUpper))

/-- Whether the character at a place passes a test. -/
def passesAt (s : Subject) (test : Char → Bool) (place : Nat) : Bool :=
  (s.text[place]?).any (s.passes test)

/-- Whether a line ends at a place, with more behind it. -/
def isBreakAt (s : Subject) (place : Nat) : Bool := s.hasLines && s.text[place]? == some '\n'

/-- Whether a place is as an expression without width asks. -/
def holdsAt (s : Subject) (place : Nat) : Regex → Bool
  | .start => (place == 0 && !s.isInside) || (0 < place && s.isBreakAt (place - 1))
  | .finish => place == s.text.size || s.isBreakAt place
  | .wordEdge isThere => (s.isWordBefore place != s.isWordAt place) == isThere
  | .wordStart => !s.isWordBefore place && s.isWordAt place
  | .wordEnd => s.isWordBefore place && !s.isWordAt place
  | _ => true

end Subject

/-! ## Where parts end -/

/-- Puts numbers together, each one once. -/
def union (a b : List Nat) : List Nat := a ++ b.filter (!a.contains ·)

/-- Repeats a step from places until there is nothing new, so many times at most. -/
def closure (step : List Nat → List Nat) : Nat → List Nat → List Nat → List Nat
  | 0, found, _ => found
  | fuel + 1, found, new =>
    let next := (step new).filter (!found.contains ·)
    if next.isEmpty then found else closure step fuel (found ++ next) next

/-- Repeats a step so many times. -/
def iterate (step : List Nat → List Nat) : Nat → List Nat → List Nat
  | 0, places => places
  | count + 1, places => if places.isEmpty then [] else iterate step count (step places)

/-- Repeats a step at most so many times; gives all places on the way. -/
def upTo (step : List Nat → List Nat) : Nat → List Nat → List Nat
  | 0, places => places
  | count + 1, places =>
    if places.isEmpty then [] else union places (upTo step count (step places))

/-- Where the parts end that an expression fits and that start at one of some places. -/
def ends (s : Subject) : Regex → List Nat → List Nat
  | .empty, places => places
  | .char c, places => (places.filter (s.passesAt (· == c))).map (· + 1)
  | .any, places => (places.filter (· < s.text.size)).map (· + 1)
  | .set test, places => (places.filter (s.passesAt test)).map (· + 1)
  | .start, places => places.filter (s.holdsAt · .start)
  | .finish, places => places.filter (s.holdsAt · .finish)
  | .wordEdge isThere, places => places.filter (s.holdsAt · (.wordEdge isThere))
  | .wordStart, places => places.filter (s.holdsAt · .wordStart)
  | .wordEnd, places => places.filter (s.holdsAt · .wordEnd)
  | .seq a b, places => ends s b (ends s a places)
  | .alt a b, places => union (ends s a places) (ends s b places)
  | .times a least most, places =>
    let first := iterate (ends s a) least places
    match most with
    | none => closure (ends s a) (s.text.size + 1) first first
    | some most => upTo (ends s a) (most - least) first
  | .group _ a, places => ends s a places
  | .again _, places => places

/-! ## What groups fit -/

/-- What groups have fitted: their numbers with where it starts and ends. -/
abbrev Captures := List (Nat × Nat × Nat)

/-- Whether a part of a line is repeated at a place. -/
def isRepeated (s : Subject) (first last place : Nat) : Bool :=
  (List.range (last - first)).all fun k =>
    match s.text[first + k]?, s.text[place + k]? with
    | some a, some b => s.passes (· == a) b
    | _, _ => false

/-- Fits an expression from a place on, trying more before less, and goes on with where it ends and
what groups have fitted. -/
def fit (s : Subject) : Nat → Regex → Nat → Captures → (Nat → Captures → Option Captures) →
    Option Captures
  | 0, _, _, _, _ => none
  | fuel + 1, r, place, found, next =>
    match r with
    | .empty => next place found
    | .char c => if s.passesAt (· == c) place then next (place + 1) found else none
    | .any => if place < s.text.size then next (place + 1) found else none
    | .set test => if s.passesAt test place then next (place + 1) found else none
    | .seq a b => fit s fuel a place found fun place found => fit s fuel b place found next
    | .alt a b => match fit s fuel a place found next with
      | some result => some result
      | none => fit s fuel b place found next
    | .group n a => fit s fuel a place found fun last found =>
        next last ((n, place, last) :: found.filter (·.1 != n))
    | .again n => match found.lookup n with
      | some (first, last) =>
        if isRepeated s first last place then next (place + (last - first)) found else none
      | none => none
    | .times a least most =>
      let more := match most with
        | some 0 => none
        | _ => fit s fuel a place found fun last found =>
          if last == place && least == 0 then none
          else fit s fuel (.times a (least - 1) (most.map (· - 1))) last found next
      match more with
      | some result => some result
      | none => if least == 0 then next place found else none
    | edge => if s.holdsAt place edge then next place found else none
termination_by structural fuel => fuel

/-- A bound on how deep an expression is fitted. -/
def depth (s : Subject) (r : Regex) : Nat := (s.text.size + 2) * (r.size + 2) + 100

/-- A part of a line that an expression fits. -/
structure Match where
  first : Nat
  last : Nat
  groups : Captures := []
deriving DecidableEq, Repr, Inhabited

/-- The part that starts at a place, if there is one. -/
def matchAt (s : Subject) (r : Regex) (place : Nat) : Option Match :=
  let with? := fun (last : Nat) =>
    (fit s (depth s r) r place [] fun e found => if e == last then some found else none).map
      fun groups => { first := place, last, groups : Match }
  if r.hasAgain then
    ((List.range (s.text.size + 1 - place)).map (s.text.size - ·)).findSome? with?
  else match (ends s r [place]).max? with
    | some last => with? last
    | none => none

/-- The first part at or after a place. -/
def search (s : Subject) (r : Regex) (place : Nat) : Option Match :=
  ((List.range (s.text.size + 1 - place)).map (· + place)).findSome? (matchAt s r)

/-- Whether an expression fits any part of a line. -/
def occurs (s : Subject) (r : Regex) : Bool :=
  if r.hasAgain then (search s r 0).isSome
  else !(ends s r (List.range (s.text.size + 1))).isEmpty

/-- The text of a part. -/
def Subject.part (s : Subject) (first last : Nat) : List Char := (s.text.extract first last).toList

/-- The text that a group has fitted. -/
def Match.group (m : Match) (s : Subject) (number : Nat) : List Char :=
  if number == 0 then s.part m.first m.last
  else match m.groups.lookup number with
    | some (first, last) => s.part first last
    | none => []

end Regex

end Deadwood
