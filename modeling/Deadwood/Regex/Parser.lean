import Deadwood.Regex.Basic
import Deadwood.Shell.Glob

/-!
# Reading regular expressions

Expressions come in two ways of writing. In the basic one brackets and bars have a meaning behind a
backslash, in the extended one without it.
-/

namespace Deadwood.Regex

open Shell (classTest?)

/-- What is wrong with an expression. -/
inductive Mistake where
  | openBracket
  | openGroup
  | closedGroup
  | openCount
  | badCount
  | badRange
  | badClass
  | badReference
  | trailingBackslash
  | nothingToRepeat
deriving DecidableEq, Repr, Inhabited

/-- The words for a mistake. -/
def Mistake.words : Mistake → String
  | .openBracket => "Unmatched [, [^, [:, [., or [="
  | .openGroup => "Unmatched ( or \\("
  | .closedGroup => "Unmatched ) or \\)"
  | .openCount => "Unmatched \\\x7b"
  | .badCount => "Invalid content of \\\x7b\\\x7d"
  | .badRange => "Invalid range end"
  | .badClass => "Invalid character class name"
  | .badReference => "Invalid back reference"
  | .trailingBackslash => "Trailing backslash"
  | .nothingToRepeat => "Invalid preceding regular expression"

/-! ## Sets -/

/-- A name between marks in front of a text, and what follows it. -/
def marked? (mark : Char) (cs : List Char) : Option (List Char × List Char) :=
  let name := cs.takeWhile (· != mark)
  match cs.drop name.length with
  | _ :: ']' :: rest => some (name, rest)
  | _ => none

/-- Reads what a set holds, up to its end. -/
def readSet : Nat → Bool → (Char → Bool) → List Char → Except Mistake ((Char → Bool) × List Char)
  | 0, _, _, _ => .error .openBracket
  | fuel + 1, isFirst, test, cs =>
    match cs with
    | [] => .error .openBracket
    | ']' :: rest =>
      if isFirst then readRange fuel test ']' rest else .ok (test, rest)
    | '[' :: ':' :: rest =>
      match marked? ':' rest with
      | none => .error .openBracket
      | some (name, rest) =>
        match classTest? (String.ofList name) with
        | none => .error .badClass
        | some inClass => readSet fuel false (fun c => test c || inClass c) rest
    | '[' :: '=' :: rest =>
      match marked? '=' rest with
      | some ([c], rest) => readSet fuel false (fun d => test d || d == c) rest
      | _ => .error .openBracket
    | '[' :: '.' :: rest =>
      match marked? '.' rest with
      | some ([c], rest) => readRange fuel test c rest
      | _ => .error .openBracket
    | c :: rest => readRange fuel test c rest
where
  /-- Goes on behind a character, which may begin a range. -/
  readRange (fuel : Nat) (test : Char → Bool) (c : Char) (rest : List Char) :
      Except Mistake ((Char → Bool) × List Char) :=
    match fuel with
    | 0 => .error .openBracket
    | fuel + 1 =>
      match rest with
      | '-' :: ']' :: _ => readSet fuel false (fun d => test d || d == c) rest
      | '-' :: e :: after =>
        let (last, after) := match e, after with
          | '[', '.' :: more =>
            match marked? '.' more with
            | some ([d], more) => (d, more)
            | _ => (e, after)
          | _, _ => (e, after)
        if last < c then .error .badRange
        else readSet fuel false (fun d => test d || (c ≤ d && d ≤ last)) after
      | _ => readSet fuel false (fun d => test d || d == c) rest

/-- Reads a set from behind its opening bracket. -/
def readBracket (cs : List Char) : Except Mistake (Regex × List Char) := do
  let (isNegated, body) := match cs with
    | '^' :: rest => (true, rest)
    | _ => (false, cs)
  let (test, rest) ← readSet (2 * cs.length + 2) true (fun _ => false) body
  .ok (.set fun c => test c != isNegated, rest)

/-! ## Expressions -/

/-- What has been read of an expression. -/
structure Draft where
  /-- How many groups there have been. -/
  groups : Nat := 0
  /-- How many of them are open. -/
  opened : Nat := 0
deriving DecidableEq, Repr, Inhabited

/-- The count in curly brackets, read from behind the opening one. -/
def readCount (isExtended : Bool) (cs : List Char) :
    Except Mistake (Nat × Option Nat × List Char) :=
  let number := fun (digits : List Char) => digits.foldl (fun n c => 10 * n + (c.toNat - 48)) 0
  let first := cs.takeWhile Char.isDigit
  let rest := cs.drop first.length
  let (range, rest) := match rest with
    | ',' :: more =>
      let second := more.takeWhile Char.isDigit
      ((number first, if second.isEmpty then none else some (number second)),
        more.drop second.length)
    | _ => ((number first, some (number first)), rest)
  let isOdd := (first.isEmpty && range.2.isNone && cs.head? != some ',') ||
    range.2.any (· < range.1)
  let isMissing := first.isEmpty && cs.head? != some ','
  match rest, isExtended with
  | '\x7d' :: after, true =>
    if isOdd || isMissing then .error .badCount else .ok (range.1, range.2, after)
  | '\\' :: '\x7d' :: after, false =>
    if isOdd || isMissing then .error .badCount else .ok (range.1, range.2, after)
  | [], _ => .error .openCount
  | _, _ => .error .badCount

/-- What repeats the expression before it: how often, and what follows. -/
def repeater? (isExtended : Bool) (cs : List Char) :
    Option (Except Mistake (Nat × Option Nat × List Char)) :=
  match cs, isExtended with
  | '*' :: rest, _ => some (.ok (0, none, rest))
  | '+' :: rest, true => some (.ok (1, none, rest))
  | '?' :: rest, true => some (.ok (0, some 1, rest))
  | '\\' :: '+' :: rest, false => some (.ok (1, none, rest))
  | '\\' :: '?' :: rest, false => some (.ok (0, some 1, rest))
  | '\\' :: '\x7b' :: rest, false => some (readCount false rest)
  | '\x7b' :: rest, true =>
    match readCount true rest with
    | .ok found => some (.ok found)
    | .error _ => none
  | _, _ => none

/-- Whether a character is a blank. -/
def isSpaceChar (c : Char) : Bool := c == ' ' || ('\t' ≤ c && c ≤ '\r')

/-- What a letter behind a backslash stands for in both ways of writing. -/
def escape? : Char → Option Regex
  | 'w' => some (.set isWordChar)
  | 'W' => some (.set fun c => !isWordChar c)
  | 's' => some (.set isSpaceChar)
  | 'S' => some (.set fun c => !isSpaceChar c)
  | 'b' => some (.wordEdge true)
  | 'B' => some (.wordEdge false)
  | '<' => some .wordStart
  | '>' => some .wordEnd
  | '\x60' => some .start
  | '\x27' => some .finish
  | 'n' => some (.char '\n')
  | 't' => some (.char '\t')
  | _ => none

/-- Whether nothing but the end of a branch follows. -/
def isBranchEnd (isExtended : Bool) : List Char → Bool
  | [] => true
  | '\\' :: ')' :: _ => !isExtended
  | '\\' :: '|' :: _ => !isExtended
  | ')' :: _ => isExtended
  | '|' :: _ => isExtended
  | _ => false

mutual

/-- Reads branches with bars between them. -/
def readBranches (isExtended : Bool) : Nat → Draft → List Char →
    Except Mistake (Regex × Draft × List Char)
  | 0, _, _ => .error .openGroup
  | fuel + 1, d, cs => do
    let (first, d, rest) ← readBranch isExtended fuel d .empty true cs
    let bar? := match rest, isExtended with
      | '|' :: more, true => some more
      | '\\' :: '|' :: more, false => some more
      | _, _ => none
    match bar? with
    | some more =>
      let (second, d, rest) ← readBranches isExtended fuel d more
      .ok (.alt first second, d, rest)
    | none => .ok (first, d, rest)
termination_by structural fuel => fuel

/-- Reads a branch behind what has been read of it. -/
def readBranch (isExtended : Bool) : Nat → Draft → Regex → Bool → List Char →
    Except Mistake (Regex × Draft × List Char)
  | 0, _, _, _, _ => .error .openGroup
  | fuel + 1, d, before, isStart, cs => do
    let isClosing : Bool := match cs, isExtended with
      | ')' :: _, true => decide (0 < d.opened)
      | '\\' :: ')' :: _, false => true
      | '|' :: _, true => true
      | '\\' :: '|' :: _, false => true
      | [], _ => true
      | _, _ => false
    if isClosing then .ok (before, d, cs)
    else
      let (item, d, rest) ← readItem isExtended fuel d isStart cs
      let isAnchor := match item with
        | .start => true
        | _ => false
      let (item, rest) ← readRepeats isExtended fuel (isAnchor && !isExtended) item rest
      readBranch isExtended fuel d (.seq before item) (isAnchor && isStart) rest
termination_by structural fuel => fuel

/-- Reads how often an expression is repeated. -/
def readRepeats (isExtended : Bool) : Nat → Bool → Regex → List Char →
    Except Mistake (Regex × List Char)
  | 0, _, item, rest => .ok (item, rest)
  | fuel + 1, isFixed, item, rest =>
    if isFixed then .ok (item, rest)
    else match repeater? isExtended rest with
      | none => .ok (item, rest)
      | some (.error e) => .error e
      | some (.ok (least, most, after)) =>
        readRepeats isExtended fuel false (.times item least most) after
termination_by structural fuel => fuel

/-- Reads one expression that can be repeated. -/
def readItem (isExtended : Bool) : Nat → Draft → Bool → List Char →
    Except Mistake (Regex × Draft × List Char)
  | 0, _, _, _ => .error .openGroup
  | fuel + 1, d, isStart, cs =>
    let group := fun (rest : List Char) => do
      let number := d.groups + 1
      let inner := { groups := number, opened := d.opened + 1 }
      let (body, inner, after) ← readBranches isExtended fuel inner rest
      let closed? := match after, isExtended with
        | ')' :: more, true => some more
        | '\\' :: ')' :: more, false => some more
        | _, _ => none
      match closed? with
      | some more => .ok (.group number body, { inner with opened := d.opened }, more)
      | none => .error .openGroup
    match cs, isExtended with
    | [], _ => .ok (.empty, d, [])
    | '[' :: rest, _ => do
      let (found, rest) ← readBracket rest
      .ok (found, d, rest)
    | '.' :: rest, _ => .ok (.any, d, rest)
    | '^' :: rest, true => .ok (.start, d, rest)
    | '^' :: rest, false => .ok (if isStart then .start else .char '^', d, rest)
    | '$' :: rest, true => .ok (.finish, d, rest)
    | '$' :: rest, false => .ok (if isBranchEnd false rest then .finish else .char '$', d, rest)
    | '(' :: rest, true => group rest
    | '\\' :: '(' :: rest, false => group rest
    | '\\' :: '\x7b' :: _, false =>
      if isStart then .error .nothingToRepeat else .ok (.char '\x7b', d, cs.drop 2)
    | ['\\'], _ => .error .trailingBackslash
    | '\\' :: c :: rest, _ =>
      if '1' ≤ c && c ≤ '9' then
        let n := c.toNat - 48
        if n ≤ d.groups then .ok (.again n, d, rest) else .error .badReference
      else .ok ((escape? c).getD (.char c), d, rest)
    | c :: rest, _ => .ok (.char c, d, rest)
termination_by structural fuel => fuel

end

/-- The expression that a text stands for, with how many groups it has. -/
def read (isExtended : Bool) (cs : List Char) : Except Mistake (Regex × Nat) := do
  let (r, d, rest) ← readBranches isExtended (4 * cs.length + 8) {} cs
  match rest with
  | [] => .ok (r, d.groups)
  | _ => .error .closedGroup

/-- The expression that fits a text as it is. -/
def ofText (cs : List Char) : Regex := cs.foldr (fun c r => .seq (.char c) r) .empty

end Deadwood.Regex
