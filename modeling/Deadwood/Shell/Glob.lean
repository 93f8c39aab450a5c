/-!
# Patterns for names

Patterns in which a star stands for any text, a question mark for any character and square brackets
for one of several. A character that was quoted stands for itself.
-/

namespace Deadwood.Shell

/-- A character with a mark that says whether it was quoted. -/
abbrev Marked := Char × Bool

/-- Characters that are named together. -/
def classTest? (name : String) : Option (Char → Bool) :=
  let isBlank := fun (c : Char) => c == ' ' || c == '\t'
  let isGraph := fun (c : Char) => '!' ≤ c && c ≤ '~'
  match name with
  | "alnum" => some Char.isAlphanum
  | "alpha" => some Char.isAlpha
  | "blank" => some isBlank
  | "cntrl" => some fun c => c.toNat < 32 || c.toNat == 127
  | "digit" => some Char.isDigit
  | "graph" => some isGraph
  | "lower" => some Char.isLower
  | "print" => some fun c => isGraph c || c == ' '
  | "punct" => some fun c => isGraph c && !c.isAlphanum
  | "space" => some fun c => isBlank c || ('\n' ≤ c && c ≤ '\r')
  | "upper" => some Char.isUpper
  | "xdigit" => some fun c => c.isDigit || ('a' ≤ c && c ≤ 'f') || ('A' ≤ c && c ≤ 'F')
  | _ => none

/-- One of the things between square brackets. -/
inductive Choice where
  | range (low high : Char)
  | named (name : String)
deriving DecidableEq, Repr, Inhabited

/-- Whether a character is one that is meant. -/
def Choice.accepts (c : Char) : Choice → Bool
  | .range low high => low ≤ c && c ≤ high
  | .named name => (classTest? name).any (· c)

/-- A part of a pattern. -/
inductive GlobItem where
  | only (c : Char)
  | any
  | many
  | among (negated : Bool) (choices : List Choice)
deriving DecidableEq, Repr, Inhabited

/-- A pattern. -/
abbrev Glob := List GlobItem

namespace Glob

/-- Characters in which a backslash that was not quoted has marked what follows it. -/
def tame : List Marked → List Marked
  | ('\\', false) :: (c, _) :: rest => (c, true) :: tame rest
  | ('\\', false) :: [] => [('\\', true)]
  | m :: rest => m :: tame rest
  | [] => []

/-- The name of a class of characters that stands behind a square bracket, and what follows it. -/
def className? (cs : List Marked) : Option (String × List Marked) :=
  match cs with
  | (':', false) :: rest =>
    let name := rest.takeWhile fun m => m.1.isAlpha
    match rest.drop name.length with
    | (':', false) :: (']', false) :: after =>
      let name := String.ofList (name.map Prod.fst)
      if (classTest? name).isSome then some (name, after) else none
    | _ => none
  | _ => none

/-- The first choice between square brackets, and what follows it. -/
def readChoice (cs : List Marked) : Option (Choice × List Marked) :=
  match cs with
  | [] => none
  | m :: rest =>
    match (if m == ('[', false) then className? rest else none) with
    | some (name, rest) => some (.named name, rest)
    | none =>
      match rest with
      | ('-', false) :: high :: after =>
        if high == (']', false) then some (.range m.1 m.1, rest)
        else some (.range m.1 high.1, after)
      | _ => some (.range m.1 m.1, rest)

/-- The choices up to the closing bracket, and what follows it; `fuel` is at least the number of
characters. -/
def readChoices : Nat → List Choice → List Marked → Option (List Choice × List Marked)
  | 0, _, _ => none
  | fuel + 1, done, cs =>
    match cs, done.isEmpty with
    | (']', false) :: rest, false => some (done.reverse, rest)
    | cs, _ => do
      let (choice, rest) ← readChoice cs
      readChoices fuel (choice :: done) rest

/-- Reads a pattern; `fuel` is at least the number of characters. -/
def read : Nat → List Marked → Glob
  | 0, _ => []
  | _ + 1, [] => []
  | fuel + 1, (c, quoted) :: rest =>
    if quoted then .only c :: read fuel rest
    else if c == '*' then .many :: read fuel rest
    else if c == '?' then .any :: read fuel rest
    else if c == '[' then
      let negated := rest.head? == some ('!', false)
      let start := if negated then rest.drop 1 else rest
      match readChoices (start.length + 1) [] start with
      | some (choices, after) => .among negated choices :: read fuel after
      | none => .only c :: read fuel rest
    else .only c :: read fuel rest

/-- The pattern that marked characters stand for. -/
def ofMarked (cs : List Marked) : Glob :=
  let cs := tame cs
  read cs.length cs

/-- Whether a pattern fits a whole text. -/
def accepts : Glob → List Char → Bool
  | [], cs => cs.isEmpty
  | .only d :: g, c :: cs => c == d && accepts g cs
  | .any :: g, _ :: cs => accepts g cs
  | .among negated choices :: g, c :: cs =>
    (choices.any (Choice.accepts c)) != negated && accepts g cs
  | .many :: g, [] => accepts g []
  | .many :: g, c :: cs => accepts g (c :: cs) || accepts (.many :: g) cs
  | _ :: _, [] => false
termination_by g cs => g.length + cs.length

/-- The text without the shortest or longest start that fits. -/
def dropStart (g : Glob) (longest : Bool) (cs : List Char) : List Char :=
  let cuts := List.range (cs.length + 1)
  match (if longest then cuts.reverse else cuts).find? fun k => g.accepts (cs.take k) with
  | some k => cs.drop k
  | none => cs

/-- The text without the shortest or longest end that fits. -/
def dropEnd (g : Glob) (longest : Bool) (cs : List Char) : List Char :=
  let cuts := List.range (cs.length + 1)
  match (if longest then cuts else cuts.reverse).find? fun k => g.accepts (cs.drop k) with
  | some k => cs.take k
  | none => cs

/-- Whether an opening square bracket is closed again. -/
def isClosed (cs : List Marked) : Bool :=
  let cs := if cs.head? == some ('!', false) then cs.drop 1 else cs
  (cs.drop 1).contains (']', false)

/-- Whether characters stand for more than themselves. -/
def isPattern : List Marked → Bool
  | [] => false
  | (c, quoted) :: rest =>
    (!quoted && (c == '*' || c == '?' || (c == '[' && isClosed rest))) || isPattern rest

/-- Parts marked characters at slashes; the part at work comes last first. -/
def splitSlashes (part : List Marked) : List Marked → List (List Marked)
  | [] => [part.reverse]
  | m :: rest =>
    if m.1 == '/' then part.reverse :: splitSlashes [] rest else splitSlashes (m :: part) rest

end Glob

end Deadwood.Shell
