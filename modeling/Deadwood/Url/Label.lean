import Deadwood.Text.Combining
import Deadwood.Text.Composition
import Deadwood.Text.Direction
import Deadwood.Text.Joining
import Deadwood.Text.Mark
import Deadwood.Url.Folding
import Deadwood.Url.Punycode

/-!
# Labels

A name of a host is a list of labels with full stops between them. A label with characters beyond
ASCII has to keep some rules, and is written in ASCII with four characters before it that say so.
-/

namespace Deadwood.Url

/-- A text with every character folded and in composed normal form, if all of them are allowed. -/
def foldText? (cs : List Char) : Option (List Char) :=
  (cs.mapM fun c => fold? c.toNat).map fun xs =>
    (Text.Composition.normalize xs.flatten).map Char.ofNat

/-- Whether an ASCII character may not stand in a name: controls, the blank, and signs that part
URLs. -/
def isDenied (c : Char) : Bool :=
  c.toNat ≤ 0x20 || c.toNat == 0x7F ||
    ['%', '#', '/', ':', '<', '>', '?', '@', '[', '\\', ']', '^', '|'].contains c

/-- A label as it is shown, and as it is written in ASCII. -/
structure Label where
  shown : List Char
  ascii : List Char
deriving DecidableEq, Repr, Inhabited

namespace Label

/-- What stands before a label that is written in ASCII but has other characters. -/
def mark : List Char := ['x', 'n', '-', '-']

/-! ## Joiners -/

/-- The character that keeps letters apart. -/
def nonJoiner : Char := Char.ofNat 0x200C

/-- The character that joins letters. -/
def joiner : Char := Char.ofNat 0x200D

/-- Whether the nearest character that is not passed over has one of two joining types. -/
def meets (a b : Text.JoiningType) (cs : List Char) : Bool :=
  match (cs.map fun c => Text.joiningType c.toNat).dropWhile (· == .transparent) with
  | t :: _ => t == a || t == b
  | [] => false

/-- Whether the joiners in a text are where they may be: behind a virama, and one that keeps letters
apart also between letters that would join. `before` is what precedes the text, in reverse. -/
def joinersFit (before : List Char) : List Char → Bool
  | [] => true
  | c :: rest =>
    let behindVirama := before.head?.any fun d => Text.isVirama d.toNat
    (if c == nonJoiner then behindVirama || (meets .left .both before && meets .right .both rest)
      else if c == joiner then behindVirama
      else true) && joinersFit (c :: before) rest

/-! ## Directions -/

/-- The directions of the characters of a text. -/
def directions (cs : List Char) : List Text.Direction := cs.map fun c => Text.direction c.toNat

/-- Whether a text has characters that are written from right to left. -/
def hasRightToLeft (cs : List Char) : Bool :=
  (directions cs).any [.right, .arabic, .arabicNumber].contains

/-- The direction of the last character that is not a mark. -/
def lastDirection? (ds : List Text.Direction) : Option Text.Direction :=
  (ds.reverse.dropWhile (· == .mark)).head?

/-- Whether a label can be read in one way only beside labels that are written from right to left:
it starts with a letter and keeps to its direction. -/
def directionsFit (cs : List Char) : Bool :=
  let ds := directions cs
  let anywhere : List Text.Direction :=
    [.number, .numberSign, .numberSeparator, .numberTerminator, .neutral, .boundary, .mark]
  match ds.head? with
  | none => true
  | some .left =>
    ds.all (fun d => d == .left || anywhere.contains d) &&
      (lastDirection? ds).any fun d => d == .left || d == .number
  | some first =>
    let rightward : List Text.Direction := [.right, .arabic, .arabicNumber]
    (first == .right || first == .arabic) &&
      ds.all (fun d => rightward.contains d || anywhere.contains d) &&
      ((lastDirection? ds).any fun d => rightward.contains d || d == .number) &&
      !(ds.contains .number && ds.contains .arabicNumber)

/-! ## Reading -/

/-- How many characters a label can have that is not all ASCII. -/
def sizeLimit : Nat := 1000

/-- How long a label can be that is written in ASCII but has other characters, without its mark. -/
def writtenLimit : Nat := 2000

/-- Whether a label with characters beyond ASCII keeps the rules: it is not too
long, starts with no mark, and its joiners are where they may be. -/
def isSound (cs : List Char) : Bool :=
  cs.length ≤ sizeLimit && !(cs.head?.any fun c => Text.isMark c.toNat) && joinersFit [] cs

/-- The label that a folded text is, if it is one. -/
def ofList? (cs : List Char) : Option Label :=
  let marked := mark.isPrefixOf cs
  if cs.any isDenied then none
  else if cs.all Punycode.isAscii then
    if !marked then some ⟨cs, cs⟩
    else if writtenLimit < cs.length - mark.length then none
    else match Punycode.decode? (cs.drop mark.length) with
      | none => none
      | some shown =>
        if !shown.all Punycode.isAscii && foldText? shown == some shown && isSound shown then
          some ⟨shown, cs⟩
        else none
  else if marked || !isSound cs then none
  else some ⟨cs, mark ++ Punycode.encode cs⟩

end Label

end Deadwood.Url
