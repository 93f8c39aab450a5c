import Deadwood.Binary64.Layout
import Deadwood.Shell.Arithmetic

/-!
# Printing

Texts with escapes, and templates in which places are filled with arguments, laid out as the
template says. A template is used again as long as arguments are left; a place without an argument
gets nothing, or zero.
-/

namespace Deadwood.Shell

open Text (Layout)

/-! ## Escapes -/

/-- Whether a character is a digit to the base of eight. -/
def isOctal (c : Char) : Bool := '0' ≤ c && c ≤ '7'

/-- The character of octal digits, of which only the last eight bits count. -/
def octalChar (digits : List Char) : Char :=
  Char.ofNat (digits.foldl (fun n c => 8 * n + (c.toNat - 48)) 0 % 256)

/-- The character that an escape stands for, read from behind its backslash, and what follows it. A
backslash that begins no escape stands for itself. -/
def readEscape (cs : List Char) : Char × List Char :=
  match cs with
  | '\\' :: rest => ('\\', rest)
  | 'a' :: rest => ('\x07', rest)
  | 'b' :: rest => ('\x08', rest)
  | 'e' :: rest => ('\x1b', rest)
  | 'f' :: rest => ('\x0c', rest)
  | 'n' :: rest => ('\n', rest)
  | 'r' :: rest => ('\r', rest)
  | 't' :: rest => ('\t', rest)
  | 'v' :: rest => ('\x0b', rest)
  | _ =>
    match (cs.take 3).takeWhile isOctal with
    | [] => ('\\', cs)
    | digits => (octalChar digits, cs.drop digits.length)

/-- A text with its escapes replaced, behind what is done so far, which comes last first; and whether
an escape said that nothing is to follow. -/
def unescape : Nat → List Char → List Char → List Char × Bool
  | 0, done, _ => (done.reverse, false)
  | fuel + 1, done, cs =>
    match cs with
    | [] => (done.reverse, false)
    | '\\' :: 'c' :: _ => (done.reverse, true)
    | '\\' :: '0' :: d :: rest =>
      let (c, rest) := readEscape (if isOctal d then d :: rest else '0' :: d :: rest)
      unescape fuel (c :: done) rest
    | '\\' :: rest =>
      let (c, rest) := readEscape rest
      unescape fuel (c :: done) rest
    | c :: rest => unescape fuel (c :: done) rest

/-- A text with its escapes replaced, and whether nothing is to follow. -/
def unescaped (s : String) : List Char × Bool := unescape (s.length + 1) [] s.toList

/-- Arguments with blanks between them and an end, their escapes replaced. -/
def echoArguments (ending : List Char) : List String → List Char
  | [] => ending
  | [s] =>
    let (cs, stops) := unescaped s
    if stops then cs else cs ++ ending
  | s :: rest =>
    let (cs, stops) := unescaped s
    if stops then cs else cs ++ ' ' :: echoArguments ending rest

/-- What is said for arguments; the first one can ask for no line end. -/
def echoText (arguments : List String) : List Char :=
  match arguments with
  | "-n" :: rest => echoArguments [] rest
  | _ => echoArguments ['\n'] arguments

/-! ## Templates -/

/-- The state of filling a template. -/
structure Filling where
  arguments : List String
  /-- What has been filled in, last character first. -/
  output : List Char := []
  /-- What is to be complained about, last first. -/
  complaints : List String := []
  /-- What made it impossible to go on. -/
  failure : Option String := none
  /-- Whether nothing is to follow. -/
  stops : Bool := false
deriving DecidableEq, Repr, Inhabited

namespace Filling

/-- Adds characters. -/
def add (f : Filling) (cs : List Char) : Filling := { f with output := cs.reverse ++ f.output }

/-- Takes the next argument. -/
def next (f : Filling) : Option String × Filling :=
  match f.arguments with
  | [] => (none, f)
  | a :: rest => (some a, { f with arguments := rest })

/-- Complains about an argument if it could not be read to its end or is out of range. -/
def check (f : Filling) (argument : String) (isRead : Bool) (rest : List Char)
    (isOut : Bool) : Filling :=
  let complaint :=
    if !rest.isEmpty then
      some (if isRead then "not completely converted" else "expected numeric value")
    else if isOut then some "Numerical result out of range"
    else none
  match complaint with
  | some text => { f with complaints := s!"{argument}: {text}" :: f.complaints }
  | none => f

/-- The code of a character that is given behind a quotation mark. -/
def quotedCode? (s : String) : Option Nat :=
  match s.toList with
  | c :: rest =>
    if c == '"' || c == '\x27' then some ((rest.head?.map Char.toNat).getD 0) else none
  | [] => none

/-- The next argument as a number between limits. -/
def nextNumber (f : Filling) (cut : Int → Int) : Int × Filling :=
  match f.next with
  | (none, f) => (0, f)
  | (some s, f) =>
    match quotedCode? s with
    | some code => (code, f)
    | none =>
      match Arithmetic.readSigned? true s.toList with
      | some (n, rest) => (cut n, f.check s true rest (cut n != n))
      | none => (0, f.check s false s.toList false)

/-- The next argument as a number with a sign. -/
def nextSigned (f : Filling) : Int × Filling := f.nextNumber Arithmetic.clamp

/-- The next argument as a number without a sign; a negative one counts from the largest one
down. -/
def nextUnsigned (f : Filling) : Nat × Filling :=
  let limit : Int := Int.pow 2 64 - 1
  let (n, f) := f.nextNumber fun n => if limit < n.natAbs then limit else n
  ((n.emod (Int.pow 2 64)).toNat, f)

/-- The next argument as a double precision number. -/
def nextReal (f : Filling) : Real64 × Filling :=
  match f.next with
  | (none, f) => (.zero, f)
  | (some s, f) =>
    match quotedCode? s with
    | some code => (.ofInt code, f)
    | none =>
      match Real64.read? s.toList with
      | some (x, rest) => (x, f.check s true rest false)
      | none => (.zero, f.check s false s.toList false)

end Filling

/-- Characters that are flags of a place. -/
def layoutFlags : List Char := ['#', '-', '+', ' ', '0']

/-- A number of digits in front of a text. -/
def leadingNumber (cs : List Char) : Nat × List Char :=
  ((cs.takeWhile Char.isDigit).foldl (fun n c => 10 * n + (c.toNat - 48)) 0,
    cs.dropWhile Char.isDigit)

/-- The layout of a place, read from behind its percent sign, and what follows it. -/
def readLayout (f : Filling) (cs : List Char) : Layout × Filling × List Char :=
  let l := (cs.takeWhile layoutFlags.contains).foldl Layout.withFlag {}
  let cs := cs.dropWhile layoutFlags.contains
  let (l, f, cs) := match cs with
    | '*' :: rest =>
      let (n, f) := f.nextSigned
      (l.withWidth n, f, rest)
    | _ =>
      let (n, rest) := leadingNumber cs
      (l.withWidth n, f, rest)
  match cs with
  | '.' :: '*' :: rest =>
    let (n, f) := f.nextSigned
    (l.withPrecision n, f, rest)
  | '.' :: rest =>
    let (n, rest) := leadingNumber rest
    (l.withPrecision n, f, rest)
  | _ => (l, f, cs)

/-- The way of a real number that a letter stands for. -/
def realStyle? (c : Char) : Option RealStyle :=
  match c.toLower with
  | 'f' => some .fixed
  | 'e' => some .scientific
  | 'g' => some .general
  | _ => none

/-- The base that a letter stands for. -/
def base? : Char → Option Nat
  | 'o' => some 8
  | 'u' => some 10
  | 'x' | 'X' => some 16
  | _ => none

/-- Fills one place with the next argument, as its letter says; `source` is how the place was
written. -/
def fillPlace (f : Filling) (l : Layout) (letter : Char) (source : List Char) : Filling :=
  match letter with
  | 's' =>
    let (s, f) := f.next
    f.add (l.text (s.getD "").toList)
  | 'b' =>
    let (s, f) := f.next
    let (cs, stops) := unescaped (s.getD "")
    { f.add (l.text cs) with stops }
  | 'c' =>
    let (s, f) := f.next
    f.add (l.pad [((s.getD "").toList.head?).getD '\x00'])
  | _ =>
    if letter == 'd' || letter == 'i' then
      let (n, f) := f.nextSigned
      f.add (l.whole n)
    else match base? letter, realStyle? letter with
      | some base, _ =>
        let (n, f) := f.nextUnsigned
        f.add (l.unsigned base (letter == 'X') n)
      | none, some style =>
        let (x, f) := f.nextReal
        f.add (x.layOut l style letter.isUpper)
      | none, none => { f with failure := some s!"{String.ofList source}: invalid directive" }

/-- Fills a template once. -/
def fillOnce : Nat → Filling → List Char → Filling
  | 0, f, _ => f
  | fuel + 1, f, cs =>
    if f.stops || f.failure.isSome then f
    else match cs with
      | [] => f
      | '\\' :: rest =>
        let (c, rest) := readEscape rest
        fillOnce fuel (f.add [c]) rest
      | '%' :: '%' :: rest => fillOnce fuel (f.add ['%']) rest
      | '%' :: rest =>
        let (l, f, after) := readLayout f rest
        match after with
        | [] => { f with failure := some "missing format character" }
        | letter :: after =>
          let source := '%' :: rest.take (rest.length - after.length)
          fillOnce fuel (fillPlace f l letter source) after
      | c :: rest => fillOnce fuel (f.add [c]) rest

/-- Fills a template as often as there are arguments for it. -/
def fillAll (template : List Char) : Nat → Filling → Filling
  | 0, f => f
  | fuel + 1, f =>
    let f' := fillOnce (template.length + 1) f template
    if f'.stops || f'.failure.isSome || f'.arguments.isEmpty ||
        f'.arguments.length == f.arguments.length then f'
    else fillAll template fuel f'

/-- A template filled with arguments. -/
def fillTemplate (template : String) (arguments : List String) : Filling :=
  fillAll template.toList (arguments.length + 1) { arguments }

end Deadwood.Shell
