import Deadwood.Text.Octets

/-!
# Names in messages

Names are shown as one would write them for a shell, or between quotation marks with escapes.
-/

namespace Deadwood.Utility

/-- The escape of a character that cannot be shown. -/
def escapeText (c : Char) : List Char :=
  match c with
  | '\x07' => ['\\', 'a']
  | '\x08' => ['\\', 'b']
  | '\x0c' => ['\\', 'f']
  | '\n' => ['\\', 'n']
  | '\r' => ['\\', 'r']
  | '\t' => ['\\', 't']
  | '\x0b' => ['\\', 'v']
  | _ =>
    let digits := Nat.toDigits 8 c.toNat
    '\\' :: (List.replicate (3 - digits.length) '0' ++ digits)

/-- Whether a character can be shown. -/
def isShown (c : Char) : Bool := ' ' ≤ c && c ≤ '~'

/-- The characters that mean something to a shell. -/
def shellChars : List Char := " !\"$&()*;<>?[\\^|='\x60".toList

/-- Whether a name has to be quoted for a shell. -/
def needsQuotes (cs : List Char) : Bool :=
  cs.isEmpty || cs == ['\x7b'] || cs == ['\x7d'] || cs.head? == some '~' || cs.head? == some '#' ||
    cs.any fun c => !isShown c || shellChars.contains c

/-- The characters of a quoted name; `isEscaping` says whether escapes are being written. -/
def quoteChars : Bool → List Char → List Char
  | _, [] => ['\x27']
  | isEscaping, c :: rest =>
    if !isShown c then
      (if isEscaping then [] else ['\x27', '$', '\x27']) ++ escapeText c ++ quoteChars true rest
    else if c == '\x27' then ['\x27', '\\', '\x27', '\x27'] ++ quoteChars false rest
    else (if isEscaping then ['\x27', '\x27'] else []) ++ c :: quoteChars false rest

/-- A name in quotation marks of a shell. -/
def shellQuoted (s : String) : String :=
  let cs := s.toList
  let isPlain := fun (c : Char) => isShown c && !"$\x60\"\\!".toList.contains c
  String.ofList (if cs.contains '\x27' && cs.all isPlain then '"' :: cs ++ ['"']
    else '\x27' :: quoteChars false cs)

/-- A name, quoted only if that is needed. -/
def shownName (s : String) : String :=
  if needsQuotes s.toList || s.toList.contains ':' then shellQuoted s else s

/-- A text in quotation marks with escapes. -/
def quoted (s : String) : String :=
  "\x27" ++ String.ofList (s.toList.flatMap fun c =>
    if c == '\x27' || c == '\\' then ['\\', c]
    else if isShown c then [c]
    else escapeText c) ++ "\x27"

end Deadwood.Utility
