import Deadwood.Json.Basic
import Deadwood.Binary64.Shortest
import Deadwood.Text.Utf8

/-!
# Writing JSON

Two layouts of one value: the compact text on a single line, and the indented text with two
spaces to a level. Both escape quotes, backslashes and control characters and leave every other
character as it is.
-/

namespace Deadwood.Json

/-! ## Scalars -/

/-- A digit of base sixteen, in lower case. -/
def hexDigit (n : Nat) : Char :=
  if n < 10 then Char.ofNat (48 + n) else Char.ofNat (87 + n)

/-- One character as it is written inside a JSON string. -/
def escapeChar (c : Char) : List Char :=
  if c == '"' then ['\\', '"']
  else if c == '\\' then ['\\', '\\']
  else if 0x20 ≤ c.toNat then [c]
  else if c == '\n' then ['\\', 'n']
  else if c == '\r' then ['\\', 'r']
  else if c == '\t' then ['\\', 't']
  else if c.toNat == 8 then ['\\', 'b']
  else if c.toNat == 12 then ['\\', 'f']
  else ['\\', 'u', '0', '0', hexDigit (c.toNat / 16), hexDigit (c.toNat % 16)]

/-- A text as a JSON string. -/
def writeString (s : String) : List Char :=
  '"' :: s.toList.flatMap escapeChar ++ ['"']

/-- A number as JSON. -/
def writeNumber : Number → List Char
  | .whole (.ofNat n) => Nat.toDigits 10 n
  | .whole (.negSucc n) => '-' :: Nat.toDigits 10 (n + 1)
  | .real x => x.toText.toList

/-! ## The compact layout -/

mutual

/-- A value on one line, without blanks. -/
def write : Json → List Char
  | .null => ['n', 'u', 'l', 'l']
  | .bool true => ['t', 'r', 'u', 'e']
  | .bool false => ['f', 'a', 'l', 's', 'e']
  | .number n => writeNumber n
  | .string s => writeString s
  | .array items => '[' :: writeItems items ++ [']']
  | .object members => '\x7b' :: writeMembers members ++ ['\x7d']

/-- The items of a list, divided by commas. -/
def writeItems : List Json → List Char
  | [] => []
  | [x] => write x
  | x :: y :: rest => write x ++ ',' :: writeItems (y :: rest)

/-- The members of an object, divided by commas. -/
def writeMembers : List (String × Json) → List Char
  | [] => []
  | [(name, x)] => writeString name ++ ':' :: write x
  | (name, x) :: y :: rest => writeString name ++ ':' :: write x ++ ',' :: writeMembers (y :: rest)

end

/-- The compact text of a value. -/
def compact (x : Json) : String :=
  String.ofList x.write

/-- The bytes of the compact text of a value. -/
def toBytes (x : Json) : List UInt8 :=
  Text.Utf8.encodeList x.write

/-! ## The indented layout -/

/-- A new line and the blanks of a level. -/
def indent (level : Nat) : List Char :=
  '\n' :: List.replicate (2 * level) ' '

mutual

/-- A value whose first line is already indented to `level`. -/
def writeIndented (level : Nat) : Json → List Char
  | .array [] => ['[', ']']
  | .array (x :: rest) =>
    '[' :: writeIndentedItems (level + 1) (x :: rest) ++ indent level ++ [']']
  | .object [] => ['\x7b', '\x7d']
  | .object (x :: rest) =>
    '\x7b' :: writeIndentedMembers (level + 1) (x :: rest) ++ indent level ++ ['\x7d']
  | x => write x

/-- Items on lines of their own. -/
def writeIndentedItems (level : Nat) : List Json → List Char
  | [] => []
  | [x] => indent level ++ writeIndented level x
  | x :: y :: rest =>
    indent level ++ writeIndented level x ++ ',' :: writeIndentedItems level (y :: rest)

/-- Members on lines of their own. -/
def writeIndentedMembers (level : Nat) : List (String × Json) → List Char
  | [] => []
  | [(name, x)] => indent level ++ writeString name ++ ':' :: ' ' :: writeIndented level x
  | (name, x) :: y :: rest =>
    indent level ++ writeString name ++ ':' :: ' ' :: writeIndented level x ++
      ',' :: writeIndentedMembers level (y :: rest)

end

/-- The indented text of a value. -/
def pretty (x : Json) : String :=
  String.ofList (writeIndented 0 x)

end Deadwood.Json
