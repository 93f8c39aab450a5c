import Deadwood.Json.Basic
import Deadwood.Binary64.Shortest
import Deadwood.Text.Quoted

/-!
# Reading data out of JSON values

Typed readings of a value, and what is said when the value does not have the wanted form. A
record may be given as an object, where members that are not asked for do not matter, or as the
list of its fields in order, where fields with a default may be missing at the end.
-/

namespace Deadwood.Json

/-! ## Mismatches -/

/-- Why a value does not have the wanted form. -/
inductive Mismatch where
  /-- The value is of another kind. -/
  | kind (found : Json) (expected : String)
  /-- The number is outside the wanted range. -/
  | range (found : Int) (expected : String)
  /-- A field that has to be there is not. -/
  | missing (field : String)
  /-- A field is given under two names. -/
  | duplicate (field : String)
  /-- A record written as a list has the wrong length. -/
  | length (found : Nat) (expected : String)
  /-- The value is of the right kind, but not one of those wanted. -/
  | value (found : Json) (expected : String)
  /-- The text is not one of the names that a field may have as its value. -/
  | unknown (found : String) (expected : String)
  /-- The value has none of the forms that it may have. -/
  | variant (name : String)
deriving Inhabited

/-- How messages name a value that was found in a wrong place. -/
def describe : Json → String
  | .null => "null"
  | .bool true => "boolean `true`"
  | .bool false => "boolean `false`"
  | .number (.whole n) => s!"integer `{n}`"
  | .number (.real x) => s!"floating point `{x.toText}`"
  | .string s => "string " ++ Text.Quoted.quote s
  | .array _ => "sequence"
  | .object _ => "map"

/-- The wording of a mismatch. -/
def Mismatch.message : Mismatch → String
  | .kind found expected => s!"invalid type: {found.describe}, expected {expected}"
  | .range found expected => s!"invalid value: integer `{found}`, expected {expected}"
  | .missing field => s!"missing field `{field}`"
  | .duplicate field => s!"duplicate field `{field}`"
  | .length found expected => s!"invalid length {found}, expected {expected}"
  | .value found expected => s!"invalid value: {found.describe}, expected {expected}"
  | .unknown found expected => s!"unknown variant `{found}`, expected {expected}"
  | .variant name => s!"data did not match any variant of untagged enum {name}"

/-! ## Scalars and lists -/

variable {α : Type}

/-- A reading of a value as data. -/
abbrev Decoder (α : Type) := Json → Except Mismatch α

/-- A text. -/
def stringDecoder : Decoder String
  | .string s => .ok s
  | x => .error (.kind x "a string")

/-- A truth value. -/
def boolDecoder : Decoder Bool
  | .bool b => .ok b
  | x => .error (.kind x "a boolean")

/-- A natural number below `2 ^ bits`, called `name` in messages. -/
def natDecoder (bits : Nat) (name : String) : Decoder Nat
  | .number (.whole n) =>
    if 0 ≤ n ∧ n < Nat.pow 2 bits then .ok n.toNat else .error (.range n name)
  | x => .error (.kind x name)

/-- A natural number of 32 bits. -/
def word32Decoder : Decoder UInt32 := fun x => (natDecoder 32 "u32" x).map UInt32.ofNat

/-- A natural number of 64 bits. -/
def word64Decoder : Decoder UInt64 := fun x => (natDecoder 64 "u64" x).map UInt64.ofNat

/-- A whole number of 32 bits with a sign. -/
def int32Decoder : Decoder Int
  | .number (.whole n) =>
    if -2147483648 ≤ n ∧ n < 2147483648 then .ok n else .error (.range n "i32")
  | x => .error (.kind x "i32")

/-- A list whose items all have one form. -/
def listDecoder (item : Decoder α) : Decoder (List α)
  | .array items => items.mapM item
  | x => .error (.kind x "a sequence")

/-- A value that may be absent, written as null. -/
def optionDecoder (item : Decoder α) : Decoder (Option α)
  | .null => .ok none
  | x => (item x).map some

/-! ## Records -/

/-- A record: read from the members of an object, or from the list of its fields. -/
def recordDecoder (name : String) (members : Members → Except Mismatch α)
    (fields : List Json → Except Mismatch α) : Decoder α
  | .object ms => members ms
  | .array items => fields items
  | x => .error (.kind x ("struct " ++ name))

namespace Members

/-- The value under a name, if there is one, in the wanted form. -/
def read (members : Members) (name : String) (item : Decoder α) : Except Mismatch (Option α) :=
  match members.get? name with
  | none => .ok none
  | some x => (item x).map some

/-- The value under a name in the wanted form; null is the same as no value. -/
def readOption (members : Members) (name : String) (item : Decoder α) :
    Except Mismatch (Option α) :=
  (members.read name (optionDecoder item)).map Option.join

end Members

/-- A field that has to be there. -/
def required (field : String) : Option α → Except Mismatch α
  | some x => .ok x
  | none => .error (.missing field)

namespace Fields

/-- How messages name the form of a record written as a list. -/
def shape (record : String) (size : Nat) : String :=
  let noun := if size == 1 then "element" else "elements"
  s!"struct {record} with {size} {noun}"

/-- The field at a place of a record written as a list. -/
def read (record : String) (size : Nat) (items : List Json) (place : Nat) (item : Decoder α) :
    Except Mismatch α :=
  match items[place]? with
  | some x => item x
  | none => .error (.length place (shape record size))

/-- The field at a place of a record written as a list, or its default if the list is shorter. -/
def readD (items : List Json) (place : Nat) (item : Decoder α) (default : α) :
    Except Mismatch α :=
  match items[place]? with
  | some x => item x
  | none => .ok default

/-- Refuses a list with more items than the record has fields. -/
def noMore (size : Nat) (items : List Json) : Except Mismatch Unit :=
  if items.length ≤ size then .ok () else .error (.length items.length "fewer elements in array")

end Fields

end Deadwood.Json
