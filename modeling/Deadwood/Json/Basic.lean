import Deadwood.Binary64.Basic

/-!
# JSON values

The values of a JSON document. The members of an object are kept in the order of their names,
each name once; adding a member under a name that is present replaces its value.
-/

namespace Deadwood

/-- A JSON number: whole numbers that fit 64 bits stay whole, all others are double precision. -/
inductive Number where
  | whole (n : Int)
  | real (x : Binary64)
deriving DecidableEq, Repr, Inhabited

/-- A JSON value. -/
inductive Json where
  | null
  | bool (b : Bool)
  | number (n : Number)
  | string (s : String)
  | array (items : List Json)
  | object (members : List (String × Json))
deriving Inhabited

namespace Json

/-- The members of an object. -/
abbrev Members := List (String × Json)

namespace Members

/-- The value under a name. -/
def get? (members : Members) (name : String) : Option Json :=
  members.lookup name

/-- Whether there is a value under a name. -/
def has (members : Members) (name : String) : Bool :=
  (members.get? name).isSome

/-- Puts a value under a name, in the place that keeps the names in order. -/
def insert (name : String) (value : Json) : Members → Members
  | [] => [(name, value)]
  | (other, old) :: rest =>
    if name < other then (name, value) :: (other, old) :: rest
    else if name = other then (other, value) :: rest
    else (other, old) :: insert name value rest

/-- The members written one after another, a later value replacing an earlier one. -/
def ofList (pairs : List (String × Json)) : Members :=
  pairs.foldl (fun members p => insert p.1 p.2 members) []

@[simp] theorem get?_nil (name : String) : get? [] name = none := rfl

theorem get?_cons (name other : String) (value : Json) (rest : Members) :
    get? ((other, value) :: rest) name = if name = other then some value else get? rest name := by
  by_cases h : name = other
  · simp [get?, h]
  · have hne : (name == other) = false := beq_false_of_ne h
    simp [get?, List.lookup_cons, hne, h]

end Members

/-- A natural number as a value. -/
def nat (n : Nat) : Json := .number (.whole n)

/-- A text, if the value is one. -/
def asString? : Json → Option String
  | .string s => some s
  | _ => none

/-- The members, if the value is an object. -/
def asObject? : Json → Option Members
  | .object members => some members
  | _ => none

end Json

end Deadwood
