/-!
# Durations

A span of time in nanoseconds and the text by which messages show it: in the largest unit of
seconds, milliseconds, microseconds and nanoseconds that makes it at least one, the fraction in
full and without zeros at its end.
-/

namespace Deadwood

/-- A span of time. -/
structure Duration where
  nanos : Nat
deriving DecidableEq, Repr, Inhabited

namespace Duration

/-- A span of whole seconds. -/
def ofSecs (n : Nat) : Duration := ⟨n * 1000000000⟩

/-- A span of whole milliseconds. -/
def ofMillis (n : Nat) : Duration := ⟨n * 1000000⟩

/-- The fraction part of a text: the point and the digits of `part / 10 ^ places`, without zeros at
the end; nothing if the part is zero. -/
def fraction (part places : Nat) : List Char :=
  let digits := Nat.toDigits 10 part
  let padded := List.replicate (places - digits.length) '0' ++ digits
  let kept := (padded.reverse.dropWhile (· == '0')).reverse
  if kept.isEmpty then [] else '.' :: kept

/-- A count of units with `10 ^ places` nanoseconds each. -/
def inUnit (d : Duration) (places : Nat) (unit : String) : String :=
  let size := Nat.pow 10 places
  String.ofList (Nat.toDigits 10 (d.nanos / size) ++ fraction (d.nanos % size) places) ++ unit

/-- The text of a duration in messages. -/
def toText (d : Duration) : String :=
  if d.nanos ≥ 1000000000 then d.inUnit 9 "s"
  else if d.nanos ≥ 1000000 then d.inUnit 6 "ms"
  else if d.nanos ≥ 1000 then d.inUnit 3 "µs"
  else d.inUnit 0 "ns"

end Duration

end Deadwood
