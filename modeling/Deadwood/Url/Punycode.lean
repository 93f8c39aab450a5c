/-!
# Names of hosts in ASCII letters

A name with other characters is written in ASCII: first its ASCII characters with a dash behind
them, then where the others stand and which they are. The others come in the order of their
numbers, and each is written as the distance from the one before it in the list of all the ways to
put one more character in. A distance is written in digits of a base that changes from place to
place, so that its end can be seen.
-/

namespace Deadwood.Url.Punycode

/-! ## Digits -/

/-- A digit of base thirty-six: the letters, then the ten digits. -/
def digit (n : Nat) : Char := if n < 26 then Char.ofNat (97 + n) else Char.ofNat (22 + n)

/-- The value of a digit of base thirty-six, in either case. -/
def digitValue? (c : Char) : Option Nat :=
  if c.isLower then some (c.toNat - 97)
  else if c.isUpper then some (c.toNat - 65)
  else if c.isDigit then some (c.toNat - 22)
  else none

/-- The value below which the digit at a place ends a number: from 1 to 26. -/
def threshold (place bias : Nat) : Nat := max 1 (min 26 (place - bias))

theorem threshold_pos (place bias : Nat) : 1 ≤ threshold place bias := by
  unfold threshold; omega

/-! ## How the base changes -/

/-- Divides a distance until it is small; counts the places that this takes. -/
def shrink (delta places : Nat) : Nat × Nat :=
  if 455 < delta then shrink (delta / 35) (places + 36) else (delta, places)
termination_by delta
decreasing_by omega

/-- What the base changes to after a distance was written with so many characters in the name. -/
def adapt (delta count : Nat) (first : Bool) : Nat :=
  let delta := if first then delta / 700 else delta / 2
  let (delta, places) := shrink (delta + delta / count) 0
  places + 36 * delta / (delta + 38)

/-- Where the base starts. -/
def firstBias : Nat := 72

/-! ## Writing -/

/-- The digits of a distance, from a place on. -/
def digits (bias place n : Nat) : List Char :=
  let t := threshold place bias
  if n < t then [digit n]
  else digit (t + (n - t) % (36 - t)) :: digits bias (place + 36) ((n - t) / (36 - t))
termination_by n
decreasing_by
  have := threshold_pos place bias
  have := Nat.div_le_self (n - threshold place bias) (36 - threshold place bias)
  omega

/-- What has been written of a name. -/
structure Writing where
  output : List Char := []
  /-- The distance from the last character that was written. -/
  delta : Nat := 0
  bias : Nat := firstBias
  /-- How many characters of the name have been written. -/
  count : Nat

/-- Passes over a character of the name, or writes it if its number is the one at hand. -/
def Writing.pass (ascii number : Nat) (w : Writing) (c : Char) : Writing :=
  if c.toNat < number then { w with delta := w.delta + 1 }
  else if c.toNat == number then
    { output := w.output ++ digits w.bias 36 w.delta
      delta := 0
      bias := adapt w.delta (w.count + 1) (w.count == ascii)
      count := w.count + 1 }
  else w

/-- Writes all characters of a name that have one of the numbers, which come in order; `next` is
the first number that is not passed yet. -/
def Writing.writeAll (name : List Char) (ascii : Nat) : List Nat → Nat → Writing → Writing
  | [], _, w => w
  | number :: rest, next, w =>
    let w := { w with delta := w.delta + (number - next) * (w.count + 1) }
    let w := name.foldl (Writing.pass ascii number) w
    Writing.writeAll name ascii rest (number + 1) { w with delta := w.delta + 1 }

/-- Whether a character is an ASCII one. -/
def isAscii (c : Char) : Bool := c.toNat < 0x80

/-- A name in ASCII. -/
def encode (name : List Char) : List Char :=
  let ascii := name.filter isAscii
  let numbers := ((name.filter (!isAscii ·)).map Char.toNat).mergeSort.eraseDups
  ascii ++ (if ascii.isEmpty then [] else ['-']) ++
    (Writing.writeAll name ascii.length numbers 0x80 { count := ascii.length }).output

/-! ## Reading -/

/-- Reads the digits of a distance from a place on; gives the distance and what follows. -/
def readDigits? (bias : Nat) (place weight sum : Nat) : List Char → Option (Nat × List Char)
  | [] => none
  | c :: rest =>
    match digitValue? c with
    | none => none
    | some d =>
      let t := threshold place bias
      let sum := sum + d * weight
      if d < t then some (sum, rest) else readDigits? bias (place + 36) (weight * (36 - t)) sum rest

theorem length_of_readDigits? {bias place weight sum : Nat} {cs : List Char}
    {r : Nat × List Char} (h : readDigits? bias place weight sum cs = some r) :
    r.2.length < cs.length := by
  induction cs generalizing place weight sum with
  | nil => simp [readDigits?] at h
  | cons c rest ih =>
    rw [readDigits?] at h
    split at h
    · simp at h
    · dsimp only at h
      split at h
      · simp only [Option.some.injEq] at h
        subst h; simp
      · have := ih h
        simp only [List.length_cons]; omega

/-- The character with a number, if there is one. -/
def char? (n : Nat) : Option Char := if n.isValidChar then some (Char.ofNat n) else none

/-- Puts one character after another into a name; `index` is the place in the list of all the ways
to put a character in that the last one left. -/
def readAll? (bias number index : Nat) (name : List Char) (cs : List Char) :
    Option (List Char) :=
  match cs with
  | [] => some name
  | c :: rest =>
    match _h : readDigits? bias 36 1 index (c :: rest) with
    | none => none
    | some (reached, rest') =>
      let count := name.length + 1
      match char? (number + reached / count) with
      | none => none
      | some x =>
        readAll? (adapt (reached - index) count (index == 0)) (number + reached / count)
          (reached % count + 1) (name.insertIdx (reached % count) x) rest'
termination_by cs.length
decreasing_by exact length_of_readDigits? _h

/-- The name that a text in ASCII stands for. -/
def decode? (cs : List Char) : Option (List Char) :=
  let tail := (cs.reverse.takeWhile (· != '-')).reverse
  let ascii := cs.take (cs.length - tail.length - 1)
  if ascii.isEmpty then readAll? firstBias 0x80 0 [] cs
  else readAll? firstBias 0x80 0 ascii tail

end Deadwood.Url.Punycode
