import Deadwood.Text.StepTable

/-!
# Addresses of hosts

A host can be given by its address: a number of thirty-two bits in up to four parts, each in base
eight, ten or sixteen, or eight numbers of sixteen bits in brackets, of which a run of zeros can be
left out and the last two can be written in the first way.
-/

namespace Deadwood.Url.Address

/-! ## Short addresses -/

/-- The value of a digit of base sixteen, in either case. -/
def digitValue? (c : Char) : Option Nat :=
  if c.isDigit then some (c.toNat - 48)
  else if 'a' ≤ c && c ≤ 'f' then some (c.toNat - 87)
  else if 'A' ≤ c && c ≤ 'F' then some (c.toNat - 55)
  else none

/-- The number that digits of a base stand for. -/
def digits? (base : Nat) (cs : List Char) : Option Nat :=
  cs.foldlM (fun n c =>
    (digitValue? c).bind fun d => if d < base then some (n * base + d) else none)
    0

/-- The number that a part of an address stands for. Base sixteen is marked by a zero and an x, and
base eight by a zero. -/
def part? (cs : List Char) : Option Nat :=
  match cs with
  | [] => none
  | '0' :: 'x' :: rest => digits? 16 rest
  | '0' :: 'X' :: rest => digits? 16 rest
  | '0' :: d :: rest => digits? 8 (d :: rest)
  | _ => digits? 10 cs

/-- The parts of a name, without an empty one at its end. -/
def parts (cs : List Char) : List (List Char) :=
  let all := Text.splitAt '.' cs
  if all.getLast? == some [] then all.dropLast else all

/-- Whether a name has to be an address, because its last part is a number. -/
def endsInNumber (cs : List Char) : Bool :=
  match (parts cs).getLast? with
  | none => false
  | some last => (!last.isEmpty && last.all Char.isDigit) || (part? last).isSome

/-- The address of a name: the last part stands for all bytes that the others leave. -/
def short? (cs : List Char) : Option Nat :=
  match (parts cs).mapM part? with
  | none => none
  | some numbers =>
    match numbers.reverse with
    | [] => none
    | last :: before =>
      if numbers.length > 4 || before.any (· > 255) || Nat.pow 256 (5 - numbers.length) ≤ last then none
      else some (before.reverse.foldl (fun n part => n * 256 + part) 0 * Nat.pow 256 (5 - numbers.length)
        + last)

/-- An address in four parts. -/
def shortText (n : Nat) : List Char :=
  ['.'].intercalate ((List.range 4).map fun k => Nat.toDigits 10 (n / Nat.pow 256 (3 - k) % 256))

/-! ## Long addresses -/

/-- A number of up to three digits, not above 255 and without a zero before other digits. -/
def byte? (cs : List Char) : Option Nat :=
  match cs with
  | [] => none
  | '0' :: _ :: _ => none
  | _ => if cs.length ≤ 3 && cs.all Char.isDigit then
      let n := Text.ofDecimal cs
      if n ≤ 255 then some n else none
    else none

/-- The two pieces that four bytes make. -/
def bytePieces? (cs : List Char) : Option (List Nat) :=
  match (Text.splitAt '.' cs).mapM byte? with
  | some [a, b, c, d] => some [a * 256 + b, c * 256 + d]
  | _ => none

/-- A piece: up to four digits of base sixteen. -/
def piece? (cs : List Char) : Option Nat :=
  if cs.isEmpty || 4 < cs.length then none else digits? 16 cs

/-- The pieces of a text with colons between them; the last two may be written as bytes. -/
def pieces? : List (List Char) → Option (List Nat)
  | [] => some []
  | [last] => if last.contains '.' then bytePieces? last else (piece? last).map ([·])
  | s :: rest => match piece? s, pieces? rest with
    | some n, some ns => some (n :: ns)
    | _, _ => none

/-- The pieces of a text that may be empty. -/
def side? (cs : List Char) : Option (List Nat) :=
  if cs.isEmpty then some [] else pieces? (Text.splitAt ':' cs)

/-- Parts a text at its first two colons in a row. -/
def splitGap : List Char → Option (List Char × List Char)
  | ':' :: ':' :: rest => some ([], rest)
  | c :: rest => (splitGap rest).map fun (a, b) => (c :: a, b)
  | [] => none

/-- The eight pieces of an address; two colons in a row stand for one or more zeros. Bytes can only
stand at the end. -/
def long? (cs : List Char) : Option (List Nat) :=
  match splitGap cs with
  | none => (side? cs).bind fun ns => if ns.length == 8 then some ns else none
  | some (before, after) =>
    match side? before, side? after with
    | some xs, some ys =>
      if before.contains '.' || 7 < xs.length + ys.length then none
      else some (xs ++ List.replicate (8 - xs.length - ys.length) 0 ++ ys)
    | _, _ => none

/-- The number of zeros at the front. -/
def zeros (ns : List Nat) : Nat := (ns.takeWhile (· == 0)).length

/-- Where the longest run of two or more zeros starts, and its length; the first one of several. -/
def longestGap (ns : List Nat) : Option (Nat × Nat) :=
  let gaps := (List.range ns.length).map fun k => (k, zeros (ns.drop k))
  let best := gaps.foldl (fun best gap => if best.2 < gap.2 then gap else best) (0, 1)
  if 2 ≤ best.2 then some best else none

/-- Pieces with colons between them. -/
def piecesText (ns : List Nat) : List Char := [':'].intercalate (ns.map (Nat.toDigits 16))

/-- An address of eight pieces between brackets. -/
def longText (ns : List Nat) : List Char :=
  '[' :: (match longestGap ns with
    | none => piecesText ns
    | some (start, size) =>
      piecesText (ns.take start) ++ [':', ':'] ++ piecesText (ns.drop (start + size))) ++ [']']

end Deadwood.Url.Address
