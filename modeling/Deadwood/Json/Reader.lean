import Deadwood.Json.Basic
import Deadwood.Json.Fault
import Deadwood.Text.Utf8

/-!
# Reading JSON

One JSON document from its bytes. Every reading takes the bytes that are left and gives back a
value with the bytes after it, or the first fault. Values nest at most 127 deep.
-/

namespace Deadwood.Json

/-- A reading of bytes: the value read and the bytes left, or what is wrong. -/
abbrev Reading (α : Type) := Except Fault (α × List UInt8)

/-- The blanks of JSON: space, tab, line feed and carriage return. -/
def isBlankByte (b : UInt8) : Bool := b == 32 || b == 10 || b == 9 || b == 13

/-- The bytes from the first one that is no blank. -/
def skipBlank (s : List UInt8) : List UInt8 := s.dropWhile isBlankByte

/-- Whether a byte is a decimal digit. -/
def isDigit (b : UInt8) : Bool := 48 ≤ b && b ≤ 57

/-- The value of a decimal digit. -/
def digitValue (b : UInt8) : Nat := b.toNat - 48

/-! ## Words -/

/-- Consumes the given letters. -/
def readLetters : List UInt8 → List UInt8 → Except Fault (List UInt8)
  | [], s => .ok s
  | _ :: _, [] => .error (.here .endInValue [])
  | l :: ls, b :: s => if b == l then readLetters ls s else .error (.here .unknownWord s)

/-- A value spelled by a word whose first letter is already consumed. -/
def readWord (letters : List UInt8) (x : Json) (s : List UInt8) : Reading Json :=
  match readLetters letters s with
  | .error e => .error e
  | .ok rest => .ok (x, rest)

/-! ## Numbers -/

/-- The largest unsigned number of 64 bits. -/
def maxWord : Nat := Nat.pow 2 64 - 1

/-- The digits at the front of the bytes that still fit a word after those read so far: the new
significand, how many digits it took, and the rest, which begins with a digit exactly when that
digit would not fit. -/
def readDigits (significand count : Nat) : List UInt8 → Nat × Nat × List UInt8
  | [] => (significand, count, [])
  | b :: s =>
    let next := significand * 10 + digitValue b
    if isDigit b && next ≤ maxWord then readDigits next (count + 1) s
    else (significand, count, b :: s)

/-- Passes over digits and counts them. -/
def skipDigits (count : Nat) : List UInt8 → Nat × List UInt8
  | [] => (count, [])
  | b :: s => if isDigit b then skipDigits (count + 1) s else (count, b :: s)

/-- The largest power of ten that is a finite double precision number. -/
def maxPower : Nat := 308

/-- The double precision number nearest to a power of ten. -/
def powerOfTen? (power : Nat) : Option Magnitude := Magnitude.ofNat? (Nat.pow 10 power)

/-- Divides again and again by one number; what has become zero stays zero. -/
def divideTimes (step : Magnitude) : Nat → Magnitude → Option Magnitude
  | 0, m => some m
  | n + 1, m => if m.isZero then some m else (m.div? step).bind (divideTimes step n)

/-- Divides by a power of ten, in steps that are finite: all but the last are the largest. -/
def scaleDown (m : Magnitude) (power : Nat) : Option Magnitude := do
  let steps := (power - 1) / maxPower
  let step ← powerOfTen? maxPower
  let last ← powerOfTen? (power - steps * maxPower)
  let m ← divideTimes step steps m
  m.div? last

/-- The double precision number `significand * 10 ^ exponent` by one multiplication or division
of rounded numbers; `none` if it is out of range. -/
def scale (significand : Nat) (exponent : Int) : Option Magnitude := do
  let m ← Magnitude.ofNat? significand
  if 0 ≤ exponent then
    if exponent ≤ maxPower then (powerOfTen? exponent.toNat).bind m.mul?
    else if m.isZero then some m else none
  else scaleDown m exponent.natAbs

/-- Ends the reading of a number at `s` with a double precision value. -/
def finishReal (negative : Bool) (significand : Nat) (exponent : Int) (s : List UInt8) :
    Reading Number :=
  match scale significand exponent with
  | some m => .ok (.real ⟨negative, m⟩, s)
  | none => .error (.here .numberOutOfRange s)

/-- The digits of an exponent after those read so far: the exponent and the rest, or `none` for the
exponent, with the rest from the digit after the one that takes it beyond 31 bits. -/
def readExponentDigits (exponent : Nat) : List UInt8 → Option Nat × List UInt8
  | [] => (some exponent, [])
  | b :: s =>
    if isDigit b then
      let next := exponent * 10 + digitValue b
      if next ≤ Nat.pow 2 31 - 1 then readExponentDigits next s else (none, s)
    else (some exponent, b :: s)

/-- The sign of an exponent, which may be left out. -/
def readSign : List UInt8 → Bool × List UInt8
  | [] => (false, [])
  | b :: s => if b == 43 then (false, s) else if b == 45 then (true, s) else (false, b :: s)

/-- Keeps a number within 32 signed bits. -/
def clamp (n : Int) : Int := max (-Int.pow 2 31) (min n (Int.pow 2 31 - 1))

/-- The exponent of a number after its letter, and with it the number. -/
def readExponent (negative : Bool) (significand : Nat) (start : Int) (s : List UInt8) :
    Reading Number :=
  let (down, s) := readSign s
  match s with
  | [] => .error (.here .endInValue [])
  | b :: s =>
    if !isDigit b then .error (.here .badNumber s)
    else match readExponentDigits (digitValue b) s with
      | (some e, rest) =>
        finishReal negative significand (clamp (if down then start - e else start + e)) rest
      | (none, rest) =>
        if significand != 0 && !down then .error (.here .numberOutOfRange rest)
        else .ok (.real ⟨negative, .zero⟩, (skipDigits 0 rest).2)

/-- Ends a number that may have an exponent. -/
def readTail (negative : Bool) (significand : Nat) (exponent : Int) (s : List UInt8) :
    Reading Number :=
  match s with
  | [] => finishReal negative significand exponent []
  | b :: rest =>
    if b == 101 || b == 69 then readExponent negative significand exponent rest
    else finishReal negative significand exponent (b :: rest)

/-- The fraction of a number after its point, and with it the number. Digits that no longer fit
the significand are dropped. -/
def readFraction (negative : Bool) (significand : Nat) (exponent : Int) (s : List UInt8) :
    Reading Number :=
  let (significand, count, rest) := readDigits significand 0 s
  let (dropped, rest) := skipDigits 0 rest
  if count + dropped == 0 then
    .error (.peek (if rest.isEmpty then .endInValue else .badNumber) rest)
  else readTail negative significand (exponent - count) rest

/-- A number without fraction and exponent: whole if it fits 64 bits with its sign, and not a
negative zero. -/
def wholeNumber (negative : Bool) (significand : Nat) (s : List UInt8) : Reading Number :=
  if !negative then .ok (.whole significand, s)
  else if 0 < significand && significand ≤ Nat.pow 2 63 then .ok (.whole (-(significand : Int)), s)
  else finishReal true significand 0 s

/-- What follows the whole part of a number. -/
def readAfterWhole (negative : Bool) (significand dropped : Nat) (s : List UInt8) :
    Reading Number :=
  match s with
  | [] =>
    if dropped == 0 then wholeNumber negative significand []
    else finishReal negative significand dropped []
  | b :: rest =>
    if b == 46 then readFraction negative significand dropped rest
    else if b == 101 || b == 69 then readExponent negative significand dropped rest
    else if dropped == 0 then wholeNumber negative significand (b :: rest)
    else finishReal negative significand dropped (b :: rest)

/-- A number after its sign. A leading zero stands alone. -/
def readUnsigned (negative : Bool) (s : List UInt8) : Reading Number :=
  match s with
  | [] => .error (.here .endInValue [])
  | b :: s =>
    if !isDigit b then .error (.here .badNumber s)
    else if b == 48 then
      match s with
      | [] => readAfterWhole negative 0 0 []
      | c :: rest =>
        if isDigit c then .error (.peek .badNumber (c :: rest))
        else readAfterWhole negative 0 0 (c :: rest)
    else
      let (significand, _, rest) := readDigits (digitValue b) 1 s
      let (dropped, rest) := skipDigits 0 rest
      readAfterWhole negative significand dropped rest

/-! ## Strings -/

/-- The value of a digit of base sixteen, in either case. -/
def hexValue? (b : UInt8) : Option Nat :=
  if 48 ≤ b && b ≤ 57 then some (b.toNat - 48)
  else if 97 ≤ b && b ≤ 102 then some (b.toNat - 87)
  else if 65 ≤ b && b ≤ 70 then some (b.toNat - 55)
  else none

/-- Four digits of base sixteen. -/
def readHex4 : List UInt8 → Reading Nat
  | a :: b :: c :: d :: s =>
    match hexValue? a, hexValue? b, hexValue? c, hexValue? d with
    | some a, some b, some c, some d => .ok (((a * 16 + b) * 16 + c) * 16 + d, s)
    | _, _, _, _ => .error (.here .badEscape s)
  | _ => .error (.here .endInString [])

/-- Whether a number is in the upper half of the surrogates, which comes second in a pair. -/
def isLowSurrogate (n : Nat) : Bool := 0xDC00 ≤ n && n ≤ 0xDFFF

/-- Whether a number is in the lower half of the surrogates, which comes first in a pair. -/
def isHighSurrogate (n : Nat) : Bool := 0xD800 ≤ n && n ≤ 0xDBFF

/-- Consumes one given byte of an escape. -/
def readEscapeByte (wanted : UInt8) : List UInt8 → Except Fault (List UInt8)
  | [] => .error (.here .endInString [])
  | b :: s => if b == wanted then .ok s else .error (.here .cutEscape s)

/-- A character given by number, after the letter `u`; beyond the first 65536 it is a pair of
surrogates. -/
def readUnicodeEscape (s : List UInt8) : Except Fault (List UInt8 × List UInt8) := do
  let (n, s) ← readHex4 s
  if isLowSurrogate n then .error (.here .loneSurrogate s)
  else if isHighSurrogate n then
    let s ← readEscapeByte 92 s
    let s ← readEscapeByte 117 s
    let (m, s) ← readHex4 s
    if isLowSurrogate m then
      return (Text.Utf8.encodeChar (Char.ofNat (0x10000 + (n - 0xD800) * 1024 + (m - 0xDC00))), s)
    else .error (.here .loneSurrogate s)
  else return (Text.Utf8.encodeChar (Char.ofNat n), s)

/-- An escape after its backslash, as the bytes it stands for. -/
def readEscape : List UInt8 → Reading (List UInt8)
  | [] => .error (.here .endInString [])
  | b :: s =>
    if b == 34 then .ok ([34], s)
    else if b == 92 then .ok ([92], s)
    else if b == 47 then .ok ([47], s)
    else if b == 98 then .ok ([8], s)
    else if b == 102 then .ok ([12], s)
    else if b == 110 then .ok ([10], s)
    else if b == 114 then .ok ([13], s)
    else if b == 116 then .ok ([9], s)
    else if b == 117 then readUnicodeEscape s
    else .error (.here .badEscape s)

/-- Ends a string at its closing quote: its bytes, kept in reverse, have to be well formed. -/
def finishString (done : List UInt8) (s : List UInt8) : Reading String :=
  match Text.Utf8.decodeFront done.reverse with
  | (cs, []) => .ok (String.ofList cs, s)
  | (_, stray) => .error ⟨.badCodePoint, s.length, stray.length⟩

/-- The rest of a string after the bytes already read, which are kept in reverse. The first
argument bounds the number of bytes and escapes still to come. -/
def readStringFrom : Nat → List UInt8 → List UInt8 → Reading String
  | _, _, [] => .error (.here .endInString [])
  | 0, _, s => .error (.here .endInString s)
  | fuel + 1, done, b :: s =>
    if b == 34 then finishString done s
    else if b == 92 then
      match readEscape s with
      | .error e => .error e
      | .ok (bytes, rest) => readStringFrom fuel (bytes.reverse ++ done) rest
    else if b < 32 then .error (.here .controlCharacter s)
    else readStringFrom fuel (b :: done) s

/-- A string after its opening quote. -/
def readString (s : List UInt8) : Reading String := readStringFrom s.length [] s

/-! ## Lists and objects -/

/-- The items of a list from the next one on, after those already read, which are kept in
reverse. The first number bounds how many items follow. -/
def readItems (item : List UInt8 → Reading Json) :
    Nat → List Json → List UInt8 → Reading (List Json)
  | 0, _, s => .error (.peek .endInList s)
  | fuel + 1, done, s =>
    match item s with
    | .error e => .error e
    | .ok (x, s) =>
      match skipBlank s with
      | [] => .error (.peek .endInList [])
      | b :: rest =>
        if b == 93 then .ok ((x :: done).reverse, rest)
        else if b == 44 then
          match skipBlank rest with
          | [] => .error (.peek .endInValue [])
          | c :: next =>
            if c == 93 then .error (.peek .trailingComma (c :: next))
            else readItems item fuel (x :: done) (c :: next)
        else .error (.peek .noListSeparator (b :: rest))

/-- A list after its opening bracket. -/
def readArray (item : List UInt8 → Reading Json) (s : List UInt8) : Reading Json :=
  match skipBlank s with
  | [] => .error (.peek .endInList [])
  | b :: rest =>
    if b == 93 then .ok (.array [], rest)
    else match readItems item s.length [] (b :: rest) with
      | .error e => .error e
      | .ok (items, rest) => .ok (.array items, rest)

/-- One member of an object after the opening quote of its name. -/
def readMember (item : List UInt8 → Reading Json) (s : List UInt8) : Reading (String × Json) :=
  match readString s with
  | .error e => .error e
  | .ok (name, s) =>
    match skipBlank s with
    | [] => .error (.peek .endInObject [])
    | b :: rest =>
      if b == 58 then
        match item rest with
        | .error e => .error e
        | .ok (x, rest) => .ok ((name, x), rest)
      else .error (.peek .noColon (b :: rest))

/-- The members of an object from the opening quote of the next name on, after those already
read. The first number bounds how many members follow. -/
def readMembers (item : List UInt8 → Reading Json) :
    Nat → Members → List UInt8 → Reading Members
  | 0, _, s => .error (.peek .endInObject s)
  | fuel + 1, done, s =>
    match readMember item s with
    | .error e => .error e
    | .ok ((name, x), s) =>
      let done := done.insert name x
      match skipBlank s with
      | [] => .error (.peek .endInObject [])
      | b :: rest =>
        if b == 125 then .ok (done, rest)
        else if b == 44 then
          match skipBlank rest with
          | [] => .error (.peek .endInValue [])
          | c :: next =>
            if c == 34 then readMembers item fuel done next
            else if c == 125 then .error (.peek .trailingComma (c :: next))
            else .error (.peek .keyNotString (c :: next))
        else .error (.peek .noMemberSeparator (b :: rest))

/-- An object after its opening brace. -/
def readObject (item : List UInt8 → Reading Json) (s : List UInt8) : Reading Json :=
  match skipBlank s with
  | [] => .error (.peek .endInObject [])
  | b :: rest =>
    if b == 125 then .ok (.object [], rest)
    else if b == 34 then
      match readMembers item s.length [] rest with
      | .error e => .error e
      | .ok (members, rest) => .ok (.object members, rest)
    else .error (.peek .keyNotString (b :: rest))

/-! ## Values and documents -/

/-- A number as a value. -/
def readNumber (negative : Bool) (s : List UInt8) : Reading Json :=
  match readUnsigned negative s with
  | .error e => .error e
  | .ok (n, rest) => .ok (.number n, rest)

/-- A value with at most `depth` brackets around its innermost part. -/
def readValue (depth : Nat) (s : List UInt8) : Reading Json :=
  match skipBlank s with
  | [] => .error (.peek .endInValue [])
  | b :: rest =>
    if b == 110 then readWord [117, 108, 108] .null rest
    else if b == 116 then readWord [114, 117, 101] (.bool true) rest
    else if b == 102 then readWord [97, 108, 115, 101] (.bool false) rest
    else if b == 45 then readNumber true rest
    else if isDigit b then readNumber false (b :: rest)
    else if b == 34 then
      match readString rest with
      | .error e => .error e
      | .ok (text, rest) => .ok (.string text, rest)
    else if b == 91 then
      match depth with
      | 0 => .error (.peek .tooDeep (b :: rest))
      | depth + 1 => readArray (readValue depth) rest
    else if b == 123 then
      match depth with
      | 0 => .error (.peek .tooDeep (b :: rest))
      | depth + 1 => readObject (readValue depth) rest
    else .error (.peek .noValue (b :: rest))

/-- How many brackets may be open at once. -/
def maxDepth : Nat := 127

/-- The one value that a document consists of. -/
def read (document : List UInt8) : Except Fault Json :=
  match readValue maxDepth document with
  | .error e => .error e
  | .ok (x, rest) =>
    match skipBlank rest with
    | [] => .ok x
    | b :: rest => .error (.peek .trailingCharacters (b :: rest))

end Deadwood.Json
