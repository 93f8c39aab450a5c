/-!
# Faults in JSON text

Why a document cannot be read, and where. A place is a line and a column, both counted from one,
the column in bytes; the column of a fault is the last byte looked at.
-/

namespace Deadwood.Json

/-- What is wrong with a text that is not JSON. -/
inductive Cause where
  | endInValue
  | endInString
  | endInList
  | endInObject
  | unknownWord
  | badNumber
  | numberOutOfRange
  | controlCharacter
  | badEscape
  | loneSurrogate
  | cutEscape
  | badCodePoint
  | tooDeep
  | trailingComma
  | noListSeparator
  | noMemberSeparator
  | noColon
  | keyNotString
  | noValue
  | trailingCharacters
deriving DecidableEq, Repr, Inhabited

/-- The wording of a cause. -/
def Cause.message : Cause → String
  | .endInValue => "EOF while parsing a value"
  | .endInString => "EOF while parsing a string"
  | .endInList => "EOF while parsing a list"
  | .endInObject => "EOF while parsing an object"
  | .unknownWord => "expected ident"
  | .badNumber => "invalid number"
  | .numberOutOfRange => "number out of range"
  | .controlCharacter => "control character (\\u0000-\\u001F) found while parsing a string"
  | .badEscape => "invalid escape"
  | .loneSurrogate => "lone leading surrogate in hex escape"
  | .cutEscape => "unexpected end of hex escape"
  | .badCodePoint => "invalid unicode code point"
  | .tooDeep => "recursion limit exceeded"
  | .trailingComma => "trailing comma"
  | .noListSeparator => "expected `,` or `]`"
  | .noMemberSeparator => "expected `,` or `\x7d`"
  | .noColon => "expected `:`"
  | .keyNotString => "key must be a string"
  | .noValue => "expected value"
  | .trailingCharacters => "trailing characters"

/-- A cause and its place, the latter as the number of bytes that were still unread; a fault in the
bytes of a string is shown some columns before the place where it was found. -/
structure Fault where
  cause : Cause
  unread : Nat
  columnsBack : Nat := 0
deriving DecidableEq, Repr, Inhabited

namespace Fault

/-- A fault found when all but `rest` was consumed. -/
def here (cause : Cause) (rest : List UInt8) : Fault := ⟨cause, rest.length, 0⟩

/-- A fault found by looking at the byte after the consumed ones, which counts as looked at. -/
def peek (cause : Cause) (rest : List UInt8) : Fault := ⟨cause, rest.length - 1, 0⟩

end Fault

/-- A line and a column. -/
structure Place where
  line : Nat
  column : Nat
deriving DecidableEq, Repr, Inhabited

/-- The place after some bytes: a line feed starts a new line. -/
def Place.after (bytes : List UInt8) : Place :=
  bytes.foldl (fun p b => if b == 10 then ⟨p.line + 1, 0⟩ else ⟨p.line, p.column + 1⟩) ⟨1, 0⟩

/-- The place of a fault in the document it was found in. -/
def Fault.place (f : Fault) (document : List UInt8) : Place :=
  let p := Place.after (document.take (document.length - f.unread))
  ⟨p.line, p.column - f.columnsBack⟩

/-- The text of a fault found in a document. -/
def Fault.message (f : Fault) (document : List UInt8) : String :=
  let p := f.place document
  s!"{f.cause.message} at line {p.line} column {p.column}"

end Deadwood.Json
