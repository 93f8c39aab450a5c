import Deadwood.Shell.Syntax

/-!
# Arithmetic in scripts

Expressions over whole numbers of 64 bits and variables, with the operators and their order of the
language that the shell took them from. Parts whose value does not matter are read but have no
effect.
-/

namespace Deadwood.Shell.Arithmetic

/-! ## Numbers -/

/-- The number of 64 bits that a number is cut down to. -/
def wrap (n : Int) : Int :=
  let m := n.emod (Int.pow 2 64)
  if m < Int.pow 2 63 then m else m - Int.pow 2 64

/-- The largest and the least number. -/
def greatest : Int := Int.pow 2 63 - 1

/-- The least number. -/
def least : Int := -Int.pow 2 63

/-- The value of a digit. -/
def digit? (base : Nat) (c : Char) : Option Nat :=
  let value := if c.isDigit then some (c.toNat - 48)
    else if 'a' ≤ c && c ≤ 'z' then some (c.toNat - 87)
    else if 'A' ≤ c && c ≤ 'Z' then some (c.toNat - 55)
    else none
  value.filter (· < base)

/-- The number that digits in front of a text stand for, and what follows them. -/
def readDigits (base : Nat) : Nat → List Char → Nat × List Char
  | value, [] => (value, [])
  | value, c :: rest =>
    match digit? base c with
    | some d => readDigits base (base * value + d) rest
    | none => (value, c :: rest)

/-- A number in front of a text, in a base that its first characters tell if `anyBase` says so, and
what follows it; nothing if there is none. -/
def readUnsigned? (anyBase : Bool) (cs : List Char) : Option (Nat × List Char) :=
  let plain := fun (base : Nat) =>
    if cs.head?.any fun c => (digit? base c).isSome then some (readDigits base 0 cs) else none
  match cs, anyBase with
  | '0' :: x :: d :: rest, true =>
    if (x == 'x' || x == 'X') && (digit? 16 d).isSome then some (readDigits 16 0 (d :: rest))
    else plain 8
  | '0' :: _, true => plain 8
  | _, _ => plain 10

/-- Whether a character is a blank between numbers. -/
def isSpace (c : Char) : Bool := c == ' ' || ('\t' ≤ c && c ≤ '\r')

/-- A number in front of a text, perhaps with a sign, and what follows it. -/
def readSigned? (anyBase : Bool) (cs : List Char) : Option (Int × List Char) :=
  match cs.dropWhile isSpace with
  | '-' :: rest => (readUnsigned? anyBase rest).map fun (n, rest) => (-(n : Int), rest)
  | '+' :: rest => (readUnsigned? anyBase rest).map fun (n, rest) => ((n : Int), rest)
  | rest => (readUnsigned? anyBase rest).map fun (n, rest) => ((n : Int), rest)

/-- A number cut off at the largest and the least one. -/
def clamp (n : Int) : Int := max least (min greatest n)

/-- The number that a whole text stands for, in any base; a text of blanks stands for zero. -/
def wholeText? (s : String) : Option Int :=
  match readSigned? true s.toList with
  | some (n, rest) => if rest.all isSpace && least ≤ n && n ≤ greatest then some n else none
  | none => if s.toList.all isSpace then some 0 else none

/-! ## Tokens -/

/-- A token of an expression. -/
inductive Symbol where
  | number (n : Int)
  | name (text : String)
  | operator (text : String)
  | finish
  | bad
deriving DecidableEq, Repr, Inhabited

/-- The operators, the longer ones before those they start with. -/
def operators : List String :=
  ["<<=", ">>=", "==", "!=", "<=", ">=", "<<", ">>", "&&", "||", "+=", "-=", "*=", "/=", "%=", "&=",
    "^=", "|=", "=", "<", ">", "!", "(", ")", "*", "/", "%", "+", "-", "^", "&", "|", "~", "?", ":"]

/-- The next token and what follows it. -/
def nextSymbol (cs : List Char) : Symbol × List Char :=
  match cs.dropWhile fun c => c == ' ' || c == '\t' || c == '\n' with
  | [] => (.finish, [])
  | c :: rest =>
    if c.isDigit then
      match readUnsigned? true (c :: rest) with
      | some (n, rest) => (.number (clamp n), rest)
      | none => (.bad, c :: rest)
    else if isNameStart c then
      (.name (String.ofList (c :: rest.takeWhile isNameChar)), rest.dropWhile isNameChar)
    else match operators.find? fun op => op.toList.isPrefixOf (c :: rest) with
      | some op => (.operator op, (c :: rest).drop op.length)
      | none => (.bad, c :: rest)

/-- The operators that give a variable a value, with what they do to its old one. -/
def assigner? : String → Option (Option String)
  | "=" => some none
  | "+=" => some (some "+")
  | "-=" => some (some "-")
  | "*=" => some (some "*")
  | "/=" => some (some "/")
  | "%=" => some (some "%")
  | "<<=" => some (some "<<")
  | ">>=" => some (some ">>")
  | "&=" => some (some "&")
  | "^=" => some (some "^")
  | "|=" => some (some "|")
  | _ => none

/-- How much an operator with two operands binds; less is tighter. -/
def rank? : String → Option Nat
  | "*" | "/" | "%" => some 0
  | "+" | "-" => some 1
  | "<<" | ">>" => some 2
  | "<" | "<=" | ">" | ">=" => some 3
  | "==" | "!=" => some 4
  | "&" => some 5
  | "^" => some 6
  | "|" => some 7
  | _ => none

/-! ## Values -/

/-- Why an expression has no value. -/
inductive ExpressionError where
  /-- Something is wrong with the expression. -/
  | faulty (text : String)
  /-- A variable holds something that is no number. -/
  | number (text : String)
  /-- A division that the machine cannot do. -/
  | crash
deriving DecidableEq, Repr, Inhabited

/-- Bits of a number. -/
def bits (n : Int) : Nat := (n.emod (Int.pow 2 64)).toNat

/-- One or zero. -/
def truth (b : Bool) : Int := if b then 1 else 0

/-- The value of an operator with two operands. -/
def combine (op : String) (a b : Int) : Except ExpressionError Int :=
  match op with
  | "*" => .ok (wrap (a * b))
  | "/" => if b == 0 then .error (.faulty "division by zero")
    else if a == least && b == -1 then .error .crash
    else .ok (a.tdiv b)
  | "%" => if b == 0 then .error (.faulty "division by zero")
    else if a == least && b == -1 then .error .crash
    else .ok (a.tmod b)
  | "+" => .ok (wrap (a + b))
  | "-" => .ok (wrap (a - b))
  | "<<" => .ok (wrap (a * Int.pow 2 (bits b % 64)))
  | ">>" => .ok (a.fdiv (Int.pow 2 (bits b % 64)))
  | "<" => .ok (truth (a < b))
  | "<=" => .ok (truth (a ≤ b))
  | ">" => .ok (truth (a > b))
  | ">=" => .ok (truth (a ≥ b))
  | "==" => .ok (truth (a == b))
  | "!=" => .ok (truth (a != b))
  | "&" => .ok (wrap (bits a &&& bits b : Nat))
  | "^" => .ok (wrap (bits a ^^^ bits b : Nat))
  | "|" => .ok (wrap (bits a ||| bits b : Nat))
  | _ => .error (.faulty "expecting primary")

/-- The state of reading an expression: the token at hand, what follows it, and the variables that
have been given values, last ones first. -/
structure Reader where
  symbol : Symbol
  rest : List Char
  assigned : List (String × Int) := []
deriving Inhabited

/-- Reading an expression. -/
abbrev Eval := StateT Reader (Except ExpressionError)

/-- Goes on to the next token. -/
def advance : Eval Unit := modify fun r =>
  let (symbol, rest) := nextSymbol r.rest
  { r with symbol, rest }

/-- The operator at hand. -/
def operator? : Eval (Option String) := do
  match (← get).symbol with
  | .operator op => return some op
  | _ => return none

/-- The value of a variable. -/
def valueOf (look : String → Option String) (name : String) : Eval Int := do
  match (← get).assigned.lookup name with
  | some n => return n
  | none =>
    let text := (look name).getD ""
    match wholeText? text with
    | some n => return n
    | none => throw (.number text)

mutual

/-- Reads an assignment or a condition. -/
def readAssignment (look : String → Option String) : Nat → Bool → Eval Int
  | 0, _ => throw (.faulty "expecting primary")
  | fuel + 1, isIdle => do
    let r ← get
    match r.symbol, nextSymbol r.rest with
    | .name name, (.operator op, rest) =>
      match assigner? op with
      | none => readCondition look fuel isIdle
      | some base =>
        set { r with symbol := .operator op, rest }
        advance
        let right ← readAssignment look fuel isIdle
        if isIdle then return right
        else
          let value ← match base with
            | none => pure right
            | some op => do combine op (← valueOf look name) right
          modify fun r => { r with assigned := (name, value) :: r.assigned }
          return value
    | _, _ => readCondition look fuel isIdle

/-- Reads a choice between two values. -/
def readCondition (look : String → Option String) : Nat → Bool → Eval Int
  | 0, _ => throw (.faulty "expecting primary")
  | fuel + 1, isIdle => do
    let a ← readOr look fuel isIdle
    if (← operator?) == some "?" then
      advance
      let b ← readAssignment look fuel (isIdle || a == 0)
      if (← operator?) != some ":" then throw (.faulty "expecting ':'")
      advance
      let c ← readCondition look fuel (isIdle || a != 0)
      return if a != 0 then b else c
    else return a

/-- Reads values one of which has to be true. -/
def readOr (look : String → Option String) : Nat → Bool → Eval Int
  | 0, _ => throw (.faulty "expecting primary")
  | fuel + 1, isIdle => do
    let a ← readAnd look fuel isIdle
    if (← operator?) == some "||" then
      advance
      let b ← readOr look fuel (isIdle || a != 0)
      return truth (a != 0 || b != 0)
    else return a

/-- Reads values all of which have to be true. -/
def readAnd (look : String → Option String) : Nat → Bool → Eval Int
  | 0, _ => throw (.faulty "expecting primary")
  | fuel + 1, isIdle => do
    let a ← readOperand look fuel isIdle
    let a ← readOperators look fuel isIdle 8 a
    if (← operator?) == some "&&" then
      advance
      let b ← readAnd look fuel (isIdle || a == 0)
      return truth (a != 0 && b != 0)
    else return a

/-- Reads the operands that are joined to a value by operators of a rank below a limit. -/
def readOperators (look : String → Option String) : Nat → Bool → Nat → Int → Eval Int
  | 0, _, _, _ => throw (.faulty "expecting primary")
  | fuel + 1, isIdle, limit, a => do
    match (← operator?).bind fun op => (rank? op).map fun rank => (op, rank) with
    | none => return a
    | some (op, rank) =>
      if limit ≤ rank then return a
      else
        advance
        let b ← readOperand look fuel isIdle
        let b ← readOperators look fuel isIdle rank b
        let c ← if isIdle then pure b else combine op a b
        readOperators look fuel isIdle limit c

/-- Reads an operand. -/
def readOperand (look : String → Option String) : Nat → Bool → Eval Int
  | 0, _ => throw (.faulty "expecting primary")
  | fuel + 1, isIdle => do
    match (← get).symbol with
    | .number n =>
      advance
      return n
    | .name name =>
      let n ← if isIdle then pure 0 else valueOf look name
      advance
      return n
    | .operator "(" =>
      advance
      let n ← readAssignment look fuel isIdle
      if (← operator?) != some ")" then throw (.faulty "expecting ')'")
      advance
      return n
    | .operator "+" =>
      advance
      readOperand look fuel isIdle
    | .operator "-" =>
      advance
      return wrap (-(← readOperand look fuel isIdle))
    | .operator "!" =>
      advance
      return truth ((← readOperand look fuel isIdle) == 0)
    | .operator "~" =>
      advance
      return -(← readOperand look fuel isIdle) - 1
    | _ => throw (.faulty "expecting primary")

end

/-- The value of an expression, and the variables that are given values, in order. -/
def evaluate (look : String → Option String) (source : List Char) :
    Except ExpressionError (Int × List (String × Int)) := do
  let (symbol, rest) := nextSymbol source
  let (n, r) ← (readAssignment look (16 * source.length + 64) false).run { symbol, rest }
  match r.symbol with
  | .finish => .ok (n, r.assigned.reverse)
  | _ => .error (.faulty "expecting EOF")

end Deadwood.Shell.Arithmetic
