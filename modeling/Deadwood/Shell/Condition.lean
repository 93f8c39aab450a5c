import Deadwood.Host.Process
import Deadwood.Shell.Arithmetic

/-!
# Conditions

A condition on texts, numbers and files, given as a list of words. How a word is understood depends
on those behind it, so that the words of operators can also be texts.
-/

namespace Deadwood.Shell.Condition

open Host

/-- The roles of the words that are operators. -/
inductive Role where
  | unary
  | binary
  | join
  | negation
  | opening
  | closing
deriving DecidableEq, Repr, Inhabited

/-- The operators with one operand behind them. -/
def unaryNames : List String :=
  ["-r", "-w", "-x", "-e", "-f", "-d", "-c", "-b", "-p", "-u", "-g", "-k", "-s", "-t", "-z", "-n",
    "-h", "-O", "-G", "-L", "-S"]

/-- The operators between two operands. -/
def binaryNames : List String :=
  ["=", "!=", "<", ">", "-eq", "-ne", "-ge", "-gt", "-le", "-lt", "-nt", "-ot", "-ef"]

/-- The role of a word. -/
def role? (word : String) : Option Role :=
  if unaryNames.contains word then some .unary
  else if binaryNames.contains word then some .binary
  else match word with
    | "-a" | "-o" => some .join
    | "!" => some .negation
    | "(" => some .opening
    | ")" => some .closing
    | _ => none

/-- What a word is where it stands. -/
inductive Lexeme where
  | finish
  | operand
  | operator (word : String) (role : Role)
deriving DecidableEq, Repr, Inhabited

/-- Whether the operator in front of words can only be an operand, because of what is behind it. -/
def isOperand : List String → Bool
  | [] => true
  | [_] => false
  | next :: _ => role? next == some .binary

/-- What the first of some words is. -/
def lexeme : List String → Lexeme
  | [] => .finish
  | word :: rest =>
    match role? word with
    | some .unary => if isOperand rest then .operand else .operator word .unary
    | some .opening => if rest.isEmpty then .operand else .operator word .opening
    | some role => .operator word role
    | none => .operand

/-- Judging: it asks for files, and fails with a complaint. -/
abbrev Judge := ExceptT String Work

/-- Makes a request of the system. -/
def look {α : Type} (r : Request α) : Judge α := ExceptT.lift (Work.ask r)

/-- Whether an operator is the given word. -/
def Lexeme.isWord (n : Lexeme) (word : String) : Bool :=
  match n with
  | .operator other _ => other == word
  | _ => false

/-- The number that a text stands for. -/
def number (s : String) : Judge Int :=
  let bad : Judge Int := throw s!"Illegal number: {s}"
  match Arithmetic.readSigned? false s.toList with
  | some (n, rest) =>
    if rest.all Arithmetic.isSpace && Arithmetic.clamp n == n then pure n else bad
  | none => bad

/-- What is known of a file, if there is one. -/
def fileInfo? (path : String) (follows : Bool) : Judge (Option FileInfo) := do
  match ← look (.info (pathOf path) follows) with
  | .ok info => return some info
  | .error _ => return none

/-- Whether a file can be run by a user who may do everything. -/
def isRunnable (info : FileInfo) : Bool := info.kind == .directory || info.mode &&& 0o111 != 0

/-- Whether a file is as an operator asks. -/
def fileHas (operator : String) (info : FileInfo) : Bool :=
  match operator with
  | "-x" => isRunnable info
  | "-f" => info.kind == .regular
  | "-d" => info.kind == .directory
  | "-c" => info.kind == .device
  | "-p" => info.kind == .pipe
  | "-b" | "-S" => false
  | "-h" | "-L" => info.kind == .link
  | "-u" => info.mode &&& 0o4000 != 0
  | "-g" => info.mode &&& 0o2000 != 0
  | "-k" => info.mode &&& 0o1000 != 0
  | "-s" => 0 < info.size
  | _ => true

/-- The result of an operator with one operand. -/
def judgeUnary (operator operand : String) : Judge Bool := do
  match operator with
  | "-z" => return operand.isEmpty
  | "-n" => return !operand.isEmpty
  | "-t" =>
    let _ ← number operand
    return false
  | _ =>
    let info ← fileInfo? operand (operator != "-h" && operator != "-L")
    return info.any (fileHas operator)

/-- The result of comparing two files. -/
def judgeFiles (operator first second : String) : Judge Bool := do
  match ← fileInfo? first true, ← fileInfo? second true with
  | some a, some b => return match operator with
    | "-nt" => b.stamp < a.stamp
    | "-ot" => a.stamp < b.stamp
    | _ => a.number == b.number
  | _, _ => return false

/-- The result of an operator between two operands. -/
def judgeBinary (operator first second : String) : Judge Bool := do
  match operator with
  | "=" => return first == second
  | "!=" => return first != second
  | "<" => return first < second
  | ">" => return second < first
  | "-nt" | "-ot" | "-ef" => judgeFiles operator first second
  | _ =>
    let a ← number first
    let b ← number second
    return match operator with
      | "-eq" => a == b
      | "-ne" => a != b
      | "-ge" => b ≤ a
      | "-gt" => b < a
      | "-le" => a ≤ b
      | _ => a < b

mutual

/-- The result of conditions of which one has to hold; words are left from the last one read on. -/
def judgeAny : Nat → Bool → Lexeme → List String → Judge (Bool × List String)
  | 0, sofar, _, words => return (sofar, words)
  | fuel + 1, sofar, n, words => do
    let (result, words) ← judgeAll fuel true n words
    let result := result || sofar
    if (lexeme (words.drop 1)).isWord "-o" then
      judgeAny fuel result (lexeme (words.drop 2)) (words.drop 2)
    else return (result, words)

/-- The result of conditions that all have to hold. -/
def judgeAll : Nat → Bool → Lexeme → List String → Judge (Bool × List String)
  | 0, sofar, _, words => return (sofar, words)
  | fuel + 1, sofar, n, words => do
    let (result, words) ← judgeNot fuel n words
    let result := result && sofar
    if (lexeme (words.drop 1)).isWord "-a" then
      judgeAll fuel result (lexeme (words.drop 2)) (words.drop 2)
    else return (result, words)

/-- The result of a condition that may be negated. -/
def judgeNot : Nat → Lexeme → List String → Judge (Bool × List String)
  | 0, _, words => return (false, words)
  | fuel + 1, n, words => do
    if n.isWord "!" then
      let next := lexeme (words.drop 1)
      let (result, words) ←
        judgeNot fuel next (if next == .finish then words else words.drop 1)
      return (!result, words)
    else judgePrimary fuel n words

/-- The result of a condition that stands alone. -/
def judgePrimary : Nat → Lexeme → List String → Judge (Bool × List String)
  | 0, _, words => return (false, words)
  | fuel + 1, n, words => do
    match n with
    | .finish => return (false, words)
    | .operator _ .opening =>
      let inner := words.drop 1
      if lexeme inner == .operator ")" .closing then return (false, inner)
      else
        let (result, words) ← judgeAny fuel false (lexeme inner) inner
        if lexeme (words.drop 1) == .operator ")" .closing then return (result, words.drop 1)
        else throw "closing paren expected"
    | .operator name .unary =>
      match words.drop 1 with
      | [] => throw s!"{name}: argument expected"
      | operand :: rest => return (← judgeUnary name operand, operand :: rest)
    | _ =>
      match words, lexeme (words.drop 1) with
      | first :: _ :: rest, .operator name .binary =>
        match rest with
        | [] => throw s!"{name}: argument expected"
        | second :: _ => return (← judgeBinary name first second, rest)
      | first :: _, _ => return (!first.isEmpty, words)
      | [], _ => return (false, words)

end

/-- The result of words of which nothing may be left over. -/
def judgeWords (n : Lexeme) (words : List String) : Judge Bool := do
  let (result, words) ← judgeAny (4 * words.length + 8) false n words
  match words with
  | first :: _ :: _ =>
    throw (if first.isEmpty then "unexpected operator" else s!"{first}: unexpected operator")
  | _ => return result

/-- The result of a condition. With three or four words an operator in the middle, brackets around
them, or a negation in front goes first. -/
def judge : List String → Judge Bool
  | [] => return false
  | [a, op, b] =>
    if role? op == some .binary then judgeWords .operand [a, op, b]
    else if a == "(" && b == ")" then judgeWords (lexeme [op]) [op]
    else if a == "!" then return !(← judge [op, b])
    else judgeWords (lexeme [a, op, b]) [a, op, b]
  | [a, b, c, d] =>
    if a == "(" && d == ")" then judgeWords (lexeme [b, c]) [b, c]
    else if a == "!" then return !(← judge [b, c, d])
    else judgeWords (lexeme [a, b, c, d]) [a, b, c, d]
  | words => judgeWords (lexeme words) words

end Deadwood.Shell.Condition
