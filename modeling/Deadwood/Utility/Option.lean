import Deadwood.Host.Process

/-!
# Options of programs

Options can stand anywhere among the arguments, short ones together in one argument and long ones by
any start of their name that is not shared.
-/

namespace Deadwood.Utility

/-- Whether an option takes a value. -/
inductive ValueRule where
  | never
  | always
  /-- Only one that is written together with the option. -/
  | maybe
deriving DecidableEq, Repr, Inhabited

/-- The options of a program: letters, and long names with the letters that they stand for. -/
structure OptionTable where
  letters : List (Char × ValueRule) := []
  names : List (String × Char) := []
  /-- Whether the first argument that is no option ends the options. -/
  stopsEarly : Bool := false
deriving DecidableEq, Repr, Inhabited

/-- A table from letters as they are usually written: a colon follows a letter that takes a value,
two colons one that may take one. -/
def OptionTable.ofLetters : List Char → List (Char × ValueRule)
  | c :: ':' :: ':' :: rest => (c, .maybe) :: ofLetters rest
  | c :: ':' :: rest => (c, .always) :: ofLetters rest
  | c :: rest => (c, .never) :: ofLetters rest
  | [] => []

/-- What has been read of arguments: options in order with their values, and the others. -/
structure Parsed where
  options : List (Char × String) := []
  operands : List String := []
deriving DecidableEq, Repr, Inhabited

namespace Parsed

/-- Whether an option was given. -/
def has (p : Parsed) (letter : Char) : Bool := p.options.any (·.1 == letter)

/-- The last value of an option. -/
def value? (p : Parsed) (letter : Char) : Option String :=
  (p.options.filter (·.1 == letter)).getLast?.map Prod.snd

/-- All values of an option. -/
def values (p : Parsed) (letter : Char) : List String :=
  (p.options.filter (·.1 == letter)).map Prod.snd

/-- The last of some options that was given. -/
def last? (p : Parsed) (letters : List Char) : Option Char :=
  (p.options.filter fun o => letters.contains o.1).getLast?.map Prod.fst

end Parsed

namespace OptionTable

/-- Reads the letters of one argument and the next argument if a value is missing. -/
def readLetters (t : OptionTable) :
    List Char → List String → Except String (List (Char × String) × List String)
  | [], rest => .ok ([], rest)
  | c :: letters, rest =>
    match t.letters.lookup c with
    | none => .error s!"invalid option -- '{c}'"
    | some .never => do
      let (options, rest) ← t.readLetters letters rest
      .ok ((c, "") :: options, rest)
    | some .maybe => .ok ([(c, String.ofList letters)], rest)
    | some .always =>
      if !letters.isEmpty then .ok ([(c, String.ofList letters)], rest)
      else match rest with
        | value :: rest => .ok ([(c, value)], rest)
        | [] => .error s!"option requires an argument -- '{c}'"

/-- The options whose names begin with a text; a name that is the text itself counts alone. -/
def matching (t : OptionTable) (name : String) : List (String × Char) :=
  match t.names.find? (·.1 == name) with
  | some entry => [entry]
  | none => t.names.filter fun e => e.1.startsWith name

/-- Reads a long option and the next argument if a value is missing. -/
def readName (t : OptionTable) (text : List Char) (rest : List String) :
    Except String (List (Char × String) × List String) :=
  let name := String.ofList (text.takeWhile (· != '='))
  let value? := match text.dropWhile (· != '=') with
    | _ :: value => some (String.ofList value)
    | [] => none
  match t.matching name with
  | [] => .error s!"unrecognized option '--{String.ofList text}'"
  | (full, letter) :: more =>
    if more.any (·.2 != letter) then
      let names := ((full, letter) :: more).map fun e => s!" '--{e.1}'"
      .error (s!"option '--{String.ofList text}' is ambiguous; possibilities:" ++ String.join names)
    else match (t.letters.lookup letter).getD .never, value? with
      | .never, some _ => .error s!"option '--{full}' doesn't allow an argument"
      | .always, none =>
        match rest with
        | value :: rest => .ok ([(letter, value)], rest)
        | [] => .error s!"option '--{full}' requires an argument"
      | _, value => .ok ([(letter, value.getD "")], rest)

/-- Reads arguments. -/
def read (t : OptionTable) : Nat → List String → Except String Parsed
  | 0, arguments => .ok { operands := arguments }
  | fuel + 1, arguments =>
    match arguments with
    | [] => .ok {}
    | "--" :: rest => .ok { operands := rest }
    | first :: rest =>
      let follow := fun (found : List (Char × String) × List String) => do
        let p ← t.read fuel found.2
        .ok { p with options := found.1 ++ p.options }
      match first.toList with
      | '-' :: '-' :: name => t.readName name rest >>= follow
      | '-' :: c :: letters => t.readLetters (c :: letters) rest >>= follow
      | _ =>
        if t.stopsEarly then .ok { operands := arguments }
        else do
          let p ← t.read fuel rest
          .ok { p with operands := first :: p.operands }

end OptionTable

end Deadwood.Utility
