/-!
# The language of scripts

Words keep apart what stands for itself and what is still to be expanded; statements are built from
words. Documents that follow a statement are kept beside it, under numbers.
-/

namespace Deadwood.Shell

/-- What is done with the value of a parameter. With `orEmpty` an empty value counts as none. -/
inductive Use where
  | value
  | length
  /-- A word in the place of a missing value. -/
  | otherwise (orEmpty : Bool)
  /-- A word that becomes the value if there is none. -/
  | assigned (orEmpty : Bool)
  /-- A word of complaint if there is no value. -/
  | required (orEmpty : Bool)
  /-- A word in the place of a value that is there. -/
  | instead (orEmpty : Bool)
  /-- A pattern that is cut off in front. -/
  | trimStart (longest : Bool)
  /-- A pattern that is cut off at the end. -/
  | trimEnd (longest : Bool)
  /-- Something that means nothing. -/
  | bad
deriving DecidableEq, Repr, Inhabited

/-- How a file is opened for a stream. -/
inductive FileWay where
  | read
  | readWrite
  | write
  /-- Writes also where files are not to be replaced. -/
  | replace
  | append
deriving DecidableEq, Repr, Inhabited

mutual

/-- A part of a word. -/
inductive Part where
  | char (c : Char)
  /-- A character that has lost its special meaning. -/
  | escaped (c : Char)
  /-- The beginning or the end of a quotation. -/
  | quote
  | parameter (name : String) (use : Use) (word : List Part)
  /-- The output of a command. -/
  | command (body : Option Statement)
  /-- The value of a calculation. -/
  | arithmetic (word : List Part)

/-- The stream that another one becomes a copy of. -/
inductive StreamSource where
  | number (n : Nat)
  | none
  | word (w : List Part)

/-- A change of where a stream leads. -/
inductive Redirect where
  | file (stream : Nat) (way : FileWay) (name : List Part)
  | copy (stream : Nat) (source : StreamSource)
  | document (stream : Nat) (expands : Bool) (number : Nat)

/-- A statement. Numbers of lines are those of its first word. -/
inductive Statement where
  | simple (line : Nat) (assignments words : List (List Part)) (redirects : List Redirect)
  | pipeline (stages : List Statement) (background : Bool)
  | redirected (line : Nat) (body : Statement) (redirects : List Redirect)
  /-- A statement in a shell of its own. -/
  | subshell (line : Nat) (body : Statement) (redirects : List Redirect)
  /-- A statement in a shell of its own that is not waited for. -/
  | background (line : Nat) (body : Statement) (redirects : List Redirect)
  /-- The second one if the first one succeeds. -/
  | both (first second : Statement)
  /-- The second one if the first one fails. -/
  | either (first second : Statement)
  | sequence (first second : Statement)
  | conditional (test body : Statement) (otherwise : Option Statement)
  /-- Repeats as long as the test gives the wanted result. -/
  | loop (wanted : Bool) (test body : Statement)
  | each (line : Nat) (name : String) (words : List (List Part)) (body : Statement)
  /-- The first branch one of whose patterns fits a word. -/
  | choice (line : Nat) (word : List Part) (branches : List (List (List Part) × Option Statement))
  | function (line : Nat) (name : String) (body : Statement)
  | negated (body : Statement)

end

/-- A word. -/
abbrev Word := List Part

instance : Inhabited Part := ⟨.quote⟩

instance : Inhabited Statement := ⟨.simple 0 [] [] []⟩

instance : Inhabited Redirect := ⟨.copy 0 .none⟩

/-! ## Names -/

/-- Whether a character can begin a name. -/
def isNameStart (c : Char) : Bool := c.isAlpha || c == '_'

/-- Whether a character can stand inside a name. -/
def isNameChar (c : Char) : Bool := c.isAlphanum || c == '_'

/-- Whether a text is a name. -/
def isName (s : String) : Bool :=
  match s.toList with
  | c :: rest => isNameStart c && rest.all isNameChar
  | [] => false

/-- Whether a character is a parameter of its own. -/
def isSpecialParameter (c : Char) : Bool := "!#$*-?@".toList.contains c || c.isDigit

namespace Part

/-- The character of a part that stands for itself and was not quoted. -/
def bare? : Part → Option Char
  | .char c => some c
  | _ => none

/-- The character of a part that stands for itself. -/
def plain? : Part → Option Char
  | .char c => some c
  | .escaped c => some c
  | _ => none

end Part

namespace Word

/-- The text of a word in which nothing is quoted or to be expanded. -/
def bare? (w : Word) : Option String := (w.mapM Part.bare?).map String.ofList

/-- The text of a word without its quotes, what is to be expanded being left out. -/
def plain (w : Word) : String := String.ofList (w.filterMap Part.plain?)

/-- The name and the value of an assignment, if a word is one. -/
def assignment? (w : Word) : Option (String × Word) :=
  let isIn := fun (p : Part) => p.bare?.any isNameChar
  let name := String.ofList ((w.takeWhile isIn).filterMap Part.bare?)
  match w.dropWhile isIn with
  | .char '=' :: value => if isName name then some (name, value) else none
  | _ => none

end Word

end Deadwood.Shell
