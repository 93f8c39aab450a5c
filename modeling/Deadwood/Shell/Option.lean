import Deadwood.Shell.State

/-!
# Options

Options of the commands of a shell, and the options of the shell itself, which have letters and
names.
-/

namespace Deadwood.Shell

/-! ## Options of commands -/

/-- The letters of options that are allowed, each with whether it takes a value. -/
def allowedOptions : List Char → List (Char × Bool)
  | c :: ':' :: rest => (c, true) :: allowedOptions rest
  | c :: rest => (c, false) :: allowedOptions rest
  | [] => []

/-- Reads the letters of one argument, and the next argument if a value is missing. -/
def readLetters (allowed : List (Char × Bool)) :
    List Char → List String → Except String (List (Char × String) × List String)
  | [], rest => .ok ([], rest)
  | c :: letters, rest =>
    match allowed.lookup c with
    | none => .error s!"Illegal option -{c}"
    | some false => do
      let (options, rest) ← readLetters allowed letters rest
      .ok ((c, "") :: options, rest)
    | some true =>
      if !letters.isEmpty then .ok ([(c, String.ofList letters)], rest)
      else match rest with
        | value :: rest => .ok ([(c, value)], rest)
        | [] => .error s!"No arg for -{c} option"

/-- Reads the options in front of arguments. -/
def readOptions (allowed : List (Char × Bool)) :
    Nat → List String → Except String (List (Char × String) × List String)
  | 0, arguments => .ok ([], arguments)
  | fuel + 1, arguments =>
    match arguments with
    | "--" :: rest => .ok ([], rest)
    | first :: rest =>
      match first.toList with
      | '-' :: c :: letters => do
        let (options, rest) ← readLetters allowed (c :: letters) rest
        let (more, rest) ← readOptions allowed fuel rest
        .ok (options ++ more, rest)
      | _ => .ok ([], arguments)
    | [] => .ok ([], [])

/-- The options of a command and the arguments behind them. -/
def takeOptions (allowed : String) (arguments : List String) :
    Shell (List (Char × String) × List String) :=
  match readOptions (allowedOptions allowed.toList) (arguments.length + 1) arguments with
  | .ok result => return result
  | .error text => fail text

/-- The arguments of a command without options. -/
def takeArguments (arguments : List String) : Shell (List String) := do
  return (← takeOptions "" arguments).2

/-! ## Options of the shell -/

/-- The options of the shell by name, with their letters if they have one. -/
def optionNames : List (String × Option Char) :=
  [("errexit", some 'e'), ("noglob", some 'f'), ("ignoreeof", some 'I'),
    ("interactive", some 'i'), ("monitor", some 'm'), ("noexec", some 'n'), ("stdin", some 's'),
    ("xtrace", some 'x'), ("verbose", some 'v'), ("vi", some 'V'), ("emacs", some 'E'),
    ("noclobber", some 'C'), ("allexport", some 'a'), ("notify", some 'b'),
    ("nounset", some 'u'), ("privileged", some 'p'), ("nolog", none), ("debug", none)]

/-- Switches an option on or off. -/
def ShellState.switch (s : ShellState) (letter : Char) (isOn : Bool) : ShellState :=
  let others := s.options.filter (· != letter)
  { s with options := if isOn then letter :: others else others }

/-- Switches the option of a letter. -/
def switchLetter (letter : Char) (isOn : Bool) : Shell Unit := do
  if optionNames.any (·.2 == some letter) then modify (·.switch letter isOn)
  else fail s!"Illegal option -{letter}"

/-- Switches the option of a name. -/
def switchName (name : String) (isOn : Bool) : Shell Unit := do
  match optionNames.lookup name with
  | some (some letter) => modify (·.switch letter isOn)
  | some none => pure ()
  | none => fail s!"Illegal option -o {name}"

/-- A text with blanks behind it up to a width. -/
def padRight (width : Nat) (s : String) : String :=
  s ++ String.ofList (List.replicate (width - s.length) ' ')

/-- Says which options are set, as a table or as commands that set them. -/
def showOptions (asTable : Bool) : Shell Unit := do
  let s ← get
  if asTable then say "Current option settings\n"
  for (name, letter) in optionNames do
    let isOn := letter.any s.has
    if asTable then say (padRight 16 name ++ (if isOn then "on" else "off") ++ "\n")
    else say ("set " ++ (if isOn then "-o" else "+o") ++ s!" {name}\n")

/-- What the options in front of the arguments of a shell ask for. -/
structure Asked where
  /-- Whether the script is an argument. -/
  isText : Bool := false
  rest : List String := []
deriving DecidableEq, Repr, Inhabited

/-- Switches the options of letters; `isStart` says whether these are arguments of the shell
itself. -/
def switchLetters (isStart isOn : Bool) : List Char → Asked → Shell Asked
  | [], a => return a
  | c :: letters, a => do
    if c == 'c' && isStart then switchLetters isStart isOn letters { a with isText := true }
    else if c == 'l' && isStart then switchLetters isStart isOn letters a
    else if c == 'o' then
      match a.rest with
      | name :: rest =>
        switchName name isOn
        switchLetters isStart isOn letters { a with rest }
      | [] =>
        showOptions isOn
        switchLetters isStart isOn letters a
    else
      switchLetter c isOn
      switchLetters isStart isOn letters a

/-- Switches options as the arguments say, up to the first one that is no option. -/
def switchOptions (isStart : Bool) : Nat → Asked → Shell Asked
  | 0, a => return a
  | fuel + 1, a => do
    match a.rest with
    | [] => return a
    | first :: rest =>
      match first.toList with
      | ['-'] =>
        if !isStart then modify fun s => (s.switch 'x' false).switch 'v' false
        return { a with rest }
      | ['-', '-'] =>
        if !isStart && rest.isEmpty then modify fun s => { s with parameters := [] }
        return { a with rest }
      | '-' :: letters =>
        switchOptions isStart fuel (← switchLetters isStart true letters { a with rest })
      | '+' :: letters =>
        switchOptions isStart fuel (← switchLetters isStart false letters { a with rest })
      | _ => return a

/-- Sets the arguments of the shell. -/
def setParameters (parameters : List String) : Shell Unit := modify fun s =>
  { s with parameters, optionIndex := 1, optionOffset := none }

end Deadwood.Shell
