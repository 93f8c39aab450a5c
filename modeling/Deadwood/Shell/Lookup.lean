import Deadwood.Shell.Option

/-!
# Commands by name

A command is a function, a command of the shell itself, or a program, which is looked for in the
directories of a variable.
-/

namespace Deadwood.Shell

open Host

/-- The commands of the shell itself that are not special: their errors do not end the shell, and
assignments before them do not stay. -/
def plainCommands : List String :=
  ["[", "alias", "bg", "cd", "chdir", "command", "echo", "false", "fg", "getopts", "hash", "jobs",
    "kill", "printf", "pwd", "read", "test", "true", "type", "ulimit", "umask", "unalias", "wait"]

/-- The commands of the shell whose arguments can be assignments. -/
def assigningCommands : List String := ["alias", "export", "local", "readonly"]

/-- Whether the shell itself has a command. -/
def isOwnCommand (name : String) : Bool :=
  specialNames.contains name || plainCommands.contains name

/-- What a name stands for. -/
inductive Command where
  | function (body : Statement)
  | own (name : String)
  | other

instance : Inhabited Command := ⟨.other⟩

/-- What a name stands for, functions being left out if that is asked for. -/
def commandOf (s : ShellState) (name : String) (skipsFunctions : Bool) : Command :=
  match (if skipsFunctions then none else s.functions.lookup name) with
  | some body => .function body
  | none => if isOwnCommand name then .own name else .other

/-! ## Programs -/

/-- The directories in which programs are looked for. -/
def directoriesOf (path : String) : List String := path.splitOn ":"

/-- The path of a name in a directory. -/
def inDirectory (directory name : String) : String :=
  if directory.isEmpty then name else s!"{directory}/{name}"

/-- Whether a text is a path and not only a name. -/
def isPathLike (name : String) : Bool := name.toList.contains '/'

/-- The words for why a program cannot be run. -/
def runWords : SystemError → String
  | .noEntry | .notDirectory => "not found"
  | e => e.words

/-- The first file of a name that can be run in some directories, or why there is none. -/
def searchProgram (name : String) : SystemError → List String → Shell (Except SystemError String)
  | e, [] => return .error e
  | e, directory :: rest => do
    let path := inDirectory directory name
    match ← ask (.info (pathOf path) true) with
    | .ok info =>
      if info.kind == .regular && info.mode &&& 0o111 != 0 then return .ok path
      else searchProgram name .denied rest
    | .error e' =>
      searchProgram name (if e' == .noEntry || e' == .notDirectory then e else e') rest

/-- The path of a program; one that was found is remembered. -/
def findProgram (name path : String) : Shell (Except SystemError String) := do
  match ← searchProgram name .noEntry (directoriesOf path) with
  | .ok found =>
    modify fun s => if s.found.any (·.1 == name) || s.value? "PATH" != some path then s
      else { s with found := s.found ++ [(name, found)] }
    return .ok found
  | .error e => return .error e

/-- The directories that are used if nothing else is said. -/
def defaultPath : String := "/usr/local/sbin:/usr/local/bin:/usr/sbin:/usr/bin:/sbin:/bin"

/-- The directories of the variable for them. -/
def pathValue (s : ShellState) : String := (s.value? "PATH").getD ""

/-- How many bytes of a file are looked at to tell whether it is a script. -/
def scriptHead : Nat := 128

/-- Whether the first line of a file could be the first line of a script. -/
def looksLikeScript (bytes : List UInt8) : Bool :=
  (bytes.takeWhile (· != 10)).all fun b => (9 ≤ b && b ≤ 15) || b == 27 || (32 ≤ b && b != 127)

/-- Becomes the program of a file; one that names no interpreter but looks like a script is one for a
shell. -/
def becomeFile (path : String) (arguments : List String) : Shell SystemError := do
  let environment := (← get).environment
  match ← ask (.execute (pathOf path) { arguments, environment }) with
  | .notExecutable =>
    match ← ask (.openFile (pathOf path) { reads := true } 0) with
    | .error _ => return .notExecutable
    | .ok d =>
      let head ← ask (.read d scriptHead none)
      let _ ← ask (.close d)
      if (head.toOption.getD []) |> looksLikeScript then
        ask (.execute (pathOf "/bin/sh")
          { arguments := "/bin/sh" :: path :: arguments.drop 1, environment })
      else return .notExecutable
  | e => return e

/-- Becomes the first program of a name in some directories that can be run; gives why there is
none. -/
def becomeFirst (name : String) (arguments : List String) :
    SystemError → List String → Shell SystemError
  | e, [] => return e
  | e, directory :: rest => do
    let e' ← becomeFile (inDirectory directory name) arguments
    becomeFirst name arguments (if e' == .noEntry || e' == .notDirectory then e else e') rest

/-- The status if a program cannot be run. -/
def runStatus : SystemError → Nat
  | .linkLoop | .nameTooLong | .noEntry | .notDirectory => 127
  | _ => 126

/-- Becomes a program; if that is not possible it is said why, and the shell ends. -/
def becomeProgram (arguments : List String) (path : String) : Shell Nat := do
  let name := arguments.headD ""
  let e ← if isPathLike name then becomeFile name arguments
    else becomeFirst name arguments .noEntry (directoriesOf path)
  warn s!"{name}: {runWords e}"
  exitWith (runStatus e)

/-! ## Descriptions -/

/-- A text in quotation marks, so that it is read back as it is. -/
def quoteText (s : String) : String :=
  go (s.length + 1) s.toList
where
  /-- Quotes up to the next quotation mark, and then the marks. -/
  go : Nat → List Char → String
    | 0, _ => ""
    | fuel + 1, cs =>
      let plain := cs.takeWhile (· != '\x27')
      let rest := cs.drop plain.length
      let marks := rest.takeWhile (· == '\x27')
      let behind := rest.drop marks.length
      let start := "\x27" ++ String.ofList plain ++ "\x27"
      if marks.isEmpty then start
      else
        let marked := start ++ "\"" ++ String.ofList marks ++ "\""
        if behind.isEmpty then marked else marked ++ go fuel behind

/-- Says what a name stands for, in a sentence or shortly; gives the status. -/
def describe (name : String) (path : Option String) (isLong : Bool) : Shell Nat := do
  let s ← get
  let give := fun (long short : String) => do
    say ((if isLong then name ++ long else short) ++ "\n")
    return 0
  let missing : Shell Nat := do
    if isLong then say s!"{name}: not found\n"
    return 127
  if keywords.contains name then give " is a shell keyword" name
  else match s.aliases.lookup name with
    | some value => give s!" is an alias for {value}" s!"alias {name}={quoteText value}"
    | none =>
      match commandOf s name false with
      | .function _ => give " is a shell function" name
      | .own _ =>
        let special := if specialNames.contains name then "special " else ""
        give s!" is a {special}shell builtin" name
      | .other =>
        if isPathLike name then
          match ← ask (.info (pathOf name) true) with
          | .ok _ => give s!" is {name}" name
          | .error _ => missing
        else match path, s.found.lookup name with
          | none, some found => give s!" is a tracked alias for {found}" found
          | _, _ =>
            match ← findProgram name (path.getD (pathValue s)) with
            | .ok found => give s!" is {found}" found
            | .error _ => missing

end Deadwood.Shell
