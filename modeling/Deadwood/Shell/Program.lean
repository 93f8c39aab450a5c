import Deadwood.Shell.Run

/-!
# The shell

The program that runs scripts: one that is given as an argument, one in a file, or one that is read
from the input.
-/

namespace Deadwood.Shell

open Host

/-- A bound on how deep and how often statements are run. -/
def runFuel : Nat := 1000000000000000

/-- The variables that a shell has at first, with those of its environment. -/
def firstVariables (environment : List (String × String)) : List (String × Variable) :=
  let own : List (String × Variable) :=
    [("IFS", { value := some defaultSeparators }), ("PATH", { value := some defaultPath }),
      ("PS1", { value := some "# " }), ("PS2", { value := some "> " }),
      ("PS4", { value := some "+ " }), ("OPTIND", { value := some "1" })]
  let s := environment.foldl (fun (s : ShellState) (name, value) =>
    if isName name && name != "IFS" && name != "OPTIND" then
      s.putVariable name { value := some value, exported := true }
    else s) { bindings := own }
  s.bindings

/-- The path of the directory at work: the one of a variable if it leads there. -/
def firstDirectory (s : ShellState) : Shell String := do
  match s.value? "PWD" with
  | some path =>
    match ← ask (.info (pathOf path) true), ← ask (.info (pathOf ".") true) with
    | .ok a, .ok b =>
      if path.toList.head? == some '/' && a.number == b.number then return path
      else physicalDirectory
    | _, _ => physicalDirectory
  | none => physicalDirectory

/-- Sets up a shell. -/
def prepare (launch : Launch) : Shell Unit := do
  let process ← ask .self
  let parent ← ask .parent
  modify fun s => { s with
    zero := launch.arguments.headD "sh"
    process
    bindings := firstVariables launch.environment }
  setVariable "PPID" (toString parent)
  let directory ← firstDirectory (← get)
  modify fun s => { s with directory }
  changeVariable "PWD" fun v => { v with value := some directory, exported := true }

/-- Runs the script that the arguments of a shell name. -/
def runArguments (arguments : List String) : Shell Nat := do
  let asked ← switchOptions true (arguments.length + 1) { rest := arguments }
  if asked.isText then
    match asked.rest with
    | [] => fail "-c requires an argument"
    | text :: rest =>
      modify fun s => { s with zero := rest.headD s.zero, parameters := rest.drop 1 }
      let s ← get
      runText runFuel { isLast := !s.has 's' } text
  else if asked.rest.isEmpty || (← get).has 's' then
    modify fun s => { s.switch 's' true with parameters := asked.rest }
    let text ← readRest 0 readLimit []
    runText runFuel {} (Text.Octets.ofBytes text)
  else
    let path := asked.rest.headD ""
    let text ← readFile path
    modify fun s => { s with zero := path, parameters := asked.rest.drop 1 }
    runText runFuel {} text

/-- The shell as a program. -/
def program : Program := fun launch =>
  let work : Shell Nat := conclude runFuel do
    prepare launch
    runArguments (launch.arguments.drop 1)
  work default fun (result, s) => .finished (match result with
    | .ok status => status
    | .error _ => s.status)

end Deadwood.Shell
