import Deadwood.Shell.Builtin
import Deadwood.Shell.Stream

/-!
# Running scripts

Statements are run one after another. Each gives a status, and leaves in the state how the work goes
on. Parts of the work are done by shells of their own: the stages of a pipeline, what stands in
brackets, and commands whose output is used.
-/

namespace Deadwood.Shell

open Host

/-- Where a statement stands. -/
structure Setting where
  /-- Whether the shell ends with it. -/
  isLast : Bool := false
  /-- Whether its failure is looked at, so that it does not end the shell. -/
  isTested : Bool := false
deriving DecidableEq, Repr, Inhabited

/-- How many functions can be at work. -/
def functionLimit : Nat := 1000

/-! ## What commands need -/

/-- Writes what commands of the shell have said; tells whether that was possible. -/
def flushOutput : Shell Bool := do
  let s ← get
  let text := String.join s.output.reverse
  set { s with output := [] }
  if text.isEmpty then return true
  else match ← ask (.write 1 (Text.Octets.toBytes text)) with
    | .ok () => return true
    | .error _ => return false

/-- Undoes changes of streams and variables down to so many of them. -/
def unwind (streams locals : Nat) : Shell Unit := do
  let s ← get
  for _ in List.range (s.streams.length - streams) do
    popStreams false
  for _ in List.range (s.locals.length - locals) do
    popLocals

/-- Does the work of a command of the shell; what it has said is written. -/
def doOwn (name : String) (work : Shell Nat) : Shell (Except Raise Nat) := do
  let before ← get
  set { before with command := some name }
  let result ← attempt work
  let isWritten ← flushOutput
  let result ← match result with
    | .ok status =>
      if isWritten then pure (.ok status)
      else do
        warn s!"{name}: I/O error"
        pure (.ok (status ||| 1))
    | .error r => pure (.error r)
  modify fun s => { s with command := before.command }
  match result with
  | .ok status => modify fun s => { s with status }
  | .error _ => unwind before.streams.length before.locals.length
  return result

/-- All bytes of an open file from its place on. -/
def readRest (d : Nat) : Nat → List (List UInt8) → Shell (List UInt8)
  | 0, done => return done.reverse.flatten
  | fuel + 1, done => do
    match ← ask (.read d 65536 none) with
    | .error .interrupted => readRest d fuel done
    | .error _ | .ok [] => return done.reverse.flatten
    | .ok bytes => readRest d fuel (bytes :: done)

/-- The text of a file. -/
def readFile (path : String) : Shell String := do
  match ← ask (.openFile (pathOf path) { reads := true } 0) with
  | .error e => fail s!"cannot open {path}: {openWords false e}"
  | .ok d =>
    let bytes ← readRest d readLimit []
    let _ ← ask (.close d)
    return Text.Octets.ofBytes bytes

/-- The path of a script that is read into the shell. -/
def findScript (name : String) : Shell String := do
  if isPathLike name then return name
  else
    let found ← (directoriesOf (pathValue (← get))).findM? fun directory => do
      match ← ask (.info (pathOf (inDirectory directory name)) true) with
      | .ok info => return info.kind == .regular
      | .error _ => return false
    match found with
    | some directory => return inDirectory directory name
    | none => fail s!"{name}: not found"

/-- Whether something is done for signals or at the end. -/
def hasTraps (s : ShellState) : Bool := s.traps.any (!·.2.isEmpty)

/-- The stream that complaints went to before the redirections of the command at work. -/
def traceStream (s : ShellState) : Nat :=
  match (s.streams.headD []).lookup 2 with
  | some (some kept) => kept
  | _ => 2

/-- How the work goes on in and behind a loop whose body has been run: the new flow, and whether the
loop ends. -/
def Flow.afterTurn : Flow → Flow × Bool
  | .breaks n => if n ≤ 1 then (.next, true) else (.breaks (n - 1), true)
  | .continues n => if n ≤ 1 then (.next, false) else (.continues (n - 1), true)
  | .returns isGiven => (.returns isGiven, true)
  | .next => (.next, false)

/-- Ends a turn of a loop; tells whether the loop ends. -/
def endTurn : Shell Bool := do
  let s ← get
  let (flow, ends) := s.flow.afterTurn
  set { s with flow }
  return ends

/-- What is known of a command before it is run. -/
structure Plan where
  /-- The fields of its first words, and the words that are still to be expanded. -/
  fields : List String := []
  rest : List Word := []
  /-- How many fields stand before the name of the command. -/
  skipped : Nat := 0
  command : Command := .other
  /-- Whether the first command of the shell that was found is special. -/
  special : Option Bool := none
  isLocal : Bool := false
  isExec : Bool := false
  assigns : Bool := false
  skipsFunctions : Bool := false
  path : Option String := none
deriving Inhabited

/-- The options in front of the name of a command that is to be run without functions: how many
fields they take, and whether the usual directories are asked for. -/
def commandOptions : List String → Option (Nat × Bool)
  | [] => none
  | first :: rest =>
    match first.toList with
    | ['-', '-'] => if rest.isEmpty then none else some (1, false)
    | '-' :: c :: letters =>
      if (c :: letters).all (· == 'p') then
        (commandOptions rest).map fun (count, _) => (count + 1, true)
      else none
    | _ => some (0, false)

/-! ## Statements -/

mutual

/-- Runs a statement. -/
def runStatement : Nat → Setting → Statement → Shell Nat
  | 0, _, _ => exitWith errorStatus
  | fuel + 1, setting, statement => do
    if (← get).has 'n' then return 0
    runTraps fuel
    let (status, isChecked) ← runKind fuel setting statement
    modify fun s => { s with status }
    runTraps fuel
    let s ← get
    if setting.isLast || (isChecked && !setting.isTested && s.has 'e' && status != 0) then
      raise .exit
    else return s.status
termination_by structural fuel => fuel

/-- Runs a statement by its kind; gives its status, and whether its failure can end the shell. -/
def runKind : Nat → Setting → Statement → Shell (Nat × Bool)
  | 0, _, _ => exitWith errorStatus
  | fuel + 1, setting, statement => do
    let inner : Setting := { isTested := setting.isTested }
    let tested : Setting := { isTested := true }
    match statement with
    | .simple line assignments words redirects =>
      return (← runSimple fuel setting line assignments words redirects, true)
    | .pipeline stages isBackground =>
      return (← runPipeline fuel setting stages isBackground, true)
    | .redirected line body redirects =>
      modify fun s => { s with line }
      let targets ← redirects.mapM (expandTarget (runOutput fuel))
      pushStreams
      if ← redirectSafely targets then
        let status ← runStatement fuel inner body
        popStreams false
        return (status, false)
      else
        popStreams false
        return (errorStatus, true)
    | .subshell line body redirects =>
      return (← runSubshell fuel setting false line body redirects, true)
    | .background line body redirects =>
      return (← runSubshell fuel setting true line body redirects, true)
    | .both first second =>
      let status ← runStatement fuel tested first
      if status != 0 || (← get).flow != .next then return (status, false)
      else return (← runStatement fuel setting second, false)
    | .either first second =>
      let status ← runStatement fuel tested first
      if status == 0 || (← get).flow != .next then return (status, false)
      else return (← runStatement fuel setting second, false)
    | .sequence first second =>
      let status ← runStatement fuel inner first
      if (← get).flow != .next then return (status, false)
      else return (← runStatement fuel setting second, false)
    | .conditional test body otherwise =>
      let status ← runStatement fuel tested test
      if (← get).flow != .next then return (status, false)
      else if status == 0 then return (← runStatement fuel setting body, false)
      else match otherwise with
        | some other => return (← runStatement fuel setting other, false)
        | none => return (0, false)
    | .loop wanted test body =>
      modify fun s => { s with loops := s.loops + 1 }
      let status ← runLoop fuel inner wanted test body 0
      modify fun s => { s with loops := s.loops - 1 }
      return (status, false)
    | .each line name words body =>
      modify fun s => { s with line }
      let values ← expandWords (runOutput fuel) words
      modify fun s => { s with loops := s.loops + 1 }
      let status ← runEach fuel inner name values body 0
      modify fun s => { s with loops := s.loops - 1 }
      return (status, false)
    | .choice line word branches =>
      modify fun s => { s with line }
      let text ← expandText (runOutput fuel) word
      return (← runChoice fuel setting text branches, false)
    | .function _ name body =>
      modify fun s => { s with functions := (name, body) :: s.functions.filter (·.1 != name) }
      return (0, false)
    | .negated body =>
      let status ← runStatement fuel tested body
      return (if status == 0 then 1 else 0, false)
termination_by structural fuel => fuel

/-- Runs the turns of a loop, whose last status is given. -/
def runLoop : Nat → Setting → Bool → Statement → Statement → Nat → Shell Nat
  | 0, _, _, _, _, status => return status
  | fuel + 1, setting, wanted, test, body, status => do
    let tested ← runStatement fuel { isTested := true } test
    match (← get).flow with
    | .next =>
      if (tested == 0) != wanted then return status
      else
        let status ← runStatement fuel setting body
        if ← endTurn then return status
        else runLoop fuel setting wanted test body status
    | flow =>
      let status := match flow with
        | .returns _ => tested
        | _ => status
      if ← endTurn then return status
      else runLoop fuel setting wanted test body status
termination_by structural fuel => fuel

/-- Runs a statement for each of some values of a variable. -/
def runEach : Nat → Setting → String → List String → Statement → Nat → Shell Nat
  | 0, _, _, _, _, status => return status
  | _, _, _, [], _, status => return status
  | fuel + 1, setting, name, value :: rest, body, _ => do
    setVariable name value
    let status ← runStatement fuel setting body
    if ← endTurn then return status else runEach fuel setting name rest body status
termination_by structural fuel => fuel

/-- Runs the first branch that fits a text. -/
def runChoice : Nat → Setting → String → List (List Word × Option Statement) → Shell Nat
  | 0, _, _, _ => return 0
  | _, _, _, [] => return 0
  | fuel + 1, setting, text, (patterns, body) :: rest => do
    if ← fitsAny fuel text patterns then
      match body with
      | some s => runStatement fuel setting s
      | none => return 0
    else runChoice fuel setting text rest
termination_by structural fuel => fuel

/-- Whether a text fits one of some patterns. -/
def fitsAny : Nat → String → List Word → Shell Bool
  | 0, _, _ => return false
  | _, _, [] => return false
  | fuel + 1, text, pattern :: rest => do
    let g ← expandPattern (runOutput fuel) wordDepth pattern
    if g.accepts text.toList then return true else fitsAny fuel text rest
termination_by structural fuel => fuel

/-- Runs a statement in a shell of its own. -/
def runSubshell : Nat → Setting → Bool → Nat → Statement → List Redirect → Shell Nat
  | 0, _, _, _, _, _ => return errorStatus
  | fuel + 1, setting, isBackground, line, body, redirects => do
    modify fun s => { s with line }
    let targets ← redirects.mapM (expandTarget (runOutput fuel))
    let isTested := setting.isTested && !isBackground
    let work : Shell Nat := do
      redirectAll targets
      runStatement fuel { isLast := true, isTested } body
    if !isBackground && setting.isLast && !hasTraps (← get) then
      releaseTraps
      let _ ← work
      raise .exit
    else
      if !isBackground then passJob
      let process ← forkShell isBackground true (conclude fuel work)
      if isBackground then
        addJob [process]
        return 0
      else awaitJob [process]
termination_by structural fuel => fuel

/-- Runs statements each of which reads what the one before it writes. -/
def runPipeline : Nat → Setting → List Statement → Bool → Shell Nat
  | 0, _, _, _ => return errorStatus
  | fuel + 1, setting, stages, isBackground => do
    if !isBackground then passJob
    let processes ← runStages fuel setting isBackground none [] stages
    if isBackground then
      addJob processes
      return 0
    else awaitJob processes
termination_by structural fuel => fuel

/-- Starts the stages of a pipeline, the first of which reads from a given stream; gives their
processes, behind those so far, which come last first. -/
def runStages : Nat → Setting → Bool → Option Nat → List Nat → List Statement → Shell (List Nat)
  | 0, _, _, _, done, _ => return done.reverse
  | _, _, _, _, done, [] => return done.reverse
  | fuel + 1, setting, isBackground, source, done, stage :: rest => do
    let ends ← if rest.isEmpty then pure none else some <$> ask .pipe
    let process ← forkShell isBackground done.isEmpty (conclude fuel do
      match ends with
      | some (r, _) =>
        let _ ← ask (.close r)
      | none => pure ()
      match source with
      | some d => moveStream d 0
      | none => pure ()
      match ends with
      | some (_, w) => moveStream w 1
      | none => pure ()
      runStatement fuel { setting with isLast := true } stage)
    match source with
    | some d =>
      let _ ← ask (.close d)
    | none => pure ()
    match ends with
    | some (r, w) =>
      let _ ← ask (.close w)
      runStages fuel setting isBackground (some r) (process :: done) rest
    | none => return (process :: done).reverse
termination_by structural fuel => fuel

/-- The output of a statement, which is run in a shell of its own. -/
def runOutput : Nat → Statement → Shell String
  | 0, _ => return ""
  | fuel + 1, statement => do
    let (r, w) ← ask .pipe
    passJob
    let process ← forkShell false false (conclude fuel do
      let _ ← ask (.close r)
      moveStream w 1
      runStatement fuel { isLast := true } statement)
    let _ ← ask (.close w)
    let bytes ← readRest r readLimit []
    let _ ← ask (.close r)
    let status ← awaitJob [process]
    modify fun s => { s with substituted := status }
    return Text.Octets.ofBytes bytes
termination_by structural fuel => fuel

/-- Does the work of a shell to its end, with what is to be done then; gives the status. -/
def conclude : Nat → Shell Nat → Shell Nat
  | 0, _ => return errorStatus
  | fuel + 1, work => do
    match ← attempt work with
    | .ok status => modify fun s => { s with status }
    | .error _ => pure ()
    unwind 0 0
    let s ← get
    match s.traps.lookup 0 with
    | none => return s.status
    | some action =>
      set { s with
        traps := s.traps.filter (·.1 != 0), kept := some s.status, flow := .next, loops := 0 }
      match ← attempt (runText fuel {} action) with
      | .ok _ => return s.status
      | .error _ => return (← get).status
termination_by structural fuel => fuel

/-- Runs the text of a script. -/
def runText : Nat → Setting → String → Shell Nat
  | 0, _, _ => return errorStatus
  | fuel + 1, setting, text => runLines fuel setting 0 (Scanner.ofText text.toList)
termination_by structural fuel => fuel

/-- Runs a script line by line; gives the status of the last one, or the one given. -/
def runLines : Nat → Setting → Nat → Scanner → Shell Nat
  | 0, _, status, _ => return status
  | fuel + 1, setting, status, scanner => do
    let s ← get
    let scanner := { scanner with
      aliases := s.aliases, documents := s.documents, nextDocument := s.nextDocument }
    match scanner.readLine with
    | .error e =>
      modify fun s => { s with line := e.line }
      failSyntax e.complaint
    | .ok (.finish, _) => return status
    | .ok (.line statement?, scanner) =>
      modify fun s =>
        { s with documents := scanner.documents, nextDocument := scanner.nextDocument }
      match statement? with
      | none => runLines fuel setting status scanner
      | some statement =>
        let isLast := setting.isLast && scanner.isAtEnd
        let status ← runStatement fuel { setting with isLast } statement
        if (← get).flow != .next then return status
        else runLines fuel setting status scanner
termination_by structural fuel => fuel

/-- Does what is set for signals that have come. -/
def runTraps : Nat → Shell Unit
  | 0 => pure ()
  | fuel + 1 => do
    let s ← get
    if s.traps.any fun t => t.1 != 0 && !t.2.isEmpty then
      let caught ← ask .caught
      modify fun s => { s with pending := s.pending ++ caught }
      let s ← get
      if !s.pending.isEmpty && s.flow == .next then
        let signals := s.pending.mergeSort (decide <| · ≤ ·)
        set { s with pending := [], kept := some (s.kept.getD s.status) }
        runActions fuel (s.kept.getD s.status) signals
        modify fun s' => { s' with kept := s.kept }
termination_by structural fuel => fuel

/-- Does what is set for signals, keeping the status. -/
def runActions : Nat → Nat → List Nat → Shell Unit
  | 0, _, _ => pure ()
  | _, _, [] => pure ()
  | fuel + 1, status, signal :: rest => do
    let s ← get
    if s.flow != .next then set { s with pending := s.pending ++ signal :: rest }
    else
      match s.traps.lookup signal with
      | some action =>
        if !action.isEmpty then
          let _ ← runText fuel {} action
          modify fun s => { s with status := if s.flow == .returns true then s.status else status }
      | none => pure ()
      runActions fuel status rest
termination_by structural fuel => fuel

/-- Expands words up to and with the first one that gives fields. -/
def expandFirst : Nat → List Word → Shell (List String × List Word)
  | 0, words => return ([], words)
  | _, [] => return ([], [])
  | fuel + 1, word :: rest => do
    match ← expandWord (runOutput fuel) word with
    | [] => expandFirst fuel rest
    | fields => return (fields, rest)
termination_by structural fuel => fuel

/-- Finds out what command words name, expanding only as many of them as that takes. -/
def planCommand : Nat → Plan → Shell Plan
  | 0, plan => return plan
  | fuel + 1, plan => do
    let s ← get
    match plan.fields.drop plan.skipped with
    | [] => return plan
    | name :: given =>
      let command := commandOf s name plan.skipsFunctions
      match command with
      | .own own =>
        let isSpecial := specialNames.contains own
        let plan := { plan with
          command
          isLocal := plan.special.elim (!isSpecial) fun _ => true
          special := some (plan.special.getD isSpecial)
          assigns := assigningCommands.contains own
          isExec := own == "exec" }
        if own != "command" then return plan
        else
          let (more, rest) ← if given.isEmpty then expandFirst fuel plan.rest
            else pure ([], plan.rest)
          let plan := { plan with fields := plan.fields ++ more, rest }
          match commandOptions (given ++ more) with
          | none =>
            let (more, rest) ← expandFirst fuel plan.rest
            if more.isEmpty then return { plan with rest }
            else
              let plan := { plan with fields := plan.fields ++ more, rest }
              followCommand fuel plan
          | some _ => followCommand fuel plan
      | _ => return { plan with command, isLocal := true }
termination_by structural fuel => fuel

/-- Goes on with the command behind options. -/
def followCommand : Nat → Plan → Shell Plan
  | 0, plan => return plan
  | fuel + 1, plan => do
    match commandOptions (plan.fields.drop (plan.skipped + 1)) with
    | none => return plan
    | some (count, isUsual) =>
      planCommand fuel { plan with
        skipped := plan.skipped + 1 + count
        skipsFunctions := true
        path := if isUsual then some defaultPath else plan.path }
termination_by structural fuel => fuel

/-- Expands the words behind those of a plan. -/
def expandRest : Nat → Bool → List Word → Shell (List String)
  | 0, _, _ => return []
  | _, _, [] => return []
  | fuel + 1, assigns, word :: rest => do
    let fields ← match (if assigns then word.assignment? else none) with
      | some (name, value) => do
        pure [name ++ "=" ++ (← expandAssigned (runOutput fuel) value)]
      | none => expandWord (runOutput fuel) word
    return fields ++ (← expandRest fuel assigns rest)
termination_by structural fuel => fuel

/-- Runs a command with its assignments and redirections. -/
def runSimple : Nat → Setting → Nat → List Word → List Word → List Redirect → Shell Nat
  | 0, _, _, _, _, _ => exitWith errorStatus
  | fuel + 1, setting, line, assignments, words, redirects => do
    ask .pass
    modify fun s => { s with line, substituted := 0 }
    let (fields, rest) ← expandFirst fuel words
    let plan ← planCommand fuel { fields, rest }
    let fields := plan.fields ++ (← expandRest fuel plan.assigns plan.rest)
    let arguments := fields.drop plan.skipped
    let before ← get
    if plan.isLocal then pushLocals
    let targets ← redirects.mapM (expandTarget (runOutput fuel))
    if !redirects.isEmpty then pushStreams
    if ← redirectSafely targets then
      let assigned ← assignAll fuel plan.isLocal (plan.isExec && 1 < arguments.length) assignments
      traceCommand fuel (assigned ++ fields)
      let status ← runCommand fuel setting plan arguments
      if !redirects.isEmpty then popStreams plan.isExec
      unwind before.streams.length before.locals.length
      return status
    else
      modify fun s => { s with status := errorStatus }
      if plan.special == some true then raise .error
      unwind before.streams.length before.locals.length
      return errorStatus
termination_by structural fuel => fuel

/-- Makes assignments; gives how they are shown. -/
def assignAll : Nat → Bool → Bool → List Word → Shell (List String)
  | 0, _, _, _ => return []
  | _, _, _, [] => return []
  | fuel + 1, isLocal, isExported, word :: rest => do
    match word.assignment? with
    | none => assignAll fuel isLocal isExported rest
    | some (name, value) =>
      let text ← expandAssigned (runOutput fuel) value
      if isLocal then saveVariable name
      changeVariable name fun v =>
        { v with value := some text, exported := v.exported || isLocal || isExported }
      return s!"{name}={text}" :: (← assignAll fuel isLocal isExported rest)
termination_by structural fuel => fuel

/-- Shows a command before it is run, if that is asked for. -/
def traceCommand : Nat → List String → Shell Unit
  | 0, _ => pure ()
  | fuel + 1, fields => do
    let s ← get
    if s.has 'x' then
      set (s.switch 'x' false)
      let start ← match Scanner.readTemplate ((s.value? "PS4").getD "").toList with
        | .ok word => expandDocument (runOutput fuel) word
        | .error _ => pure ""
      modify (·.switch 'x' true)
      put (traceStream s) (start ++ " ".intercalate fields ++ "\n")
termination_by structural fuel => fuel

/-- Runs what a plan has found. -/
def runCommand : Nat → Setting → Plan → List String → Shell Nat
  | 0, _, _, _ => return errorStatus
  | fuel + 1, setting, plan, arguments => do
    match arguments, plan.command with
    | [], _ => return (← get).substituted
    | name :: rest, .own own =>
      match ← doOwn name (runOwn fuel setting own rest) with
      | .ok status => return status
      | .error .error =>
        if plan.special == some true then raise .error else return (← get).status
      | .error r => raise r
    | _ :: rest, .function body =>
      runFunction fuel setting body rest
      return (← get).status
    | name :: _, .other =>
      let path := plan.path.getD (pathValue (← get))
      let found ← if isPathLike name then pure (.ok name) else findProgram name path
      match found with
      | .error e =>
        warn s!"{name}: {runWords e}"
        modify fun s => { s with status := 127 }
        return 127
      | .ok _ =>
        if setting.isLast && !hasTraps (← get) then becomeProgram arguments path
        else
          passJob
          let process ← forkProcess (becomeProgram arguments path)
          awaitJob [process]
termination_by structural fuel => fuel

/-- Runs a command of the shell itself. -/
def runOwn : Nat → Setting → String → List String → Shell Nat
  | 0, _, _, _ => return errorStatus
  | fuel + 1, setting, name, arguments => do
    match name with
    | "eval" =>
      if arguments.isEmpty then return 0
      else runText fuel { isTested := setting.isTested } (" ".intercalate arguments)
    | "." =>
      match ← takeArguments arguments with
      | [] => return 0
      | script :: _ =>
        let path ← findScript script
        let text ← readFile path
        modify fun s => { s with command := some path }
        let status ← runText fuel {} text
        modify fun s => match s.flow with
          | .returns _ => { s with flow := .next }
          | _ => s
        return status
    | "exec" =>
      match ← takeArguments arguments with
      | [] => return 0
      | rest => becomeProgram rest (pathValue (← get))
    | _ => plainCommand name arguments
termination_by structural fuel => fuel

/-- Runs a function with arguments. -/
def runFunction : Nat → Setting → Statement → List String → Shell Unit
  | 0, _, _, _ => pure ()
  | fuel + 1, setting, body, parameters => do
    let before ← get
    if functionLimit ≤ before.depth then
      fail s!"Maximum function recursion depth ({functionLimit}) reached"
    set { before with
      parameters, loops := 0, optionIndex := 1, optionOffset := none, depth := before.depth + 1 }
    let result ← attempt (runStatement fuel { isTested := setting.isTested } body)
    modify fun s => { s with
      parameters := before.parameters
      loops := before.loops
      optionIndex := before.optionIndex
      optionOffset := before.optionOffset
      depth := before.depth
      flow := match s.flow with
        | .returns _ => .next
        | flow => flow }
    match result with
    | .ok _ => pure ()
    | .error r => raise r
termination_by structural fuel => fuel

end

end Deadwood.Shell
