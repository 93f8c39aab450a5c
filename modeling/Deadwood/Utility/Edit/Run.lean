import Deadwood.Utility.Edit.Parser
import Deadwood.Utility.Line

/-!
# Running an editor of streams

A line is read, the instructions are followed, and what has become of the line is written; then
comes the next line. There is a second line that is held, and texts that are written after the line.
-/

namespace Deadwood.Utility.Edit

open Host
open Regex (Subject)

/-- A line that is worked on, and whether it has an end. -/
structure Space where
  text : List Char := []
  hasEnd : Bool := true
deriving DecidableEq, Repr, Inhabited

/-- What is written after a line. -/
inductive Addition where
  | text (cs : List Char)
  | file (name : String)
  | lineOf (name : String)
deriving DecidableEq, Repr, Inhabited

/-- A file that is written to. -/
structure Target where
  name : String
  descriptor : Nat
  /-- Whether the last line written has no end yet. -/
  lacksEnd : Bool := false
deriving DecidableEq, Repr, Inhabited

/-- How an editor was started. -/
structure Style where
  isQuiet : Bool := false
  /-- Whether every file is a stream of its own. -/
  isSeparate : Bool := false
  /-- Whether files are changed, with what a copy of the old one is called. -/
  replaces : Option String := none
  /-- What lines end in. -/
  mark : Char := '\n'
  /-- How long lines are that show everything. -/
  width : Nat := 70
deriving DecidableEq, Repr, Inhabited

/-- The state of an editor. -/
structure State where
  space : Space := {}
  held : Space := {}
  line : Nat := 0
  /-- The files that are left to read. -/
  files : List String := []
  /-- The name of the file that is read. -/
  name : String := "-"
  /-- What the file is read from. -/
  source : Option Nat := none
  /-- Lines that have been read from it. -/
  ahead : List (List Char × Bool) := []
  /-- The start of a line that has been read. -/
  begun : List Char := []
  additions : List Addition := []
  /-- Whether a substitution has been made since a line was read or a jump asked. -/
  isChanged : Bool := false
  /-- The instructions whose ranges have begun, with their last lines if these are known. -/
  ranges : List (Nat × Option Nat) := []
  /-- The instructions whose range can begin no more. -/
  closed : List Nat := []
  pattern : Option Regex := none
  /-- Where lines are written to. -/
  output : Target := { name := "-", descriptor := 1 }
  /-- What has been put into the output and not yet been written, last piece first. -/
  pieces : List (List Char) := []
  size : Nat := 0
  targets : List Target := []
  /-- Lines that are left of files that are read line by line. -/
  readings : List (String × List (List Char × Bool)) := []
deriving Inhabited

/-- Work of an editor. -/
abbrev Editor := StateT State Tool

/-- Does work of a program. -/
def lift {α : Type} (t : Tool α) : Editor α := StateT.lift t

/-! ## Writing -/

/-- Writes what has been put into the output. -/
def flush : Editor Unit := do
  let s ← get
  if !s.pieces.isEmpty then
    let text := s.pieces.reverse.flatten
    if s.output.descriptor == 1 then lift (out text)
    else
      let _ ← lift (ask (.write s.output.descriptor (Text.Octets.bytesOf text)))
    modify fun s => { s with pieces := [], size := 0 }

/-- How much is put into the output before it is written. -/
def bufferSize : Nat := 4096

/-- Puts characters into the output, behind the end that the last line may lack. -/
def put (cs : List Char) : Editor Unit := do
  modify fun s =>
    let cs := if s.output.lacksEnd then '\n' :: cs else cs
    { s with
      output := { s.output with lacksEnd := false }
      pieces := cs :: s.pieces
      size := s.size + cs.length }
  if bufferSize ≤ (← get).size then flush

/-- Puts a line into the output. -/
def putSpace (style : Style) (space : Space) : Editor Unit := do
  put (space.text ++ if space.hasEnd then [style.mark] else [])
  modify fun s => { s with output := { s.output with lacksEnd := !space.hasEnd } }

/-- Writes a line to a file. -/
def writeTo (style : Style) (name : String) (space : Space) : Editor Unit := do
  match (← get).targets.find? (·.name == name) with
  | none => pure ()
  | some t =>
    let cs := (if t.lacksEnd && t.descriptor > 2 then [style.mark] else []) ++ space.text ++
      if space.hasEnd then [style.mark] else []
    if t.descriptor == 1 then
      modify fun s => { s with pieces := cs :: s.pieces, size := s.size + cs.length }
    else
      let _ ← lift (ask (.write t.descriptor (Text.Octets.bytesOf cs)))
    modify fun s => { s with targets := s.targets.map fun t =>
      if t.name == name then { t with lacksEnd := !space.hasEnd } else t }

/-! ## Reading -/

/-- What the copy of an old file is called. -/
def changedName (path : String) (suffix : String) : String :=
  if suffix.toList.contains '*' then
    let name := String.ofList (lastName path.toList)
    let full := String.join ((suffix.splitOn "*").intersperse name)
    if full.toList.contains '/' then full
    else
      let above := String.ofList (path.toList.take (path.length - name.length))
      above ++ full
  else path ++ suffix

/-- The name of the file that takes the place of another one. -/
def freshName (path : String) : String :=
  let name := String.ofList (lastName path.toList)
  String.ofList (path.toList.take (path.length - name.length)) ++ "sedAbCdEf"

/-- Ends the work on a file: a changed one takes its place. -/
def finishFile (style : Style) : Editor Unit := do
  let s ← get
  match s.source with
  | none => pure ()
  | some d =>
    lift (closeInput s.name d)
    modify fun s => { s with source := none }
    match style.replaces with
    | none => pure ()
    | some suffix =>
      if s.output.descriptor != 1 then
        flush
        let _ ← lift (ask (.close s.output.descriptor))
        if !suffix.isEmpty then
          let _ ← lift (ask (.rename (pathOf s.name) (pathOf (changedName s.name suffix))))
        let _ ← lift (ask (.rename (pathOf (freshName s.name)) (pathOf s.name)))
        modify fun s => { s with output := { name := "-", descriptor := 1 } }

/-- Opens the place for what a file is to become. -/
def openFresh (name : String) : Editor Bool := do
  match ← lift (infoOf? name true) with
  | some info =>
    if info.kind != .regular then
      lift (complain s!"couldn't edit {name}: not a regular file")
      lift (setStatus 4)
      return false
    let mode : OpenMode := { writes := true, creates := true, truncates := true }
    match ← lift (ask (.openFile (pathOf (freshName name)) mode info.mode)) with
    | .ok d =>
      modify fun s => { s with output := { name, descriptor := d } }
      return true
    | .error e =>
      let fresh := freshName name
      lift (complain s!"couldn't open temporary file {fresh}: {e.words}")
      lift (quit 4)
  | none => return true

/-- Opens the next file; says whether there is one. -/
def openNext (style : Style) : Nat → Editor Bool
  | 0 => return false
  | fuel + 1 => do
    match (← get).files with
    | [] => return false
    | name :: files =>
      modify fun s => { s with files }
      match ← lift (openInput name) with
      | .error e =>
        lift (complain s!"can't read {name}: {e.words}")
        lift (setStatus 2)
        openNext style fuel
      | .ok d =>
        let isFit ← if style.replaces.isSome && name != "-" then openFresh name else pure true
        if isFit then
          modify fun s => { s with
            source := some d
            name
            line := if style.isSeparate then 0 else s.line
            ranges := if style.isSeparate then [] else s.ranges
            closed := if style.isSeparate then [] else s.closed }
          return true
        else
          lift (closeInput name d)
          openNext style fuel

/-- Reads from the file until a line is there; says whether there is one. -/
def readAhead (style : Style) : Nat → Editor Bool
  | 0 => return false
  | fuel + 1 => do
    let s ← get
    if !s.ahead.isEmpty then return true
    match s.source with
    | none => return false
    | some d =>
      match ← lift (ask (.read d chunkSize none)) with
      | .error .interrupted => readAhead style fuel
      | .error e =>
        lift (complain s!"read error on {s.name}: {e.words}")
        lift (setStatus 2)
        return false
      | .ok [] =>
        if s.begun.isEmpty then return false
        modify fun s => { s with ahead := [(s.begun, false)], begun := [] }
        return true
      | .ok bytes =>
        let lines := splitLines style.mark (s.begun ++ Text.Octets.listOf bytes)
        modify fun s => match lines.getLast? with
          | some (last, false) => { s with ahead := lines.dropLast, begun := last }
          | _ => { s with ahead := lines, begun := [] }
        readAhead style fuel

/-- Makes a line ready, from the next files if need be; says whether there is one. `stays` keeps it
to the file that is being read. -/
def prepareLine (style : Style) (stays : Bool) : Nat → Editor Bool
  | 0 => return false
  | fuel + 1 => do
    if ← readAhead style chunkLimit then return true
    if stays && (← get).source.isSome then return false
    finishFile style
    let count := (← get).files.length + 1
    if ← openNext style count then prepareLine style stays fuel else return false

/-- How many files there can be. -/
def fileLimit : Nat := 1000000

/-- Whether the line that is worked on is the last one. -/
def isLast (style : Style) : Editor Bool := do
  if style.isSeparate then
    if ← readAhead style chunkLimit then return false
    return true
  else return !(← prepareLine style false fileLimit)

/-- Takes the next line; says whether there is one. -/
def takeNext (style : Style) : Editor (Option Space) := do
  if ← prepareLine style false fileLimit then
    match (← get).ahead with
    | (text, hasEnd) :: ahead =>
      modify fun s => { s with ahead, line := s.line + 1 }
      return some { text, hasEnd }
    | [] => return none
  else return none

/-- Writes what was to be written after the line. -/
def putAdditions (style : Style) : Editor Unit := do
  let additions := (← get).additions
  modify fun s => { s with additions := [] }
  for a in additions do
    match a with
    | .text cs => put cs
    | .file name =>
      match ← lift (openInput (if name == "/dev/stdin" then "-" else name)) with
      | .error _ => pure ()
      | .ok d =>
        let found ← lift (readAll d chunkLimit [])
        lift (closeInput name d)
        match found with
        | .ok cs => if !cs.isEmpty then put cs
        | .error _ => pure ()
    | .lineOf name =>
      let lines ← match (← get).readings.lookup name with
        | some lines => pure lines
        | none => do
          match ← lift (openInput name) with
          | .error _ => pure []
          | .ok d =>
            let found ← lift (readAll d chunkLimit [])
            lift (closeInput name d)
            match found with
            | .ok cs => pure (splitLines style.mark cs)
            | .error _ => pure []
      modify fun s => { s with readings := (name, lines.drop 1) :: s.readings }
      match lines.head? with
      | some (text, hasEnd) => put (text ++ if hasEnd then [style.mark] else [])
      | none => pure ()

/-! ## Addresses -/

/-- The expression of a pattern, which becomes the one looked for last. -/
def regexOf (p : Pattern) : Editor Regex := do
  match p.regex with
  | some r =>
    modify fun s => { s with pattern := some r }
    return r
  | none =>
    match (← get).pattern with
    | some r => return r
    | none =>
      lift (complain "-e expression #1, char 0: no previous regular expression")
      lift (quit 1)

/-- Whether an address picks the line. -/
def picks (style : Style) : Address → Editor Bool
  | .line n => return (← get).line == n
  | .last => isLast style
  | .step first span => do
    let line := (← get).line
    return first ≤ line && (line - first) % span == 0
  | .fits p => do
    let r ← regexOf p
    let subject : Subject :=
      { text := (← get).space.text.toArray, foldsCase := p.foldsCase, hasLines := p.hasLines }
    return Regex.occurs subject r
  | .more _ => return true
  | .multiple _ => return true

/-- Whether a range that has begun at the line goes on behind it, and up to which line if that is
known. -/
def rangeFrom (line : Nat) : Address → Option (Option Nat)
  | .line n => if n ≤ line then none else some (some n)
  | .more 0 => none
  | .more count => some (some (line + count))
  | .multiple n => if n == 0 || line % n == 0 then none else some (some ((line / n + 1) * n))
  | _ => some none

/-- Ends the range of an instruction. -/
def endRange (place : Nat) : Editor Unit :=
  modify fun s => { s with
    ranges := s.ranges.filter (·.1 != place), closed := place :: s.closed }

/-- Whether an instruction is meant for the line, by its addresses. -/
def isPicked (style : Style) (place : Nat) (i : Instruction) : Editor Bool := do
  match i.first, i.second with
  | none, _ => return true
  | some a, none => picks style a
  | some a, some b =>
    let s ← get
    let begun := match a with
      | .line 0 => if s.closed.contains place then none else some none
      | _ => s.ranges.lookup place
    match begun with
    | some (some last) =>
      if last ≤ s.line then endRange place
      return s.line ≤ last
    | some none =>
      if ← picks style b then endRange place
      return true
    | none =>
      if ← picks style a then
        match rangeFrom s.line b with
        | some last =>
          modify fun s => { s with ranges := (place, last) :: s.ranges }
        | none => pure ()
        return true
      else return false

/-! ## Substitutions -/

/-- Changes the case of a character in the way that is in force, for one character or from here
on. -/
def recase (once always : Option Bool) (c : Char) : Char :=
  match once.or always with
  | some true => c.toUpper
  | some false => c.toLower
  | none => c

/-- Puts a replacement together. -/
def expand (s : Subject) (m : Regex.Match) :
    Option Bool → Option Bool → List Part → List Char
  | _, _, [] => []
  | once, always, .casing way :: rest =>
    match way with
    | 'U' => expand s m once (some true) rest
    | 'L' => expand s m once (some false) rest
    | 'u' => expand s m (some true) always rest
    | 'l' => expand s m (some false) always rest
    | _ => expand s m none none rest
  | once, always, .text cs :: rest => spread once always cs rest
  | once, always, .group n :: rest => spread once always (m.group s n) rest
where
  /-- Puts characters in front of the rest. -/
  spread (once always : Option Bool) (cs : List Char) (rest : List Part) : List Char :=
    match cs with
    | [] => expand s m once always rest
    | c :: cs => recase once always c :: (cs.map (recase none always)) ++ expand s m none always rest

/-- Replaces the parts that fit, from a place on; `count` parts have been found, `last` is where the
last one ended. Gives the pieces of the new line, last first, and whether anything was replaced. -/
def replaceFrom (s : Subject) (r : Regex) (sub : Substitution) :
    Nat → Nat → Nat → Option Nat → List (List Char) → Bool → List (List Char) × Bool
  | 0, place, _, _, done, isDone => (s.part place s.text.size :: done, isDone)
  | fuel + 1, place, count, last, done, isDone =>
    match Regex.search s r place with
    | none => (s.part place s.text.size :: done, isDone)
    | some m =>
      let before := s.part place m.first
      let isEmpty := m.first == m.last
      let next := s.part m.last (m.last + 1)
      if isEmpty && last == some m.first then
        if s.text.size ≤ m.last then (before :: done, isDone)
        else replaceFrom s r sub fuel (m.last + 1) count none (next :: before :: done) isDone
      else
        let count := count + 1
        let isMeant := sub.number ≤ count
        let new := if isMeant then expand s m none none sub.parts else s.part m.first m.last
        let done := new :: before :: done
        let isDone := isDone || isMeant
        if isMeant && !sub.isGlobal then (s.part m.last s.text.size :: done, isDone)
        else if isEmpty then
          if s.text.size ≤ m.last then (done, isDone)
          else replaceFrom s r sub fuel (m.last + 1) count none (next :: done) isDone
        else replaceFrom s r sub fuel m.last count (some m.last) done isDone

/-- Makes a substitution in the line. -/
def substitute (style : Style) (sub : Substitution) : Editor Unit := do
  let r ← regexOf sub.pattern
  let space := (← get).space
  let subject : Subject :=
    { text := space.text.toArray, foldsCase := sub.pattern.foldsCase
      hasLines := sub.pattern.hasLines }
  let (pieces, isDone) := replaceFrom subject r sub (space.text.length + 2) 0 0 none [] false
  if isDone then
    let space := { space with text := pieces.reverse.flatten }
    modify fun s => { s with space, isChanged := true }
    if sub.prints then putSpace style space
    match sub.file with
    | some name => writeTo style name space
    | none => pure ()

/-! ## Showing everything -/

/-- A character as it is shown where everything can be seen. -/
def revealed (c : Char) : List Char :=
  match c with
  | '\\' => ['\\', '\\']
  | '\x07' => ['\\', 'a']
  | '\x08' => ['\\', 'b']
  | '\x0c' => ['\\', 'f']
  | '\n' => ['\\', 'n']
  | '\r' => ['\\', 'r']
  | '\t' => ['\\', 't']
  | '\x0b' => ['\\', 'v']
  | _ =>
    if ' ' ≤ c && c ≤ '~' then [c]
    else
      let n := c.toNat
      '\\' :: [n / 64, n / 8 % 8, n % 8].map fun d => Char.ofNat (48 + d)

/-- Shows a line in lines of a width; nought and one are no limit. -/
def reveal (width : Nat) (cs : List Char) : List Char :=
  let (done, _) := cs.foldl (fun (state : List (List Char) × Nat) c =>
    let shown := revealed c
    if 1 < width && width - 1 < state.2 + shown.length then
      (shown :: ['\\', '\n'] :: state.1, shown.length)
    else (shown :: state.1, state.2 + shown.length)) ([], 0)
  done.reverse.flatten ++ ['$', '\n']

/-! ## Instructions -/

/-- How following the instructions ends. -/
inductive Outcome where
  /-- The line is written. -/
  | done
  /-- The line is not written. -/
  | dropped
  /-- The instructions start anew with what is left of the line. -/
  | again
  | quit (status : Nat)
  | left (status : Nat)
deriving DecidableEq, Repr, Inhabited

/-- What follows an instruction. -/
inductive Step where
  | next
  | goto (place : Nat)
  | ends (o : Outcome)
deriving DecidableEq, Repr, Inhabited

/-- The first line of what is worked on. -/
def firstLine (cs : List Char) : List Char := cs.takeWhile (· != '\n')

/-- Changes the line. -/
def setText (text : List Char) : Editor Unit :=
  modify fun s => { s with space := { s.space with text } }

/-- Does what an instruction says. -/
def perform (style : Style) (script : Script) (place : Nat) (i : Instruction) : Editor Step := do
  let s ← get
  let space := s.space
  match i.deed with
  | .skipTo place => return .goto place
  | .nothing => return .next
  | .jump condition label =>
    let isMeant := condition.all (· == s.isChanged)
    if condition.isSome then modify fun s => { s with isChanged := false }
    if !isMeant then return .next
    let _ ← lift (ask .pass)
    return .goto ((script.labels.lookup label).getD script.instructions.size)
  | .append text =>
    modify fun s => { s with additions := s.additions ++ [.text text] }
    return .next
  | .insert text =>
    put text
    return .next
  | .change text =>
    let isOpen := (s.ranges.lookup place).isSome && !i.isNegated
    if !isOpen then put text
    return .ends .dropped
  | .delete => return .ends .dropped
  | .deleteFirst =>
    if space.text.contains '\n' then
      setText (space.text.drop ((firstLine space.text).length + 1))
      return .ends .again
    else return .ends .dropped
  | .getHeld =>
    modify fun s => { s with space := s.held }
    return .next
  | .addHeld =>
    modify fun s => { s with
      space := { text := s.space.text ++ style.mark :: s.held.text, hasEnd := s.held.hasEnd } }
    return .next
  | .hold =>
    modify fun s => { s with held := s.space }
    return .next
  | .addToHeld =>
    modify fun s => { s with
      held := { text := s.held.text ++ style.mark :: s.space.text, hasEnd := s.space.hasEnd } }
    return .next
  | .exchange =>
    modify fun s => { s with space := s.held, held := s.space }
    return .next
  | .reveal width =>
    put (reveal (width.getD style.width) space.text)
    return .next
  | .next =>
    if !(← prepareLine style false fileLimit) then return .ends (.quit 0)
    if !style.isQuiet then putSpace style space
    putAdditions style
    match ← takeNext style with
    | some space =>
      modify fun s => { s with space }
      return .next
    | none => return .ends (.left 0)
  | .addNext =>
    if !(← prepareLine style false fileLimit) then return .ends .done
    putAdditions style
    match ← takeNext style with
    | some more =>
      modify fun s => { s with
        space := { text := s.space.text ++ style.mark :: more.text, hasEnd := more.hasEnd } }
      return .next
    | none => return .ends .done
  | .print =>
    putSpace style space
    return .next
  | .printFirst =>
    put (firstLine space.text ++ [style.mark])
    return .next
  | .quit status => return .ends (.quit status)
  | .leave status => return .ends (.left status)
  | .readFile name =>
    modify fun s => { s with additions := s.additions ++ [.file name] }
    return .next
  | .readLine name =>
    modify fun s => { s with additions := s.additions ++ [.lineOf name] }
    return .next
  | .writeFile name =>
    writeTo style name space
    return .next
  | .writeFirst name =>
    writeTo style name { text := firstLine space.text, hasEnd := true }
    return .next
  | .showNumber =>
    put (toString s.line ++ "\n").toList
    return .next
  | .showName =>
    put (s.name ++ "\n").toList
    return .next
  | .clear =>
    setText []
    return .next
  | .substitute sub =>
    substitute style sub
    return .next
  | .exchangeChars pairs =>
    setText (space.text.map fun c => (pairs.lookup c).getD c)
    return .next

/-- A bound on how many instructions are followed. -/
def stepLimit : Nat := 1000000000000

/-- Follows the instructions from a place on. -/
def follow (style : Style) (script : Script) : Nat → Nat → Editor Outcome
  | 0, _ => return .done
  | fuel + 1, place => do
    match script.instructions[place]? with
    | none => return .done
    | some i =>
      if (← isPicked style place i) != i.isNegated then
        match ← perform style script place i with
        | .next => follow style script fuel (place + 1)
        | .goto place => follow style script fuel place
        | .ends o => return o
      else follow style script fuel (place + 1)

/-- Works on lines until there are none; `isFresh` says whether the next one has to be read. Gives
the status. -/
def cycle (style : Style) (script : Script) : Nat → Bool → Editor (Option Nat)
  | 0, _ => return none
  | fuel + 1, isFresh => do
    let isThere ← if isFresh then do
        match ← takeNext style with
        | some space =>
          modify fun s => { s with space, isChanged := false }
          pure true
        | none => pure false
      else pure true
    if !isThere then return none
    let o ← follow style script stepLimit 0
    let show' : Editor Unit := do
      if !style.isQuiet then
        let space := (← get).space
        putSpace style space
    match o with
    | .done =>
      show'
      putAdditions style
      cycle style script fuel true
    | .dropped =>
      putAdditions style
      cycle style script fuel true
    | .again =>
      putAdditions style
      cycle style script fuel false
    | .quit status =>
      show'
      putAdditions style
      put []
      return some status
    | .left status => return some status

/-- Works on all lines; gives the status if there was an instruction to end with one. -/
def edit (style : Style) (script : Script) : Editor (Option Nat) := do
  let status ← cycle style script stepLimit true
  finishFile style
  flush
  return status

/-! ## The program -/

/-- The files that instructions write to. -/
def targetNames (script : Script) : List String :=
  (script.instructions.toList.filterMap fun i => match i.deed with
    | .writeFile name | .writeFirst name => some name
    | .substitute s => s.file
    | _ => none).eraseDups

/-- Opens the files that instructions write to. -/
def openTargets : List String → Tool (List Target)
  | [] => return []
  | name :: rest => do
    let descriptor ← match name with
      | "/dev/stdout" => pure 1
      | "/dev/stderr" => pure 2
      | _ => do
        let mode : OpenMode := { writes := true, creates := true, truncates := true }
        match ← ask (.openFile (pathOf name) mode 0o666) with
        | .ok d => pure d
        | .error e => die s!"couldn't open file {name}: {e.words}" 4
    return { name, descriptor } :: (← openTargets rest)

/-- The label of a jump that leads nowhere. -/
def lostLabel? (script : Script) : Option String :=
  script.instructions.toList.findSome? fun i => match i.deed with
    | .jump _ label =>
      if label.isEmpty || (script.labels.lookup label).isSome then none else some label
    | _ => none

/-- How the program is used. -/
def usage {α : Type} : Tool α := do
  putError ("Usage: sed [OPTION]... \x7bscript-only-if-no-other-script\x7d [input-file]...\n\n")
  quit 1

/-- The pieces of the script in the order in which they are given. -/
def piecesOf : List (Char × String) → Nat → Tool (List (Origin × List Char))
  | [], _ => return []
  | ('e', text) :: rest, number => do
    return (.argument number, text.toList) :: (← piecesOf rest (number + 1))
  | ('f', name) :: rest, number => do
    match ← openInput name with
    | .error e => die s!"couldn't open file {name}: {e.words}"
    | .ok d =>
      match ← readAll d chunkLimit [] with
      | .error e => die s!"read error on {name}: {e.words}"
      | .ok cs =>
        closeInput name d
        let cs := if cs.getLast? == some '\n' then cs.dropLast else cs
        return (.file name, cs) :: (← piecesOf rest number)
  | _ :: rest, number => piecesOf rest number

/-- Edits streams of lines. -/
def sed (arguments : List String) : Tool Unit := do
  let table : OptionTable :=
    { letters := OptionTable.ofLetters "bsnrzuEe:f:l:V".toList ++ [('i', .maybe)]
      names := [("expression", 'e'), ("file", 'f'), ("quiet", 'n'), ("silent", 'n'),
        ("regexp-extended", 'E'), ("separate", 's'), ("in-place", 'i'), ("null-data", 'z'),
        ("unbuffered", 'u'), ("line-length", 'l'), ("posix", 'V'), ("debug", 'V')] }
  let p ← match table.read (arguments.length + 1) arguments with
    | .ok p => pure p
    | .error text => do
      complain text
      usage
  let given := p.options.filter fun o => o.1 == 'e' || o.1 == 'f'
  if given.isEmpty && p.operands.isEmpty then usage
  let operands := if given.isEmpty then p.operands.drop 1 else p.operands
  let given := if given.isEmpty then [('e', p.operands.headD "")] else given
  let pieces ← piecesOf given 1
  match readScript (p.has 'E' || p.has 'r') pieces with
  | .error e => die e.message
  | .ok script =>
    match lostLabel? script with
    | some label => die s!"can't find label for jump to \x60{label}'"
    | none => pure ()
    let targets ← openTargets (targetNames script)
    let style : Style :=
      { isQuiet := p.has 'n' || script.isQuiet, isSeparate := p.has 's' || p.has 'i'
        replaces := if p.has 'i' then some ((p.value? 'i').getD "") else none
        mark := if p.has 'z' then '\x00' else '\n'
        width := ((p.value? 'l').bind Shell.digits?).getD 70 }
    let start : State := { files := inputsOf operands, targets }
    let (status, _) ← (edit style script).run start
    if status.any (· != 0) then quit (status.getD 0)

end Deadwood.Utility.Edit
