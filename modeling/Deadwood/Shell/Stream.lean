import Deadwood.Shell.Expansion
import Deadwood.Shell.Job

/-!
# Streams

Redirections change where the streams of a shell lead. What was there before is kept, to be restored
when the command has ended.
-/

namespace Deadwood.Shell

open Host

/-- A redirection whose word has been expanded. -/
inductive Target where
  | file (way : FileWay) (name : String)
  | copy (source : Nat)
  | closed
  | document (text : String)
deriving DecidableEq, Repr, Inhabited

/-- Breaks off because of the way something was written. -/
def failSyntax {α : Type} (text : String) : Shell α := fail s!"Syntax error: {text}"

/-- Expands the word of a redirection. -/
def expandTarget (output : Statement → Shell String) : Redirect → Shell (Nat × Target)
  | .file stream way name => do return (stream, .file way (← expandText output name))
  | .copy stream (.number n) => return (stream, .copy n)
  | .copy stream .none => return (stream, .closed)
  | .copy stream (.word w) => do
    let text ← expandText output w
    match text.toList with
    | ['-'] => return (stream, .closed)
    | [d] => if d.isDigit then return (stream, .copy (d.toNat - 48)) else failSyntax "Bad fd number"
    | _ => failSyntax "Bad fd number"
  | .document stream expands number => do
    let w := ((← get).documents.lookup number).getD []
    if expands then return (stream, .document (← expandDocument output w))
    else return (stream, .document (Word.plain w))

/-- The words for why a file cannot be opened or made. -/
def openWords (creates : Bool) : SystemError → String
  | .noEntry | .notDirectory => if creates then "Directory nonexistent" else "No such file"
  | e => e.words

/-- How a file is opened. -/
def openModeOf (way : FileWay) (keeps : Bool) : OpenMode :=
  match way with
  | .read => { reads := true }
  | .readWrite => { reads := true, writes := true, creates := true }
  | .write => { writes := true, creates := true, truncates := !keeps, exclusive := keeps }
  | .replace => { writes := true, creates := true, truncates := true }
  | .append => { writes := true, creates := true, appends := true }

/-- Whether a file may only be made, because files are not to be replaced. -/
def isMadeOnly (way : FileWay) (name : String) : Shell Bool := do
  if way == .write && (← get).has 'C' then
    match ← ask (.info (pathOf name) true) with
    | .ok info =>
      if info.kind == .regular then fail s!"cannot create {name}: File exists"
      return false
    | .error _ => return true
  else return false

/-- Opens a file for a stream. -/
def openTarget (way : FileWay) (name : String) : Shell Nat := do
  let isKept ← isMadeOnly way name
  match ← ask (.openFile (pathOf name) (openModeOf way isKept) 0o666) with
  | .ok d => return d
  | .error e =>
    if way == .read then fail s!"cannot open {name}: {openWords false e}"
    else fail s!"cannot create {name}: {openWords true e}"

/-- How long a document may be that is handed over without a process of its own. -/
def documentLimit : Nat := 4096

/-- Opens a document for reading. -/
def openDocument (text : String) : Shell Nat := do
  let (r, w) ← ask .pipe
  if text.length ≤ documentLimit then put w text
  else
    let _ ← forkProcess do
      let _ ← ask (.close r)
      put w text
      return 0
  let _ ← ask (.close w)
  return r

/-- The first number for what is kept of streams. -/
def keptStreams : Nat := 10

/-- Keeps where a stream leads, unless that has been done; one that is new leads nowhere. -/
def keepStream (stream : Nat) (isNew : Bool) : Shell Unit := do
  let s ← get
  match s.streams with
  | [] => pure ()
  | frame :: rest =>
    if frame.any (·.1 == stream) then pure ()
    else if isNew then set { s with streams := ((stream, none) :: frame) :: rest }
    else match ← ask (.copyAbove stream keptStreams) with
      | .ok kept => set { s with streams := ((stream, some kept) :: frame) :: rest }
      | .error _ => set { s with streams := ((stream, none) :: frame) :: rest }

/-- Makes a stream lead where an open file does, which is then closed. -/
def moveStream (d stream : Nat) : Shell Unit := do
  if d != stream then
    let _ ← ask (.copy d stream)
    let _ ← ask (.close d)

/-- Makes one redirection. -/
def redirectOne (stream : Nat) (target : Target) : Shell Unit := do
  match target with
  | .copy source =>
    if source != stream then
      keepStream stream false
      match ← ask (.copy source stream) with
      | .ok () => pure ()
      | .error e => fail s!"{source}: {e.words}"
  | .closed =>
    keepStream stream false
    let _ ← ask (.close stream)
  | .file way name =>
    let d ← openTarget way name
    keepStream stream (d == stream)
    moveStream d stream
  | .document text =>
    let d ← openDocument text
    keepStream stream (d == stream)
    moveStream d stream

/-- Makes redirections one after another. -/
def redirectAll (targets : List (Nat × Target)) : Shell Unit := do
  for (stream, target) in targets do
    redirectOne stream target

/-- Begins a change of streams that is to be undone. -/
def pushStreams : Shell Unit := modify fun s => { s with streams := [] :: s.streams }

/-- Undoes the last change of streams, or forgets what was there before if it is to stay. -/
def popStreams (stays : Bool) : Shell Unit := do
  let s ← get
  for (stream, kept) in (s.streams.headD []) do
    match kept with
    | some d =>
      if !stays then
        let _ ← ask (.copy d stream)
      let _ ← ask (.close d)
    | none =>
      if !stays then
        let _ ← ask (.close stream)
  modify fun s => { s with streams := s.streams.drop 1 }

/-- Makes redirections; says whether that was possible. -/
def redirectSafely (targets : List (Nat × Target)) : Shell Bool := do
  match ← attempt (redirectAll targets) with
  | .ok () => return true
  | .error .error => return false
  | .error r => raise r

end Deadwood.Shell
