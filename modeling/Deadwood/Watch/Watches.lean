import Deadwood.FileTree.Basic
import Deadwood.Watch.Relevance

/-!
# What is watched

A watch is kept on a file, whatever its name becomes, and tells of changes under the path at which
the file was found. Below a watched directory every directory is watched, also one that comes later;
a directory that goes away or is moved away is no longer watched.
-/

namespace Deadwood.Watch

/-- A watch on a file. -/
structure FileWatch where
  file : Nat
  /-- The path under which changes are told. -/
  path : Path
  /-- Whether it is told that the file itself goes away or is moved. -/
  minds : Bool := false
deriving DecidableEq, Repr, Inhabited

/-- The watches, with at most one on a file. -/
abbrev Watches := List FileWatch

namespace Watches

/-- The watch on a file. -/
def on? (ws : Watches) (file : Nat) : Option FileWatch := ws.find? (·.file == file)

/-- The path under which a change in a directory is told. -/
def pathIn? (ws : Watches) (directory : Nat) (name : FileName) : Option Path :=
  (ws.on? directory).map (·.path.join ⟨name⟩)

/-- Watches a file; a watch on it from before tells under the new path. -/
def add (ws : Watches) (w : FileWatch) : Watches :=
  let minds := w.minds || (ws.on? w.file).any fun old => old.minds && old.path.same w.path
  { w with minds } :: ws.filter (·.file != w.file)

/-- Drops the watches at a path and below it. -/
def drop (ws : Watches) (path : Path) : Watches :=
  if ws.any (·.path.same path) then
    ws.filter fun w => !path.components.isPrefixOf w.path.components
  else ws

/-- Watches a directory and all below it, with those that links lead to; `above` are the
directories on the way, none of which is entered once more. -/
def addBelow (t : FileTree) (minds : Bool) (above : List Nat) :
    Nat → Path → Nat → Watches → Watches
  | 0, _, _, ws => ws
  | levels + 1, path, file, ws =>
    (t.entries file).foldl (fun ws (name, _) =>
        match t.findFrom file ⟨name⟩ true with
        | .ok next =>
          if t.isDirectoryAt next && !(file :: above).contains next then
            addBelow t false (file :: above) levels (path.join ⟨name⟩) next ws
          else ws
        | .error _ => ws)
      (ws.add { file, path, minds })

/-- Watches what a path leads to. -/
def addPath (t : FileTree) (path : Path) (minds : Bool) (ws : Watches) : Watches :=
  match t.find path with
  | .ok file =>
    if t.isDirectoryAt file then addBelow t minds [] t.nodes.size path file ws
    else ws.add { file, path, minds := true }
  | .error _ => ws

/-- The watches on a workspace. -/
def start (t : FileTree) (root : Path) : Watches := addPath t root true []

/-! ## Telling -/

/-- The paths under which a change of a file is told: that of its own watch, and those of the
directories that have a name for it. -/
def pathsOf (t : FileTree) (ws : Watches) (file : Nat) : List Path :=
  ((ws.on? file).map (·.path)).toList ++ ws.filterMap fun w =>
    ((t.entries w.file).find? (·.2 == file)).map fun e => w.path.join ⟨e.1⟩

/-- The paths under which an event is told. -/
def told (t : FileTree) (ws : Watches) : FileEvent → List Path
  | .created directory name | .deleted directory name => (ws.pathIn? directory name).toList
  | .movedFrom directory name | .movedTo directory name => (ws.pathIn? directory name).toList
  | .modified file | .touched file => pathsOf t ws file
  | .vanished file | .moved file =>
    (((ws.on? file).filter (·.minds)).map (·.path)).toList

/-- The watches that an event ends. -/
def afterLoss (ws gone : Watches) : FileEvent → Watches
  | .deleted directory name | .movedFrom directory name =>
    (ws.pathIn? directory name).elim gone gone.drop
  | .vanished file => gone.filter (·.file != file)
  | _ => gone

/-- The watches that an event starts. -/
def afterGain (t : FileTree) (ws new : Watches) : FileEvent → Watches
  | .created directory name | .movedTo directory name =>
    match ws.pathIn? directory name, (t.entries directory).lookup name with
    | some path, some file =>
      if t.isDirectoryAt file then addPath t path false new else new
    | _, _ => new
  | _ => new

/-- The watches after some events: first those that end, then those that start. -/
def after (t : FileTree) (ws : Watches) (events : List FileEvent) : Watches :=
  events.foldl (fun new e => afterGain t ws new e) (events.foldl (fun gone e => afterLoss ws gone e) ws)

/-- Whether one of some events is told under a path that matters. -/
def matter (t : FileTree) (root : Path) (ws : Watches) (events : List FileEvent) : Bool :=
  events.any fun e => (told t ws e).any (isRelevant root)

end Watches

end Deadwood.Watch
