import Deadwood.FileTree.Basic

/-!
# Changes of file trees

Every change leaves an event. The operations on numbers trust that what they are given is there;
the operations on paths check it.
-/

namespace Deadwood.FileTree

/-! ## Files by number -/

/-- Notes an event; one that repeats the last one says nothing new. -/
def note (t : FileTree) (e : FileEvent) : FileTree :=
  { t with
    events := if t.events.head? == some e then t.events else e :: t.events
    changes := t.changes + 1 }

/-- Replaces a file. -/
def setNode (t : FileTree) (file : Nat) (n : FileNode) : FileTree :=
  { t with nodes := t.nodes.setIfInBounds file n }

/-- The stamp of the next change. -/
def nextStamp (t : FileTree) : Nat := t.changes + 1

/-- Changes the names in a directory. -/
def setEntries (t : FileTree) (directory : Nat) (es : List (FileName × Nat)) : FileTree :=
  match t.node directory with
  | { content := .directory above _, mode, .. } =>
    t.setNode directory { content := .directory above es, mode, stamp := t.nextStamp }
  | _ => t

/-- Adds a file under a name that is free. -/
def create (t : FileTree) (directory : Nat) (name : FileName) (content : Content) (mode : Nat) :
    FileTree × Nat :=
  let file := t.nodes.size
  let t := { t with nodes := t.nodes.push { content, mode, stamp := t.nextStamp } }
  ((t.setEntries directory (t.entries directory ++ [(name, file)])).note
    (.created directory name), file)

/-- Changes the data of a file. -/
def setData (t : FileTree) (file : Nat) (bytes : List UInt8) : FileTree :=
  (t.setNode file { t.node file with content := .data bytes, stamp := t.nextStamp }).note
    (.modified file)

/-- Changes the rights of a file. -/
def setMode (t : FileTree) (file : Nat) (mode : Nat) : FileTree :=
  (t.setNode file { t.node file with mode }).note (.touched file)

/-- Changes the time of a file. -/
def touch (t : FileTree) (file : Nat) : FileTree :=
  (t.setNode file { t.node file with stamp := t.nextStamp }).note (.touched file)

/-- The names of a file: in which directory and which name. -/
def namesOf (t : FileTree) (file : Nat) : List (Nat × FileName) :=
  (List.range t.nodes.size).flatMap fun d =>
    (t.entries d).filterMap fun e => if e.2 == file then some (d, e.1) else none

/-- Notes that a name of a file is gone, and the file too if that was the last one. -/
def noteLoss (t : FileTree) (file : Nat) : FileTree :=
  let t := if t.isDirectoryAt file then t else t.note (.touched file)
  if (t.namesOf file).isEmpty then t.note (.vanished file) else t

/-- Takes a name away. -/
def unlink (t : FileTree) (directory : Nat) (name : FileName) : FileTree :=
  match (t.entries directory).lookup name with
  | none => t
  | some file =>
    ((t.setEntries directory ((t.entries directory).filter (·.1 != name))).noteLoss file).note
      (.deleted directory name)

/-- Gives a file one more name. -/
def link (t : FileTree) (file directory : Nat) (name : FileName) : FileTree :=
  ((t.setEntries directory (t.entries directory ++ [(name, file)])).note (.touched file)).note
    (.created directory name)

/-- Moves a name to another one; a file of that name is replaced. -/
def move (t : FileTree) (directory : Nat) (name : FileName) (directory' : Nat) (name' : FileName) :
    FileTree :=
  match (t.entries directory).lookup name with
  | none => t
  | some file =>
    let replaced := (t.entries directory').lookup name'
    if replaced == some file then t
    else
      let t := t.setEntries directory ((t.entries directory).filter (·.1 != name))
      let others := (t.entries directory').filter (·.1 != name')
      let t := t.setEntries directory' (others ++ [(name', file)])
      let t := match t.node file with
        | { content := .directory _ es, mode, stamp } =>
          t.setNode file { content := .directory directory' es, mode, stamp }
        | _ => t
      let t := (t.note (.movedFrom directory name)).note (.movedTo directory' name')
      let t := t.note (.moved file)
      replaced.elim t t.noteLoss

/-- Whether a directory is another one or lies above it; so many steps up at most. -/
def isAbove (t : FileTree) (upper : Nat) : Nat → Nat → Bool
  | 0, _ => false
  | steps + 1, lower =>
    lower == upper || (lower != root && t.isAbove upper steps (t.parent lower))

/-- Takes a file away with all that is below it; so many levels deep at most. -/
def removeAll : Nat → FileTree → Nat → FileName → FileTree
  | 0, t, _, _ => t
  | levels + 1, t, directory, name =>
    match (t.entries directory).lookup name with
    | none => t
    | some file =>
      ((t.entries file).foldl (fun t e => removeAll levels t file e.1) t).unlink directory name

/-! ## Files by path -/

/-- Makes the directory of a name in a directory, unless there is something of that name. -/
def ensureDirectory (t : FileTree) (directory : Nat) (name : FileName) : FileTree × Nat :=
  match (t.entries directory).lookup name with
  | some file => (t, file)
  | none => t.create directory name (.directory directory []) 0o755

/-- The directory of a path, made with all that lead to it where they are missing. -/
def ensurePath (t : FileTree) (p : Path) : FileTree × Nat :=
  p.components.foldl (fun (t, file) c => match c with
    | .root => (t, root)
    | .here => (t, file)
    | .up => (t, t.parent file)
    | .name s =>
      match t.findFrom file ⟨s⟩ true with
      | .ok next => (t, next)
      | .error _ => t.ensureDirectory file s) (t, t.cwd)

/-- The path of what lies above a path, and its last name. -/
def splitLast (p : Path) : Path × FileName :=
  (p.components.dropLast.foldl (fun q c => q.join ⟨c.bytes⟩) ⟨[]⟩,
    (p.components.getLast?.map Path.Component.bytes).getD [])

/-- The rights of a file whose text is given: one that names an interpreter can be executed. -/
def modeOf (bytes : List UInt8) : Nat := if bytes.take 2 == [35, 33] then 0o755 else 0o644

/-- Writes the data of a file, with the directories that lead to it. -/
def writeFile (t : FileTree) (p : Path) (bytes : List UInt8) : FileTree :=
  match t.find p with
  | .ok file =>
    if isRegular (t.content file) then
      (t.setData file bytes).setNode file
        { content := .data bytes, mode := modeOf bytes, stamp := t.nextStamp }
    else t
  | .error _ =>
    let (above, name) := splitLast p
    let (t, directory) := t.ensurePath above
    (t.create directory name (.data bytes) (modeOf bytes)).1

/-- Makes a directory, with the directories that lead to it. -/
def makeDirectory (t : FileTree) (p : Path) : FileTree := (t.ensurePath p).1

/-- Writes a file, or makes a directory if there is no data. -/
def put (t : FileTree) (p : Path) : Option (List UInt8) → FileTree
  | some bytes => t.writeFile p bytes
  | none => t.makeDirectory p

/-- Takes a path away with all that is below it. -/
def remove (t : FileTree) (p : Path) : FileTree :=
  match t.spotFrom t.cwd p false with
  | .ok ⟨directory, name, some _⟩ => removeAll t.nodes.size t directory name
  | _ => t

/-- Whether a name can be moved to another one: a directory not below itself and not over
something that is in use, anything else not over a directory. -/
def canMove (t : FileTree) (file directory' : Nat) (replaced : Option Nat) : Bool :=
  let isDirectory := t.isDirectoryAt file
  !(isDirectory && t.isAbove file t.nodes.size directory') &&
    replaced.all fun old => t.isDirectoryAt old == isDirectory && (t.entries old).isEmpty

/-- Moves a path to another one with all that is below it. -/
def rename (t : FileTree) (source destination : Path) : FileTree :=
  match t.spotFrom t.cwd source false, t.spotFrom t.cwd destination false with
  | .ok ⟨directory, name, some file⟩, .ok ⟨directory', name', replaced⟩ =>
    if t.canMove file directory' replaced then t.move directory name directory' name' else t
  | _, _ => t

end Deadwood.FileTree
