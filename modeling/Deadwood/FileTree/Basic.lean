import Deadwood.Path.Basic
import Deadwood.Host.Error

/-!
# File trees

Files are numbered. A directory gives names to files, so that a file can have several names, keeps
its number when it is renamed, and is still there for those who use it after its last name is gone.
Paths are followed name by name from the root or from the current directory.
-/

namespace Deadwood

/-- A name in a directory. -/
abbrev FileName := List UInt8

/-- A file that is no data of its own. -/
inductive Device where
  /-- Nothing can be read, and what is written is lost. -/
  | null
  /-- Zeros without end. -/
  | zero
  /-- Zeros without end, and no room to write. -/
  | full
  /-- What a program has open under a number. -/
  | descriptor (number : Nat)
  /-- The terminal, which there is none. -/
  | terminal
deriving DecidableEq, Repr, Inhabited

/-- What a file holds. -/
inductive Content where
  | data (bytes : List UInt8)
  | directory (parent : Nat) (entries : List (FileName × Nat))
  /-- A path to be followed in the place of this file. -/
  | link (target : List UInt8)
  /-- A program that comes with the system. -/
  | program (name : String)
  | device (d : Device)
deriving DecidableEq, Repr, Inhabited

/-- A file with its rights. -/
structure FileNode where
  content : Content
  mode : Nat := 0o644
  /-- A number that grows with every change of a file. -/
  stamp : Nat := 0
deriving DecidableEq, Repr, Inhabited

/-- What happens to a file. -/
inductive FileEvent where
  | created (directory : Nat) (name : FileName)
  | deleted (directory : Nat) (name : FileName)
  | movedFrom (directory : Nat) (name : FileName)
  | movedTo (directory : Nat) (name : FileName)
  /-- The data of a file changes. -/
  | modified (file : Nat)
  /-- Rights, times or names of a file change. -/
  | touched (file : Nat)
  /-- The last name of a file is gone. -/
  | vanished (file : Nat)
  /-- A file has moved to another name. -/
  | moved (file : Nat)
deriving DecidableEq, Repr, Inhabited

/-- Files, the current directory, and what has happened so far, last first. -/
structure FileTree where
  nodes : Array FileNode := #[{ content := .directory 0 [], mode := 0o755 }]
  cwd : Nat := 0
  events : List FileEvent := []
  /-- How many changes there have been. -/
  changes : Nat := 0
deriving Inhabited

namespace FileTree

/-- The number of the root. -/
def root : Nat := 0

/-- The length in bytes of the longest name. -/
def nameLimit : Nat := 255

/-- The length in bytes of the longest path. -/
def pathLimit : Nat := 4095

/-- How many links are followed on the way to a file. -/
def linkLimit : Nat := 40

/-- The file of a number. -/
def node (t : FileTree) (file : Nat) : FileNode := t.nodes[file]?.getD default

/-- What a file holds. -/
def content (t : FileTree) (file : Nat) : Content := (t.node file).content

/-- Whether a file is a directory. -/
def isDirectoryAt (t : FileTree) (file : Nat) : Bool :=
  match t.content file with
  | .directory _ _ => true
  | _ => false

/-- The names in a directory. -/
def entries (t : FileTree) (file : Nat) : List (FileName × Nat) :=
  match t.content file with
  | .directory _ es => es
  | _ => []

/-- The directory above a directory. -/
def parent (t : FileTree) (file : Nat) : Nat :=
  match t.content file with
  | .directory above _ => above
  | _ => root

/-! ## Following paths -/

/-- Where a path leads: a name in a directory, and the file of that name if there is one. The name
is empty if the path ends in a dot, in two dots, or is the root. -/
structure Spot where
  directory : Nat
  name : FileName
  file : Option Nat
deriving DecidableEq, Repr, Inhabited

/-- Whether all segments of a path carry no meaning. -/
def areIdle (segments : List (List UInt8)) : Bool := segments.all Path.isIdle

/-- Follows segments from a file. A link at the end is followed if `follows` says so or if a slash
stands behind it. -/
def walk (t : FileTree) (follows : Bool) (links : Nat) (file : Nat)
    (segments : List (List UInt8)) : Except SystemError Spot :=
  match segments with
  | [] => .ok ⟨file, [], some file⟩
  | s :: rest =>
    if !t.isDirectoryAt file then .error .notDirectory
    else if Path.isIdle s then t.walk follows links file rest
    else if s == [Path.dot, Path.dot] then t.walk follows links (t.parent file) rest
    else if nameLimit < s.length then .error .nameTooLong
    else
      match (t.entries file).lookup s with
      | none => if areIdle rest then .ok ⟨file, s, none⟩ else .error .noEntry
      | some next =>
        match t.content next with
        | .link target =>
          if rest.isEmpty && !follows then .ok ⟨file, s, some next⟩
          else match links with
            | 0 => .error .linkLoop
            | links + 1 =>
              let start := if target.head? == some Path.slash then root else file
              t.walk follows links start (Path.splitSlashes target ++ rest)
        | _ =>
          if rest.isEmpty then .ok ⟨file, s, some next⟩
          else if areIdle rest then
            if t.isDirectoryAt next then .ok ⟨file, s, some next⟩ else .error .notDirectory
          else t.walk follows links next rest
termination_by (links, segments.length)

/-- Where a path leads, seen from a directory. -/
def spotFrom (t : FileTree) (start : Nat) (p : Path) (follows : Bool) : Except SystemError Spot :=
  if p.bytes.isEmpty then .error .noEntry
  else if pathLimit < p.bytes.length then .error .nameTooLong
  else t.walk follows linkLimit (if p.isAbsolute then root else start) (Path.splitSlashes p.bytes)

/-- The file that a path leads to, seen from a directory. -/
def findFrom (t : FileTree) (start : Nat) (p : Path) (follows : Bool) : Except SystemError Nat := do
  match (← t.spotFrom start p follows).file with
  | some file => .ok file
  | none => .error .noEntry

/-- The file that a path leads to. -/
def find (t : FileTree) (p : Path) : Except SystemError Nat := t.findFrom t.cwd p true

/-- Whether what a file holds makes it a regular one. -/
def isRegular : Content → Bool
  | .data _ => true
  | .program _ => true
  | _ => false

/-- Whether a path leads to a regular file. -/
def isFile (t : FileTree) (p : Path) : Bool :=
  match t.find p with
  | .ok file => isRegular (t.content file)
  | .error _ => false

/-- The data of the file that a path leads to. -/
def data? (t : FileTree) (p : Path) : Option (List UInt8) :=
  match t.find p with
  | .ok file => match t.content file with
    | .data bytes => some bytes
    | _ => none
  | .error _ => none

/-! ## Paths of files -/

/-- The names on the way from the root to a directory; so many steps up at most. -/
def namesTo (t : FileTree) : Nat → Nat → List FileName → List FileName
  | 0, _, below => below
  | steps + 1, file, below =>
    if file == root then below
    else
      let above := t.parent file
      match (t.entries above).find? (·.2 == file) with
      | some (name, _) => t.namesTo steps above (name :: below)
      | none => below

/-- The path of names from the root on. -/
def absolute (names : List FileName) : Path :=
  ⟨if names.isEmpty then [Path.slash] else (names.map (Path.slash :: ·)).flatten⟩

/-- The path of a directory. -/
def directoryPath (t : FileTree) (file : Nat) : Path := absolute (t.namesTo t.nodes.size file [])

/-- The current directory as a path. -/
def cwdPath (t : FileTree) : Path := t.directoryPath t.cwd

/-- The path without links and dots of what a path leads to, or the path as it is if it leads
nowhere. -/
def canonical (t : FileTree) (p : Path) : Path :=
  match t.spotFrom t.cwd p true with
  | .ok ⟨directory, name, some _⟩ =>
    absolute (t.namesTo t.nodes.size directory [] ++ if name.isEmpty then [] else [name])
  | _ => p

end FileTree

end Deadwood
