import Deadwood.Host.Kernel

/-!
# Requests on files

What the system does for a process that opens, reads, writes or changes files.
-/

namespace Deadwood.Host.Kernel

/-- Where a path leads for a process. -/
def spot (k : Kernel) (m : Member) (p : Path) (follows : Bool) : Answer FileTree.Spot :=
  k.tree.spotFrom m.cwd p follows

/-- The file that a path leads to for a process. -/
def find (k : Kernel) (m : Member) (p : Path) (follows : Bool) : Answer Nat :=
  k.tree.findFrom m.cwd p follows

/-! ## Opening -/

/-- Adds an open file for a process, under the first free number. -/
def attach (k : Kernel) (m : Member) (f : OpenFile) : Kernel × Member × Nat :=
  let d := m.freeNumber 0
  ({ k with files := k.files.push f }, m.setFile d k.files.size true, d)

/-- Where a file leads that a process opens. -/
def channelOf (k : Kernel) (m : Member) (file : Nat) : Answer Channel :=
  match k.tree.content file with
  | .device (.descriptor n) =>
    match m.file? n with
    | some f => .ok (k.file f).channel
    | none => .error .noEntry
  | .device .terminal => .error .noDevice
  | .device d => .ok (.device d)
  | _ => .ok (.file file)

/-- Drops the data of a file that is opened for that. -/
def truncated (k : Kernel) (mode : OpenMode) : Channel → Kernel
  | .file number =>
    match k.tree.content number, mode.truncates with
    | .data _, true => { k with tree := k.tree.setData number [] }
    | _, _ => k
  | _ => k

/-- Opens a file. -/
def openFile (k : Kernel) (m : Member) (p : Path) (mode : OpenMode) (rights : Nat) :
    Kernel × Member × Answer Nat :=
  match k.spot m p !mode.exclusive with
  | .error e => (k, m, .error e)
  | .ok ⟨directory, name, none⟩ =>
    if !mode.creates then (k, m, .error .noEntry)
    else if p.bytes.getLast? == some Path.slash then (k, m, .error .isDirectory)
    else
      let rights := rights &&& (0o777 ^^^ (m.mask &&& 0o777))
      let (tree, file) := k.tree.create directory name (.data []) rights
      let (k, m, d) := { k with tree }.attach m ⟨.file file, mode, 0⟩
      (k, m, .ok d)
  | .ok ⟨_, _, some file⟩ =>
    if mode.creates && mode.exclusive then (k, m, .error .exists)
    else if k.tree.isDirectoryAt file && (mode.writes || mode.creates) then
      (k, m, .error .isDirectory)
    else match k.channelOf m file with
      | .error e => (k, m, .error e)
      | .ok channel =>
        let (k, m, d) := (k.truncated mode channel).attach m ⟨channel, mode, 0⟩
        (k, m, .ok d)

/-- The open file that a number of a process leads to. -/
def opened (k : Kernel) (m : Member) (d : Nat) : Answer (Nat × OpenFile) :=
  match m.file? d with
  | some number => .ok (number, k.file number)
  | none => .error .badDescriptor

/-! ## Reading and writing -/

/-- What the file of a program that comes with the system starts with. -/
def programHead : List UInt8 := [127, 69, 76, 70]

/-- The bytes that can be read of a file from an offset on. -/
def dataFrom (content : Content) (offset size : Nat) (stop : Option UInt8) : Answer (List UInt8) :=
  let cut := fun (bytes : List UInt8) => (Pipe.takeBytes stop size [] (bytes.drop offset)).1.reverse
  match content with
  | .data bytes => .ok (cut bytes)
  | .program _ => .ok (cut programHead)
  | .directory _ _ => .error .isDirectory
  | _ => .ok []

/-- Reads from an open file; nothing is given if the process has to wait. `k` has all processes. -/
def read (k : Kernel) (m : Member) (d size : Nat) (stop : Option UInt8) :
    Option (Kernel × Answer (List UInt8)) :=
  match k.opened m d with
  | .error e => some (k, .error e)
  | .ok (number, f) =>
    if !f.mode.reads then some (k, .error .badDescriptor)
    else match f.channel with
      | .file file =>
        match dataFrom (k.tree.content file) f.offset size stop with
        | .error e => some (k, .error e)
        | .ok bytes =>
          some (k.setFile number { f with offset := f.offset + bytes.length }, .ok bytes)
      | .device .zero | .device .full => some (k, .ok (List.replicate size 0))
      | .device _ => some (k, .ok [])
      | .sink _ => some (k, .error .badDescriptor)
      | .pipe n =>
        let p := k.pipe n
        if size == 0 then some (k, .ok [])
        else if p.size == 0 then
          if k.isHeld (.pipe n) (·.writes) || k.holds (.pipe n) (·.writes) m then none
          else some (k, .ok [])
        else
          let (bytes, p) := p.take size stop
          some (k.setPipe n p, .ok bytes)

/-- Bytes with others put over them from an offset on. -/
def overwrite (old : List UInt8) (offset : Nat) (new : List UInt8) : List UInt8 :=
  if old.length ≤ offset then old ++ List.replicate (offset - old.length) 0 ++ new
  else old.take offset ++ new ++ old.drop (offset + new.length)

/-- What comes of writing. -/
inductive WriteResult where
  | written
  | refused (e : SystemError)
  /-- So many bytes have been written, the others have to wait. -/
  | partly (count : Nat)
  /-- Nobody is there to read. -/
  | unread
deriving DecidableEq, Repr, Inhabited

/-- Writes to an open file. -/
def write (k : Kernel) (m : Member) (d : Nat) (bytes : List UInt8) : Kernel × WriteResult :=
  match k.opened m d with
  | .error e => (k, .refused e)
  | .ok (number, f) =>
    if !f.mode.writes then (k, .refused .badDescriptor)
    else match f.channel with
      | .file file =>
        match k.tree.content file with
        | .data old =>
          let offset := if f.mode.appends then old.length else f.offset
          let k := { k with tree := k.tree.setData file (overwrite old offset bytes) }
          (k.setFile number { f with offset := offset + bytes.length }, .written)
        | _ => (k, .refused .invalid)
      | .device .full => (k, .refused .noSpace)
      | .device _ => (k, .written)
      | .sink n => ({ k with writings := ⟨k.clock, n, bytes⟩ :: k.writings }, .written)
      | .pipe n =>
        let p := k.pipe n
        if !(k.isHeld (.pipe n) (·.reads) || k.holds (.pipe n) (·.reads) m) then (k, .unread)
        else if p.size + bytes.length ≤ Pipe.capacity then (k.setPipe n (p.add bytes), .written)
        else
          let room := Pipe.capacity - p.size
          (if room == 0 then k else k.setPipe n (p.add (bytes.take room)), .partly room)

/-- Moves the place of reading and writing. -/
def seek (k : Kernel) (m : Member) (d : Nat) (origin : Origin) (offset : Int) :
    Kernel × Answer Nat :=
  match k.opened m d with
  | .error e => (k, .error e)
  | .ok (number, f) =>
    match f.channel with
    | .file file =>
      let size := match k.tree.content file with
        | .data bytes => bytes.length
        | _ => 0
      let base := match origin with
        | .start => 0
        | .current => f.offset
        | .finish => size
      let place := (base : Int) + offset
      if place < 0 then (k, .error .invalid)
      else (k.setFile number { f with offset := place.toNat }, .ok place.toNat)
    | .device _ => (k, .ok 0)
    | _ => (k, .error .illegalSeek)

/-- Sets the length of a file. -/
def resize (k : Kernel) (m : Member) (d size : Nat) : Kernel × Answer Unit :=
  match k.opened m d with
  | .error e => (k, .error e)
  | .ok (_, f) =>
    match f.channel with
    | .file file =>
      match k.tree.content file with
      | .data bytes =>
        let kept := bytes.take size
        let new := kept ++ List.replicate (size - kept.length) 0
        ({ k with tree := k.tree.setData file new }, .ok ())
      | _ => (k, .error .invalid)
    | _ => (k, .error .invalid)

/-! ## What is known of files -/

/-- What can be known of the file of a number. -/
def infoAt (k : Kernel) (file : Nat) : FileInfo :=
  let n := k.tree.node file
  let (kind, size) := match n.content with
    | .data bytes => (FileKind.regular, bytes.length)
    | .program _ => (.regular, 65536)
    | .directory _ _ => (.directory, 4096)
    | .link target => (.link, target.length)
    | .device _ => (.device, 0)
  { number := file, kind, mode := n.mode, size, stamp := n.stamp
    links := match n.content with
      | .data _ => (k.tree.namesOf file).length
      | .directory _ es => 2 + es.countP fun e => k.tree.isDirectoryAt e.2
      | _ => 1 }

/-- What can be known of the file that a path leads to. -/
def info (k : Kernel) (m : Member) (p : Path) (follows : Bool) : Answer FileInfo := do
  let file ← k.find m p follows
  match k.tree.content file, follows with
  | .device (.descriptor _), true =>
    match k.channelOf m file with
    | .ok (.file file) => .ok (k.infoAt file)
    | .ok (.device _) => .ok (k.infoAt file)
    | .ok _ => .ok { k.infoAt file with kind := .pipe }
    | .error e => .error e
  | _, _ => .ok (k.infoAt file)

/-- What can be known of an open file. -/
def infoOf (k : Kernel) (m : Member) (d : Nat) : Answer FileInfo := do
  let (_, f) ← k.opened m d
  match f.channel with
  | .file file => .ok (k.infoAt file)
  | .device _ => .ok { number := 0, kind := .device, mode := 0o666, size := 0, stamp := 0 }
  | _ => .ok { number := 0, kind := .pipe, mode := 0o600, size := 0, stamp := 0 }

/-- The names in a directory. -/
def list (k : Kernel) (m : Member) (p : Path) : Answer (List FileName) := do
  let file ← k.find m p true
  if k.tree.isDirectoryAt file then .ok ((k.tree.entries file).map (·.1)) else .error .notDirectory

/-- The path in a link. -/
def readLink (k : Kernel) (m : Member) (p : Path) : Answer (List UInt8) := do
  let file ← k.find m p false
  match k.tree.content file with
  | .link target => .ok target
  | _ => .error .invalid

/-- The path without links and dots of what a path leads to. -/
def canonicalPath (k : Kernel) (m : Member) (p : Path) : Answer Path := do
  let _ ← k.find m p true
  .ok (({ k.tree with cwd := m.cwd }).canonical p)

/-! ## Changing directories -/

/-- Gives a new file a name. -/
def createAt (k : Kernel) (s : FileTree.Spot) (content : Content) (mode : Nat) :
    Kernel × Answer Unit :=
  match s.file with
  | some _ => (k, .error .exists)
  | none => ({ k with tree := (k.tree.create s.directory s.name content mode).1 }, .ok ())

/-- Makes a directory. -/
def makeDirectory (k : Kernel) (m : Member) (p : Path) (rights : Nat) : Kernel × Answer Unit :=
  match k.spot m p false with
  | .error e => (k, .error e)
  | .ok s =>
    let rights := rights &&& (0o777 ^^^ (m.mask &&& 0o777))
    k.createAt s (.directory s.directory []) rights

/-- Makes a link that holds a path. -/
def symlink (k : Kernel) (m : Member) (target : List UInt8) (p : Path) : Kernel × Answer Unit :=
  match k.spot m p false with
  | .error e => (k, .error e)
  | .ok s => if target.isEmpty then (k, .error .noEntry) else k.createAt s (.link target) 0o777

/-- Gives a file one more name. -/
def hardLink (k : Kernel) (m : Member) (p q : Path) : Kernel × Answer Unit :=
  match k.find m p false, k.spot m q false with
  | .error e, _ => (k, .error e)
  | _, .error e => (k, .error e)
  | .ok file, .ok s =>
    if s.file.isSome then (k, .error .exists)
    else if k.tree.isDirectoryAt file then (k, .error .notPermitted)
    else ({ k with tree := k.tree.link file s.directory s.name }, .ok ())

/-- Takes a name of a file away. -/
def unlink (k : Kernel) (m : Member) (p : Path) : Kernel × Answer Unit :=
  match k.spot m p false with
  | .error e => (k, .error e)
  | .ok ⟨_, _, none⟩ => (k, .error .noEntry)
  | .ok ⟨directory, name, some file⟩ =>
    if k.tree.isDirectoryAt file then (k, .error .isDirectory)
    else ({ k with tree := k.tree.unlink directory name }, .ok ())

/-- Takes an empty directory away. -/
def removeDirectory (k : Kernel) (m : Member) (p : Path) : Kernel × Answer Unit :=
  match k.spot m p false with
  | .error e => (k, .error e)
  | .ok ⟨_, _, none⟩ => (k, .error .noEntry)
  | .ok ⟨directory, name, some file⟩ =>
    if !k.tree.isDirectoryAt file then (k, .error .notDirectory)
    else if name.isEmpty then (k, .error .invalid)
    else if !(k.tree.entries file).isEmpty then (k, .error .notEmpty)
    else ({ k with tree := k.tree.unlink directory name }, .ok ())

/-- Why a file cannot be moved to a name, if so. -/
def moveError? (t : FileTree) (file directory' : Nat) : Option Nat → Option SystemError
  | none => if t.isDirectoryAt file && t.isAbove file t.nodes.size directory' then some .invalid
    else none
  | some old =>
    if old == file then none
    else if t.isDirectoryAt file && t.isAbove file t.nodes.size directory' then some .invalid
    else if t.isDirectoryAt old && !t.isDirectoryAt file then some .isDirectory
    else if !t.isDirectoryAt old && t.isDirectoryAt file then some .notDirectory
    else if !(t.entries old).isEmpty then some .notEmpty
    else none

/-- Moves a file to another name. -/
def rename (k : Kernel) (m : Member) (p q : Path) : Kernel × Answer Unit :=
  match k.spot m p false, k.spot m q false with
  | .error e, _ => (k, .error e)
  | .ok ⟨_, _, none⟩, _ => (k, .error .noEntry)
  | _, .error e => (k, .error e)
  | .ok ⟨directory, name, some file⟩, .ok ⟨directory', name', old⟩ =>
    match moveError? k.tree file directory' old with
    | some e => (k, .error e)
    | none => ({ k with tree := k.tree.move directory name directory' name' }, .ok ())

/-- Changes the file that a path leads to. -/
def alter (k : Kernel) (m : Member) (p : Path) (f : FileTree → Nat → FileTree) :
    Kernel × Answer Unit :=
  match k.find m p true with
  | .error e => (k, .error e)
  | .ok file => ({ k with tree := f k.tree file }, .ok ())

/-- Goes to a directory. -/
def changeDirectory (k : Kernel) (m : Member) (p : Path) : Member × Answer Unit :=
  match k.find m p true with
  | .error e => (m, .error e)
  | .ok file =>
    if k.tree.isDirectoryAt file then ({ m with cwd := file }, .ok ()) else (m, .error .notDirectory)

end Deadwood.Host.Kernel
