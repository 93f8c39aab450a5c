import Deadwood.Utility.File

/-!
# Programs that look at files

Programs that list directories, tell where links lead, and compare or measure files.
-/

namespace Deadwood.Utility

open Host

/-! ## Listing -/

/-- What is listed: a path, how it is shown, and what is known of it. -/
structure Listed where
  path : String
  name : String
  info : FileInfo
deriving DecidableEq, Repr, Inhabited

/-- The mark of the kind of a file behind its name. -/
def kindMark (isShort : Bool) (info : FileInfo) : String :=
  match info.kind with
  | .directory => "/"
  | .link => if isShort then "" else "@"
  | .pipe => if isShort then "" else "|"
  | .regular => if !isShort && info.mode &&& 0o111 != 0 then "*" else ""
  | .device => ""

/-- The letter of the kind of a file. -/
def kindLetter : FileKind → String
  | .regular => "-"
  | .directory => "d"
  | .link => "l"
  | .pipe => "p"
  | .device => "c"

/-- A text with blanks before it up to a width. -/
def padLeft (width : Nat) (s : String) : String :=
  String.ofList (List.replicate (width - s.length) ' ') ++ s

/-- The order of listing. -/
def listOrder (p : Parsed) (files : List Listed) : List Listed :=
  let byName := files.mergeSort fun a b => decide (a.name ≤ b.name)
  let sorted := match p.last? ['t', 'S', 'U', 'f'] with
    | some 't' => byName.mergeSort fun a b => decide (b.info.stamp ≤ a.info.stamp)
    | some 'S' => byName.mergeSort fun a b => decide (b.info.size ≤ a.info.size)
    | some _ => files
    | none => byName
  if p.has 'r' then sorted.reverse else sorted

/-- The lines of files in the long form. -/
def longLines (p : Parsed) (files : List Listed) : Tool (List String) := do
  let width := fun (texts : List String) => (texts.map String.length).foldl max 0
  let links := width (files.map fun f => toString f.info.links)
  let sizes := width (files.map fun f => toString f.info.size)
  files.mapM fun f => do
    let target ← if f.info.kind == .link then
        match ← ask (.readLink (pathOf f.path)) with
        | .ok bytes => pure (" -> " ++ Text.Octets.ofBytes bytes)
        | .error _ => pure ""
      else pure ""
    let mark := if p.has 'F' then kindMark false f.info else if p.has 'p' then kindMark true f.info
      else ""
    let mark := if f.info.kind == .link then "" else mark
    return kindLetter f.info.kind ++ modeLetters f.info.mode ++ " " ++
      padLeft links (toString f.info.links) ++ " root root " ++
      padLeft sizes (toString f.info.size) ++ " Jan  1 00:00 " ++ f.name ++ target ++ mark

/-- Shows files. -/
def showListed (p : Parsed) (files : List Listed) : Tool Unit := do
  let files := listOrder p files
  if p.has 'l' then
    for line in (← longLines p files) do
      say (line ++ "\n")
  else
    let names := files.map fun f =>
      (if p.has 'i' then s!"{f.info.number} " else "") ++
      (if p.has 's' then (if f.info.size == 0 then "0 " else "4 ") else "") ++
      (if p.has 'Q' then "\"" ++ f.name ++ "\"" else f.name) ++
      (if p.has 'F' then kindMark false f.info else if p.has 'p' then kindMark true f.info else "")
    if p.has 'm' then
      if !names.isEmpty then say (", ".intercalate names ++ "\n")
    else
      for name in names do
        say (name ++ "\n")

/-- Shows a directory, and those below it if that is asked for; tells the directories that were shown
before with `isFirst`. -/
def listDirectory (p : Parsed) (hasTitle : Bool) : Nat → Bool → String → Tool Unit
  | 0, _, _ => pure ()
  | fuel + 1, isFirst, path => do
    match ← ask (.list (pathOf path)) with
    | .error e =>
      complain s!"cannot open directory {shellQuoted path}: {e.words}"
      setStatus 2
    | .ok names =>
      if hasTitle then say ((if isFirst then "" else "\n") ++ path ++ ":\n")
      let names := (names.map Text.Octets.ofBytes).filter fun n =>
        p.has 'a' || p.has 'A' || p.has 'f' || n.toList.head? != some '.'
      let names := if p.has 'a' || p.has 'f' then "." :: ".." :: names else names
      let files ← names.filterMapM fun name => do
        let full := if path.toList.getLast? == some '/' then path ++ name else s!"{path}/{name}"
        return (← infoOf? full false).map fun info => { path := full, name, info }
      if p.has 'l' || p.has 's' then
        let blocks := files.foldl (fun n f => n + if f.info.size == 0 || f.info.kind == .link then 0
          else (f.info.size + 4095) / 4096 * 4) 0
        say s!"total {blocks}\n"
      showListed p files
      if p.has 'R' then
        for f in listOrder p files do
          if f.info.kind == .directory && f.name != "." && f.name != ".." then
            listDirectory p hasTitle fuel false f.path

/-- Lists files and directories. -/
def ls (arguments : List String) : Tool Unit := do
  let table : OptionTable :=
    { letters := OptionTable.ofLetters "aAbBcCdfFghHiIklLmnNopqQrRsStuUvw:xXZ1".toList
      names := [("all", 'a'), ("almost-all", 'A'), ("directory", 'd'), ("recursive", 'R'),
        ("reverse", 'r'), ("inode", 'i'), ("size", 's'), ("classify", 'F'), ("color", 'Y'),
        ("human-readable", 'h'), ("quote-name", 'Q')] }
  let p ← parse { table with letters := ('Y', .maybe) :: table.letters } arguments 2
  let paths := if p.operands.isEmpty then ["."] else p.operands
  let mut files : List Listed := []
  let mut directories : List Listed := []
  for path in paths do
    let follows := !(p.has 'd' || p.has 'l' || p.has 'F')
    let found ← ask (.info (pathOf path) follows)
    let found ← match found with
      | .ok info => pure (Except.ok info)
      | .error _ => ask (.info (pathOf path) false)
    match found with
    | .error e =>
      complain s!"cannot access {shellQuoted path}: {e.words}"
      setStatus 2
    | .ok info =>
      let f : Listed := { path, name := path, info }
      if info.kind == .directory && !p.has 'd' then directories := directories ++ [f]
      else files := files ++ [f]
  showListed p files
  let hasTitle := 1 < paths.length || p.has 'R'
  let mut isFirst := files.isEmpty
  for f in listOrder p directories do
    listDirectory p hasTitle depthLimit isFirst f.path
    isFirst := false

/-! ## Links and paths -/

/-- The path without links and dots of a path; `strict` says how much of it has to be there: all of
it, all but the last name, or nothing. -/
inductive Strictness where
  | all
  | allButLast
  | nothing
deriving DecidableEq, Repr, Inhabited

/-- A path without dots. -/
def tidyPath (directory path : String) : String := Shell.plainPath directory path

/-- The path without links and dots that a path stands for. -/
def resolvePath (strictness : Strictness) (path : String) : Tool (Answer String) := do
  let cwd := Text.Octets.ofBytes (← ask .currentDirectory).bytes
  if path.isEmpty then return .error .noEntry
  else match ← ask (.canonical (pathOf path)) with
    | .ok p => return .ok (Text.Octets.ofBytes p.bytes)
    | .error e =>
      match strictness with
      | .all => return .error e
      | .nothing => return .ok (tidyPath cwd path)
      | .allButLast =>
        if e != .noEntry then return .error e
        else
          let above := String.ofList (parentName path.toList)
          match ← ask (.canonical (pathOf above)) with
          | .ok p =>
            return .ok (tidyPath (Text.Octets.ofBytes p.bytes) (String.ofList (lastName path.toList)))
          | .error e => return .error e

/-- Tells where links lead. -/
def readlink (arguments : List String) : Tool Unit := do
  let table : OptionTable :=
    { letters := OptionTable.ofLetters "efmnqsvz".toList
      names := [("canonicalize", 'f'), ("canonicalize-existing", 'e'),
        ("canonicalize-missing", 'm'), ("no-newline", 'n'), ("zero", 'z')] }
  let p ← parse table arguments
  if p.operands.isEmpty then dieUsage "missing operand"
  let ending := if p.has 'z' then "\x00" else if p.has 'n' && p.operands.length == 1 then "" else "\n"
  for path in p.operands do
    let result ← match p.last? ['e', 'f', 'm'] with
      | some 'e' => resolvePath .all path
      | some 'f' => resolvePath .allButLast path
      | some _ => resolvePath .nothing path
      | none => do pure ((← ask (.readLink (pathOf path))).map Text.Octets.ofBytes)
    match result with
    | .ok text => say (text ++ ending)
    | .error e =>
      if p.has 'v' then complain s!"{shownName path}: {e.words}"
      setStatus 1

/-- Says paths without links and dots. -/
def realpath (arguments : List String) : Tool Unit := do
  let table : OptionTable :=
    { letters := OptionTable.ofLetters "eLmPqszB:T:".toList
      names := [("canonicalize-existing", 'e'), ("canonicalize-missing", 'm'), ("quiet", 'q'),
        ("strip", 's'), ("no-symlinks", 's'), ("zero", 'z'), ("relative-to", 'T'),
        ("relative-base", 'B')] }
  let p ← parse table arguments
  if p.operands.isEmpty then dieUsage "missing operand"
  let cwd := Text.Octets.ofBytes (← ask .currentDirectory).bytes
  for path in p.operands do
    let strictness := match p.last? ['e', 'm'] with
      | some 'e' => Strictness.all
      | some _ => .nothing
      | none => .allButLast
    let result ← if p.has 's' then pure (.ok (tidyPath cwd path)) else resolvePath strictness path
    match result with
    | .ok text =>
      let shown := match p.value? 'T' with
        | some base => relativeTo ((tidyPath cwd base).splitOn "/") (text.splitOn "/")
        | none => text
      say (shown ++ if p.has 'z' then "\x00" else "\n")
    | .error e =>
      if p.has 'q' then setStatus 1 else fault s!"{shownName path}: {e.words}"
where
  /-- A path as it is written from a directory. -/
  relativeTo (base path : List String) : String :=
    let base := base.filter (!·.isEmpty)
    let path := path.filter (!·.isEmpty)
    let common := ((base.zip path).takeWhile fun (a, b) => a == b).length
    let names := List.replicate (base.length - common) ".." ++ path.drop common
    if names.isEmpty then "." else "/".intercalate names

/-- Letters for names that are new. -/
def nameLetters : List Char := "abcdefghijklmnopqrstuvwxyz0123456789".toList

/-- A name of so many letters for a number. -/
def numberedName (number : Nat) : Nat → List Char
  | 0 => []
  | count + 1 =>
    (nameLetters[number % nameLetters.length]?).getD 'a' ::
      numberedName (number / nameLetters.length) count

/-- Makes a file or a directory with a new name. -/
def mktemp (environment : List (String × String)) (arguments : List String) : Tool Unit := do
  let table : OptionTable :=
    { letters := OptionTable.ofLetters "dp::qtu".toList
      names := [("directory", 'd'), ("tmpdir", 'p'), ("quiet", 'q'), ("dry-run", 'u')] }
  let arguments := match arguments with
    | "-p" :: value :: rest => s!"-p{value}" :: rest
    | _ => arguments
  let p ← parse table arguments
  let temporary := (environment.lookup "TMPDIR").getD "/tmp"
  let template := p.operands.headD "tmp.XXXXXXXXXX"
  let cs := template.toList
  let count := (cs.reverse.takeWhile (· == 'X')).length
  if count < 3 then die s!"too few X's in template {quoted template}"
  let directory := match p.value? 'p' with
    | some value => some (if value.isEmpty then temporary else value)
    | none => if p.operands.isEmpty || p.has 't' then some temporary else none
  let start := String.ofList (cs.take (cs.length - count))
  let start := match directory with
    | some d => s!"{d}/{start}"
    | none => start
  tryNames (p.has 'd') (p.has 'u') start count 10000 (← ask .self)
where
  /-- Tries names one after another. -/
  tryNames (isDirectory isDry : Bool) (start : String) (count : Nat) : Nat → Nat → Tool Unit
    | 0, _ => quit 1
    | fuel + 1, number => do
      let path := start ++ String.ofList (numberedName (number * 7919 + 104729) count)
      let result ← if isDry then pure (.ok ())
        else if isDirectory then ask (.makeDirectory (pathOf path) 0o700)
        else do
          let mode : OpenMode := { writes := true, creates := true, exclusive := true }
          match ← ask (.openFile (pathOf path) mode 0o600) with
          | .ok d => ask (.close d)
          | .error e => pure (.error e)
      match result with
      | .ok () => say (path ++ "\n")
      | .error .exists => tryNames isDirectory isDry start count fuel (number + 1)
      | .error e =>
        let kind := if isDirectory then "directory" else "file"
        let template := quoted (start ++ String.ofList (List.replicate count 'X'))
        die s!"failed to create {kind} via template {template}: {e.words}"

/-! ## Measures -/

/-- The words for the kind of a file. -/
def kindWords (info : FileInfo) : String :=
  match info.kind with
  | .regular => if info.size == 0 then "regular empty file" else "regular file"
  | .directory => "directory"
  | .link => "symbolic link"
  | .pipe => "fifo"
  | .device => "character special file"

/-- Fills a template with what is known of a file. -/
def statText (path : String) (info : FileInfo) : List Char → List Char
  | '%' :: c :: rest =>
    let text := match c with
      | 'n' => path
      | 's' => toString info.size
      | 'F' => kindWords info
      | 'h' => toString info.links
      | 'a' => String.ofList (Nat.toDigits 8 info.mode)
      | 'A' => kindLetter info.kind ++ modeLetters info.mode
      | 'i' => toString info.number
      | 'u' | 'g' => "0"
      | 'U' | 'G' => "root"
      | 'b' => toString ((info.size + 4095) / 4096 * 8)
      | 'B' => "512"
      | 'o' => "4096"
      | 'N' => shellQuoted path
      | 'X' | 'Y' | 'Z' | 'W' => toString info.stamp
      | '%' => "%"
      | _ => "?"
    text.toList ++ statText path info rest
  | '\\' :: 'n' :: rest => '\n' :: statText path info rest
  | '\\' :: 't' :: rest => '\t' :: statText path info rest
  | c :: rest => c :: statText path info rest
  | [] => []

/-- Tells what is known of files. -/
def stat (arguments : List String) : Tool Unit := do
  let table : OptionTable :=
    { letters := OptionTable.ofLetters "c:fLtP:".toList
      names := [("format", 'c'), ("printf", 'P'), ("dereference", 'L'), ("terse", 't')] }
  let p ← parse table arguments
  if p.operands.isEmpty then dieUsage "missing operand"
  for path in p.operands do
    match ← ask (.info (pathOf path) (p.has 'L')) with
    | .error e => fault s!"cannot statx {shellQuoted path}: {e.words}"
    | .ok info =>
      match p.value? 'P', p.value? 'c' with
      | some template, _ => out (statText path info template.toList)
      | none, some template => out (statText path info template.toList ++ ['\n'])
      | none, none => say s!"  File: {path}\n  Size: {info.size}\n"

/-- The factor of a unit of sizes. -/
def sizeUnit : List Char → Option Nat
  | [] | ['c'] => some 1
  | ['w'] => some 2
  | ['b'] => some 512
  | ['k'] | ['K'] | ['K', 'i', 'B'] => some 1024
  | ['k', 'B'] | ['K', 'B'] => some 1000
  | ['M'] | ['M', 'i', 'B'] => some 1048576
  | ['M', 'B'] => some 1000000
  | ['G'] | ['G', 'i', 'B'] => some 1073741824
  | ['G', 'B'] => some 1000000000
  | _ => none

/-- The size that a text stands for. -/
def size? (s : String) : Option Nat :=
  let digits := s.toList.takeWhile Char.isDigit
  if digits.isEmpty then none
  else (sizeUnit (s.toList.drop digits.length)).map fun unit =>
    (Shell.leadingNumber digits).1 * unit

/-- Sets the length of files. -/
def truncate (arguments : List String) : Tool Unit := do
  let table : OptionTable :=
    { letters := OptionTable.ofLetters "cos:r:".toList
      names := [("no-create", 'c'), ("size", 's'), ("reference", 'r')] }
  let p ← parse table arguments
  match p.value? 's' with
  | none => dieUsage "you must specify either '--size' or '--reference'"
  | some text =>
    let (sign, digits) := match text.toList with
      | c :: rest => if ['+', '-', '<', '>'].contains c then (some c, rest) else (none, c :: rest)
      | [] => (none, [])
    match size? (String.ofList digits) with
    | none => die s!"Invalid number: {quoted text}"
    | some size =>
      if p.operands.isEmpty then dieUsage "missing file operand"
      for path in p.operands do
        let mode : OpenMode := { writes := true, creates := !p.has 'c' }
        match ← ask (.openFile (pathOf path) mode 0o666) with
        | .error e =>
          if !p.has 'c' then fault s!"cannot open {shellQuoted path} for writing: {e.words}"
        | .ok d =>
          let old := match ← ask (.infoOf d) with
            | .ok info => info.size
            | .error _ => 0
          let new := match sign with
            | some '+' => old + size
            | some '-' => old - size
            | some '<' => min old size
            | some '>' => max old size
            | _ => size
          let _ ← ask (.resize d new)
          let _ ← ask (.close d)

/-- Compares two files. -/
def cmp (arguments : List String) : Tool Unit := do
  let table : OptionTable :=
    { letters := OptionTable.ofLetters "bls".toList, names := [("quiet", 's'), ("silent", 's')] }
  let p ← parse table arguments 2
  match p.operands with
  | first :: more =>
    let second := more.headD "-"
    match ← readOperand first, ← readOperand second with
    | some a, some b => compare (p.has 's') first second a b
    | _, _ => quit 2
  | [] => dieUsage "missing operand after 'cmp'" 2
where
  /-- Compares two texts. -/
  compare (isQuiet : Bool) (first second : String) (a b : List Char) : Tool Unit := do
    let same := ((a.zip b).takeWhile fun (x, y) => x == y)
    let count := same.length
    if count == a.length && count == b.length then pure ()
    else if isQuiet then quit 1
    else
      let line := (same.countP fun (x, _) => x == '\n') + 1
      if count == a.length || count == b.length then
        let short := if count == a.length then first else second
        complain s!"EOF on {short} after byte {count}, line {line}"
      else say s!"{first} {second} differ: char {count + 1}, line {line}\n"
      quit 1

/-- Says where programs are. -/
def which (environment : List (String × String)) (arguments : List String) : Tool Unit := do
  let p ← parse { letters := OptionTable.ofLetters ['a'] } arguments
  let path := (environment.lookup "PATH").getD ""
  for name in p.operands do
    let mut isFound := false
    let places := if name.toList.contains '/' then [name]
      else (path.splitOn ":").map fun d => if d.isEmpty then name else s!"{d}/{name}"
    for place in places do
      if !isFound || p.has 'a' then
        match ← infoOf? place true with
        | some info =>
          if info.kind == .regular && info.mode &&& 0o111 != 0 then
            say (place ++ "\n")
            isFound := true
        | none => pure ()
    if !isFound then setStatus 1

end Deadwood.Utility
