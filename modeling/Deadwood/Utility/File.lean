import Deadwood.Shell.Builtin
import Deadwood.Utility.Simple

/-!
# Programs for files

Programs that copy, make, move and remove files, and tell what is known of them.
-/

namespace Deadwood.Utility

open Host

/-! ## Copying streams -/

/-- Copies what is read from an open file to the output as it comes. -/
def copyOut (d : Nat) : Nat → Tool (Answer Unit)
  | 0 => return .ok ()
  | fuel + 1 => do
    match ← ask (.read d chunkSize none) with
    | .error .interrupted => copyOut d fuel
    | .error e => return .error e
    | .ok [] => return .ok ()
    | .ok bytes =>
      match ← ask (.write 1 bytes) with
      | .ok () => copyOut d fuel
      | .error e =>
        modify fun s => { s with writeError := some e }
        return .ok ()

/-- How lines are shown. -/
structure CatStyle where
  numbers : Bool := false
  numbersFilled : Bool := false
  squeezes : Bool := false
  showsEnds : Bool := false
  showsTabs : Bool := false
  showsOthers : Bool := false
deriving DecidableEq, Repr, Inhabited

/-- A character with a name for one that cannot be shown. -/
def visible (style : CatStyle) (c : Char) : List Char :=
  if c == '\t' then (if style.showsTabs then ['^', 'I'] else ['\t'])
  else if !style.showsOthers then [c]
  else
    let plain := fun (n : Nat) =>
      if n < 32 then ['^', Char.ofNat (n + 64)] else if n == 127 then ['^', '?'] else [Char.ofNat n]
    let n := c.toNat
    if n < 128 then plain n else ['M', '-'] ++ plain (n - 128)

/-- Shows a line; the state is the number of the last line and how many empty ones came last. -/
def catLine (style : CatStyle) (s : Nat × Nat) (line : List Char) (hasEnd : Bool) :
    Turn (Nat × Nat) :=
  let (number, empty) := s
  let isEmpty := line.isEmpty && hasEnd
  if style.squeezes && isEmpty && 0 < empty then { state := (number, empty + 1) }
  else
    let isNumbered := if style.numbersFilled then !isEmpty else style.numbers
    let number := if isNumbered then number + 1 else number
    let digits := Nat.toDigits 10 number
    let front := if isNumbered then List.replicate (6 - digits.length) ' ' ++ digits ++ ['\t']
      else []
    let ending := if hasEnd then (if style.showsEnds then ['$', '\n'] else ['\n']) else []
    { state := (number, if isEmpty then empty + 1 else 0)
      output := front ++ line.flatMap (visible style) ++ ending }

/-- Writes the files of its operands one after another. -/
def cat (arguments : List String) : Tool Unit := do
  let table : OptionTable :=
    { letters := OptionTable.ofLetters "AbeEnstTuv".toList
      names := [("show-all", 'A'), ("number-nonblank", 'b'), ("show-ends", 'E'), ("number", 'n'),
        ("squeeze-blank", 's'), ("show-tabs", 'T'), ("show-nonprinting", 'v')] }
  let p ← parse table arguments
  let style : CatStyle :=
    { numbers := p.has 'n', numbersFilled := p.has 'b', squeezes := p.has 's'
      showsEnds := p.has 'A' || p.has 'e' || p.has 'E'
      showsTabs := p.has 'A' || p.has 't' || p.has 'T'
      showsOthers := p.has 'A' || p.has 'e' || p.has 't' || p.has 'v' }
  if style == {} then
    for name in inputsOf p.operands do
      match ← openInput name with
      | .error e => fault s!"{shownName name}: {e.words}"
      | .ok d =>
        if ← isOutput d then fault s!"{shownName name}: input file is output file"
        else match ← copyOut d chunkLimit with
          | .ok () => pure ()
          | .error e => fault s!"{shownName name}: {e.words}"
        closeInput name d
  else
    let _ ← filterOperands (catLine style) (inputsOf p.operands) (0, 0)
where
  /-- Whether an open file with data is the one that is written to. -/
  isOutput (d : Nat) : Tool Bool := do
    match ← ask (.infoOf d), ← ask (.infoOf 1) with
    | .ok a, .ok b =>
      if a.kind == .regular && b.kind == .regular && a.number == b.number then
        match ← ask (.seek d .current 0) with
        | .ok place => return place < a.size
        | .error _ => return false
      else return false
    | _, _ => return false

/-- Copies its input to its output and to files. -/
def tee (arguments : List String) : Tool Unit := do
  let table : OptionTable :=
    { letters := OptionTable.ofLetters "aip".toList
      names := [("append", 'a'), ("ignore-interrupts", 'i')] }
  let p ← parse table arguments
  let isAppending := p.has 'a'
  let mode : OpenMode :=
    { writes := true, creates := true, appends := isAppending, truncates := !isAppending }
  let mut targets : List Nat := []
  for name in p.operands do
    match ← ask (.openFile (pathOf name) mode 0o666) with
    | .ok d => targets := targets ++ [d]
    | .error e => fault s!"{shownName name}: {e.words}"
  copyAll targets chunkLimit
where
  /-- Copies pieces to several places. -/
  copyAll (targets : List Nat) : Nat → Tool Unit
    | 0 => pure ()
    | fuel + 1 => do
      match ← ask (.read 0 chunkSize none) with
      | .error _ | .ok [] => pure ()
      | .ok bytes =>
        out (Text.Octets.listOf bytes)
        for d in targets do
          let _ ← ask (.write d bytes)
        copyAll targets fuel

/-! ## Making and removing -/

/-- The paths of all directories on the way to a path, and the path itself. -/
def pathsTo (path : String) : List String :=
  let step := fun (state : List String × List Char) (c : Char) =>
    if c == '/' && !state.2.isEmpty && state.2 != ['/'] && state.2.head? != some '/' then
      (String.ofList state.2.reverse :: state.1, c :: state.2)
    else (state.1, c :: state.2)
  let (found, last) := path.toList.foldl step ([], [])
  let last := dropSlashes last.reverse
  let all := found.reverse
  if all.getLast? == some (String.ofList last) then all else all ++ [String.ofList last]

/-- What is known of a file, if there is one. -/
def infoOf? (path : String) (follows : Bool) : Tool (Option FileInfo) := do
  match ← ask (.info (pathOf path) follows) with
  | .ok info => return some info
  | .error _ => return none

/-- Whether a path leads to a directory. -/
def isDirectory (path : String) : Tool Bool := do
  return (← infoOf? path true).any (·.kind == .directory)

/-- Makes a directory. -/
def makeOne (path : String) (mode : Nat) (tells : Bool) : Tool Bool := do
  match ← ask (.makeDirectory (pathOf path) mode) with
  | .ok () =>
    let name := (← get).name
    if tells then say s!"{name}: created directory {quoted path}\n"
    return true
  | .error e =>
    fault s!"cannot create directory {quoted path}: {e.words}"
    return false

/-- Makes directories where they are missing. -/
def makeMissing (mode : Nat) (tells : Bool) : List String → Tool Unit
  | [] => pure ()
  | path :: rest => do
    match ← infoOf? path true with
    | some info =>
      if info.kind == .directory then makeMissing mode tells rest
      else
        let reason := if rest.isEmpty then SystemError.exists else .notDirectory
        fault s!"cannot create directory {quoted path}: {reason.words}"
    | none =>
      if ← makeOne path (if rest.isEmpty then mode else 0o777) tells then
        makeMissing mode tells rest

/-- The rights that a text stands for, from those that are there. -/
def modeOf? (text : String) (old : Nat) (isDirectory : Bool) (mask : Nat) : Option Nat :=
  if text.toList.all Shell.isOctal && !text.isEmpty then
    some (text.toList.foldl (fun n c => 8 * n + (c.toNat - 48)) 0 % 4096)
  else (text.splitOn ",").foldl (fun mode clause => mode.bind (applyTo clause.toList)) (some old)
where
  /-- Changes rights as one clause tells; a clause without users leaves out what the mask has. -/
  applyTo (clause : List Char) (mode : Nat) : Option Nat :=
    let isUser := fun (c : Char) => ['u', 'g', 'o', 'a'].contains c
    let named := clause.takeWhile isUser
    let users := Shell.userBits named &&& (if named.isEmpty then 0o777 ^^^ mask else 0o777)
    match clause.dropWhile isUser with
    | operator :: letters =>
      if !letters.all (['r', 'w', 'x', 'X', 's', 't'].contains ·) then none
      else
        let runs := letters.contains 'X' && (isDirectory || mode &&& 0o111 != 0)
        let bits := Shell.rightBits letters ||| (if runs then 0o111 else 0)
        let sticky := (if letters.contains 's' then
            (if users &&& 0o700 != 0 then 0o4000 else 0) ||| (if users &&& 0o070 != 0 then 0o2000 else 0)
          else 0) ||| (if letters.contains 't' then 0o1000 else 0)
        let bits := (users &&& bits) ||| sticky
        match operator with
        | '+' => some (mode ||| bits)
        | '-' => some (mode &&& (0o7777 ^^^ bits))
        | '=' => some ((mode &&& (0o7777 ^^^ Shell.userBits named)) ||| bits)
        | _ => none
    | [] => none

/-- Makes directories. -/
def mkdir (arguments : List String) : Tool Unit := do
  let table : OptionTable :=
    { letters := OptionTable.ofLetters "m:pv".toList
      names := [("mode", 'm'), ("parents", 'p'), ("verbose", 'v')] }
  let p ← parse table arguments
  if p.operands.isEmpty then dieUsage "missing operand"
  let mode ← match p.value? 'm' with
    | none => pure 0o777
    | some text => match modeOf? text 0o777 true 0 with
      | some mode => pure mode
      | none => die s!"invalid mode {quoted text}"
  for path in p.operands do
    if p.has 'p' then makeMissing mode (p.has 'v') (pathsTo path)
    else if ← makeOne path mode (p.has 'v') then
      if (p.value? 'm').isSome then
        let _ ← ask (.setMode (pathOf path) mode)

/-- Removes empty directories. -/
def rmdir (arguments : List String) : Tool Unit := do
  let table : OptionTable :=
    { letters := OptionTable.ofLetters "pv".toList
      names := [("parents", 'p'), ("verbose", 'v'), ("ignore-fail-on-non-empty", 'i')] }
  let p ← parse { table with letters := ('i', .never) :: table.letters } arguments
  if p.operands.isEmpty then dieUsage "missing operand"
  for path in p.operands do
    let paths := if p.has 'p' then (pathsTo path).reverse else [path]
    removeEach (p.has 'v') (p.has 'i') paths
where
  /-- Removes directories until one is not empty. -/
  removeEach (tells forgives : Bool) : List String → Tool Unit
    | [] => pure ()
    | path :: rest => do
      let name := (← get).name
      if tells then say s!"{name}: removing directory, {quoted path}\n"
      match ← ask (.removeDirectory (pathOf path)) with
      | .ok () => removeEach tells forgives rest
      | .error e =>
        if !(forgives && e == .notEmpty) then
          fault s!"failed to remove {quoted path}: {e.words}"

/-- Changes the times of files, making those that are missing. -/
def touch (arguments : List String) : Tool Unit := do
  let table : OptionTable :=
    { letters := OptionTable.ofLetters "acd:fhmr:t:".toList
      names := [("no-create", 'c'), ("date", 'd'), ("reference", 'r'), ("time", 'x')] }
  let p ← parse { table with letters := ('x', .always) :: table.letters } arguments
  if p.operands.isEmpty then dieUsage "missing file operand"
  for path in p.operands do
    match ← ask (.touch (pathOf path)) with
    | .ok () => pure ()
    | .error e =>
      if e == .noEntry && p.has 'c' then pure ()
      else if e == .noEntry then
        match ← ask (.openFile (pathOf path) { writes := true, creates := true } 0o666) with
        | .ok d =>
          let _ ← ask (.close d)
        | .error e => fault s!"cannot touch {shellQuoted path}: {e.words}"
      else fault s!"cannot touch {shellQuoted path}: {e.words}"

/-- How deep directories are gone into. -/
def depthLimit : Nat := 2000

/-- Removes a file, and with `deep` a directory with all below it; tells whether that was
possible. -/
def removeFile (deep isForced tells : Bool) : Nat → String → Tool Bool
  | 0, _ => return false
  | fuel + 1, path => do
    match ← ask (.info (pathOf path) false) with
    | .error e =>
      if isForced && (e == .noEntry || e == .notDirectory) then return true
      else
        fault s!"cannot remove {shellQuoted path}: {e.words}"
        return false
    | .ok info =>
      if info.kind != .directory then
        match ← ask (.unlink (pathOf path)) with
        | .ok () =>
          if tells then say s!"removed {shellQuoted path}\n"
          return true
        | .error e =>
          fault s!"cannot remove {shellQuoted path}: {e.words}"
          return false
      else if !deep then
        fault s!"cannot remove {shellQuoted path}: {SystemError.isDirectory.words}"
        return false
      else
        let mut isClear := true
        match ← ask (.list (pathOf path)) with
        | .ok names =>
          for name in names do
            let below := s!"{path}/{Text.Octets.ofBytes name}"
            let isGone ← removeFile deep isForced tells fuel below
            isClear := isClear && isGone
        | .error _ => pure ()
        if !isClear then return false
        else match ← ask (.removeDirectory (pathOf path)) with
          | .ok () =>
            if tells then say s!"removed directory {shellQuoted path}\n"
            return true
          | .error e =>
            fault s!"cannot remove {shellQuoted path}: {e.words}"
            return false

/-- Whether the last name of a path is one or two dots. -/
def endsInDots (path : String) : Bool :=
  let name := lastName path.toList
  name == ['.'] || name == ['.', '.']

/-- Removes files. -/
def rm (arguments : List String) : Tool Unit := do
  let table : OptionTable :=
    { letters := OptionTable.ofLetters "dfiIrRv".toList
      names := [("dir", 'd'), ("force", 'f'), ("recursive", 'r'), ("verbose", 'v')] }
  let p ← parse table arguments
  if p.operands.isEmpty && !p.has 'f' then dieUsage "missing operand"
  let deep := p.has 'r' || p.has 'R'
  for path in p.operands do
    if deep && endsInDots path then
      fault s!"refusing to remove '.' or '..' directory: skipping {shellQuoted path}"
    else if deep && lastName path.toList == ['/'] then
      complain s!"it is dangerous to operate recursively on {shellQuoted path}"
      fault "use --no-preserve-root to override this failsafe"
    else if p.has 'd' && !deep && (← infoOf? path false).any (·.kind == .directory) then
      match ← ask (.removeDirectory (pathOf path)) with
      | .ok () => if p.has 'v' then say s!"removed directory {shellQuoted path}\n"
      | .error e => fault s!"cannot remove {shellQuoted path}: {e.words}"
    else
      let _ ← removeFile deep (p.has 'f') (p.has 'v') depthLimit path

/-! ## Copying and moving -/

/-- The path of a file of the same name in a directory. -/
def inside (directory source : String) : String :=
  let start := if directory.toList.getLast? == some '/' then directory else directory ++ "/"
  start ++ String.ofList (lastName source.toList)

/-- The sources of operands, each with its target: the last operand is a directory for them, or the
new name of the only one. -/
def targetsOf (p : Parsed) : Tool (List (String × String)) := do
  match p.value? 't' with
  | some directory =>
    if p.operands.isEmpty then dieUsage "missing file operand"
    return p.operands.map fun source => (source, inside directory source)
  | none =>
    match p.operands with
    | [] => dieUsage "missing file operand"
    | [only] => dieUsage s!"missing destination file operand after {shellQuoted only}"
    | operands =>
      let target := operands.getLast?.getD ""
      let sources := operands.dropLast
      if ← (do return !p.has 'T' && (← isDirectory target)) then
        return sources.map fun source => (source, inside target source)
      else match sources with
        | [source] => return [(source, target)]
        | _ =>
          let e := match ← ask (.info (pathOf target) true) with
            | .error e => e
            | .ok _ => .notDirectory
          die s!"target {shellQuoted target}: {e.words}"

/-- Copies the data of a file; tells why that is not possible. -/
def copyData (source target : Nat) : Nat → Tool Unit
  | 0 => pure ()
  | fuel + 1 => do
    match ← ask (.read source chunkSize none) with
    | .error _ | .ok [] => pure ()
    | .ok bytes =>
      let _ ← ask (.write target bytes)
      copyData source target fuel

/-- What is asked for when files are copied. -/
structure CopyStyle where
  deep : Bool := false
  tells : Bool := false
  keepsLinks : Bool := false
  isForced : Bool := false
  keepsOld : Bool := false
  keepsMode : Bool := false
deriving DecidableEq, Repr, Inhabited

/-- Copies a file, and with `deep` a directory with all below it. -/
def copyFile (style : CopyStyle) : Nat → String → String → Tool Unit
  | 0, _, _ => pure ()
  | fuel + 1, source, target => do
    match ← ask (.info (pathOf source) !style.keepsLinks) with
    | .error e => fault s!"cannot stat {shellQuoted source}: {e.words}"
    | .ok info =>
      let old ← infoOf? target true
      if info.kind == .directory then
        if !style.deep then
          fault s!"-r not specified; omitting directory {shellQuoted source}"
        else if ← isBelow source target then
          fault (s!"cannot copy a directory, {shellQuoted source}, into itself, " ++
            shellQuoted target)
        else if old.any (·.kind != .directory) then
          fault (s!"cannot overwrite non-directory {shellQuoted target} with directory " ++
            shellQuoted source)
        else
          if old.isNone then
            match ← ask (.makeDirectory (pathOf target) (info.mode &&& 0o777)) with
            | .ok () => if style.tells then say s!"{shellQuoted source} -> {shellQuoted target}\n"
            | .error e => fault s!"cannot create directory {shellQuoted target}: {e.words}"
          match ← ask (.list (pathOf source)) with
          | .ok names =>
            for name in names do
              let name := Text.Octets.ofBytes name
              copyFile style fuel s!"{source}/{name}" s!"{target}/{name}"
          | .error e => fault s!"cannot access {shellQuoted source}: {e.words}"
      else if old.any (·.number == info.number) then
        fault s!"{shellQuoted source} and {shellQuoted target} are the same file"
      else if old.any (·.kind == .directory) then
        fault s!"cannot overwrite directory {shellQuoted target} with non-directory"
      else if style.keepsOld && old.isSome then pure ()
      else if info.kind == .link then
        match ← ask (.readLink (pathOf source)) with
        | .ok path =>
          match ← ask (.symlink path (pathOf target)) with
          | .ok () => if style.tells then say s!"{shellQuoted source} -> {shellQuoted target}\n"
          | .error e => fault s!"cannot create symbolic link {shellQuoted target}: {e.words}"
        | .error e => fault s!"cannot read symbolic link {shellQuoted source}: {e.words}"
      else copyRegular info source target
where
  /-- Whether a target lies in a directory that is copied. -/
  isBelow (source target : String) : Tool Bool := do
    match ← ask (.canonical (pathOf source)),
        ← ask (.canonical (pathOf (String.ofList (parentName target.toList)))) with
    | .ok a, .ok b =>
      return a.bytes == b.bytes || (a.bytes ++ [Path.slash]).isPrefixOf b.bytes
    | _, _ => return false
  /-- Copies the data of a regular file. -/
  copyRegular (info : FileInfo) (source target : String) : Tool Unit := do
    match ← ask (.openFile (pathOf source) { reads := true } 0) with
    | .error e => fault s!"cannot open {shellQuoted source} for reading: {e.words}"
    | .ok d =>
      let mode : OpenMode := { writes := true, creates := true, truncates := true }
      match ← ask (.openFile (pathOf target) mode (info.mode &&& 0o777)) with
      | .error e =>
        let e := if e == .isDirectory then SystemError.notDirectory else e
        fault s!"cannot create regular file {shellQuoted target}: {e.words}"
      | .ok t =>
        copyData d t chunkLimit
        let _ ← ask (.close t)
        if style.keepsMode then
          let _ ← ask (.setMode (pathOf target) info.mode)
        if style.tells then say s!"{shellQuoted source} -> {shellQuoted target}\n"
      let _ ← ask (.close d)

/-- Copies files. -/
def cp (arguments : List String) : Tool Unit := do
  let table : OptionTable :=
    { letters := OptionTable.ofLetters "abdfiHlLnpPrRst:TuvxS:".toList
      names := [("archive", 'a'), ("force", 'f'), ("no-clobber", 'n'), ("recursive", 'r'),
        ("target-directory", 't'), ("no-target-directory", 'T'), ("verbose", 'v'),
        ("no-dereference", 'P'), ("dereference", 'L')] }
  let p ← parse table arguments
  let targets ← targetsOf p
  let deep := p.has 'r' || p.has 'R' || p.has 'a'
  let style : CopyStyle :=
    { deep, tells := p.has 'v', keepsLinks := (deep || p.has 'P' || p.has 'd') && !p.has 'L'
      isForced := p.has 'f', keepsOld := p.has 'n', keepsMode := p.has 'p' || p.has 'a' }
  if p.has 'n' then
    complain ("warning: behavior of -n is non-portable and may change in future; " ++
      "use --update=none instead")
  for (source, target) in targets do
    copyFile style depthLimit source target

/-- Moves files. -/
def mv (arguments : List String) : Tool Unit := do
  let table : OptionTable :=
    { letters := OptionTable.ofLetters "bfint:TuvS:".toList
      names := [("force", 'f'), ("no-clobber", 'n'), ("target-directory", 't'),
        ("no-target-directory", 'T'), ("verbose", 'v')] }
  let p ← parse table arguments
  for (source, target) in (← targetsOf p) do
    match ← ask (.info (pathOf source) false) with
    | .error e => fault s!"cannot stat {shellQuoted source}: {e.words}"
    | .ok info =>
      let old ← infoOf? target false
      if p.has 'n' && old.isSome then pure ()
      else if old.any (·.number == info.number) then
        if info.kind == .directory then
          fault (s!"cannot move {shellQuoted source} to a subdirectory of itself, " ++
            shellQuoted (inside target source))
        else fault s!"{shellQuoted source} and {shellQuoted target} are the same file"
      else match ← ask (.rename (pathOf source) (pathOf target)) with
        | .ok () => if p.has 'v' then say s!"renamed {shellQuoted source} -> {shellQuoted target}\n"
        | .error .invalid =>
          fault (s!"cannot move {shellQuoted source} to a subdirectory of itself, " ++
            shellQuoted target)
        | .error .notEmpty =>
          fault s!"cannot overwrite {shellQuoted target}: {SystemError.notEmpty.words}"
        | .error .isDirectory =>
          fault s!"cannot overwrite directory {shellQuoted target} with non-directory"
        | .error .notDirectory =>
          if old.isSome then
            fault (s!"cannot overwrite non-directory {shellQuoted target} with directory " ++
              shellQuoted source)
          else
            fault (s!"cannot move {shellQuoted source} to {shellQuoted target}: " ++
              SystemError.notDirectory.words)
        | .error e =>
          fault s!"cannot move {shellQuoted source} to {shellQuoted target}: {e.words}"

/-- Gives files more names. -/
def ln (arguments : List String) : Tool Unit := do
  let table : OptionTable :=
    { letters := OptionTable.ofLetters "bdfFiLnPrst:TvS:".toList
      names := [("force", 'f'), ("symbolic", 's'), ("no-dereference", 'n'),
        ("target-directory", 't'), ("no-target-directory", 'T'), ("verbose", 'v')] }
  let p ← parse table arguments
  let targets ← match p.operands with
    | [only] => if (p.value? 't').isSome then targetsOf p else pure [(only, inside "." only)]
    | [source, target] =>
      if p.has 'n' && (← infoOf? target false).any (·.kind == .link) then pure [(source, target)]
      else targetsOf p
    | _ => targetsOf p
  for (source, target) in targets do
    linkOne p source target
where
  /-- Makes one link. -/
  linkOne (p : Parsed) (source target : String) : Tool Unit := do
    let isSoft := p.has 's'
    let kind := if isSoft then "symbolic" else "hard"
    let info ← ask (.info (pathOf source) false)
    match info with
    | .error e =>
      if !isSoft then fault s!"failed to access {shellQuoted source}: {e.words}"
      else place isSoft kind p source target
    | .ok info =>
      if !isSoft && info.kind == .directory then
        fault s!"{shownName source}: hard link not allowed for directory"
      else place isSoft kind p source target
  /-- Puts a link in its place. -/
  place (isSoft : Bool) (kind : String) (p : Parsed) (source target : String) : Tool Unit := do
    if p.has 'f' then
      match ← infoOf? target false with
      | some old =>
        if old.kind != .directory then
          let _ ← ask (.unlink (pathOf target))
      | none => pure ()
    let result ← if isSoft then ask (.symlink (Text.Octets.toBytes source) (pathOf target))
      else ask (.link (pathOf source) (pathOf target))
    match result with
    | .ok () =>
      let arrow := if isSoft then "->" else "=>"
      if p.has 'v' then say s!"{shellQuoted target} {arrow} {shellQuoted source}\n"
    | .error e => fault s!"failed to create {kind} link {shellQuoted target}: {e.words}"

/-- The letters of rights with those for special ones. -/
def modeLetters (mode : Nat) : String :=
  let triple := fun (shift special : Nat) (plain other : Char) =>
    let bits := mode >>> shift
    [if bits &&& 4 != 0 then 'r' else '-', if bits &&& 2 != 0 then 'w' else '-',
      if mode &&& special != 0 then (if bits &&& 1 != 0 then plain else other)
      else if bits &&& 1 != 0 then 'x' else '-']
  String.ofList (triple 6 0o4000 's' 'S' ++ triple 3 0o2000 's' 'S' ++ triple 0 0o1000 't' 'T')

/-- Changes the rights of files. -/
def chmod (arguments : List String) : Tool Unit := do
  let isMode := fun (s : String) => match s.toList with
    | '-' :: c :: _ => ['r', 'w', 'x', 'X', 's', 't'].contains c
    | _ => false
  let marked := arguments.map fun s => if isMode s then "a" ++ s else s
  let table : OptionTable :=
    { letters := OptionTable.ofLetters "cfvR".toList
      names := [("recursive", 'R'), ("verbose", 'v'), ("changes", 'c'), ("silent", 'f')] }
  let p ← parse table (if arguments.head?.any isMode then marked else arguments)
  match p.operands with
  | [] => dieUsage "missing operand"
  | [mode] => dieUsage s!"missing operand after {quoted mode}"
  | mode :: paths =>
    let mask ← ask (.mask none)
    if (modeOf? mode 0 false mask).isNone then dieUsage s!"invalid mode: {quoted mode}"
    for path in paths do
      changeOne p mode mask depthLimit path
where
  /-- Changes the rights of a file, and of all below it if that is asked for. -/
  changeOne (p : Parsed) (mode : String) (mask : Nat) : Nat → String → Tool Unit
    | 0, _ => pure ()
    | fuel + 1, path => do
      match ← ask (.info (pathOf path) true) with
      | .error e => fault s!"cannot access {quoted path}: {e.words}"
      | .ok info =>
        let new := (modeOf? mode info.mode (info.kind == .directory) mask).getD info.mode
        let _ ← ask (.setMode (pathOf path) new)
        if p.has 'v' || (p.has 'c' && new != info.mode) then
          let (a, b) := (Shell.octalText info.mode, Shell.octalText new)
          if new == info.mode then
            say s!"mode of {quoted path} retained as {b} ({modeLetters new})\n"
          else say (s!"mode of {quoted path} changed from {a} ({modeLetters info.mode}) to {b} " ++
            s!"({modeLetters new})\n")
        if p.has 'R' && info.kind == .directory then
          match ← ask (.list (pathOf path)) with
          | .ok names =>
            for name in names do
              changeOne p mode mask fuel s!"{path}/{Text.Octets.ofBytes name}"
          | .error _ => pure ()

end Deadwood.Utility
