import Deadwood.Utility.Listing

/-!
# Programs for lines

Programs that take lines from their input or from files and give some of them, parts of them, or
what there is to say about them.
-/

namespace Deadwood.Utility

open Host

/-! ## The start and the end -/

/-- The old way to give a number of lines: digits right behind a dash, and letters behind them. -/
def oldCount? (s : String) : Option (String × List Char) :=
  match s.toList with
  | '-' :: c :: rest =>
    if c.isDigit then
      let digits := (c :: rest).takeWhile Char.isDigit
      some (String.ofList digits, (c :: rest).drop digits.length)
    else none
  | _ => none

/-- Arguments with the old way to give a number replaced by the new one. -/
def withCounts (arguments : List String) : List String :=
  match arguments with
  | first :: rest =>
    match oldCount? first with
    | some (digits, letters) =>
      let option := if letters.contains 'c' then "-c" else "-n"
      let others := (letters.filter (· != 'c')).map fun c => s!"-{c}"
      (option ++ digits) :: others ++ rest
    | none => arguments
  | [] => []

/-- The titles of files that are shown one after another. -/
def showTitle (isFirst : Bool) (name : String) : Tool Unit :=
  say ((if isFirst then "" else "\n") ++ "==> " ++ (if name == "-" then "standard input" else name) ++
    " <==\n")

/-- Copies so many bytes of an open file to the output. -/
def copyCount (d : Nat) : Nat → Nat → Tool (Answer Unit)
  | 0, _ => return .ok ()
  | _, 0 => return .ok ()
  | fuel + 1, count => do
    match ← ask (.read d (min count chunkSize) none) with
    | .error e => return .error e
    | .ok [] => return .ok ()
    | .ok bytes =>
      out (Text.Octets.listOf bytes)
      copyCount d fuel (count - bytes.length)

/-- Writes the first so many lines. -/
def firstLines (left : Nat) (line : List Char) (hasEnd : Bool) : Turn Nat :=
  if left == 0 then { state := 0, stops := true }
  else
    { state := left - 1, output := if hasEnd then line ++ ['\n'] else line, stops := left == 1 }

/-- Takes lines off the end of a text. -/
def dropLastLines (count : Nat) (cs : List Char) : List Char :=
  let lines := splitLines '\n' cs
  (lines.take (lines.length - count)).flatMap fun (line, hasEnd) =>
    if hasEnd then line ++ ['\n'] else line

/-- Writes the start of files. -/
def head (arguments : List String) : Tool Unit := do
  let table : OptionTable :=
    { letters := OptionTable.ofLetters "c:n:qvz".toList
      names := [("bytes", 'c'), ("lines", 'n'), ("quiet", 'q'), ("silent", 'q'), ("verbose", 'v')] }
  let p ← parse table (withCounts arguments)
  let unit := (p.last? ['c', 'n']).getD 'n'
  let text := (p.value? unit).getD "10"
  let (isBack, digits) := match text.toList with
    | '-' :: rest => (true, String.ofList rest)
    | '+' :: rest => (false, String.ofList rest)
    | _ => (false, text)
  let what := if unit == 'c' then "bytes" else "lines"
  let count ← match size? digits with
    | some n => pure n
    | none => die s!"invalid number of {what}: {quoted text}"
  let names := inputsOf p.operands
  let hasTitle := p.has 'v' || (1 < names.length && !p.has 'q')
  let mut isFirst := true
  for name in names do
    match ← openInput name with
    | .error e => fault s!"cannot open {shellQuoted name} for reading: {e.words}"
    | .ok d =>
      if hasTitle then showTitle isFirst name
      isFirst := false
      let result ← if isBack then do
          match ← readAll d chunkLimit [] with
          | .ok cs =>
            out (if unit == 'c' then cs.take (cs.length - count) else dropLastLines count cs)
            pure (.ok ())
          | .error e => pure (.error e)
        else if unit == 'c' then copyCount d chunkLimit count
        else if count == 0 then pure (.ok ())
        else headLines d count
      match result with
      | .ok () => pure ()
      | .error e => fault s!"error reading {shellQuoted name}: {e.words}"
      closeInput name d
where
  /-- Writes the first lines of an open file, reading no further than that if it can be undone. -/
  headLines (d count : Nat) : Tool (Answer Unit) := do
    match ← filterFrom '\n' firstLines d chunkLimit [] count with
    | .ok _ => return .ok ()
    | .error e => return .error e

/-- Writes the end of files. -/
def tail (arguments : List String) : Tool Unit := do
  let table : OptionTable :=
    { letters := OptionTable.ofLetters "c:fFn:qs:vz".toList
      names := [("bytes", 'c'), ("lines", 'n'), ("quiet", 'q'), ("silent", 'q'), ("verbose", 'v'),
        ("follow", 'f')] }
  let plus := match arguments with
    | first :: rest => match first.toList with
      | '+' :: c :: more => if c.isDigit then ("-n+" ++ String.ofList (c :: more)) :: rest else arguments
      | _ => arguments
    | [] => []
  let p ← parse table (withCounts plus)
  let unit := (p.last? ['c', 'n']).getD 'n'
  let text := (p.value? unit).getD "10"
  let (fromStart, digits) := match text.toList with
    | '+' :: rest => (true, String.ofList rest)
    | '-' :: rest => (false, String.ofList rest)
    | _ => (false, text)
  let what := if unit == 'c' then "bytes" else "lines"
  let count ← match size? digits with
    | some n => pure n
    | none => die s!"invalid number of {what}: {quoted text}"
  let names := inputsOf p.operands
  let hasTitle := p.has 'v' || (1 < names.length && !p.has 'q')
  let mut isFirst := true
  for name in names do
    match ← openInput name with
    | .error e => fault s!"cannot open {shellQuoted name} for reading: {e.words}"
    | .ok d =>
      if hasTitle then showTitle isFirst name
      isFirst := false
      match ← readAll d chunkLimit [] with
      | .error e => fault s!"error reading {shellQuoted name}: {e.words}"
      | .ok cs =>
        if unit == 'c' then
          out (cs.drop (if fromStart then count - 1 else cs.length - count))
        else
          let lines := splitLines '\n' cs
          let kept := lines.drop (if fromStart then count - 1 else lines.length - count)
          out (kept.flatMap fun (line, hasEnd) => if hasEnd then line ++ ['\n'] else line)
        if p.has 'f' || p.has 'F' then
          ask (.sleepUntil (Nat.pow 10 24))
      closeInput name d

/-- Writes the lines of files, last ones first. -/
def tac (arguments : List String) : Tool Unit := do
  let p ← parse {} arguments
  for name in inputsOf p.operands do
    match ← readOperand name with
    | some cs =>
      out ((splitLines '\n' cs).reverse.flatMap fun (line, hasEnd) =>
        if hasEnd then line ++ ['\n'] else line)
    | none => pure ()

/-- Writes lines backwards. -/
def rev (arguments : List String) : Tool Unit := do
  let _ ← filterOperands (fun (_ : Unit) line hasEnd =>
    { state := (), output := line.reverse ++ if hasEnd then ['\n'] else [] })
    (inputsOf arguments) ()

/-! ## Counting -/

/-- How much there is in a text. -/
structure Counts where
  lines : Nat := 0
  words : Nat := 0
  bytes : Nat := 0
  longest : Nat := 0
deriving DecidableEq, Repr, Inhabited

/-- How much there is in a text. -/
def countsOf (cs : List Char) : Counts :=
  let isSpace := fun (c : Char) => c == ' ' || ('\t' ≤ c && c ≤ '\r')
  let (words, _) := cs.foldl (fun (state : Nat × Bool) c =>
    if isSpace c then (state.1, false)
    else if isShown c || c.toNat ≥ 128 then (if state.2 then state.1 else state.1 + 1, true)
    else state) (0, false)
  { lines := cs.countP (· == '\n'), words, bytes := cs.length
    longest := ((linesOf cs).map List.length).foldl max 0 }

/-- Counts lines, words and bytes. -/
def wc (arguments : List String) : Tool Unit := do
  let table : OptionTable :=
    { letters := OptionTable.ofLetters "clmLw".toList
      names := [("bytes", 'c'), ("chars", 'm'), ("lines", 'l'), ("max-line-length", 'L'),
        ("words", 'w')] }
  let p ← parse table arguments
  let isAll := p.options.isEmpty
  let numbers := fun (c : Counts) =>
    (if isAll || p.has 'l' then [c.lines] else []) ++ (if isAll || p.has 'w' then [c.words] else []) ++
    (if p.has 'm' then [c.bytes] else []) ++ (if isAll || p.has 'c' then [c.bytes] else []) ++
    (if p.has 'L' then [c.longest] else [])
  let mut rows : List (Counts × String) := []
  let mut isWide := p.operands.isEmpty
  let mut total : Counts := {}
  let mut known := 0
  for name in inputsOf p.operands do
    if name == "-" then isWide := true
    match ← openInput name with
    | .error e => fault s!"{shownName name}: {e.words}"
    | .ok d =>
      match ← ask (.infoOf d) with
      | .ok info => if info.kind == .regular then known := known + info.size else isWide := true
      | .error _ => pure ()
      let result ← readAll d chunkLimit []
      closeInput name d
      let cs ← match result with
        | .ok cs => pure cs
        | .error e => do
          fault s!"{shownName name}: {e.words}"
          pure []
      let c := countsOf cs
      total :=
        { lines := total.lines + c.lines, words := total.words + c.words
          bytes := total.bytes + c.bytes, longest := max total.longest c.longest }
      rows := rows ++ [(c, if p.operands.isEmpty then "" else " " ++ name)]
  if 1 < p.operands.length then rows := rows ++ [(total, " total")]
  let one := (numbers {}).length == 1
  let width := if one && p.operands.length ≤ 1 then 1
    else max (if isWide then 7 else 1) (toString known).length
  for (c, name) in rows do
    say (" ".intercalate ((numbers c).map fun n => padLeft width (toString n)) ++ name ++ "\n")

/-! ## Sorting -/

/-- How the texts of a key are compared. -/
structure KeyStyle where
  isNumber : Bool := false
  isHuman : Bool := false
  isVersion : Bool := false
  foldsCase : Bool := false
  skipsBlanks : Bool := false
  onlyWords : Bool := false
  isReverse : Bool := false
deriving DecidableEq, Repr, Inhabited

/-- A key of a line: from a character of a field to a character of another one. -/
structure SortKey where
  field : Nat
  offset : Nat := 1
  lastField : Option Nat := none
  lastOffset : Nat := 0
  style : Option KeyStyle := none
deriving DecidableEq, Repr, Inhabited

/-- The style with the letters of options. -/
def KeyStyle.withLetter (s : KeyStyle) : Char → KeyStyle
  | 'n' | 'g' => { s with isNumber := true }
  | 'h' => { s with isHuman := true }
  | 'V' => { s with isVersion := true }
  | 'f' => { s with foldsCase := true }
  | 'b' => { s with skipsBlanks := true }
  | 'd' => { s with onlyWords := true }
  | 'r' => { s with isReverse := true }
  | _ => s

/-- Whether a character is a blank between fields. -/
def isBlank (c : Char) : Bool := c == ' ' || c == '\t'

/-- The rest of a line after so many fields. -/
def skipFields (separator : Option Char) : Nat → List Char → List Char
  | 0, cs => cs
  | count + 1, cs =>
    match separator with
    | some c => skipFields separator count ((cs.dropWhile (· != c)).drop 1)
    | none => skipFields separator count ((cs.dropWhile isBlank).dropWhile (!isBlank ·))

/-- The text of a key of a line. -/
def keyText (separator : Option Char) (style : KeyStyle) (k : SortKey) (line : List Char) :
    List Char :=
  let start := skipFields separator (k.field - 1) line
  let start := if style.skipsBlanks then start.dropWhile isBlank else start
  let start := start.drop (k.offset - 1)
  match k.lastField with
  | none => start
  | some last =>
    let whole := skipFields separator (last - 1) line
    let size := if k.lastOffset == 0 then
        let ended := match separator with
          | some c => whole.dropWhile (· != c)
          | none => (whole.dropWhile isBlank).dropWhile (!isBlank ·)
        ended.length
      else
        let whole := if style.skipsBlanks then whole.dropWhile isBlank else whole
        whole.length - k.lastOffset
    start.take (start.length - size)

/-- The number that a text begins with, in thousandths of millionths. -/
def leadingDecimal (cs : List Char) : Int × List Char :=
  let cs := cs.dropWhile isBlank
  let (negative, body) := match cs with
    | '-' :: rest => (true, rest)
    | rest => (false, rest)
  let whole := body.takeWhile Char.isDigit
  let (fraction, rest) := match body.drop whole.length with
    | '.' :: more => (more.takeWhile Char.isDigit, more.dropWhile Char.isDigit)
    | more => ([], more)
  let nine := (fraction ++ List.replicate 9 '0').take 9
  let n : Int := (Shell.leadingNumber (whole ++ nine)).1
  (if negative then -n else n, rest)

/-- The rank of the letter of a unit. -/
def unitRank (cs : List Char) : Nat :=
  match cs with
  | c :: _ => ("KMGTPEZY".toList.idxOf? c.toUpper).elim 0 (· + 1)
  | [] => 0

/-- Compares texts by characters, those in runs of digits as numbers. -/
def compareVersions : Nat → List Char → List Char → Ordering
  | 0, _, _ => .eq
  | fuel + 1, a, b =>
    match a, b with
    | [], [] => .eq
    | [], _ => .lt
    | _, [] => .gt
    | x :: a', y :: b' =>
      if x.isDigit && y.isDigit then
        let (m, n) := (Shell.leadingNumber a, Shell.leadingNumber b)
        (compare m.1 n.1).then (compareVersions fuel m.2 n.2)
      else (compare x.toNat y.toNat).then (compareVersions fuel a' b')

/-- Compares texts character by character. -/
def compareTexts : List Char → List Char → Ordering
  | [], [] => .eq
  | [], _ => .lt
  | _, [] => .gt
  | x :: a, y :: b => (compare x.toNat y.toNat).then (compareTexts a b)

/-- Compares the texts of keys. -/
def compareKeys (style : KeyStyle) (a b : List Char) : Ordering :=
  let result :=
    if style.isNumber then compare (leadingDecimal a).1 (leadingDecimal b).1
    else if style.isHuman then
      let ((m, u), (n, v)) := (leadingDecimal a, leadingDecimal b)
      let rank := fun (n : Int) (u : List Char) =>
        if n < 0 then -(unitRank u : Int) else (unitRank u : Int)
      (compare (rank m u) (rank n v)).then (compare m n)
    else if style.isVersion then compareVersions (a.length + b.length + 1) a b
    else
      let clean := fun (cs : List Char) =>
        let cs := if style.onlyWords then cs.filter fun c => c.isAlphanum || isBlank c else cs
        let cs := if style.skipsBlanks then cs.dropWhile isBlank else cs
        if style.foldsCase then cs.map Char.toUpper else cs
      compareTexts (clean a) (clean b)
  if style.isReverse then result.swap else result

/-- A place in a key: a field, a character, and letters. -/
def keyPlace (s : String) : Option (Nat × Option Nat × List Char) :=
  let digits := s.toList.takeWhile Char.isDigit
  if digits.isEmpty then none
  else match s.toList.drop digits.length with
    | '.' :: rest =>
      let more := rest.takeWhile Char.isDigit
      some ((Shell.leadingNumber digits).1, some (Shell.leadingNumber more).1,
        rest.drop more.length)
    | rest => some ((Shell.leadingNumber digits).1, none, rest)

/-- The key that a text stands for. -/
def sortKey? (s : String) : Option SortKey :=
  let (first, second) := match s.splitOn "," with
    | [a] => (a, none)
    | a :: b :: _ => (a, some b)
    | [] => ("", none)
  let styleOf := fun (letters : List Char) =>
    if letters.isEmpty then none else some (letters.foldl KeyStyle.withLetter {})
  match keyPlace first, second.map keyPlace with
  | some (field, offset, letters), none =>
    some { field, offset := offset.getD 1, style := styleOf letters }
  | some (field, offset, letters), some (some (last, lastOffset, more)) =>
    some { field, offset := offset.getD 1, lastField := some last
           lastOffset := lastOffset.getD 0, style := styleOf (letters ++ more) }
  | _, _ => none

/-- Sorts lines. -/
def sort (arguments : List String) : Tool Unit := do
  let table : OptionTable :=
    { letters := OptionTable.ofLetters "bcCdfghik:mMno:rRsS:t:T:uVz".toList
      names := [("ignore-leading-blanks", 'b'), ("check", 'c'), ("dictionary-order", 'd'),
        ("ignore-case", 'f'), ("general-numeric-sort", 'g'), ("human-numeric-sort", 'h'),
        ("key", 'k'), ("merge", 'm'), ("numeric-sort", 'n'), ("output", 'o'), ("reverse", 'r'),
        ("stable", 's'), ("field-separator", 't'), ("unique", 'u'), ("version-sort", 'V'),
        ("zero-terminated", 'z')] }
  let p ← parse table arguments 2
  let mark := if p.has 'z' then '\x00' else '\n'
  let general := (p.options.map Prod.fst).foldl KeyStyle.withLetter {}
  let keys ← (p.values 'k').mapM fun text => match sortKey? text with
    | some key =>
      if key.field == 0 then
        die s!"-: invalid field specification {quoted text}: field number is zero" 2
      else pure key
    | none => die s!"invalid number at field start: invalid count at start of {quoted text}" 2
  let separator := ((p.value? 't').getD "").toList.head?
  let byKeys := fun (a b : List Char) =>
    if keys.isEmpty then compareKeys general a b
    else keys.foldl (fun (result : Ordering) key =>
      let style := key.style.getD general
      result.then (compareKeys style (keyText separator style key a)
        (keyText separator style key b))) .eq
  let order := fun (a b : List Char) =>
    let result := byKeys a b
    if p.has 's' || p.has 'u' then result
    else result.then (if general.isReverse then compareTexts b a else compareTexts a b)
  let mut lines : List (List Char) := []
  for name in inputsOf p.operands do
    match ← openInput name with
    | .error e => die s!"cannot read: {shownName name}: {e.words}" 2
    | .ok d =>
      match ← readAll d chunkLimit [] with
      | .ok cs => lines := lines ++ (splitLines mark cs).map Prod.fst
      | .error e => die s!"read failed: {shownName name}: {e.words}" 2
      closeInput name d
  if p.has 'c' || p.has 'C' then
    let pairs := (lines.zip (lines.drop 1)).zipIdx
    match pairs.find? fun ((a, b), _) =>
        order a b == .gt || (p.has 'u' && order a b == .eq) with
    | some ((_, b), place) =>
      let name := (inputsOf p.operands).headD "-"
      if p.has 'c' then complain s!"{name}:{place + 2}: disorder: {String.ofList b}"
      quit 1
    | none => pure ()
  else
    let sorted := lines.mergeSort fun a b => order a b != .gt
    let kept := if p.has 'u' then dropRepeats (fun a b => byKeys a b == .eq) sorted else sorted
    let text := kept.flatMap (· ++ [mark])
    match p.value? 'o' with
    | none => out text
    | some path =>
      let mode : OpenMode := { writes := true, creates := true, truncates := true }
      match ← ask (.openFile (pathOf path) mode 0o666) with
      | .ok d =>
        let _ ← ask (.write d (Text.Octets.bytesOf text))
      | .error e => die s!"open failed: {shownName path}: {e.words}" 2
where
  /-- Drops lines that are the same as the one before. -/
  dropRepeats (same : List Char → List Char → Bool) : List (List Char) → List (List Char)
    | a :: b :: rest =>
      if same a b then dropRepeats same (a :: rest) else a :: dropRepeats same (b :: rest)
    | rest => rest
  termination_by lines => lines.length

/-! ## Repeated lines -/

/-- The state of looking for repeated lines: the first one of a group, its key, and how many there
are. -/
abbrev Repeats := Option (List Char × List Char × Nat)

/-- Drops lines that repeat the one before. -/
def uniq (arguments : List String) : Tool Unit := do
  let table : OptionTable :=
    { letters := OptionTable.ofLetters "cdDf:is:uw:z".toList
      names := [("count", 'c'), ("repeated", 'd'), ("all-repeated", 'D'), ("skip-fields", 'f'),
        ("ignore-case", 'i'), ("skip-chars", 's'), ("unique", 'u'), ("check-chars", 'w')] }
  let p ← parse table arguments
  let number := fun (letter : Char) => (p.value? letter).bind fun s => Shell.digits? s
  match p.operands.drop 2 with
  | extra :: _ => dieUsage s!"extra operand {quoted extra}"
  | [] => pure ()
  match p.operands[1]? with
  | some target =>
    if target != "-" then
      let mode : OpenMode := { writes := true, creates := true, truncates := true }
      match ← ask (.openFile (pathOf target) mode 0o666) with
      | .ok d =>
        let _ ← ask (.copy d 1)
      | .error e => die s!"{shownName target}: {e.words}"
  | none => pure ()
  let keyOf := fun (line : List Char) =>
    let key := (skipFields none ((number 'f').getD 0) line).drop ((number 's').getD 0)
    let key := match number 'w' with
      | some n => key.take n
      | none => key
    if p.has 'i' then key.map Char.toLower else key
  let shown := fun (group : List Char × List Char × Nat) =>
    let (line, _, count) := group
    if (p.has 'd' && count < 2) || (p.has 'u' && 1 < count) then []
    else if p.has 'D' then (if count < 2 then [] else
      (List.replicate count (line ++ ['\n'])).flatten)
    else (if p.has 'c' then (padLeft 7 (toString count) ++ " ").toList else []) ++ line ++ ['\n']
  let step := fun (s : Repeats) (line : List Char) (_ : Bool) =>
    let key := keyOf line
    match s with
    | some (first, old, count) =>
      if old == key then { state := some (first, old, count + 1) : Turn Repeats }
      else { state := some (line, key, 1), output := shown (first, old, count) }
    | none => { state := some (line, key, 1) }
  let (last, _) ← filterOperands step [p.operands.headD "-"] none
  match last with
  | some group => out (shown group)
  | none => pure ()

/-! ## Parts of lines -/

/-- The ranges that a text stands for; one without an end goes on for ever. -/
def ranges? (s : String) : Option (List (Nat × Option Nat)) :=
  let parts := s.toList.splitBy fun a b =>
    (a != ',' && !isBlank a) && (b != ',' && !isBlank b)
  let parts := parts.filter fun part => part != [','] && !part.all isBlank
  parts.mapM fun part =>
    let first := part.takeWhile Char.isDigit
    match part.drop first.length with
    | [] => if first.isEmpty then none else
        let n := (Shell.leadingNumber first).1
        some (n, some n)
    | '-' :: rest =>
      if !rest.all Char.isDigit || (first.isEmpty && rest.isEmpty) then none
      else
        let start := if first.isEmpty then 1 else (Shell.leadingNumber first).1
        some (start, if rest.isEmpty then none else some (Shell.leadingNumber rest).1)
    | _ => none

/-- Whether a number lies in one of some ranges. -/
def inRanges (ranges : List (Nat × Option Nat)) (n : Nat) : Bool :=
  ranges.any fun (first, last) => first ≤ n && last.all (n ≤ ·)

/-- Parts of a text between characters. -/
def splitAt (mark : Char) (cs : List Char) : List (List Char) :=
  let (parts, last) := cs.foldl (fun (state : List (List Char) × List Char) c =>
    if c == mark then (state.2.reverse :: state.1, []) else (state.1, c :: state.2)) ([], [])
  (last.reverse :: parts).reverse

/-- Writes parts of lines. -/
def cut (arguments : List String) : Tool Unit := do
  let table : OptionTable :=
    { letters := OptionTable.ofLetters "b:c:d:f:nszC".toList ++ [('O', .always)]
      names := [("bytes", 'b'), ("characters", 'c'), ("delimiter", 'd'), ("fields", 'f'),
        ("complement", 'C'), ("only-delimited", 's'), ("output-delimiter", 'O'),
        ("zero-terminated", 'z')] }
  let p ← parse table arguments
  let lists := p.options.filter fun o => ['b', 'c', 'f'].contains o.1
  match lists with
  | [] => dieUsage "you must specify a list of bytes, characters, or fields"
  | _ :: _ :: _ => dieUsage "only one list may be specified"
  | [(letter, text)] =>
    let isFields := letter == 'f'
    let delimiter ← match (p.value? 'd').map String.toList with
      | none => pure '\t'
      | some [] => pure '\x00'
      | some [c] => pure c
      | some _ => dieUsage "the delimiter must be a single character"
    let ranges ← match ranges? text with
      | some ranges => pure ranges
      | none =>
        let what := if isFields then "field value" else "byte/character position"
        dieUsage s!"invalid {what} {quoted text}"
    if ranges.any fun (first, last) => first == 0 || last == some 0 then
      dieUsage (if isFields then "fields are numbered from 1"
        else "byte/character positions are numbered from 1")
    if ranges.any fun (first, last) => last.any (· < first) then
      dieUsage "invalid decreasing range"
    let isKept := fun (n : Nat) => inRanges ranges n != p.has 'C'
    let between := ((p.value? 'O').map String.toList).getD [delimiter]
    let step := fun (_ : Unit) (line : List Char) (_ : Bool) =>
      let pick := fun {α : Type} (xs : List α) =>
        (xs.zipIdx.filter fun (_, place) => isKept (place + 1)).map Prod.fst
      if isFields then
        if !line.contains delimiter then
          { state := (), output := if p.has 's' then [] else line ++ ['\n'] : Turn Unit }
        else
          let fields := pick (splitAt delimiter line)
          { state := (), output := (fields.intersperse between).flatten ++ ['\n'] }
      else { state := (), output := pick line ++ ['\n'] }
    let _ ← filterOperands step (inputsOf p.operands) ()

/-! ## Characters -/

/-- A set of characters as it is written, with ranges, classes and repeated ones; an item with a
count of zero is repeated as often as needed. -/
inductive SetItem where
  | chars (cs : List Char)
  | repeated (c : Char) (count : Nat)
deriving DecidableEq, Repr, Inhabited

/-- All characters. -/
def allChars : List Char := (List.range 256).map Char.ofNat

/-- Reads one character of a set, which may be an escape. -/
def setChar (cs : List Char) : Option (Char × List Char) :=
  match cs with
  | [] => none
  | '\\' :: rest =>
    match (rest.take 3).takeWhile Shell.isOctal with
    | [] =>
      match rest with
      | [] => some ('\\', [])
      | c :: more =>
        let value := match c with
          | 'a' => '\x07'
          | 'b' => '\x08'
          | 'f' => '\x0c'
          | 'n' => '\n'
          | 'r' => '\r'
          | 't' => '\t'
          | 'v' => '\x0b'
          | c => c
        some (value, more)
    | digits => some (Shell.octalChar digits, rest.drop digits.length)
  | c :: rest => some (c, rest)

/-- The name between marks in front of a text, and what follows them. -/
def bracketed? (mark : Char) (cs : List Char) : Option (List Char × List Char) :=
  let name := cs.takeWhile (· != mark)
  match cs.drop name.length with
  | m :: ']' :: rest => if m == mark && !name.isEmpty then some (name, rest) else none
  | _ => none

/-- Reads a set of characters. -/
def readSet : Nat → List Char → Except String (List SetItem)
  | 0, _ => .ok []
  | fuel + 1, cs =>
    let class? := match cs with
      | '[' :: ':' :: rest => bracketed? ':' rest
      | _ => none
    let equal? := match cs with
      | '[' :: '=' :: rest => bracketed? '=' rest
      | _ => none
    let repeat? : Option (Char × Nat × List Char) := match cs with
      | '[' :: rest =>
        match setChar rest with
        | some (c, '*' :: more) =>
          let digits := more.takeWhile Char.isDigit
          match more.drop digits.length with
          | ']' :: after =>
            let count := if digits.head? == some '0' then
                digits.foldl (fun n c => 8 * n + (c.toNat - 48)) 0
              else (Shell.leadingNumber digits).1
            some (c, count, after)
          | _ => none
        | _ => none
      | _ => none
    match class?, equal?, repeat? with
    | some (name, rest), _, _ =>
      match Shell.classTest? (String.ofList name) with
      | some test => (readSet fuel rest).map (.chars (allChars.filter test) :: ·)
      | none => .error s!"invalid character class {quoted (String.ofList name)}"
    | _, some (name, rest), _ => (readSet fuel rest).map (.chars (name.take 1) :: ·)
    | _, _, some (c, count, rest) => (readSet fuel rest).map (.repeated c count :: ·)
    | none, none, none =>
      match setChar cs with
      | none => .ok []
      | some (c, '-' :: rest) =>
        match setChar rest with
        | some (d, after) =>
          if d < c then
            let range := String.ofList [c, '-', d]
            .error s!"range-endpoints of {quoted range} are in reverse collating sequence order"
          else
            let range := (List.range (d.toNat - c.toNat + 1)).map fun k => Char.ofNat (c.toNat + k)
            (readSet fuel after).map (.chars range :: ·)
        | none => .ok [.chars [c, '-']]
      | some (c, rest) => (readSet fuel rest).map (.chars [c] :: ·)

/-- The characters of a set; what is repeated without a count fills it up to a size. -/
def setChars (size : Nat) (items : List SetItem) : List Char :=
  let fixed := items.foldl (fun n item => match item with
    | .chars cs => n + cs.length
    | .repeated _ count => n + count) 0
  items.flatMap fun item => match item with
    | .chars cs => cs
    | .repeated c count => List.replicate (if count == 0 then size - fixed else count) c

/-- Replaces, drops or joins characters. -/
def tr (arguments : List String) : Tool Unit := do
  let table : OptionTable :=
    { letters := OptionTable.ofLetters "cCdst".toList, stopsEarly := true
      names := [("complement", 'c'), ("delete", 'd'), ("squeeze-repeats", 's'),
        ("truncate-set1", 't')] }
  let p ← parse table arguments
  let deletes := p.has 'd'
  let squeezes := p.has 's'
  let read := fun (s : String) => match readSet (s.length + 1) s.toList with
    | .ok items => (pure items : Tool (List SetItem))
    | .error text => die text
  let most := if deletes && !squeezes then 1 else 2
  let least := if deletes == squeezes then 2 else 1
  match p.operands with
  | [] => dieUsage "missing operand"
  | first :: rest =>
    match p.operands.drop most with
    | extra :: _ =>
      complain s!"extra operand {quoted extra}"
      if deletes && !squeezes then
        putError "Only one string may be given when deleting without squeezing repeats.\n"
      let name := (← get).name
      putError s!"Try '{name} --help' for more information.\n"
      quit 1
    | [] => pure ()
    if p.operands.length < least then
      complain s!"missing operand after {quoted first}"
      putError (if deletes
        then "Two strings must be given when both deleting and squeezing repeats.\n"
        else "Two strings must be given when translating.\n")
      let name := (← get).name
      putError s!"Try '{name} --help' for more information.\n"
      quit 1
    let plain := setChars 0 (← read first)
    let set1 := if p.has 'c' || p.has 'C' then allChars.filter (!plain.contains ·) else plain
    let set2 ← match rest with
      | second :: _ => do pure (setChars set1.length (← read second))
      | [] => pure []
    let translates := !deletes && !rest.isEmpty
    if translates && set2.isEmpty then
      die "when not truncating set1, string2 must be non-empty"
    let set1 := if translates && p.has 't' then set1.take set2.length else set1
    let lastChar := set2.getLast?.getD ' '
    let pairs := set1.zip (set2 ++ List.replicate (set1.length - set2.length) lastChar)
    let images := pairs.foldl (fun (a : Array Char) (x, y) => a.setIfInBounds x.toNat y)
      allChars.toArray
    let dropped := set1.foldl (fun (a : Array Bool) c => a.setIfInBounds c.toNat true)
      (Array.replicate 256 false)
    let squeezed := (if rest.isEmpty then set1 else set2).foldl
      (fun (a : Array Bool) c => a.setIfInBounds c.toNat true) (Array.replicate 256 false)
    let change := fun (cs : List Char) =>
      if deletes then cs.filter fun c => !(dropped[c.toNat]?.getD false)
      else if translates then cs.map fun c => images[c.toNat]?.getD c
      else cs
    stream (fun last cs =>
      let cs := change cs
      if squeezes then squeeze (fun c => squeezed[c.toNat]?.getD false) last cs
      else (cs, none)) none chunkLimit
where
  /-- Drops characters that repeat the one before. -/
  squeeze (test : Char → Bool) (last : Option Char) (cs : List Char) :
      List Char × Option Char :=
    let (done, last) := cs.foldl (fun (state : List Char × Option Char) c =>
      if state.2 == some c && test c then state else (c :: state.1, some c)) ([], last)
    (done.reverse, last)
  /-- Changes the input piece by piece. -/
  stream (change : Option Char → List Char → List Char × Option Char) :
      Option Char → Nat → Tool Unit
    | _, 0 => pure ()
    | last, fuel + 1 => do
      match ← ask (.read 0 chunkSize none) with
      | .error _ | .ok [] => pure ()
      | .ok bytes =>
        let (cs, last) := change last (Text.Octets.listOf bytes)
        out cs
        stream change last fuel

/-! ## Joining and numbering -/

/-- Numbers lines. -/
def nl (arguments : List String) : Tool Unit := do
  let table : OptionTable := { letters := OptionTable.ofLetters "b:d:f:h:i:l:n:ps:v:w:".toList }
  let p ← parse table arguments
  let number := fun (letter : Char) (default : Nat) =>
    ((p.value? letter).bind Shell.digits?).getD default
  let isAll := p.value? 'b' == some "a"
  let width := number 'w' 6
  let separator := ((p.value? 's').getD "\t").toList
  let step := fun (n : Nat) (line : List Char) (_ : Bool) =>
    if isAll || !line.isEmpty then
      let digits := toString n
      let digits := match p.value? 'n' with
        | some "ln" => Shell.padRight width digits
        | some "rz" => String.ofList (List.replicate (width - digits.length) '0') ++ digits
        | _ => padLeft width digits
      { state := n + number 'i' 1, output := digits.toList ++ separator ++ line ++ ['\n'] : Turn Nat }
    else
      { state := n, output := List.replicate (width + separator.length) ' ' ++ line ++ ['\n'] }
  let _ ← filterOperands step (inputsOf p.operands) (number 'v' 1)

/-- The characters between joined lines, with their escapes replaced. -/
def delimiterList : List Char → List (List Char)
  | '\\' :: 'n' :: rest => ['\n'] :: delimiterList rest
  | '\\' :: 't' :: rest => ['\t'] :: delimiterList rest
  | '\\' :: '\\' :: rest => ['\\'] :: delimiterList rest
  | '\\' :: '0' :: rest => [] :: delimiterList rest
  | c :: rest => [c] :: delimiterList rest
  | [] => []

/-- Parts with delimiters between them, used one after another. -/
def joinParts (delimiters : List (List Char)) (parts : List (List Char)) : List Char :=
  (parts.zipIdx.map fun (part, place) =>
    if place == 0 || delimiters.isEmpty then part
    else (delimiters[(place - 1) % delimiters.length]?).getD [] ++ part).flatten

/-- Joins lines of files. -/
def paste (arguments : List String) : Tool Unit := do
  let table : OptionTable :=
    { letters := OptionTable.ofLetters "d:sz".toList
      names := [("delimiters", 'd'), ("serial", 's')] }
  let p ← parse table arguments
  let delimiters := delimiterList ((p.value? 'd').getD "\t").toList
  let names := inputsOf p.operands
  let dashes := names.countP (· == "-")
  let input ← if 0 < dashes then do
      pure (linesOf ((← readOperand "-").getD []))
    else pure []
  let mut columns : List (List (List Char)) := []
  let mut place := 0
  for name in names do
    if name == "-" then
      let mine := if p.has 's' then (if place == 0 then input else [])
        else (input.zipIdx.filter fun (_, k) => k % dashes == place).map Prod.fst
      columns := columns ++ [mine]
      place := place + 1
    else match ← readOperand name with
      | some cs => columns := columns ++ [linesOf cs]
      | none => quit 1
  if p.has 's' then
    for lines in columns do
      out (joinParts delimiters lines ++ ['\n'])
  else
    let count := (columns.map List.length).foldl max 0
    for k in List.range count do
      out (joinParts delimiters (columns.map fun lines => (lines[k]?).getD []) ++ ['\n'])

/-- Breaks lines at a width. -/
def fold (arguments : List String) : Tool Unit := do
  let table : OptionTable :=
    { letters := OptionTable.ofLetters "bsw:".toList
      names := [("bytes", 'b'), ("spaces", 's'), ("width", 'w')] }
  let p ← parse table (withWidth arguments)
  let width := max (((p.value? 'w').bind Shell.digits?).getD 80) 1
  let step := fun (_ : Unit) (line : List Char) (hasEnd : Bool) =>
    { state := ()
      output := fill (p.has 's') width (line.length + 1) line ++ if hasEnd then ['\n'] else []
        : Turn Unit }
  let _ ← filterOperands step (inputsOf p.operands) ()
where
  /-- The old way to give a width. -/
  withWidth (arguments : List String) : List String :=
    arguments.map fun s => match oldCount? s with
      | some (digits, []) => "-w" ++ digits
      | _ => s
  /-- Breaks one line. -/
  fill (atSpaces : Bool) (width : Nat) : Nat → List Char → List Char
    | 0, cs => cs
    | fuel + 1, cs =>
      if cs.length ≤ width then cs
      else
        let piece := cs.take width
        let short := (piece.reverse.dropWhile (!isBlank ·)).reverse
        let piece := if atSpaces && !short.isEmpty then short else piece
        piece ++ '\n' :: fill atSpaces width fuel (cs.drop piece.length)

/-- Compares sorted lines. -/
def comm (arguments : List String) : Tool Unit := do
  let p ← parse { letters := OptionTable.ofLetters "123z".toList } arguments
  match p.operands with
  | [first, second] =>
    match ← readOperand first, ← readOperand second with
    | some a, some b =>
      let (a, b) := (linesOf a, linesOf b)
      let one := if p.has '1' then [] else ['\t']
      let two := if p.has '2' then [] else ['\t']
      let give := fun (column : Nat) (line : List Char) =>
        match column with
        | 1 => if p.has '1' then [] else line ++ ['\n']
        | 2 => if p.has '2' then [] else one ++ line ++ ['\n']
        | _ => if p.has '3' then [] else one ++ two ++ line ++ ['\n']
      out (merge give (a.length + b.length) a b)
    | _, _ => quit 1
  | [] => dieUsage "missing operand"
  | [only] => dieUsage s!"missing operand after {quoted only}"
  | _ :: _ :: extra :: _ => dieUsage s!"extra operand {quoted extra}"
where
  /-- Goes through both lists at once. -/
  merge (give : Nat → List Char → List Char) :
      Nat → List (List Char) → List (List Char) → List Char
    | 0, _, _ => []
    | _, [], b => b.flatMap (give 2)
    | _, a, [] => a.flatMap (give 1)
    | fuel + 1, x :: a, y :: b =>
      match compareTexts x y with
      | .lt => give 1 x ++ merge give fuel a (y :: b)
      | .gt => give 2 y ++ merge give fuel (x :: a) b
      | .eq => give 3 x ++ merge give fuel a b

end Deadwood.Utility
