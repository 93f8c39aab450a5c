import Deadwood.Shell.Arithmetic
import Deadwood.Shell.Field
import Deadwood.Shell.State

/-!
# Expansion

Words become texts: parameters are replaced by their values, commands by their output, calculations
by their results; what was not quoted is split into fields, and patterns become the names of files
that they fit. How a command gives its output is a parameter of this module.
-/

namespace Deadwood.Shell

open Host

/-- How a word is expanded. -/
structure Manner where
  /-- Whether the result is split into fields. -/
  splits : Bool := false
  /-- Whether all of it stands in quotes. -/
  quoted : Bool := false
  /-- Whether it takes the place of a value, so that what is not quoted is split. -/
  isValue : Bool := false
  /-- Whether it is the value of an assignment. -/
  assigns : Bool := false
deriving DecidableEq, Repr, Inhabited

/-! ## Parameters -/

/-- The letters of the options in the order in which they are shown. -/
def optionOrder : List Char :=
  ['u', 'b', 'a', 'C', 'E', 'V', 'v', 'x', 's', 'n', 'm', 'i', 'I', 'f', 'e']

/-- The value of a parameter that has only one. -/
def parameter? (s : ShellState) (name : String) : Option String :=
  match name with
  | "$" => some (toString s.process)
  | "?" => some (toString s.status)
  | "#" => some (toString s.parameters.length)
  | "!" => s.background.map toString
  | "-" => some (String.ofList (optionOrder.filter s.has))
  | _ =>
    if name.toList.all Char.isDigit then
      let n := name.toList.foldl (fun n c => 10 * n + (c.toNat - 48)) 0
      if n == 0 then some s.zero else s.parameters[n - 1]?
    else s.value? name

/-- The characters between fields. -/
def separators (s : ShellState) : String := (s.value? "IFS").getD defaultSeparators

/-- The values of all arguments with what stands between them. -/
def joinedArguments (s : ShellState) (isStar : Bool) (m : Manner) : List Glyph :=
  let between : List Glyph :=
    if m.splits && !(isStar && m.quoted) then
      if m.quoted || (s.value? "IFS").isSome then [.char valueEnd false] else [.char ' ' false]
    else match s.value? "IFS" with
      | some ifs => (ifs.toList.take 1).map fun c => .char c m.quoted
      | none => [.char ' ' m.quoted]
  (s.parameters.map (Glyph.ofText m.quoted)).intersperse between |>.flatten

/-- The value of a parameter, if it has one. -/
def parameterValue? (s : ShellState) (name : String) (m : Manner) : Option (List Glyph) :=
  if name == "@" || name == "*" then some (joinedArguments s (name == "*") m)
  else (parameter? s name).map (Glyph.ofText m.quoted)

/-- How the value of a parameter is split. -/
def stretchOf (s : ShellState) (name : String) (m : Manner) : Stretch :=
  if !m.quoted then .split
  else if name == "@" && !s.parameters.isEmpty && m.splits then .values
  else .fixed

/-- A value as a stretch of a word. -/
def valuePiece (m : Manner) (gs : List Glyph) : Piece := ⟨gs, if m.quoted then .fixed else .split⟩

/-- A text without line ends at its end. -/
def dropLineEnds (cs : List Char) : List Char := (cs.reverse.dropWhile (· == '\n')).reverse

/-! ## Home directories -/

/-- The home directory of a user. -/
def homeOf? (s : ShellState) (user : String) : Option String :=
  if user.isEmpty then s.value? "HOME"
  else if user == "root" then some "/root"
  else none

/-- The home directory that the beginning of a word stands for, and the rest of the word. -/
def expandHome? (s : ShellState) (assigns : Bool) (parts : List Part) :
    Option (String × List Part) :=
  match parts with
  | .char '~' :: rest =>
    let isEnd := fun (p : Part) => match p with
      | .char c => c == '/' || (assigns && c == ':')
      | _ => false
    let user := rest.takeWhile (!isEnd ·)
    match Word.bare? user with
    | some name => (homeOf? s name).map fun home => (home, rest.drop user.length)
    | none => none
  | _ => none

/-! ## Words -/

/-- The characters in front of parts, up to and with a colon if `marks` says so, behind those taken
so far, which come last first; and the rest. -/
def literalRun (marks : Bool) (taken : List Char) : List Part → List Char × List Part
  | .char c :: rest =>
    if marks && c == ':' then ((c :: taken).reverse, rest) else literalRun marks (c :: taken) rest
  | rest => (taken.reverse, rest)

/-- How deep words may be nested. -/
def wordDepth : Nat := 100000

/-- The name of a parameter and why there is no value. -/
def missingText (name : String) (message : Option String) (orEmpty : Bool) : String :=
  match message with
  | some text => s!"{name}: {text}"
  | none => s!"{name}: parameter not set" ++ if orEmpty then " or null" else ""

mutual

/-- Expands the parts of a word, behind the stretches so far, which come last first; `inQuotes` says
whether a quotation is open. -/
def expandParts (output : Statement → Shell String) :
    Nat → Manner → Bool → List Piece → List Part → Shell (List Piece)
  | 0, _, _, done, _ => return done.reverse
  | fuel + 1, m, inQuotes, done, parts => do
    let inner := { m with quoted := m.quoted || inQuotes }
    let literal := if m.isValue && !m.quoted && !inQuotes then Stretch.split else .fixed
    match parts with
    | [] => return done.reverse
    | .char c :: rest =>
      let marks := m.assigns && !inQuotes
      let (run, rest) := literalRun marks [] (.char c :: rest)
      let done := ⟨run.map fun c => .char c inner.quoted, literal⟩ :: done
      let s ← get
      match (if marks && run.getLast? == some ':' then expandHome? s true rest else none) with
      | some (home, rest) =>
        expandParts output fuel m inQuotes (⟨Glyph.ofText true home, .fixed⟩ :: done) rest
      | none => expandParts output fuel m inQuotes done rest
    | .escaped c :: rest =>
      expandParts output fuel m inQuotes (⟨[.char c true], .fixed⟩ :: done) rest
    | .quote :: .parameter "@" .value [] :: .quote :: rest =>
      if inQuotes then
        expandParts output fuel m false (⟨[.quote], .fixed⟩ :: done) (parts.drop 1)
      else
        let ps ← expandParameter output fuel { m with quoted := true } "@" .value []
        expandParts output fuel m false (ps.reverse ++ done) rest
    | .quote :: rest => expandParts output fuel m (!inQuotes) (⟨[.quote], .fixed⟩ :: done) rest
    | .parameter name use word :: rest =>
      let ps ← expandParameter output fuel inner name use word
      expandParts output fuel m inQuotes (ps.reverse ++ done) rest
    | .command body :: rest =>
      let text ← match body with
        | some s => output s
        | none => pure ""
      let text := String.ofList (dropLineEnds (text.toList.filter (· != '\x00')))
      let p := valuePiece inner (Glyph.ofText inner.quoted text)
      expandParts output fuel m inQuotes (p :: done) rest
    | .arithmetic word :: rest =>
      let ps ← expandParts output fuel {} false [] word
      let source := pieceText ps
      let s ← get
      match Arithmetic.evaluate s.value? source.toList with
      | .ok (n, assigned) =>
        for (name, value) in assigned do
          setVariable name (toString value)
        let p := valuePiece inner (Glyph.ofText inner.quoted (toString n))
        expandParts output fuel m inQuotes (p :: done) rest
      | .error (.faulty text) => fail s!"arithmetic expression: {text}: \"{source}\""
      | .error (.number text) => fail s!"Illegal number: {text}"
      | .error .crash =>
        let _ ← ask (.kill s.process 8)
        raise .exit

/-- Expands a parameter. -/
def expandParameter (output : Statement → Shell String) :
    Nat → Manner → String → Use → List Part → Shell (List Piece)
  | 0, _, _, _, _ => return []
  | fuel + 1, m, name, use, word => do
    let s ← get
    let value? := parameterValue? s name m
    let isThere := fun (orEmpty : Bool) =>
      value?.any fun gs => !(orEmpty && gs.all fun g => g.marked?.isNone)
    let value : List Piece := [⟨value?.getD [], stretchOf s name m⟩]
    let checked : Shell Unit := do
      if value?.isNone && s.has 'u' then fail (missingText name none false)
    match use with
    | .bad => fail "Bad substitution"
    | .value =>
      checked
      return value
    | .length =>
      checked
      let size := ((value?.getD []).filterMap Glyph.marked?).length
      return [valuePiece m (Glyph.ofText m.quoted (toString size))]
    | .otherwise orEmpty =>
      if isThere orEmpty then return value else expandValue output fuel m word
    | .instead orEmpty =>
      if isThere orEmpty then expandValue output fuel m word else return []
    | .assigned orEmpty =>
      if isThere orEmpty then return value
      else
        let ps ← expandValue output fuel {} word
        let text := pieceText ps
        if isName name then
          setVariable name text
          return [valuePiece m (Glyph.ofText m.quoted text)]
        else fail s!"{name}: bad variable name"
    | .required orEmpty =>
      if isThere orEmpty then return value
      else
        let ps ← expandValue output fuel {} word
        fail (missingText name (if word.isEmpty then none else some (pieceText ps)) orEmpty)
    | .trimStart longest =>
      checked
      let g ← expandPattern output fuel word
      let text := g.dropStart longest (Glyph.text (value?.getD [])).toList
      return [⟨Glyph.ofText m.quoted (String.ofList text), stretchOf s name m⟩]
    | .trimEnd longest =>
      checked
      let g ← expandPattern output fuel word
      let text := g.dropEnd longest (Glyph.text (value?.getD [])).toList
      return [⟨Glyph.ofText m.quoted (String.ofList text), stretchOf s name m⟩]

/-- Expands a word that takes the place of a value. -/
def expandValue (output : Statement → Shell String) :
    Nat → Manner → List Part → Shell (List Piece)
  | 0, _, _ => return []
  | fuel + 1, m, word => do
    let m := { m with isValue := true, assigns := false }
    match expandHome? (← get) false word with
    | some (home, rest) =>
      expandParts output fuel m false [⟨Glyph.ofText true home, .fixed⟩] rest
    | none => expandParts output fuel m false [] word

/-- The pattern that a word stands for. -/
def expandPattern (output : Statement → Shell String) : Nat → List Part → Shell Glob
  | 0, _ => return []
  | fuel + 1, word => do
    let home := expandHome? (← get) false word
    let start := home.elim [] fun (home, _) => [⟨Glyph.ofText true home, .fixed⟩]
    let rest := home.elim word Prod.snd
    let ps ← expandParts output fuel {} false start rest
    return Glob.ofMarked ((ps.flatMap (·.glyphs)).filterMap Glyph.marked?)

end

/-- Expands a word with a home directory in front of it. -/
def expandWith (output : Statement → Shell String) (m : Manner) (w : Word) :
    Shell (List Piece) := do
  match expandHome? (← get) m.assigns w with
  | some (home, rest) =>
    expandParts output wordDepth m false [⟨Glyph.ofText true home, .fixed⟩] rest
  | none => expandParts output wordDepth m false [] w

/-- The text of a word that is not split. -/
def expandText (output : Statement → Shell String) (w : Word) : Shell String := do
  return pieceText (← expandWith output {} w)

/-- The value of an assignment. -/
def expandAssigned (output : Statement → Shell String) (w : Word) : Shell String := do
  return pieceText (← expandWith output { assigns := true } w)

/-- The text of a document. -/
def expandDocument (output : Statement → Shell String) (w : Word) : Shell String := do
  return pieceText (← expandParts output wordDepth { quoted := true } false [] w)

/-! ## Names of files -/

/-- The names in a directory that a pattern fits. A name that starts with a dot is only fitted by a
pattern that does. -/
def namesIn (directory : String) (part : List Marked) : Shell (List String) := do
  let path := if directory.isEmpty then "." else directory
  match ← ask (.list (pathOf path)) with
  | .error _ => return []
  | .ok names =>
    let g := Glob.ofMarked part
    let isDotted := (Glob.tame part).head?.any fun m => m.1 == '.'
    let names := names.map Text.Octets.ofBytes
    let names := if isDotted then "." :: ".." :: names else names
    return names.filter fun name =>
      (isDotted || name.toList.head? != some '.') && g.accepts name.toList

/-- The paths that parts of a pattern fit, from a directory on. -/
def expandPath : Nat → String → List (List Marked) → Shell (List String)
  | 0, _, _ => return []
  | fuel + 1, directory, parts => do
    let plain := parts.takeWhile (!Glob.isPattern ·)
    let textOf := fun (part : List Marked) => String.ofList ((Glob.tame part).map Prod.fst)
    match parts.drop plain.length with
    | [] =>
      let path := directory ++ "/".intercalate (plain.map textOf)
      match ← ask (.info (pathOf path) false) with
      | .ok _ => return [path]
      | .error _ => return []
    | part :: rest =>
      let directory := directory ++ String.join (plain.map fun p => textOf p ++ "/")
      let names ← namesIn directory part
      if rest.isEmpty then return names.map (directory ++ ·)
      else
        let found ← names.mapM fun name => expandPath fuel (directory ++ name ++ "/") rest
        return found.flatten

/-- The texts of a field: the names of the files that it fits, or itself if it fits none. -/
def expandField (gs : List Glyph) : Shell (List String) := do
  let marked := gs.filterMap Glyph.marked?
  if (← get).has 'f' || !Glob.isPattern marked then return [Glyph.text gs]
  else
    let found ← expandPath (marked.length + 1) "" (Glob.splitSlashes [] marked)
    if found.isEmpty then return [Glyph.text gs]
    else return found.mergeSort fun a b => decide (a ≤ b)

/-- The fields of a word. -/
def expandWord (output : Statement → Shell String) (w : Word) : Shell (List String) := do
  match Word.bare? w with
  | some text =>
    if text.toList.all fun c => isNameChar c || c == '-' || c == '.' || c == '/' || c == ',' then
      return [text]
    else expandFully
  | none => expandFully
where
  /-- Expands, splits and looks for files. -/
  expandFully : Shell (List String) := do
    let ps ← expandWith output { splits := true } w
    let fields := splitFields (separators (← get)) ps
    return (← fields.mapM expandField).flatten

/-- The fields of words. -/
def expandWords (output : Statement → Shell String) (ws : List Word) : Shell (List String) := do
  return (← ws.mapM (expandWord output)).flatten

end Deadwood.Shell
