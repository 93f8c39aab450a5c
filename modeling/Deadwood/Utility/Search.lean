import Deadwood.Regex.Parser
import Deadwood.Utility.Line

/-!
# Searching

A program that finds the lines that fit an expression, and one that computes with texts and numbers.
-/

namespace Deadwood.Utility

open Host
open Regex (Subject)

/-! ## Lines that fit -/

/-- What lines are looked for. -/
structure Wanted where
  expressions : List Regex
  foldsCase : Bool := false
  isInverted : Bool := false
  wholeWords : Bool := false
  wholeLines : Bool := false

instance : Inhabited Wanted := ⟨{ expressions := [] }⟩

/-- Whether a part of a line stands between places where no word goes on. -/
def isWordPart (s : Subject) (first last : Nat) : Bool :=
  !s.isWordBefore first && !s.isWordAt last

/-- The longest part from a place on that one of the expressions fits. -/
def partAt (w : Wanted) (s : Subject) (place : Nat) : Option Nat :=
  let all := w.expressions.flatMap fun r =>
    if r.hasAgain then ((Regex.matchAt s r place).map (·.last)).toList
    else Regex.ends s r [place]
  let kept := all.filter fun last =>
    (!w.wholeWords || isWordPart s place last) &&
      (!w.wholeLines || (place == 0 && last == s.text.size))
  kept.max?

/-- The first part at or after a place. -/
def nextPart (w : Wanted) (s : Subject) (place : Nat) : Option (Nat × Nat) :=
  ((List.range (s.text.size + 1 - place)).map (· + place)).findSome? fun first =>
    (partAt w s first).map fun last => (first, last)

/-- Whether a line is wanted. -/
def Wanted.accepts (w : Wanted) (line : List Char) : Bool :=
  let s : Subject := { text := line.toArray, foldsCase := w.foldsCase }
  let found := if w.wholeWords || w.wholeLines then (nextPart w s 0).isSome
    else w.expressions.any (Regex.occurs s)
  found != w.isInverted

/-- All parts of a line that are not empty, from a place on. -/
def partsOf (w : Wanted) (s : Subject) : Nat → Nat → List (Nat × Nat)
  | 0, _ => []
  | fuel + 1, place =>
    match nextPart w s place with
    | none => []
    | some (first, last) =>
      if first == last then partsOf w s fuel (first + 1)
      else (first, last) :: partsOf w s fuel last

/-- How found lines are shown. -/
structure Showing where
  name : Option String := none
  numbers : Bool := false
  offsets : Bool := false
  onlyParts : Bool := false
  isQuiet : Bool := false
  before : Nat := 0
  after : Nat := 0
  most : Option Nat := none
deriving DecidableEq, Repr, Inhabited

/-- The state of searching a file. -/
structure Searching where
  line : Nat := 0
  offset : Nat := 0
  count : Nat := 0
  /-- Lines before that were not shown, last first, with their numbers and offsets. -/
  kept : List (Nat × Nat × List Char) := []
  /-- How many lines are still shown because of the last one found. -/
  following : Nat := 0
  /-- The last line that was shown. -/
  shown : Option Nat := none
deriving DecidableEq, Repr, Inhabited

/-- What stands before a line. -/
def Showing.front (s : Showing) (mark : String) (line offset : Nat) : List Char :=
  ((s.name.elim "" (· ++ mark)) ++ (if s.numbers then s!"{line}{mark}" else "") ++
    (if s.offsets then s!"{offset}{mark}" else "")).toList

/-- Looks at one line. -/
def searchLine (w : Wanted) (s : Showing) (state : Searching) (line : List Char)
    (_ : Bool) : Turn Searching :=
  let number := state.line + 1
  let here := state.offset
  let state := { state with line := number, offset := state.offset + line.length + 1 }
  let hasContext := 0 < s.before || 0 < s.after
  let gap := fun (first : Nat) =>
    if hasContext && state.shown.any (· + 1 < first) then "--\n".toList else []
  if w.accepts line then
    let count := state.count + 1
    let before := (state.kept.take s.before).reverse
    let first := before.head?.elim number Prod.fst
    let kept := before.flatMap fun (n, offset, text) => s.front "-" n offset ++ text ++ ['\n']
    let output :=
      if s.isQuiet then []
      else if s.onlyParts then
        if w.isInverted then []
        else
          let subject : Subject := { text := line.toArray, foldsCase := w.foldsCase }
          (partsOf w subject (line.length + 1) 0).flatMap fun (first, last) =>
            s.front ":" number (here + first) ++ subject.part first last ++ ['\n']
      else gap first ++ kept ++ s.front ":" number here ++ line ++ ['\n']
    { state := { state with count, kept := [], following := s.after, shown := some number }
      output, stops := s.most.any (· ≤ count) && s.after == 0 }
  else if 0 < state.following && !s.isQuiet && !s.onlyParts then
    { state := { state with following := state.following - 1, shown := some number }
      output := s.front "-" number here ++ line ++ ['\n']
      stops := state.following == 1 && s.most.any (· ≤ state.count) }
  else
    { state := { state with kept := ((number, here, line) :: state.kept).take s.before } }

/-- The files below a directory. -/
def filesBelow : Nat → String → Tool (List String)
  | 0, _ => return []
  | fuel + 1, path => do
    match ← ask (.list (pathOf path)) with
    | .error _ => return []
    | .ok names =>
      let found ← names.mapM fun name => do
        let full := s!"{path}/{Text.Octets.ofBytes name}"
        match ← infoOf? full false with
        | some info =>
          if info.kind == .directory then filesBelow fuel full
          else if info.kind == .regular then pure [full]
          else pure []
        | none => pure []
      return found.flatten

/-- The expression of a pattern. -/
def patternOf (way : Char) (text : List Char) : Except String Regex :=
  if way == 'F' then .ok (Regex.ofText text)
  else match Regex.read (way == 'E') text with
    | .ok (r, _) => .ok r
    | .error e => .error e.words

/-- How the program that searches is used. -/
def searchUsage {α : Type} : Tool α := do
  let name := (← get).name
  putError (s!"Usage: {name} [OPTION]... PATTERNS [FILE]...\n" ++
    s!"Try '{name} --help' for more information.\n")
  quit 2

/-- Writes the lines of files that fit patterns. -/
def grep (default : Char) (arguments : List String) : Tool Unit := do
  let table : OptionTable :=
    { letters := OptionTable.ofLetters "A:B:C:EFGPHLTUVZabce:f:hiylm:noqrRsvwxzdD:".toList ++
        [('K', .maybe), ('I', .always), ('X', .always), ('J', .always), ('N', .never)]
      names := [("after-context", 'A'), ("before-context", 'B'), ("context", 'C'),
        ("extended-regexp", 'E'), ("fixed-strings", 'F'), ("basic-regexp", 'G'),
        ("with-filename", 'H'), ("files-without-match", 'L'), ("text", 'a'),
        ("byte-offset", 'b'), ("count", 'c'), ("regexp", 'e'), ("file", 'f'),
        ("no-filename", 'h'), ("ignore-case", 'i'), ("files-with-matches", 'l'),
        ("max-count", 'm'), ("line-number", 'n'), ("only-matching", 'o'), ("quiet", 'q'),
        ("silent", 'q'), ("recursive", 'r'), ("no-messages", 's'), ("invert-match", 'v'),
        ("word-regexp", 'w'), ("line-regexp", 'x'), ("color", 'K'), ("colour", 'K'),
        ("include", 'I'), ("exclude", 'X'), ("exclude-dir", 'J'), ("null", 'Z'),
        ("no-ignore-case", 'N')] }
  let p ← match table.read (arguments.length + 1) arguments with
    | .ok p => pure p
    | .error text => do
      complain text
      searchUsage
  let mut patterns := p.values 'e'
  for path in p.values 'f' do
    match ← readOperand path with
    | some cs => patterns := patterns ++ (linesOf cs).map String.ofList
    | none => quit 2
  let hasPatterns := p.has 'e' || p.has 'f'
  let operands := if hasPatterns then p.operands else p.operands.drop 1
  if !hasPatterns && p.operands.isEmpty then searchUsage
  if !hasPatterns then patterns := [p.operands.headD ""]
  let way := (p.last? ['E', 'F', 'G', 'P']).getD default
  let expressions ← (patterns.flatMap (·.splitOn "\n")).mapM fun text =>
    match patternOf (if way == 'P' then 'E' else way) text.toList with
    | .ok r => pure r
    | .error words => die words 2
  let w : Wanted :=
    { expressions, foldsCase := p.has 'i' || p.has 'y', isInverted := p.has 'v'
      wholeWords := p.has 'w', wholeLines := p.has 'x' }
  let number := fun (letter : Char) => match p.value? letter with
    | some text => match Shell.digits? text with
      | some n => (pure (some n) : Tool (Option Nat))
      | none => die (if letter == 'm' then "invalid max count"
          else s!"{text}: invalid context length argument") 2
    | none => pure none
  let around ← number 'C'
  let before ← number 'B'
  let after ← number 'A'
  let most ← number 'm'
  let isDeep := p.has 'r' || p.has 'R'
  let mut names : List String := []
  for name in (if operands.isEmpty then (if isDeep then ["."] else ["-"]) else operands) do
    if isDeep && (← isDirectory name) then
      let found ← filesBelow depthLimit name
      let found := if operands.isEmpty then found.map fun f => String.ofList (f.toList.drop 2)
        else found
      names := names ++ found
    else names := names ++ [name]
  let isNamed := p.has 'H' || ((1 < operands.length || isDeep) && !p.has 'h')
  let isNamed := isNamed && !(p.last? ['H', 'h'] == some 'h')
  let lists := p.last? ['l', 'L']
  let isQuiet := p.has 'q' || p.has 'c' || lists.isSome
  let mut isFound := false
  let mut isFaulty := false
  for name in names do
    let title := if name == "-" then "(standard input)" else name
    let showing : Showing :=
      { name := if isNamed then some title else none, numbers := p.has 'n', offsets := p.has 'b'
        onlyParts := p.has 'o', isQuiet, before := (before <|> around).getD 0
        after := (after <|> around).getD 0
        most := if p.has 'q' || lists.isSome then some 1 else most }
    match ← openInput name with
    | .error e =>
      if !p.has 's' then complain s!"{name}: {e.words}"
      isFaulty := true
    | .ok d =>
      let result ← if most == some 0 then pure (.ok (({} : Searching), true))
        else filterFrom '\n' (searchLine w showing) d chunkLimit [] {}
      closeInput name d
      match result with
      | .error e =>
        if !p.has 's' then complain s!"{name}: {e.words}"
        isFaulty := isFaulty || e != .isDirectory
      | .ok (state, _) =>
        let isHit := 0 < state.count
        if p.has 'q' then
          if isHit then quit 0
        else match lists with
          | some 'l' => if isHit then say (title ++ "\n")
          | some _ => if !isHit then say (title ++ "\n")
          | none =>
            if p.has 'c' then
              say ((if isNamed then title ++ ":" else "") ++ s!"{state.count}\n")
        isFound := isFound || (if lists == some 'L' then !isHit else isHit)
  quit (if isFaulty then 2 else if isFound then 0 else 1)

/-! ## Expressions of texts and numbers -/

/-- Whether a value counts as false. -/
def isNothing (s : String) : Bool :=
  s.isEmpty || (match s.toList with
    | '-' :: c :: rest => (c :: rest).all (· == '0')
    | cs => cs.all (· == '0'))

/-- The whole number that a value is. -/
def wholeOf? (s : String) : Option Int :=
  match s.toList with
  | '-' :: c :: rest =>
    if (c :: rest).all Char.isDigit then some (-((Shell.leadingNumber (c :: rest)).1 : Int)) else none
  | c :: rest =>
    if (c :: rest).all Char.isDigit then some ((Shell.leadingNumber (c :: rest)).1 : Int) else none
  | [] => none

/-- Computing: words are left to be read, and it can fail with a complaint. -/
abbrev Compute := StateT (List String) (Except String)

/-- The value that a match of an expression at the start of a text gives. -/
def matchStart (text pattern : String) : Compute String := do
  match Regex.read false pattern.toList with
  | .error e => throw e.words
  | .ok (r, groups) =>
    let s : Subject := { text := text.toList.toArray }
    match Regex.matchAt s r 0, groups with
    | some m, 0 => return toString (m.last - m.first)
    | some m, _ => return String.ofList (m.group s 1)
    | none, 0 => return "0"
    | none, _ => return ""

/-- The operators by how strongly they bind, the weakest ones first. -/
def exprLevels : List (List String) :=
  [["|"], ["&"], ["<", "<=", "=", "==", "!=", ">=", ">"], ["+", "-"], ["*", "/", "%"], [":"]]

/-- Combines two values. -/
def combineValues (operator a b : String) : Compute String := do
  let truth := fun (b : Bool) => if b then "1" else "0"
  let numbers : Compute (Int × Int) := match wholeOf? a, wholeOf? b with
    | some m, some n => return (m, n)
    | _, _ => throw "non-integer argument"
  let order := match wholeOf? a, wholeOf? b with
    | some m, some n => compare m n
    | _, _ => compareTexts a.toList b.toList
  match operator with
  | "|" => return if !isNothing a then a else if !isNothing b then b else "0"
  | "&" => return if isNothing a || isNothing b then "0" else a
  | "<" => return truth (order == .lt)
  | "<=" => return truth (order != .gt)
  | "=" | "==" => return truth (order == .eq)
  | "!=" => return truth (order != .eq)
  | ">=" => return truth (order != .lt)
  | ">" => return truth (order == .gt)
  | "+" => do let (m, n) ← numbers; return toString (m + n)
  | "-" => do let (m, n) ← numbers; return toString (m - n)
  | "*" => do let (m, n) ← numbers; return toString (m * n)
  | "/" => do
    let (m, n) ← numbers
    if n == 0 then throw "division by zero" else return toString (m.tdiv n)
  | "%" => do
    let (m, n) ← numbers
    if n == 0 then throw "division by zero" else return toString (m.tmod n)
  | _ => matchStart a b

/-- Takes the next word. -/
def nextWord (before : String) : Compute String := do
  match ← get with
  | [] => throw s!"syntax error: missing argument after {quoted before}"
  | word :: rest =>
    set rest
    return word

mutual

/-- Computes operators of a level and those that bind more strongly. -/
def computeLevel : Nat → List (List String) → Compute String
  | 0, _ => return ""
  | fuel + 1, [] => computeOperand fuel
  | fuel + 1, level :: stronger => do
    let first ← computeLevel fuel stronger
    computeMore fuel level stronger first
termination_by structural fuel => fuel

/-- Goes on with operators of the same level. -/
def computeMore : Nat → List String → List (List String) → String → Compute String
  | 0, _, _, value => return value
  | fuel + 1, level, stronger, value => do
    match ← get with
    | operator :: rest =>
      if level.contains operator then
        set rest
        if rest.isEmpty then throw s!"syntax error: missing argument after {quoted operator}"
        let second ← computeLevel fuel stronger
        computeMore fuel level stronger (← combineValues operator value second)
      else return value
    | [] => return value
termination_by structural fuel => fuel

/-- Computes an operand. -/
def computeOperand : Nat → Compute String
  | 0 => return ""
  | fuel + 1 => do
    match ← get with
    | [] => throw "syntax error: missing argument"
    | word :: rest =>
      set rest
      match word with
      | "(" =>
        let value ← computeLevel fuel exprLevels
        match ← get with
        | ")" :: rest =>
          set rest
          return value
        | next :: _ => throw s!"syntax error: expecting ')' instead of {quoted next}"
        | [] => throw s!"syntax error: expecting ')' after {quoted (rest.getLast?.getD word)}"
      | ")" => throw "syntax error: unexpected ')'"
      | "+" => nextWord "+"
      | "length" =>
        if rest.isEmpty then return word
        else return toString (← computeOperand fuel).length
      | "match" =>
        let text ← computeOperand fuel
        matchStart text (← computeOperand fuel)
      | "substr" =>
        let text ← computeOperand fuel
        let start ← computeOperand fuel
        let size ← computeOperand fuel
        match wholeOf? start, wholeOf? size with
        | some m, some n =>
          if m ≤ 0 || n ≤ 0 then return ""
          else return String.ofList ((text.toList.drop (m.toNat - 1)).take n.toNat)
        | _, _ => return ""
      | "index" =>
        let text ← computeOperand fuel
        let wanted ← computeOperand fuel
        return toString ((text.toList.findIdx? wanted.toList.contains).elim 0 (· + 1))
      | _ => return word
termination_by structural fuel => fuel

end

/-- Computes with texts and numbers. -/
def expr (arguments : List String) : Tool Unit := do
  let arguments := if arguments.head? == some "--" then arguments.drop 1 else arguments
  if arguments.isEmpty then dieUsage "missing operand" 2
  match (computeLevel (10 * arguments.length + 20) exprLevels).run arguments with
  | .error text => die text 2
  | .ok (_, extra :: _) => die s!"syntax error: unexpected argument {quoted extra}" 2
  | .ok (value, []) =>
    say (value ++ "\n")
    quit (if isNothing value then 1 else 0)

end Deadwood.Utility
