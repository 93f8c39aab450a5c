import Deadwood.Regex.Parser
import Deadwood.Utility.Edit.Instruction

/-!
# Reading scripts of an editor

A script comes in pieces, one for each argument or file. A piece ends like a line, so that what is
open at its end goes on in the next one.
-/

namespace Deadwood.Utility.Edit

/-- What is left to read. -/
structure Reading where
  rest : List Char := []
  origin : Origin := .argument 1
  /-- How many characters of the piece have been read. -/
  place : Nat := 0
  /-- How many lines of the piece have been read. -/
  line : Nat := 1
  later : List (Origin × List Char) := []
  isExtended : Bool := false
  script : Script := {}
  /-- The places of the brackets that are open, with where they came from, last first. -/
  blocks : List (Nat × Origin) := []
deriving Inhabited

/-- Reading a script, which may have a mistake. -/
abbrev Read := StateT Reading (Except Mistake)

/-- Breaks off. -/
def refuse {α : Type} (words : String) : Read α := do
  let r ← get
  let place := match r.origin with
    | .argument _ => r.place
    | .file _ => r.line
  throw { origin := r.origin, place, words }

/-- Takes the next character. -/
def nextChar : Read (Option Char) := do
  let r ← get
  match r.rest, r.later with
  | c :: rest, _ =>
    set { r with rest, place := r.place + 1, line := if c == '\n' then r.line + 1 else r.line }
    return some c
  | [], (origin, text) :: later =>
    set { r with rest := text, origin, place := 0, line := 1, later }
    return some '\n'
  | [], [] => return none

/-- Puts a character back. -/
def unread : Option Char → Read Unit
  | some c => modify fun r => { r with rest := c :: r.rest, place := r.place - 1 }
  | none => pure ()

/-- A bound on how long reading takes. -/
def Reading.fuel (r : Reading) : Nat :=
  r.rest.length + (r.later.map (·.2.length + 1)).foldl (· + ·) 0 + 2

/-- Takes the next character that is no blank. -/
def nextSolid : Read (Option Char) := do loop (← get).fuel
where
  loop : Nat → Read (Option Char)
    | 0 => return none
    | fuel + 1 => do
      match ← nextChar with
      | some ' ' | some '\t' => loop fuel
      | c => return c

/-- Takes characters as long as they pass a test. -/
def takeChars (test : Char → Bool) : Read (List Char) := do loop (← get).fuel []
where
  loop : Nat → List Char → Read (List Char)
    | 0, done => return done.reverse
    | fuel + 1, done => do
      match ← nextChar with
      | some c =>
        if test c then loop fuel (c :: done)
        else
          unread (some c)
          return done.reverse
      | none => return done.reverse

/-- The number that digits spell. -/
def numberOf (digits : List Char) : Nat := digits.foldl (fun n c => 10 * n + (c.toNat - 48)) 0

/-- Takes a number whose first digit has been read. -/
def takeNumber (first : Char) : Read Nat := do
  return numberOf (first :: (← takeChars Char.isDigit))

/-- Takes what is left of a line. -/
def takeLine : Read String := do
  let first ← nextSolid
  unread first
  let cs ← takeChars (· != '\n')
  return String.ofList cs

/-- Checks that an instruction ends here. -/
def endInstruction : Read Unit := do
  match ← nextSolid with
  | none | some '\n' | some ';' => pure ()
  | some '\x7d' => unread (some '\x7d')
  | some '#' => unread (some '#')
  | some '\r' =>
    match ← nextChar with
    | some '\n' => pure ()
    | _ => refuse "extra characters after command"
  | some _ => refuse "extra characters after command"

/-! ## Texts between marks -/

/-- Takes a text up to a mark; nothing is given if the mark is missing. Behind a backslash the mark
stands for itself. -/
def takeMarked (mark : Char) (isPattern : Bool) : Read (Option (List Char)) := do
  loop (← get).fuel []
where
  loop : Nat → List Char → Read (Option (List Char))
    | 0, _ => return none
    | fuel + 1, done => do
      match ← nextChar with
      | none => return none
      | some '\n' =>
        unread (some '\n')
        return none
      | some '\\' =>
        if mark == '\\' then return some done.reverse
        else match ← nextChar with
          | none => return none
          | some c =>
            if c == mark && !(c == '&' && !isPattern) then loop fuel (c :: done)
            else if c == 'n' && isPattern then loop fuel ('\n' :: done)
            else if c == '\n' then loop fuel ('\n' :: done)
            else loop fuel (c :: '\\' :: done)
      | some c => if c == mark then return some done.reverse else loop fuel (c :: done)

/-- The value of a digit in any base up to sixteen. -/
def digitValue? (c : Char) : Option Nat :=
  if c.isDigit then some (c.toNat - 48)
  else if 'a' ≤ c && c ≤ 'f' then some (c.toNat - 87)
  else if 'A' ≤ c && c ≤ 'F' then some (c.toNat - 55)
  else none

/-- The character of a number in a base with so many digits at most, and what follows it. -/
def numbered? (base count : Nat) (cs : List Char) : Option (Char × List Char) :=
  let digits := (cs.take count).takeWhile fun c => (digitValue? c).any (· < base)
  if digits.isEmpty then none
  else
    let value := digits.foldl (fun n c => base * n + (digitValue? c).getD 0) 0
    some (Char.ofNat (value % 256), cs.drop digits.length)

/-- The character that a letter behind a backslash stands for, and what follows it. -/
def escaped? : List Char → Option (Char × List Char)
  | 'a' :: rest => some ('\x07', rest)
  | 'f' :: rest => some ('\x0c', rest)
  | 'r' :: rest => some ('\r', rest)
  | 't' :: rest => some ('\t', rest)
  | 'v' :: rest => some ('\x0b', rest)
  | 'd' :: rest => numbered? 10 3 rest
  | 'o' :: rest => numbered? 8 3 rest
  | 'x' :: rest => numbered? 16 2 rest
  | 'c' :: c :: rest => some (Char.ofNat (c.toUpper.toNat ^^^ 64), rest)
  | _ => none

/-- Characters that mean something in an expression. -/
def specialChars : List Char := "*.[]^$\\/+?()|".toList ++ ['\x7b', '\x7d']

/-- Puts characters into an expression in the place of what stands for them. -/
def plainPattern : Nat → List Char → List Char
  | 0, cs => cs
  | fuel + 1, '\\' :: rest =>
    match escaped? rest with
    | some (c, after) =>
      if specialChars.contains c then '\\' :: c :: plainPattern fuel after
      else c :: plainPattern fuel after
    | none => match rest with
      | c :: after => '\\' :: c :: plainPattern fuel after
      | [] => ['\\']
  | fuel + 1, c :: rest => c :: plainPattern fuel rest
  | _, [] => []

/-- The expression of a text; an empty one stands for the last one. -/
def makePattern (cs : List Char) (foldsCase hasLines : Bool) : Read (Pattern × Option Nat) := do
  if cs.isEmpty then
    if foldsCase || hasLines then refuse "cannot specify modifiers on empty regexp"
    return ({ foldsCase, hasLines }, none)
  match Regex.read (← get).isExtended (plainPattern cs.length cs) with
  | .ok (regex, groups) => return ({ regex := some regex, foldsCase, hasLines }, some groups)
  | .error e => refuse e.words

/-! ## Addresses -/

/-- Takes the letters behind an expression that say how it is looked for. -/
def patternFlags : Nat → Bool → Bool → Read (Bool × Bool)
  | 0, foldsCase, hasLines => return (foldsCase, hasLines)
  | fuel + 1, foldsCase, hasLines => do
    match ← nextSolid with
    | some 'I' => patternFlags fuel true hasLines
    | some 'M' => patternFlags fuel foldsCase true
    | c =>
      unread c
      return (foldsCase, hasLines)

/-- Takes an address that starts with an expression. -/
def patternAddress (mark : Char) : Read Address := do
  match ← takeMarked mark true with
  | none => refuse "unterminated address regex"
  | some cs =>
    let (foldsCase, hasLines) ← patternFlags (← get).fuel false false
    return .fits (← makePattern cs foldsCase hasLines).1

/-- Takes a number that may be missing. -/
def numberOrZero : Read Nat := do
  match ← nextSolid with
  | some c =>
    if c.isDigit then takeNumber c
    else
      unread (some c)
      return 0
  | none => return 0

/-- Takes an address that starts with a character, if there is one. -/
def takeAddress : Option Char → Read (Option Address)
  | some '/' => return some (← patternAddress '/')
  | some '\\' => do
    match ← nextChar with
    | some mark => return some (← patternAddress mark)
    | none => refuse "unterminated address regex"
  | some '$' => return some .last
  | some '+' => return some (.more (← numberOrZero))
  | some '~' => return some (.multiple (← numberOrZero))
  | some c => do
    if !c.isDigit then return none
    let n ← takeNumber c
    match ← nextSolid with
    | some '~' =>
      let span ← numberOrZero
      return some (if span == 0 then .line n else .step n span)
    | other =>
      unread other
      return some (.line n)
  | none => return none

/-! ## Instructions -/

/-- Takes a label. -/
def takeLabel : Read String := do
  let first ← nextSolid
  unread first
  let cs ← takeChars fun c => !(c == ';' || c == '\x7d' || Regex.isSpaceChar c)
  return String.ofList cs

/-- Takes the name of a file, which has to be there. -/
def takeName : Read String := do
  let name ← takeLine
  if name.isEmpty then refuse "missing filename in r/R/w/W commands"
  return name

/-- A text without the backslashes before its characters. -/
def plainText : Nat → List Char → List Char
  | 0, cs => cs
  | fuel + 1, '\\' :: rest =>
    match escaped? rest with
    | some (c, after) => c :: plainText fuel after
    | none => match rest with
      | c :: after => c :: plainText fuel after
      | [] => []
  | fuel + 1, c :: rest => c :: plainText fuel rest
  | _, [] => []

/-- Takes the lines of a text, which goes on behind a line that ends in a backslash. -/
def takeTextLines : Nat → List Char → Read (List Char)
  | 0, done => return done.reverse
  | fuel + 1, done => do
    match ← nextChar with
    | none | some '\n' => return done.reverse
    | some '\\' =>
      match ← nextChar with
      | none => return done.reverse
      | some c => takeTextLines fuel (c :: '\\' :: done)
    | some c => takeTextLines fuel (c :: done)

/-- Takes the text of an instruction that writes one. -/
def takeText : Read (List Char) := do
  match ← nextSolid with
  | none => refuse "expected \\ after \x60a', \x60c' or \x60i'"
  | some '\\' =>
    let blanks ← takeChars fun c => c == ' ' || c == '\t'
    match ← nextChar with
    | some '\n' => pure ()
    | c =>
      unread c
      modify fun r => { r with rest := blanks ++ r.rest, place := r.place - blanks.length }
  | c => unread c
  if (← get).rest.isEmpty && (← get).later.isEmpty then return []
  let cs ← takeTextLines (← get).fuel []
  return plainText cs.length cs ++ ['\n']

/-- Adds characters to a list of parts that is last first. -/
def addText (c : Char) : List Part → List Part
  | .text cs :: rest => .text (cs ++ [c]) :: rest
  | parts => .text [c] :: parts

/-- The parts of a replacement, last first. -/
def replacementParts : Nat → List Char → List Part → List Part
  | 0, _, done => done
  | _, [], done => done
  | fuel + 1, '\\' :: rest, done =>
    match rest with
    | [] => addText '\\' done
    | 'n' :: after => replacementParts fuel after (addText '\n' done)
    | c :: after =>
      if c.isDigit then replacementParts fuel after (.group (c.toNat - 48) :: done)
      else if ['U', 'L', 'u', 'l', 'E'].contains c then
        replacementParts fuel after (.casing c :: done)
      else match escaped? rest with
        | some (d, after) => replacementParts fuel after (addText d done)
        | none => replacementParts fuel after (addText c done)
  | fuel + 1, '&' :: rest, done => replacementParts fuel rest (.group 0 :: done)
  | fuel + 1, c :: rest, done => replacementParts fuel rest (addText c done)

/-- What the letters behind a substitution say. -/
structure Flags where
  foldsCase : Bool := false
  hasLines : Bool := false
  isGlobal : Bool := false
  prints : Bool := false
  number : Option Nat := none
  file : Option String := none
deriving Inhabited

/-- Takes the letters behind a substitution. -/
def takeFlags : Nat → Flags → Read Flags
  | 0, f => return f
  | fuel + 1, f => do
    match ← nextSolid with
    | none | some '\n' | some ';' => return f
    | some '\x7d' =>
      unread (some '\x7d')
      return f
    | some '#' =>
      unread (some '#')
      return f
    | some 'i' | some 'I' => takeFlags fuel { f with foldsCase := true }
    | some 'm' | some 'M' => takeFlags fuel { f with hasLines := true }
    | some 'e' => takeFlags fuel f
    | some 'p' =>
      if f.prints then refuse "multiple \x60p' options to \x60s' command"
      takeFlags fuel { f with prints := true }
    | some 'g' =>
      if f.isGlobal then refuse "multiple \x60g' options to \x60s' command"
      takeFlags fuel { f with isGlobal := true }
    | some 'w' => return { f with file := some (← takeName) }
    | some c =>
      if c.isDigit then
        if f.number.isSome then refuse "multiple number options to \x60s' command"
        let n ← takeNumber c
        if n == 0 then refuse "number option to \x60s' command may not be zero"
        takeFlags fuel { f with number := some n }
      else refuse "unknown option to \x60s'"

/-- Takes a substitution. -/
def takeSubstitution : Read Deed := do
  let broken {α : Type} : Read α := refuse "unterminated \x60s' command"
  let some mark ← nextChar | broken
  let some pattern ← takeMarked mark true | broken
  let some replacement ← takeMarked mark false | broken
  let f ← takeFlags (← get).fuel {}
  let (pattern, groups) ← makePattern pattern f.foldsCase f.hasLines
  let parts := (replacementParts (replacement.length + 1) replacement []).reverse
  let highest := parts.foldl (fun n part => match part with
    | .group m => max n m
    | _ => n) 0
  if groups.any (· < highest) then
    refuse s!"invalid reference \\{highest} on \x60s' command's RHS"
  return .substitute { pattern, parts, isGlobal := f.isGlobal, prints := f.prints
                       number := f.number.getD 1, file := f.file }

/-- The characters of a list of those to be exchanged. -/
def exchangeList : Nat → List Char → List Char
  | 0, cs => cs
  | fuel + 1, '\\' :: '\\' :: rest => '\\' :: exchangeList fuel rest
  | fuel + 1, '\\' :: 'n' :: rest => '\n' :: exchangeList fuel rest
  | fuel + 1, '\\' :: '\n' :: rest => '\n' :: exchangeList fuel rest
  | fuel + 1, '\\' :: rest =>
    match escaped? rest with
    | some (c, after) => c :: exchangeList fuel after
    | none => '\\' :: exchangeList fuel rest
  | fuel + 1, c :: rest => c :: exchangeList fuel rest
  | _, [] => []

/-- Takes lists of characters to be exchanged. -/
def takeExchange : Read Deed := do
  let broken {α : Type} : Read α := refuse "unterminated \x60y' command"
  let some mark ← nextChar | broken
  let some old ← takeMarked mark false | broken
  let some new ← takeMarked mark false | broken
  let (old, new) := (exchangeList old.length old, exchangeList new.length new)
  if old.length != new.length then refuse "strings for \x60y' command are different lengths"
  endInstruction
  return .exchangeChars (old.zip new)

/-- Takes a number behind an instruction, then its end. -/
def takeArgument : Read (Option Nat) := do
  match ← nextSolid with
  | some c =>
    if c.isDigit then
      let n ← takeNumber c
      endInstruction
      return some n
    else
      unread (some c)
      endInstruction
      return none
  | none => return none

/-- What the letters stand for behind which nothing follows. -/
def plainDeeds : List (Char × Deed) :=
  [('=', .showNumber), ('d', .delete), ('D', .deleteFirst), ('F', .showName), ('g', .getHeld),
    ('G', .addHeld), ('h', .hold), ('H', .addToHeld), ('n', .next), ('N', .addNext), ('p', .print),
    ('P', .printFirst), ('x', .exchange), ('z', .clear)]

/-- Adds an instruction. -/
def addInstruction (i : Instruction) : Read Unit :=
  modify fun r => { r with
    script := { r.script with instructions := r.script.instructions.push i } }

/-- Closes a bracket: what was opened is skipped up to here. -/
def closeBlock : Read Unit := do
  let r ← get
  match r.blocks with
  | [] => refuse "unexpected \x60\x7d'"
  | (place, _) :: blocks =>
    let here := r.script.instructions.size
    let instructions := r.script.instructions.modify place fun i => { i with deed := .skipTo here }
    set { r with blocks, script := { r.script with instructions } }

/-- Takes what is to be done, whose letter has been read. -/
def takeDeed (i : Instruction) (letter : Char) : Read Unit := do
  let add := fun (deed : Deed) => addInstruction { i with deed }
  let hasOne := i.first.isSome
  match letter with
  | '\x7b' =>
    let r ← get
    set { r with blocks := (r.script.instructions.size, r.origin) :: r.blocks }
    addInstruction { i with isNegated := !i.isNegated, deed := .nothing }
  | '\x7d' =>
    if (← get).blocks.isEmpty then refuse "unexpected \x60\x7d'"
    if hasOne then refuse "\x7d doesn't want any addresses"
    endInstruction
    closeBlock
  | ':' =>
    if hasOne then refuse ": doesn't want any addresses"
    let label ← takeLabel
    if label.isEmpty then refuse "\":\" lacks a label"
    modify fun r =>
      { r with script := { r.script with
          labels := r.script.labels ++ [(label, r.script.instructions.size)] } }
  | 'b' => add (.jump none (← takeLabel))
  | 't' => add (.jump (some true) (← takeLabel))
  | 'T' => add (.jump (some false) (← takeLabel))
  | 'a' => add (.append (← takeText))
  | 'i' => add (.insert (← takeText))
  | 'c' => add (.change (← takeText))
  | 'q' | 'Q' =>
    if i.second.isSome then refuse "command only uses one address"
    let status := (← takeArgument).getD 0
    add (if letter == 'q' then .quit status else .leave status)
  | 'l' => add (.reveal (← takeArgument))
  | 'r' => add (.readFile (← takeName))
  | 'R' => add (.readLine (← takeName))
  | 'w' => add (.writeFile (← takeName))
  | 'W' => add (.writeFirst (← takeName))
  | 's' => add (← takeSubstitution)
  | 'y' => add (← takeExchange)
  | 'v' =>
    let _ ← takeLabel
    endInstruction
  | _ =>
    match plainDeeds.lookup letter with
    | some deed =>
      endInstruction
      add deed
    | none => refuse s!"unknown command: \x60{letter}'"

/-- Takes addresses that start with a character; gives them with the character behind them. -/
def takeAddresses (c : Option Char) : Read (Option Address × Option Address × Option Char) := do
  match ← takeAddress c with
  | none => return (none, none, c)
  | some first =>
    let next ← nextSolid
    let (second, next) ← if next == some ',' then
        match ← takeAddress (← nextSolid) with
        | some second => pure (some second, ← nextSolid)
        | none => refuse "unexpected \x60,'"
      else pure (none, next)
    match first, second with
    | .line 0, some (.fits _) => pure ()
    | .line 0, _ => refuse "invalid usage of line address 0"
    | _, _ => pure ()
    return (some first, second, next)

/-- Takes an instruction that starts with a character. -/
def takeInstruction (c : Char) : Read Unit := do
  let (first, second, next) ← takeAddresses (some c)
  let (isNegated, next) ← if next == some '!' then
      match ← nextSolid with
      | some '!' => refuse "multiple \x60!'s"
      | next => pure (true, next)
    else pure (false, next)
  match next with
  | none | some '\n' => refuse "missing command"
  | some letter => takeDeed { first, second, isNegated, deed := .nothing } letter

/-- Takes all instructions. -/
def takeAll : Nat → Read Unit
  | 0 => pure ()
  | fuel + 1 => do
    match ← nextChar with
    | none => pure ()
    | some '#' =>
      let _ ← takeChars (· != '\n')
      takeAll fuel
    | some c =>
      if c == ';' || Regex.isSpaceChar c then takeAll fuel
      else
        takeInstruction c
        takeAll fuel

/-- Whether a script starts with a line that asks for silence. -/
def asksForSilence (cs : List Char) : Bool :=
  cs == ['#', 'n'] || cs.take 3 == ['#', 'n', '\n']

/-- The script that some pieces spell. -/
def readScript (isExtended : Bool) (pieces : List (Origin × List Char)) : Except Mistake Script :=
  match pieces with
  | [] => .ok {}
  | (origin, rest) :: later =>
    let start : Reading := { rest, origin, later, isExtended }
    match (takeAll (start.fuel + 1)).run start with
    | .error e => .error e
    | .ok ((), r) =>
      match r.blocks.getLast? with
      | some (_, origin) => .error { origin, place := 0, words := "unmatched \x60\x7b'" }
      | none => .ok { r.script with isQuiet := asksForSilence rest }

end Deadwood.Utility.Edit
