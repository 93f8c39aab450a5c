import Deadwood.Shell.Scanner

/-!
# Reading scripts

A script is read one command line at a time, so that what stands before a mistake can be run and an
alias counts from the next line on. Reading is bounded by the length of the text.
-/

namespace Deadwood.Shell

open Scan

/-- The commands of the shell that no function can have the name of. -/
def specialNames : List String :=
  [".", ":", "break", "continue", "eval", "exec", "exit", "export", "readonly", "local", "return",
    "set", "shift", "times", "trap", "unset"]

/-- What a word is read for. -/
structure WordKind where
  /-- The line that ends the document that is read. -/
  endMark : Option (List Char) := none
  /-- Whether tabs in front of lines are dropped. -/
  strips : Bool := false
  /-- Whether the word ends a document, so that nothing in it is expanded. -/
  isMark : Bool := false
deriving DecidableEq, Repr, Inhabited

/-- Drops tabs in front of a line, whose first character has been read. -/
def dropTabs (c : Option Char) : Scan (Option Char) := do
  if c == some '\t' then
    modify fun s => match s.frames with
      | f :: rest => { s with frames := { f with text := f.text.dropWhile (· == '\t') } :: rest }
      | [] => s
    next
  else return c

/-- What is left behind a line if it is a given one; the first character has been read. -/
def afterLine? (mark : List Char) (c : Option Char) (rest : List Char) : Option (List Char) :=
  match c with
  | none => none
  | some c =>
    if mark.isPrefixOf (c :: rest) then
      match (c :: rest).drop mark.length with
      | [] => some []
      | '\n' :: rest => some rest
      | _ => none
    else none

/-- At the start of a line of a document: the end if the line is the one that ends it. -/
def checkEnd (kind : WordKind) (c : Option Char) : Scan (Option Char) := do
  match kind.endMark with
  | none => return c
  | some mark =>
    let c ← if kind.strips then dropTabs c else pure c
    match (← get).frames with
    | f :: rest =>
      match afterLine? mark c f.text with
      | some text =>
        modify fun s => { s with frames := { f with text } :: rest, line := s.line + 1 }
        return none
      | none => return c
    | [] => return c

/-- Reads characters as long as a test holds; gives them and the character behind them. -/
def scanWhile (test : Char → Bool) :
    Nat → List Char → Option Char → Scan (String × Option Char)
  | 0, taken, c => return (String.ofList taken.reverse, c)
  | fuel + 1, taken, c => do
    match c with
    | some d =>
      if test d then scanWhile test fuel (d :: taken) (← nextJoined)
      else return (String.ofList taken.reverse, c)
    | none => return (String.ofList taken.reverse, c)

/-- Reads the text between backquotes. -/
def scanBackquoted (isDouble : Bool) : Nat → List Char → Scan (List Char)
  | 0, _ => fail "EOF in backquote substitution"
  | fuel + 1, taken => do
    match ← nextJoined with
    | none => fail "EOF in backquote substitution"
    | some '\x60' => return taken.reverse
    | some '\\' =>
      match ← next with
      | none => fail "EOF in backquote substitution"
      | some d =>
        if d == '\\' || d == '\x60' || d == '$' || (isDouble && d == '"') then
          scanBackquoted isDouble fuel (d :: taken)
        else scanBackquoted isDouble fuel (d :: '\\' :: taken)
    | some '\n' =>
      countLine
      scanBackquoted isDouble fuel ('\n' :: taken)
    | some d => scanBackquoted isDouble fuel (d :: taken)

/-- The operator behind the name of a parameter, whose first character has been read; whether what
follows is read as if outside quotes. -/
def scanUse (c : Option Char) : Scan (Use × Bool) := do
  let (orEmpty, c) ← if c == some ':' then do pure (true, ← nextJoined) else pure (false, c)
  match c with
  | some '\x7d' => return (if orEmpty then .bad else .value, false)
  | some '-' => return (.otherwise orEmpty, false)
  | some '+' => return (.instead orEmpty, false)
  | some '?' => return (.required orEmpty, false)
  | some '=' => return (.assigned orEmpty, false)
  | some '%' =>
    if orEmpty then return (.bad, false)
    else
      let d ← nextJoined
      if d == some '%' then return (.trimEnd true, true)
      else
        putBack d
        return (.trimEnd false, true)
  | some '#' =>
    if orEmpty then return (.bad, false)
    else
      let d ← nextJoined
      if d == some '#' then return (.trimStart true, true)
      else
        putBack d
        return (.trimStart false, true)
  | _ => return (.bad, false)

/-- A name or a number that begins with a character that has been read. -/
def scanName (fuel : Nat) (c : Char) : Scan (String × Option Char) := do
  if isNameStart c then scanWhile isNameChar fuel [c] (← nextJoined)
  else scanWhile Char.isDigit fuel [c] (← nextJoined)

/-- Reads what stands behind a dollar sign and an opening curly bracket, up to the word behind the
operator: the name, what is done with the value, and whether the word is read as if outside
quotes. -/
def scanParameter (fuel : Nat) : Scan (String × Use × Bool) := do
  let first ← nextJoined
  match first with
  | none => return ("", .bad, false)
  | some '\x7d' =>
    putBack first
    return ("", .bad, false)
  | some c =>
    if isNameStart c || c.isDigit then
      let (name, d) ← scanName fuel c
      let (use, isBare) ← scanUse d
      return (name, use, isBare)
    else
      let second ← nextJoined
      match c, second with
      | '#', some d =>
        if isNameChar d then
          let (name, e) ← scanName fuel d
          if e == some '\x7d' then return (name, .length, false)
          else
            putBack e
            return (name, .bad, false)
        else
          let third ← nextJoined
          if d == '\x7d' || third != some '\x7d' then
            putBack third
            let (use, isBare) ← scanUse second
            return ("#", use, isBare)
          else if isSpecialParameter d then return (String.singleton d, .length, false)
          else
            putBack third
            return ("", .bad, false)
      | _, _ =>
        if isSpecialParameter c then
          let (use, isBare) ← scanUse second
          return (String.singleton c, use, isBare)
        else
          putBack second
          return ("", .bad, false)

/-- Opens a parameter whose name and operator have been read. -/
def openUse (w : WordState) (name : String) (use : Use) (isBare : Bool) : WordState :=
  if use == .value then w.add (.parameter name .value [])
  else if use == .length then w.add (.parameter name .length [])
  else
    let l := w.top
    let mode := if isBare then .base else if l.mode == .arithmetic then .double else l.mode
    let w := if mode != l.mode || l.inner then
        w.push { mode, ofParameter := true, isDouble := mode != .base }
      else w
    let l := w.top
    let l := { l with
      braces := l.braces + 1
      quotedBraces := if l.isDouble then l.quotedBraces + 1 else l.quotedBraces }
    (w.setTop l).openParameter name use

/-- Adds the mark of a quotation, unless a document is read. -/
def addQuote (kind : WordKind) (w : WordState) : WordState :=
  if kind.endMark.isNone then w.add .quote else w

/-- A level after a double quote. -/
def toggled (l : Level) : Level := if 0 < l.braces then { l with inner := !l.inner } else l

/-- Checks that nothing is left open in a word. -/
def checkClosed (kind : WordKind) (w : WordState) : Scan Unit := do
  let l := w.top
  if l.mode == .arithmetic then fail "Missing '))'"
  else if l.mode != .base && kind.endMark.isNone then fail "Unterminated quoted string"
  else if l.braces != 0 then fail "Missing '\x7d'"

/-- Reads on after a sign that begins a redirection; gives its stream and its kind. -/
def scanRedirect (c : Char) (stream : Option Nat) : Scan Token := do
  if c == '>' then
    let n := stream.getD 1
    let d ← nextJoined
    match d with
    | some '>' => remember (.redirect n (.file .append))
    | some '|' => remember (.redirect n (.file .replace))
    | some '&' => remember (.redirect n .copy)
    | _ =>
      putBack d
      remember (.redirect n (.file .write))
  else
    let n := stream.getD 0
    let d ← nextJoined
    match d with
    | some '<' =>
      let e ← nextJoined
      if e == some '-' then remember (.redirect n (.document true))
      else
        putBack e
        remember (.redirect n (.document false))
    | some '&' => remember (.redirect n .copy)
    | some '>' => remember (.redirect n (.file .readWrite))
    | _ =>
      putBack d
      remember (.redirect n (.file .read))

/-- The first character that is no blank and in no comment. -/
def skipBlanks : Nat → Scan (Option Char)
  | 0 => return none
  | fuel + 1 => do
    match ← nextJoined with
    | some ' ' | some '\t' => skipBlanks fuel
    | some '#' =>
      skipComment
      skipBlanks fuel
    | c => return c

/-- A statement that is not waited for. -/
def backgrounded : Statement → Statement
  | .pipeline stages _ => .pipeline stages true
  | .redirected line body redirects => .background line body redirects
  | s => .background 0 s []

/-- The stream that a word names: a digit, a dash for none, or something to be expanded. -/
def sourceOf (w : Word) : StreamSource :=
  match w with
  | [.char '-'] => .none
  | [.char d] => if d.isDigit then .number (d.toNat - 48) else .word w
  | _ => .word w

/-- A simple command while it is read, last things first. -/
structure SimpleState where
  assignments : List Word := []
  words : List Word := []
  redirects : List Redirect := []

/-- The text of a word or a keyword. -/
def patternOf : Token → Word
  | .word w _ => w
  | .keyword name => name.toList.map .char
  | _ => []

mutual

/-- Reads the characters of a word; gives it with the character behind it. -/
def scanChars : Nat → WordKind → WordState → Option Char → Scan (WordState × Option Char)
  | 0, _, _, _ => fail "nesting too deep"
  | fuel + 1, kind, w, c => do
    let l := w.top
    let d := c.getD '\x00'
    match roleOf l.mode c with
    | .finish => return (w, none)
    | .newline =>
      if l.mode == .base && l.braces == 0 then return (w, c)
      else
        countLine
        let c ← if l.mode == .single then next else nextJoined
        let c ← checkEnd kind c
        scanChars fuel kind (w.add (.char '\n')) c
    | .special =>
      if l.braces == 0 then return (w, c)
      else scanChars fuel kind (w.add (.char d)) (← nextJoined)
    | .word =>
      scanChars fuel kind (w.add (.char d)) (← if l.mode == .single then next else nextJoined)
    | .tamed =>
      let isTamed := kind.endMark.isNone || l.isDouble || 0 < l.braces
      let w := w.add (if isTamed then .escaped d else .char d)
      scanChars fuel kind w (← if l.mode == .single then next else nextJoined)
    | .backslash =>
      match ← next with
      | none => scanChars fuel kind (w.add (.escaped '\\')) none
      | some e =>
        let keeps := l.isDouble && e != '\\' && e != '\x60' && e != '$' &&
          (e != '"' || (kind.endMark.isSome && l.braces == 0)) && (e != '\x7d' || l.braces == 0)
        let w := if keeps then w.add (.escaped '\\') else w
        scanChars fuel kind { w.add (.escaped e) with isQuoted := true } (← nextJoined)
    | .singleQuote =>
      scanChars fuel kind (addQuote kind (w.setTop { l with mode := .single })) (← next)
    | .doubleQuote =>
      let w := w.setTop (toggled { l with mode := .double, isDouble := true })
      scanChars fuel kind (addQuote kind w) (← nextJoined)
    | .endQuote =>
      if kind.endMark.isSome && l.braces == 0 then
        scanChars fuel kind (w.add (.char d)) (← if l.mode == .single then next else nextJoined)
      else
        let l := if l.quotedBraces == 0 then { l with mode := .base, isDouble := false } else l
        let l := if d == '"' then toggled l else l
        let w := { w.setTop l with isQuoted := true }
        scanChars fuel kind (addQuote kind w) (← nextJoined)
    | .dollar =>
      let w ← scanDollar fuel kind w
      scanChars fuel kind w (← nextJoined)
    | .endBrace => scanChars fuel kind (w.endBrace d) (← nextJoined)
    | .opening =>
      let w := (w.setTop { l with brackets := l.brackets + 1 }).add (.char d)
      scanChars fuel kind w (← nextJoined)
    | .closing =>
      if 0 < l.brackets then
        let w := (w.setTop { l with brackets := l.brackets - 1 }).add (.char d)
        scanChars fuel kind w (← nextJoined)
      else
        let e ← nextJoined
        if e == some ')' then scanChars fuel kind w.pop.close (← nextJoined)
        else
          putBack e
          scanChars fuel kind (w.add (.char ')')) (← nextJoined)
    | .backquote =>
      if kind.isMark then scanChars fuel kind (w.add (.char '\x60')) (← nextJoined)
      else
        let p ← scanOldCommand fuel l.isDouble
        scanChars fuel kind (w.add p) (← nextJoined)

/-- Reads what a dollar sign begins. -/
def scanDollar : Nat → WordKind → WordState → Scan WordState
  | 0, _, _ => fail "nesting too deep"
  | fuel + 1, kind, w => do
    let c ← nextJoined
    match c, kind.isMark with
    | some '(', false =>
      let d ← nextJoined
      if d == some '(' then return w.openArithmetic.push { mode := .arithmetic, isDouble := true }
      else
        putBack d
        return w.add (← scanCommand fuel)
    | some '\x7b', false =>
      let (name, use, isBare) ← scanParameter fuel
      return openUse w name use isBare
    | some d, false =>
      if isNameStart d then
        let (name, e) ← scanName fuel d
        putBack e
        return w.add (.parameter name .value [])
      else if isSpecialParameter d then return w.add (.parameter (String.singleton d) .value [])
      else
        putBack c
        return w.add (.char '$')
    | _, _ =>
      putBack c
      return w.add (.char '$')

/-- Reads a command whose output is wanted, up to the closing bracket. -/
def scanCommand : Nat → Scan Part
  | 0 => fail "nesting too deep"
  | fuel + 1 => do
    let saved := (← get).pending
    modify fun s => { s with pending := [] }
    let body ← readList fuel false true none
    match ← readToken fuel with
    | .closing => pure ()
    | _ => unexpected (some "\")\"")
    readDocuments fuel
    modify fun s => { s with pending := saved }
    return .command body

/-- Reads a command whose output is wanted, between backquotes. -/
def scanOldCommand : Nat → Bool → Scan Part
  | 0, _ => fail "nesting too deep"
  | fuel + 1, isDouble => do
    let text ← scanBackquoted isDouble fuel []
    let outer ← get
    set { outer with frames := [{ text }], line := 1, isPushed := false, pending := [] }
    let body ← readList fuel false true none
    readDocuments fuel
    let inner ← get
    set { outer with
      documents := inner.documents, nextDocument := inner.nextDocument, isPushed := false }
    return .command body

/-- Reads the documents that follow a line. -/
def readDocuments : Nat → Scan Unit
  | 0 => fail "nesting too deep"
  | fuel + 1 => do
    match (← get).pending with
    | [] => pure ()
    | p :: rest =>
      modify fun s => { s with pending := rest }
      let kind : WordKind := { endMark := some p.endMark, strips := p.strips }
      let level : Level := if p.expands then { mode := .double, isDouble := true }
        else { mode := .single }
      let c ← if p.expands then nextJoined else next
      let (w, _) ← scanChars fuel kind { levels := [level] } (← checkEnd kind c)
      checkClosed kind w
      modify fun s => { s with documents := (p.number, w.parts.reverse) :: s.documents }
      readDocuments fuel

/-- Reads a word, or a redirection, from its first character on. -/
def readWord : Nat → Option Char → Scan Token
  | 0, _ => fail "nesting too deep"
  | fuel + 1, c => do
    let kind : WordKind := { isMark := (← get).checks.endMark }
    let (w, c) ← scanChars fuel kind { levels := [{ mode := .base }] } c
    checkClosed kind w
    let isSign := (c == some '<' || c == some '>') && !w.isQuoted
    match isSign, w.parts with
    | true, [] => scanRedirect (c.getD '<') none
    | true, [.char d] =>
      if d.isDigit then scanRedirect (c.getD '<') (some (d.toNat - 48))
      else
        putBack c
        remember (.word w.parts.reverse w.isQuoted)
    | _, _ =>
      putBack c
      remember (.word w.parts.reverse w.isQuoted)

/-- Reads a token without a look at what it may mean. -/
def readRaw : Nat → Scan Token
  | 0 => fail "nesting too deep"
  | fuel + 1 => do
    if (← get).isPushed then
      modify fun s => { s with isPushed := false }
      return (← get).last
    else
      let c ← skipBlanks fuel
      let pair := fun (second : Char) (long short : Token) => do
        let d ← nextJoined
        if d == some second then remember long
        else
          putBack d
          remember short
      match c with
      | none => remember .finish
      | some '\n' =>
        countLine
        remember .newline
      | some '&' => pair '&' .both .background
      | some '|' => pair '|' .either .pipe
      | some ';' => pair ';' .endCase .semicolon
      | some '(' => remember .opening
      | some ')' => remember .closing
      | c => readWord fuel c

/-- Drops ends of lines, with the documents behind them. -/
def skipNewlines : Nat → Token → Scan Token
  | 0, t => return t
  | fuel + 1, t => do
    match t with
    | .newline =>
      readDocuments fuel
      look {}
      let t ← readRaw fuel
      skipNewlines fuel t
    | t => return t

/-- Reads a token that is looked at for what it may mean. -/
def readTokenFor : Nat → Checks → Scan Token
  | 0, _ => fail "nesting too deep"
  | fuel + 1, wanted => do
    let t ← readRaw fuel
    let t ← if wanted.newlines then skipNewlines fuel t else pure t
    let s ← get
    let wanted := { wanted with
      keywords := wanted.keywords || s.checks.keywords
      aliases := wanted.aliases || s.checks.aliases }
    look {}
    match t with
    | .word w false =>
      match Word.bare? w with
      | none => return t
      | some name =>
        if wanted.keywords && keywords.contains name then remember (.keyword name)
        else if wanted.aliases && !isInUse (← get) name then
          match (← get).aliases.lookup name with
          | none => return t
          | some value =>
            let text := value.toList
            let passes := text.getLast?.any fun c => c == ' ' || c == '\t'
            if !text.isEmpty then
              modify fun s => { s with frames := ⟨text, some name, passes⟩ :: s.frames }
            readTokenFor fuel wanted
        else return t
    | t => return t

/-- Reads a token. -/
def readToken : Nat → Scan Token
  | 0 => fail "nesting too deep"
  | fuel + 1 => do readTokenFor fuel (← get).checks

/-- Reads a list of statements. At the top a line ends it; elsewhere a closing word does, from the
second statement on or if `mayEnd` says so. -/
def readList : Nat → Bool → Bool → Option Statement → Scan (Option Statement)
  | 0, _, _, _ => fail "nesting too deep"
  | fuel + 1, isTop, mayEnd, done => do
    look { newlines := !isTop, keywords := true, aliases := true }
    match ← readToken fuel with
    | .newline =>
      readDocuments fuel
      return done
    | .finish =>
      readDocuments fuel
      discard <| remember .finish
      pushToken
      return done
    | t =>
      pushToken
      if mayEnd && t.endsList then return done
      else
        let s ← readAndOr fuel
        let t ← readToken fuel
        let s := match t with
          | .background => backgrounded s
          | _ => s
        let done := match done with
          | none => s
          | some first => .sequence first s
        match t with
        | .finish =>
          readDocuments fuel
          discard <| remember .finish
          pushToken
          return some done
        | .newline =>
          pushToken
          readList fuel isTop (!isTop) (some done)
        | .background | .semicolon => readList fuel isTop (!isTop) (some done)
        | _ =>
          if isTop then unexpected none
          else
            pushToken
            return some done

/-- Reads a list of statements that cannot be empty. -/
def readBody : Nat → Scan Statement
  | 0 => fail "nesting too deep"
  | fuel + 1 => do return (← readList fuel false false none).getD default

/-- Reads pipelines joined by conditions. -/
def readAndOr : Nat → Scan Statement
  | 0 => fail "nesting too deep"
  | fuel + 1 => do
    let s ← readPipeline fuel
    readAndOrRest fuel s

/-- Reads the pipelines that are joined to a statement. -/
def readAndOrRest : Nat → Statement → Scan Statement
  | 0, _ => fail "nesting too deep"
  | fuel + 1, s => do
    match ← readToken fuel with
    | .both =>
      look { newlines := true, keywords := true, aliases := true }
      let t ← readPipeline fuel
      readAndOrRest fuel (.both s t)
    | .either =>
      look { newlines := true, keywords := true, aliases := true }
      let t ← readPipeline fuel
      readAndOrRest fuel (.either s t)
    | _ =>
      pushToken
      return s

/-- Reads a pipeline. -/
def readPipeline : Nat → Scan Statement
  | 0 => fail "nesting too deep"
  | fuel + 1 => do
    let t ← readToken fuel
    let isNegated := t.isKeyword "!"
    if isNegated then look { keywords := true, aliases := true } else pushToken
    let first ← readCommand fuel
    let stages ← readStages fuel [first]
    let s := match stages with
      | [s] => s
      | _ => .pipeline stages false
    return if isNegated then .negated s else s

/-- Reads the stages of a pipeline behind those read so far, which come last first. -/
def readStages : Nat → List Statement → Scan (List Statement)
  | 0, _ => fail "nesting too deep"
  | fuel + 1, done => do
    match ← readToken fuel with
    | .pipe =>
      look { newlines := true, keywords := true, aliases := true }
      let s ← readCommand fuel
      readStages fuel (s :: done)
    | _ =>
      pushToken
      return done.reverse

/-- Takes a keyword. -/
def expectKeyword : Nat → String → Scan Unit
  | 0, _ => fail "nesting too deep"
  | fuel + 1, name => do
    let t ← readToken fuel
    if !t.isKeyword name then unexpected (some (Token.keyword name).shown)

/-- Reads a command. -/
def readCommand : Nat → Scan Statement
  | 0 => fail "nesting too deep"
  | fuel + 1 => do
    let line := (← get).line
    match ← readToken fuel with
    | .keyword "if" =>
      let s ← readConditional fuel
      expectKeyword fuel "fi"
      readRedirected fuel line s
    | .keyword "while" =>
      let s ← readLoop fuel true
      readRedirected fuel line s
    | .keyword "until" =>
      let s ← readLoop fuel false
      readRedirected fuel line s
    | .keyword "for" =>
      let s ← readEach fuel line
      readRedirected fuel line s
    | .keyword "case" =>
      let s ← readChoice fuel line
      readRedirected fuel line s
    | .opening =>
      let body ← readBody fuel
      match ← readToken fuel with
      | .closing => pure ()
      | _ => unexpected (some "\")\"")
      let redirects ← readRedirects fuel []
      return .subshell line body redirects
    | .keyword "\x7b" =>
      let body ← readBody fuel
      expectKeyword fuel "\x7d"
      readRedirected fuel line body
    | .word _ _ | .redirect _ _ =>
      pushToken
      readSimple fuel (← get).line true {}
    | _ => unexpected none

/-- Reads the redirections behind a compound command. -/
def readRedirected : Nat → Nat → Statement → Scan Statement
  | 0, _, _ => fail "nesting too deep"
  | fuel + 1, line, s => do
    let redirects ← readRedirects fuel []
    return if redirects.isEmpty then s else .redirected line s redirects

/-- Reads redirections behind those read so far, which come last first. -/
def readRedirects : Nat → List Redirect → Scan (List Redirect)
  | 0, _ => fail "nesting too deep"
  | fuel + 1, done => do
    look { keywords := true, aliases := true }
    match ← readToken fuel with
    | .redirect n kind =>
      let r ← readTarget fuel n kind
      readRedirects fuel (r :: done)
    | _ =>
      pushToken
      return done.reverse

/-- Reads the word of a redirection. -/
def readTarget : Nat → Nat → RedirectKind → Scan Redirect
  | 0, _, _ => fail "nesting too deep"
  | fuel + 1, n, kind => do
    match kind with
    | .document _ => look { endMark := true }
    | _ => pure ()
    match ← readToken fuel with
    | .word w quoted =>
      match kind with
      | .file way => return .file n way w
      | .copy => return .copy n (sourceOf w)
      | .document strips =>
        let number := (← get).nextDocument
        let p : PendingDocument := ⟨number, (Word.plain w).toList, strips, !quoted⟩
        modify fun s => { s with nextDocument := number + 1, pending := s.pending ++ [p] }
        return .document n (!quoted) number
    | _ => unexpected none

/-- Reads a conditional behind its first keyword, up to the closing one. -/
def readConditional : Nat → Scan Statement
  | 0 => fail "nesting too deep"
  | fuel + 1 => do
    let test ← readBody fuel
    expectKeyword fuel "then"
    let body ← readBody fuel
    match ← readToken fuel with
    | .keyword "elif" =>
      let rest ← readConditional fuel
      return .conditional test body (some rest)
    | .keyword "else" =>
      let rest ← readBody fuel
      return .conditional test body (some rest)
    | _ =>
      pushToken
      return .conditional test body none

/-- Reads a loop behind its first keyword. -/
def readLoop : Nat → Bool → Scan Statement
  | 0, _ => fail "nesting too deep"
  | fuel + 1, wanted => do
    let test ← readBody fuel
    expectKeyword fuel "do"
    let body ← readBody fuel
    expectKeyword fuel "done"
    return .loop wanted test body

/-- Reads words as long as there are any, behind those read so far, which come last first. -/
def readWords : Nat → List Word → Scan (List Word)
  | 0, _ => fail "nesting too deep"
  | fuel + 1, done => do
    match ← readToken fuel with
    | .word w _ => readWords fuel (w :: done)
    | _ => return done.reverse

/-- Reads a loop over words behind its first keyword. -/
def readEach : Nat → Nat → Scan Statement
  | 0, _ => fail "nesting too deep"
  | fuel + 1, line => do
    let t ← readToken fuel
    let name := match t with
      | .word w false => (Word.bare? w).getD ""
      | _ => ""
    if !isName name then fail "Bad for loop variable"
    look { newlines := true, keywords := true, aliases := true }
    let t ← readToken fuel
    let words ←
      if t.isKeyword "in" then
        let words ← readWords fuel []
        match (← get).last with
        | .newline | .semicolon => pure words
        | _ => unexpected none
      else
        match t with
        | .semicolon => pure ()
        | _ => pushToken
        pure [[.quote, .parameter "@" .value [], .quote]]
    look { newlines := true, keywords := true, aliases := true }
    expectKeyword fuel "do"
    let body ← readBody fuel
    expectKeyword fuel "done"
    return .each line name words body

/-- Reads a choice behind its first keyword. -/
def readChoice : Nat → Nat → Scan Statement
  | 0, _ => fail "nesting too deep"
  | fuel + 1, line => do
    match ← readToken fuel with
    | .word w _ =>
      look { newlines := true, keywords := true, aliases := true }
      expectKeyword fuel "in"
      let branches ← readBranches fuel []
      return .choice line w branches
    | _ => unexpected (some "word")

/-- Reads the branches of a choice behind those read so far, which come last first. -/
def readBranches : Nat → List (List Word × Option Statement) →
    Scan (List (List Word × Option Statement))
  | 0, _ => fail "nesting too deep"
  | fuel + 1, done => do
    look { newlines := true, keywords := true }
    let t ← readToken fuel
    if t.isKeyword "esac" then return done.reverse
    else
      let t ← match t with
        | .opening => readToken fuel
        | t => pure t
      let patterns ← readPatterns fuel t []
      match (← get).last with
      | .closing => pure ()
      | _ => unexpected (some "\")\"")
      let body ← readList fuel false true none
      look { newlines := true, keywords := true }
      let done := (patterns, body) :: done
      match ← readToken fuel with
      | .keyword "esac" => return done.reverse
      | .endCase => readBranches fuel done
      | _ => unexpected (some "\";;\"")

/-- Reads the patterns of a branch from a token on. -/
def readPatterns : Nat → Token → List Word → Scan (List Word)
  | 0, _, _ => fail "nesting too deep"
  | fuel + 1, t, done => do
    let done := patternOf t :: done
    match ← readToken fuel with
    | .pipe =>
      let t ← readToken fuel
      readPatterns fuel t done
    | _ => return done.reverse

/-- Reads a simple command, or the definition of a function; `mayAssign` says whether the next word
can be an assignment or an alias. -/
def readSimple : Nat → Nat → Bool → SimpleState → Scan Statement
  | 0, _, _, _ => fail "nesting too deep"
  | fuel + 1, line, mayAssign, s => do
    look { aliases := mayAssign }
    let finished := Statement.simple line s.assignments.reverse s.words.reverse s.redirects.reverse
    match ← readToken fuel with
    | .word w _ =>
      if mayAssign && (Word.assignment? w).isSome then
        readSimple fuel line true { s with assignments := w :: s.assignments }
      else readSimple fuel line false { s with words := w :: s.words }
    | .redirect n kind =>
      let r ← readTarget fuel n kind
      readSimple fuel line mayAssign { s with redirects := r :: s.redirects }
    | .opening =>
      match s.words, s.assignments, s.redirects with
      | [w], [], [] =>
        match ← readToken fuel with
        | .closing => pure ()
        | _ => unexpected (some "\")\"")
        let name := (Word.bare? w).getD ""
        if !isName name || specialNames.contains name then fail "Bad function name"
        look { newlines := true, keywords := true, aliases := true }
        let line := (← get).line
        let body ← readCommand fuel
        return .function line name body
      | _, _, _ =>
        pushToken
        return finished
    | _ =>
      pushToken
      return finished

end

/-- What is read at once. -/
inductive Parsed where
  /-- The script is at its end. -/
  | finish
  /-- A line, perhaps an empty one. -/
  | line (s : Option Statement)

namespace Scanner

/-- A bound on the depth of reading. -/
def depth (s : Scanner) : Nat :=
  16 * (s.frames.foldl (fun n f => n + f.text.length) 0) + 100000

/-- Whether reading is at the end of the script. -/
def isAtEnd (s : Scanner) : Bool :=
  s.isPushed && match s.last with
    | .finish => true
    | _ => false

/-- Reads the next command line. -/
def readLine (s : Scanner) : Except SyntaxError (Parsed × Scanner) := do
  let start := { s with isPushed := false, checks := {}, pending := [] }
  let (found, s) ← (readList s.depth true false none).run start
  match found with
  | none => .ok (if s.isAtEnd then .finish else .line none, s)
  | some statement => .ok (.line (some statement), s)

/-- Reads a text in which what is to be expanded is, as if it stood in a document. -/
def readTemplate (text : List Char) : Except SyntaxError Word := do
  let s : Scanner := { frames := [{ text }] }
  let kind : WordKind := { endMark := some ['\x00'] }
  let ((w, _), _) ← (do
    scanChars s.depth kind { levels := [{ mode := .double, isDouble := true }] }
      (← nextJoined)).run s
  .ok w.parts.reverse

/-- The text of a script from its start on. -/
def ofText (text : List Char) : Scanner := { frames := [{ text }] }

end Scanner

end Deadwood.Shell
