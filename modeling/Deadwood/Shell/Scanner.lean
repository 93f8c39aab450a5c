import Deadwood.Shell.Syntax

/-!
# The text of a script

A script is read character by character, with a count of lines. The value of an alias is read in the
place of its name; while it is read the alias does not apply. Tokens are read one at a time, and the
last one can be put back.
-/

namespace Deadwood.Shell

/-- A place where a script cannot be read on. -/
structure SyntaxError where
  line : Nat
  complaint : String
deriving DecidableEq, Repr, Inhabited

/-- How a redirection begins, before its word has been read. -/
inductive RedirectKind where
  | file (way : FileWay)
  | copy
  | document (strips : Bool)
deriving DecidableEq, Repr, Inhabited

/-- A token. -/
inductive Token where
  | finish
  | newline
  | semicolon
  | background
  | both
  | either
  | pipe
  | opening
  | closing
  | endCase
  | redirect (stream : Nat) (kind : RedirectKind)
  | word (w : Word) (quoted : Bool)
  | keyword (name : String)

instance : Inhabited Token := ⟨.newline⟩

namespace Token

/-- How a token is shown. -/
def shown : Token → String
  | .finish => "end of file"
  | .newline => "newline"
  | .semicolon => "\";\""
  | .background => "\"&\""
  | .both => "\"&&\""
  | .either => "\"||\""
  | .pipe => "\"|\""
  | .opening => "\"(\""
  | .closing => "\")\""
  | .endCase => "\";;\""
  | .redirect _ _ => "redirection"
  | .word _ _ => "word"
  | .keyword name => "\"" ++ name ++ "\""

/-- Whether a token is a keyword. -/
def isKeyword (t : Token) (name : String) : Bool :=
  match t with
  | .keyword other => other == name
  | _ => false

/-- The words that end a list of statements. -/
def closers : List String := ["do", "done", "elif", "else", "esac", "fi", "then", "\x7d"]

/-- Whether a token ends a list of statements. -/
def endsList : Token → Bool
  | .finish => true
  | .closing => true
  | .endCase => true
  | .keyword name => closers.contains name
  | _ => false

end Token

/-- The words with a meaning of their own. -/
def keywords : List String :=
  ["!", "case", "do", "done", "elif", "else", "esac", "fi", "for", "if", "in", "then", "until",
    "while", "\x7b", "\x7d"]

/-- What the next token is looked at for. -/
structure Checks where
  keywords : Bool := false
  aliases : Bool := false
  newlines : Bool := false
  /-- Whether it is the word that ends a document. -/
  endMark : Bool := false
deriving DecidableEq, Repr, Inhabited

/-- Text to be read, which may be the value of an alias. -/
structure Frame where
  text : List Char
  name : Option String := none
  /-- Whether the word behind it can be an alias too. -/
  passes : Bool := false
deriving DecidableEq, Repr, Inhabited

/-- A document whose text is still to be read. -/
structure PendingDocument where
  number : Nat
  endMark : List Char
  strips : Bool
  expands : Bool
deriving DecidableEq, Repr, Inhabited

/-- The state of reading a script. -/
structure Scanner where
  frames : List Frame
  line : Nat := 1
  /-- Whether the last token is to be read again. -/
  isPushed : Bool := false
  last : Token := .newline
  checks : Checks := {}
  pending : List PendingDocument := []
  documents : List (Nat × Word) := []
  nextDocument : Nat := 0
  aliases : List (String × String) := []
deriving Inhabited

/-- Reading. -/
abbrev Scan := StateT Scanner (Except SyntaxError)

namespace Scan

/-- Stops reading with a complaint about the line at hand. -/
def fail {α : Type} (complaint : String) : Scan α := do
  throw ⟨(← get).line, complaint⟩

/-- How long a complaint about a token may be. -/
def complaintLimit : Nat := 63

/-- Stops reading because the last token does not belong here. -/
def unexpected {α : Type} (expected : Option String) : Scan α := do
  let found := (← get).last.shown
  let text := match expected with
    | some wanted => s!"{found} unexpected (expecting {wanted})"
    | none => s!"{found} unexpected"
  fail (String.ofList (text.toList.take complaintLimit))

/-- Counts a line. -/
def countLine : Scan Unit := modify fun s => { s with line := s.line + 1 }

/-- Drops the frames at whose end reading is. -/
def dropFrames : List Frame → List Frame × Bool
  | f :: g :: rest =>
    if f.text.isEmpty then
      let (frames, passes) := dropFrames (g :: rest)
      (frames, passes || f.passes)
    else (f :: g :: rest, false)
  | frames => (frames, false)

/-- The next character; nothing at the end. -/
def next : Scan (Option Char) := do
  let s ← get
  let (frames, passes) := dropFrames s.frames
  let checks := if passes then { s.checks with aliases := true } else s.checks
  match frames with
  | { text := c :: text, name, passes } :: rest =>
    set { s with frames := ⟨text, name, passes⟩ :: rest, checks }
    return some c
  | _ =>
    set { s with frames, checks }
    return none

/-- Puts a character back. -/
def putBack (c : Option Char) : Scan Unit := do
  match c with
  | none => pure ()
  | some c => modify fun s => match s.frames with
    | f :: rest => { s with frames := { f with text := c :: f.text } :: rest }
    | [] => { s with frames := [⟨[c], none, false⟩] }

/-- Text without line ends behind backslashes in front, and how many there were. -/
def dropJoins : List Char → List Char × Nat
  | '\\' :: '\n' :: rest => let (rest, count) := dropJoins rest; (rest, count + 1)
  | text => (text, 0)

/-- The next character; lines that end in a backslash are joined. -/
def nextJoined : Scan (Option Char) := do
  modify fun s => match s.frames with
    | f :: rest =>
      match f.text with
      | '\\' :: _ =>
        let (text, count) := dropJoins f.text
        { s with frames := { f with text } :: rest, line := s.line + count }
      | _ => s
    | [] => s
  next

/-- Puts the last token back. -/
def pushToken : Scan Unit := modify fun s => { s with isPushed := true }

/-- Says what the next token is looked at for. -/
def look (checks : Checks) : Scan Unit := modify fun s => { s with checks }

/-- Remembers a token as the last one. -/
def remember (t : Token) : Scan Token := do
  modify fun s => { s with last := t }
  return t

/-- Whether an alias is being read. -/
def isInUse (s : Scanner) (name : String) : Bool := s.frames.any fun f => f.name == some name

/-- Drops the rest of a line. -/
def skipComment : Scan Unit := modify fun s => match s.frames with
  | f :: rest => { s with frames := { f with text := f.text.dropWhile (· != '\n') } :: rest }
  | [] => s

end Scan

/-! ## Kinds of characters -/

/-- What has been opened around a character. -/
inductive Mode where
  | base
  | double
  | single
  | arithmetic
deriving DecidableEq, Repr, Inhabited

/-- What a character does. -/
inductive Role where
  | finish
  | newline
  | word
  /-- Stands for itself, but would have a meaning outside quotes. -/
  | tamed
  | backslash
  | singleQuote
  | doubleQuote
  | endQuote
  | dollar
  | endBrace
  | opening
  | closing
  | backquote
  /-- Ends a word. -/
  | special
deriving DecidableEq, Repr, Inhabited

/-- The characters that have a meaning outside quotes. -/
def tamedChars : List Char := ['!', '*', '?', '[', '=', '~', ':', '/', '-', ']']

/-- The characters that end a word. -/
def wordEnds : List Char := ['<', '>', '(', ')', ';', '&', '|', ' ', '\t']

/-- What a character does in a mode. -/
def roleOf : Mode → Option Char → Role
  | _, none => .finish
  | _, some '\n' => .newline
  | .base, some c =>
    if c == '\\' then .backslash
    else if c == '\x27' then .singleQuote
    else if c == '"' then .doubleQuote
    else if c == '\x60' then .backquote
    else if c == '$' then .dollar
    else if c == '\x7d' then .endBrace
    else if wordEnds.contains c then .special
    else .word
  | .double, some c =>
    if c == '\\' then .backslash
    else if c == '"' then .endQuote
    else if c == '\x60' then .backquote
    else if c == '$' then .dollar
    else if c == '\x7d' then .endBrace
    else if tamedChars.contains c then .tamed
    else .word
  | .single, some c =>
    if c == '\x27' then .endQuote
    else if c == '\\' || tamedChars.contains c then .tamed
    else .word
  | .arithmetic, some c =>
    if c == '\\' then .backslash
    else if c == '\x60' then .backquote
    else if c == '$' then .dollar
    else if c == '\x7d' then .endBrace
    else if c == '(' then .opening
    else if c == ')' then .closing
    else .word

/-- One level of what has been opened while a word is read. -/
structure Level where
  mode : Mode
  isDouble : Bool := false
  /-- How many parameters are open. -/
  braces : Nat := 0
  /-- How many of them were opened in quotes. -/
  quotedBraces : Nat := 0
  /-- Whether a quotation inside a parameter is open. -/
  inner : Bool := false
  /-- Whether the level was opened for a parameter. -/
  ofParameter : Bool := false
  /-- How many round brackets are open. -/
  brackets : Nat := 0
deriving DecidableEq, Repr, Inhabited

/-- Something that has been opened, with the parts before it. -/
inductive Unclosed where
  | parameter (name : String) (use : Use) (before : List Part)
  | arithmetic (before : List Part)

/-- A word while it is read; the parts last first. -/
structure WordState where
  levels : List Level
  parts : List Part := []
  unclosed : List Unclosed := []
  isQuoted : Bool := false

namespace WordState

/-- The innermost level. -/
def top (w : WordState) : Level := w.levels.headD { mode := .base }

/-- Changes the innermost level. -/
def setTop (w : WordState) (l : Level) : WordState := { w with levels := l :: w.levels.drop 1 }

/-- Adds a part. -/
def add (w : WordState) (p : Part) : WordState := { w with parts := p :: w.parts }

/-- Opens a level. -/
def push (w : WordState) (l : Level) : WordState := { w with levels := l :: w.levels }

/-- Closes the innermost level. -/
def pop (w : WordState) : WordState := { w with levels := w.levels.drop 1 }

/-- Opens a parameter. -/
def openParameter (w : WordState) (name : String) (use : Use) : WordState :=
  { w with parts := [], unclosed := .parameter name use w.parts :: w.unclosed }

/-- Opens a calculation. -/
def openArithmetic (w : WordState) : WordState :=
  { w with parts := [], unclosed := .arithmetic w.parts :: w.unclosed }

/-- Closes what was opened last. -/
def close (w : WordState) : WordState :=
  match w.unclosed with
  | .parameter name use before :: rest =>
    { w with parts := .parameter name use w.parts.reverse :: before, unclosed := rest }
  | .arithmetic before :: rest =>
    { w with parts := .arithmetic w.parts.reverse :: before, unclosed := rest }
  | [] => w

/-- A curly bracket closes a parameter or stands for itself. -/
def endBrace (w : WordState) (c : Char) : WordState :=
  let l := w.top
  if !l.inner && 0 < l.braces then
    let l := { l with braces := l.braces - 1 }
    let w := if l.braces == 0 && l.ofParameter then w.pop
      else w.setTop { l with quotedBraces := l.quotedBraces - 1 }
    w.close
  else w.add (.char c)

end WordState

end Deadwood.Shell
