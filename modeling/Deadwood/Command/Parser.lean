import Deadwood.Command.Basic
import Deadwood.Command.Usage

/-!
# Reading a command line

A command line names a command, then its options and its workspace in any order. The value of an
option stands behind an equals sign or is the next word. What was read last is checked only when
the next known option or word is reached, so a word that is not known is found first.

Words are rows of bytes. A path can be any bytes, every other value has to be text.

Two kinds of rules meet here. Declared for this program (`Cli`, `Commands`, `AnalyzerArgs`) are the
commands, which parameters each of them takes, their names, what values they take, that a runtime
and no runtime exclude each other, and what a command is built from. All else is assumed of the
option library that reads the declarations: how words are parted, what a number looks like, that a
path is not empty, that a parameter is given at most once, when a value is checked and which of
several mistakes is told, and what `help` and `version` ask for. The headings below tell the two
apart.
-/

namespace Deadwood

namespace Command

open Text.Utf8 (encode decode?)

/-- A word of a command line. -/
abbrev Argument := List UInt8

/-! ## Declared: parameters -/

/-- What a command can be given. -/
inductive Parameter where
  | workspace
  | json
  | debounceMs
  | analyzer
  | installDir
  | runtime
  | noRuntime
  | timeout
  | noSnippets
deriving DecidableEq, Repr, Inhabited

/-- What values a parameter takes. -/
inductive ValueKind where
  /-- None: it is given or not. -/
  | none
  /-- A path, which is not empty. -/
  | path
  | text
  /-- A natural number below 2 ^ 64. -/
  | number
deriving DecidableEq, Repr, Inhabited

/-- What values a parameter takes. -/
def Parameter.kind : Parameter → ValueKind
  | .workspace => .path
  | .json => .none
  | .debounceMs => .number
  | .analyzer => .path
  | .installDir => .path
  | .runtime => .text
  | .noRuntime => .none
  | .timeout => .number
  | .noSnippets => .none

/-- The name under which a parameter is given as an option; the workspace is given without one. -/
def Parameter.name? : Parameter → Option String
  | .workspace => .none
  | .json => some "json"
  | .debounceMs => some "debounce-ms"
  | .analyzer => some "analyzer"
  | .installDir => some "install-dir"
  | .runtime => some "runtime"
  | .noRuntime => some "no-runtime"
  | .timeout => some "timeout"
  | .noSnippets => some "no-snippets"

/-- The parameters about the analyzer. -/
def analyzerParameters : List Parameter :=
  [.analyzer, .installDir, .runtime, .noRuntime, .timeout, .noSnippets]

/-! ## Assumed: values -/

/-- The number that decimal digits stand for. -/
def digits? (cs : List Char) : Option Nat :=
  if !cs.isEmpty && cs.all Char.isDigit then
    some (cs.foldl (fun n c => 10 * n + (c.toNat - 48)) 0)
  else none

/-- The number that a text stands for: decimal digits, with or without a plus sign. -/
def number? (s : String) : Option UInt64 :=
  let n? := match s.toList with
    | '+' :: rest => digits? rest
    | cs => digits? cs
  n?.bind fun n => if n < Nat.pow 2 64 then some (UInt64.ofNat n) else none

/-- Checks a value. -/
def ValueKind.check : ValueKind → Argument → Except UsageError Unit
  | .none, _ => .ok ()
  | .text, value => if (decode? value).isSome then .ok () else .error .badValue
  | .path, value => if value.isEmpty then .error .noValue else .ok ()
  | .number, value =>
    if ((decode? value).bind number?).isSome then .ok () else .error .badValue

/-! ## Assumed: words -/

/-- The byte that begins options. -/
def dash : UInt8 := 45

/-- The byte between the name of an option and its value. -/
def equalsSign : UInt8 := 61

/-- The letter that asks for help. -/
def letterH : UInt8 := 104

/-- The letter that asks for the version. -/
def letterV : UInt8 := 86

/-- What a word looks like. -/
inductive Word where
  /-- Two dashes alone. -/
  | escape
  /-- Two dashes and a name, perhaps an equals sign and a value. -/
  | long (name : Argument) (value : Option Argument)
  /-- A dash and letters; only the first letter matters. -/
  | short (letter : UInt8)
  /-- Anything else, a dash alone among it. -/
  | plain (word : Argument)
deriving DecidableEq, Repr, Inhabited

/-- Parts a word at its first equals sign. -/
def splitValue (word : Argument) : Argument × Option Argument :=
  match word.span (· != equalsSign) with
  | (name, _ :: value) => (name, some value)
  | (name, []) => (name, none)

/-- What a word looks like. -/
def Word.ofArgument : Argument → Word
  | a :: b :: rest =>
    if a != dash then .plain (a :: b :: rest)
    else if b != dash then .short b
    else if rest.isEmpty then .escape
    else let (name, value) := splitValue rest; .long name value
  | word => .plain word

/-! ## Assumed: reading the words of one command -/

/-- What has been read of a command line. -/
structure Reading where
  /-- The parameters with their values that have been checked. -/
  given : List (Parameter × Argument) := []
  /-- The last parameter, with its value if it has one, that has not been checked. -/
  last : Option (Parameter × Option Argument) := none
  /-- Whether only words that are no options can follow. -/
  escaped : Bool := false
deriving DecidableEq, Repr, Inhabited

namespace Reading

/-- Whether a parameter has been read. -/
def has (r : Reading) (p : Parameter) : Bool :=
  (r.given.lookup p).isSome || r.last.any (·.1 == p)

/-- Takes a parameter with its value for given, after checking it. -/
def add (r : Reading) (p : Parameter) (value : Argument) : Except UsageError Reading :=
  if (r.given.lookup p).isSome then .error .conflict
  else match p.kind.check value with
    | .error e => .error e
    | .ok () => .ok { r with given := r.given ++ [(p, value)] }

/-- Checks what was read last. -/
def settle (r : Reading) : Except UsageError Reading :=
  match r.last with
  | none => .ok r
  | some (_, none) => .error .noValue
  | some (p, some value) => { r with last := none }.add p value

/-- Reads a known option. -/
def readOption (r : Reading) (p : Parameter) (value : Option Argument) :
    Except UsageError Reading :=
  match p.kind, value with
  | .none, some _ => .error .excessValue
  | .none, none => r.settle.bind (·.add p [])
  | _, some v => r.settle.bind (·.add p v)
  | _, none => r.settle.map fun r => { r with last := some (p, none) }

/-- Reads a word that is no option and no value of one. -/
def readPlain (parameters : List Parameter) (r : Reading) (word : Argument) :
    Except UsageError Reading :=
  if parameters.contains .workspace && !r.has .workspace then
    r.settle.map fun r => { r with last := some (.workspace, some word) }
  else .error .unknownArgument

/-- Asks for help, after checking what was read last. -/
def askHelp (r : Reading) : Except UsageError Reading :=
  r.settle.bind fun _ => .error .help

/-- Reads a word. -/
def readWord (parameters : List Parameter) (r : Reading) (word : Argument) :
    Except UsageError Reading :=
  if r.escaped then r.readPlain parameters word
  else match Word.ofArgument word with
    | .escape => .ok { r with escaped := true }
    | .long name value =>
      match parameters.find? (·.name?.map encode == some name) with
      | some p => r.readOption p value
      | none =>
        if name == encode "help" then
          if value.isSome then .error .excessValue else r.askHelp
        else .error .unknownArgument
    | .short letter => if letter == letterH then r.askHelp else .error .unknownArgument
    | .plain word =>
      match r.last with
      | some (p, none) => .ok { r with last := some (p, some word) }
      | _ => r.readPlain parameters word

/-- Reads words one after another. -/
def readWords (parameters : List Parameter) (r : Reading) :
    List Argument → Except UsageError Reading
  | [] => .ok r
  | word :: rest => (r.readWord parameters word).bind (·.readWords parameters rest)

/-- The value of a parameter. -/
def get? (r : Reading) (p : Parameter) : Option Argument := r.given.lookup p

/-- The path given for a parameter. -/
def path? (r : Reading) (p : Parameter) : Option Path := (r.get? p).map Path.mk

/-- The text given for a parameter. -/
def text? (r : Reading) (p : Parameter) : Option String := (r.get? p).bind decode?

/-- The number given for a parameter. -/
def value? (r : Reading) (p : Parameter) : Option UInt64 := (r.text? p).bind number?

/-- Whether a parameter that takes no value is given. -/
def flag (r : Reading) (p : Parameter) : Bool := (r.get? p).isSome

/-! ## Declared: what is built from the words -/

/-- The options about the analyzer. -/
def analyzerOptions (r : Reading) : AnalyzerOptions where
  analyzer := r.path? .analyzer
  installDir := r.path? .installDir
  runtime := r.text? .runtime
  noRuntime := r.flag .noRuntime
  timeout := r.value? .timeout
  noSnippets := r.flag .noSnippets

end Reading

/-- Reads the words after the name of a command, and builds the command from them. -/
def readWith (parameters : List Parameter) (build : Reading → Command) (words : List Argument) :
    Except UsageError Command :=
  match (Reading.readWords parameters {} words).bind Reading.settle with
  | .error e => .error e
  | .ok r =>
    -- the one exclusion that is declared; the library looks at it when all words are read
    if r.flag .runtime && r.flag .noRuntime then .error .conflict else .ok (build r)

/-! ## Declared: commands -/

/-- The parameters of a scan. -/
def scanParameters : List Parameter := .workspace :: .json :: analyzerParameters

/-- The parameters of a watch. -/
def watchParameters : List Parameter := .workspace :: .debounceMs :: analyzerParameters

/-- Reads the words after the name of a command, if there is a command of that name. -/
def readNamed? (name : Argument) (words : List Argument) : Option (Except UsageError Command) :=
  if name == encode "lsp" then some (readWith [] (fun _ => .lsp) words)
  else if name == encode "scan" then
    some (readWith scanParameters
      (fun r => .scan (r.path? .workspace) (r.flag .json) r.analyzerOptions) words)
  else if name == encode "watch" then
    some (readWith watchParameters
      (fun r => .watch (r.path? .workspace) (r.value? .debounceMs) r.analyzerOptions) words)
  else none

/-! ## Assumed: the first word -/

/-- Whether a word is the name of a command, asking for help being one. -/
def isName (word : Argument) : Bool :=
  (["lsp", "scan", "watch", "help"].map encode).contains word

/-- What asking for help about words comes to: help is about the program or one command. -/
def helpAbout : List Argument → UsageError
  | [] => .help
  | [name] => if isName name then .help else .unknownCommand
  | _ => .unknownCommand

/-- What words behind two dashes come to: no command can be named there. -/
def afterEscape : List Argument → UsageError
  | [] => .noCommand
  | word :: _ => if isName word then .unknownArgument else .unknownCommand

/-- Reads a command line, without the name of the program. -/
def readLine : List Argument → Except UsageError Command
  | [] => .error .noCommand
  | word :: rest =>
    match readNamed? word rest with
    | some result => result
    | none =>
      if word == encode "help" then .error (helpAbout rest)
      else match Word.ofArgument word with
        | .escape => .error (afterEscape rest)
        | .long name value =>
          if name == encode "help" || name == encode "version" then
            .error (if value.isSome then .excessValue
              else if name == encode "help" then .help else .version)
          else .error .unknownArgument
        | .short letter =>
          .error (if letter == letterH then .help
            else if letter == letterV then .version else .unknownArgument)
        | .plain _ => .error .unknownCommand

/-- Reads a command line that is text. -/
def parse (words : List String) : Except UsageError Command := readLine (words.map encode)

end Command

end Deadwood
