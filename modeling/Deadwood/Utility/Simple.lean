import Deadwood.Shell.Condition
import Deadwood.Shell.Printing
import Deadwood.Utility.Basic

/-!
# Small programs

Programs that say something, compute something, wait, or start another program.
-/

namespace Deadwood.Utility

open Host

/-! ## Saying -/

/-- The value of digits to the base of sixteen. -/
def hexValue (digits : List Char) : Nat :=
  digits.foldl (fun n c => 16 * n + (Shell.Arithmetic.digit? 16 c).getD 0) 0

/-- Escapes of a text replaced, and whether nothing is to follow. -/
def expandEscapes : Nat → List Char → List Char → List Char × Bool
  | 0, done, _ => (done.reverse, false)
  | fuel + 1, done, cs =>
    match cs with
    | [] => (done.reverse, false)
    | '\\' :: 'c' :: _ => (done.reverse, true)
    | '\\' :: 'x' :: rest =>
      match (rest.take 2).takeWhile fun c => (Shell.Arithmetic.digit? 16 c).isSome with
      | [] => expandEscapes fuel ('x' :: '\\' :: done) rest
      | digits => expandEscapes fuel (Char.ofNat (hexValue digits) :: done) (rest.drop digits.length)
    | '\\' :: '0' :: rest =>
      let digits := (rest.take 3).takeWhile Shell.isOctal
      expandEscapes fuel (Shell.octalChar digits :: done) (rest.drop digits.length)
    | '\\' :: rest =>
      let (c, rest) := Shell.readEscape rest
      expandEscapes fuel (c :: done) rest
    | c :: rest => expandEscapes fuel (c :: done) rest

/-- Whether an argument has only letters of the options for saying. -/
def isEchoOption (s : String) : Bool :=
  match s.toList with
  | '-' :: c :: letters => (c :: letters).all ['n', 'e', 'E'].contains
  | _ => false

/-- Says its arguments. -/
def echo (arguments : List String) : Tool Unit := do
  let options := arguments.takeWhile isEchoOption
  let letters := options.flatMap fun o => o.toList.drop 1
  let words := arguments.drop options.length
  let text := (" ".intercalate words).toList
  let escapes := (letters.filter (· != 'n')).getLast? == some 'e'
  let (text, stops) := if escapes then expandEscapes (text.length + 1) [] text else (text, false)
  out (text ++ if stops || letters.contains 'n' then [] else ['\n'])

/-- Says its arguments as a template tells. -/
def printf (arguments : List String) : Tool Unit := do
  let arguments := if arguments.head? == some "--" then arguments.drop 1 else arguments
  match arguments with
  | [] => dieUsage "missing operand"
  | template :: rest =>
    let filled := Shell.fillTemplate template rest
    out filled.output.reverse
    for complaint in filled.complaints.reverse do
      fault complaint
    match filled.failure with
    | some text => die text
    | none => pure ()

/-- Says its arguments again and again. -/
def yes (arguments : List String) : Tool Unit := do
  let line := (" ".intercalate (if arguments.isEmpty then ["y"] else arguments)).toList ++ ['\n']
  let times := 8192 / line.length + 1
  repeatOut (List.replicate times line).flatten chunkLimit
where
  /-- Writes until that is not possible any more. -/
  repeatOut (piece : List Char) : Nat → Tool Unit
    | 0 => pure ()
    | fuel + 1 => do
      ask .pass
      out piece
      if (← get).writeError.isSome then quit 1 else repeatOut piece fuel

/-! ## Names of files -/

/-- A path without slashes at its end; a path of slashes is one slash. -/
def dropSlashes (cs : List Char) : List Char :=
  match (cs.reverse.dropWhile (· == '/')).reverse with
  | [] => if cs.isEmpty then [] else ['/']
  | kept => kept

/-- The last name of a path. -/
def lastName (path : List Char) : List Char :=
  match dropSlashes path with
  | ['/'] => ['/']
  | cs => (cs.reverse.takeWhile (· != '/')).reverse

/-- The path of what lies above. -/
def parentName (path : List Char) : List Char :=
  match dropSlashes path with
  | ['/'] => ['/']
  | cs =>
    match cs.reverse.dropWhile (· != '/') with
    | [] => ['.']
    | above => dropSlashes above.reverse

/-- A name without an end, unless it is all of the name. -/
def dropSuffix (suffix name : List Char) : List Char :=
  if suffix.length < name.length && name.drop (name.length - suffix.length) == suffix then
    name.take (name.length - suffix.length)
  else name

/-- Says the last names of paths. -/
def basename (arguments : List String) : Tool Unit := do
  let table : OptionTable :=
    { letters := OptionTable.ofLetters "as:z".toList
      names := [("multiple", 'a'), ("suffix", 's'), ("zero", 'z')], stopsEarly := true }
  let p ← parse table arguments
  let ending := if p.has 'z' then '\x00' else '\n'
  let give := fun (suffix name : String) =>
    out (dropSuffix suffix.toList (lastName name.toList) ++ [ending])
  match p.operands with
  | [] => dieUsage "missing operand"
  | name :: rest =>
    if p.has 'a' || p.has 's' then
      for name in p.operands do
        give ((p.value? 's').getD "") name
    else match rest with
      | [] => give "" name
      | [suffix] => give suffix name
      | _ :: extra :: _ => dieUsage s!"extra operand {quoted extra}"

/-- Says what lies above paths. -/
def dirname (arguments : List String) : Tool Unit := do
  let p ← parse { letters := OptionTable.ofLetters ['z'], names := [("zero", 'z')] } arguments
  if p.operands.isEmpty then dieUsage "missing operand"
  for name in p.operands do
    out (parentName name.toList ++ [if p.has 'z' then '\x00' else '\n'])

/-! ## Numbers -/

/-- A decimal number as a whole number of parts, of which `10 ^ places` make one. -/
structure Decimal10 where
  parts : Int
  places : Nat
deriving DecidableEq, Repr, Inhabited

/-- The decimal number that a text stands for. -/
def decimal? (s : String) : Option Decimal10 :=
  let (negative, body) := match s.toList with
    | '-' :: rest => (true, rest)
    | '+' :: rest => (false, rest)
    | rest => (false, rest)
  let whole := body.takeWhile Char.isDigit
  let (fraction, rest) := match body.drop whole.length with
    | '.' :: more => (more.takeWhile Char.isDigit, more.dropWhile Char.isDigit)
    | more => ([], more)
  if (whole ++ fraction).isEmpty || !rest.isEmpty then none
  else
    let n : Int := (Shell.leadingNumber (whole ++ fraction)).1
    some ⟨if negative then -n else n, fraction.length⟩

/-- A number in finer parts. -/
def Decimal10.scale (d : Decimal10) (places : Nat) : Int := d.parts * Nat.pow 10 (places - d.places)

/-- The text of a number of parts. -/
def partsText (places : Nat) (n : Int) : List Char :=
  let digits := Nat.toDigits 10 n.natAbs
  let digits := List.replicate (places + 1 - digits.length) '0' ++ digits
  let cut := digits.length - places
  (if n < 0 then ['-'] else []) ++ digits.take cut ++
    (if places == 0 then [] else '.' :: digits.drop cut)

/-- A number with zeros between its sign and its digits up to a width. -/
def zeroFilled (width : Nat) (cs : List Char) : List Char :=
  match cs with
  | '-' :: rest => '-' :: (List.replicate (width - cs.length) '0' ++ rest)
  | _ => List.replicate (width - cs.length) '0' ++ cs

/-- Says numbers one after another. -/
def seq (arguments : List String) : Tool Unit := do
  let isNumber := fun (s : String) => (decimal? s).isSome
  let options := readOptions (arguments.length + 1) arguments isNumber
  let (p, operands) ← match options with
    | .ok found => pure found
    | .error text => dieUsage text
  if operands.isEmpty then dieUsage "missing operand"
  match operands.drop 3 with
  | extra :: _ => dieUsage s!"extra operand {quoted extra}"
  | [] => pure ()
  let numbers ← operands.mapM fun s => match decimal? s with
    | some d => pure d
    | none => dieUsage s!"invalid floating point argument: {quoted s}"
  let (first, step, last) : Decimal10 × Decimal10 × Decimal10 := match numbers with
    | [last] => (⟨1, 0⟩, ⟨1, 0⟩, last)
    | [first, last] => (first, ⟨1, 0⟩, last)
    | first :: step :: last :: _ => (first, step, last)
    | [] => (⟨1, 0⟩, ⟨1, 0⟩, ⟨0, 0⟩)
  if step.parts == 0 then
    let shown := quoted ((operands[1]?).getD "")
    dieUsage s!"invalid Zero increment value: {shown}"
  let places := max first.places step.places
  let fine := max places last.places
  let (a, d, z) := (first.scale fine, step.scale fine, last.scale fine)
  let count := if 0 < d then (if a ≤ z then ((z - a) / d).toNat + 1 else 0)
    else (if z ≤ a then ((a - z) / -d).toNat + 1 else 0)
  let shown := fun (n : Int) => partsText places (n / Nat.pow 10 (fine - places))
  let width := if p.has 'w' && 0 < count then
      max (shown a).length (shown (a + d * (count - 1 : Nat))).length
    else 0
  let text := fun (n : Int) => match p.value? 'f' with
    | some template => (Shell.fillTemplate template [String.ofList (shown n)]).output.reverse
    | none => zeroFilled width (shown n)
  let separator := ((p.value? 's').getD "\n").toList
  emit text separator a d count chunkLimit
where
  /-- Reads options in front of the numbers; a negative number is no option. -/
  readOptions (fuel : Nat) (arguments : List String) (isNumber : String → Bool) :
      Except String (Parsed × List String) :=
    let table : OptionTable :=
      { letters := OptionTable.ofLetters "f:s:w".toList, stopsEarly := true
        names := [("format", 'f'), ("separator", 's'), ("equal-width", 'w')] }
    let options := arguments.takeWhile (!isNumber ·)
    do
      let p ← table.read fuel options
      .ok (p, p.operands ++ arguments.drop options.length)
  /-- Writes numbers in pieces. -/
  emit (text : Int → List Char) (separator : List Char) (a d : Int) (count : Nat) :
      Nat → Tool Unit
    | 0 => pure ()
    | fuel + 1 => do
      let now := min count 1000
      let piece := (List.range now).flatMap fun k =>
        text (a + d * (k : Nat)) ++ if k + 1 == count then ['\n'] else separator
      out piece
      if now < count && (← get).writeError.isNone then
        emit text separator (a + d * (now : Nat)) d (count - now) fuel

/-! ## Time -/

/-- The nanoseconds of a unit. -/
def unitNanos : List Char → Option Nat
  | [] | ['s'] => some 1000000000
  | ['m'] => some 60000000000
  | ['h'] => some 3600000000000
  | ['d'] => some 86400000000000
  | _ => none

/-- The nanoseconds that a text stands for; one without an end is very long. -/
def nanosOf? (s : String) : Option Nat :=
  let isPart := fun (c : Char) => c.isDigit || c == '.'
  if s == "inf" || s == "infinity" then some (Nat.pow 10 24)
  else match decimal? (String.ofList (s.toList.takeWhile isPart)),
      unitNanos (s.toList.dropWhile isPart) with
    | some d, some unit => some (d.parts.toNat * unit / Nat.pow 10 d.places)
    | _, _ => none

/-- Waits for a while. -/
def sleep (arguments : List String) : Tool Unit := do
  let p ← parse {} arguments
  if p.operands.isEmpty then dieUsage "missing operand"
  let mut total := 0
  let mut isBad := false
  for text in p.operands do
    match nanosOf? text with
    | some n => total := total + n
    | none =>
      complain s!"invalid time interval {quoted text}"
      isBad := true
  if isBad then
    let name := (← get).name
    putError s!"Try '{name} --help' for more information.\n"
    quit 1
  let now ← ask .now
  ask (.sleepUntil (now + total))

/-! ## Programs -/

/-- The path of a file of a name that can be run in one of some directories. -/
def searchPath (name : String) : List String → SystemError → Tool (Except SystemError String)
  | [], e => return .error e
  | directory :: rest, e => do
    let path := if directory.isEmpty then name else s!"{directory}/{name}"
    match ← ask (.info (pathOf path) true) with
    | .ok info =>
      if info.kind == .regular && info.mode &&& 0o111 != 0 then return .ok path
      else searchPath name rest .denied
    | .error e' =>
      searchPath name rest (if e' == .noEntry || e' == .notDirectory then e else e')

/-- Becomes a program by name; gives why that is not possible. -/
def becomeNamed (arguments : List String) (environment : List (String × String)) :
    Tool SystemError := do
  let name := arguments.headD ""
  let path := (environment.lookup "PATH").getD "/bin:/usr/bin"
  let found ← if name.toList.contains '/' then pure (.ok name)
    else if name.isEmpty then pure (.error .noEntry)
    else searchPath name (path.splitOn ":") .noEntry
  match found with
  | .error e => return e
  | .ok file =>
    match ← ask (.execute (pathOf file) { arguments, environment }) with
    | .notExecutable =>
      ask (.execute (pathOf "/bin/sh")
        { arguments := "/bin/sh" :: file :: arguments.drop 1, environment })
    | e => return e

/-- The status if a program cannot be started. -/
def startStatus (e : SystemError) : Nat := if e == .noEntry then 127 else 126

/-- Sets variables of an environment. -/
def setName (environment : List (String × String)) (name value : String) :
    List (String × String) :=
  if environment.any (·.1 == name) then
    environment.map fun v => if v.1 == name then (name, value) else v
  else environment ++ [(name, value)]

/-- The name and the value of an assignment. -/
def assignment? (s : String) : Option (String × String) :=
  let name := s.toList.takeWhile (· != '=')
  match s.toList.drop name.length with
  | _ :: value => some (String.ofList name, String.ofList value)
  | [] => none

/-- Shows the environment or starts a program in another one. -/
def env (environment : List (String × String)) (arguments : List String) : Tool Unit := do
  let table : OptionTable :=
    { letters := OptionTable.ofLetters "i0u:C:S:v".toList, stopsEarly := true
      names := [("ignore-environment", 'i'), ("null", '0'), ("unset", 'u'), ("chdir", 'C'),
        ("split-string", 'S'), ("debug", 'v')] }
  let split := fun (s : String) => (s.toList.splitBy fun a b => (a == ' ') == (b == ' ')).filterMap
    fun word => if word.all (· == ' ') then none else some (String.ofList word)
  let arguments := match arguments with
    | "-S" :: text :: rest => split text ++ rest
    | first :: rest =>
      if first.startsWith "-S" then split (String.ofList (first.toList.drop 2)) ++ rest else arguments
    | [] => []
  let p ← parse table arguments 125
  let start := if p.has 'i' || p.operands.head? == some "-" then [] else environment
  let start := (p.values 'u').foldl (fun e name => e.filter fun v => v.1 != name) start
  let operands := if p.operands.head? == some "-" then p.operands.drop 1 else p.operands
  let assigned := operands.takeWhile fun s => s.toList.contains '='
  let full := (assigned.filterMap assignment?).foldl (fun e v => setName e v.1 v.2) start
  match p.value? 'C' with
  | some path =>
    match ← ask (.changeDirectory (pathOf path)) with
    | .ok () => pure ()
    | .error e => die s!"cannot change directory to {shellQuoted path}: {e.words}" 125
  | none => pure ()
  match operands.drop assigned.length with
  | [] =>
    for (name, value) in full do
      out (s!"{name}={value}".toList ++ [if p.has '0' then '\x00' else '\n'])
  | command =>
    let e ← becomeNamed command full
    let shown := shellQuoted (command.headD "")
    die s!"{shown}: {e.words}" (startStatus e)

/-- Shows values of the environment. -/
def printenv (environment : List (String × String)) (arguments : List String) : Tool Unit := do
  let p ← parse { letters := OptionTable.ofLetters ['0'], names := [("null", '0')] } arguments 2
  let ending := [if p.has '0' then '\x00' else '\n']
  if p.operands.isEmpty then
    for (name, value) in environment do
      out (s!"{name}={value}".toList ++ ending)
  else
    for name in p.operands do
      match environment.lookup name with
      | some value => out (value.toList ++ ending)
      | none => setStatus 1

/-- Becomes another program that does not mind being left alone. -/
def nohup (environment : List (String × String)) (arguments : List String) : Tool Unit := do
  if arguments.isEmpty then dieUsage "missing operand" 125
  let _ ← ask (.dispose 1 .ignored)
  let e ← becomeNamed arguments environment
  let shown := shellQuoted (arguments.headD "")
  die s!"failed to run command {shown}: {e.words}" (startStatus e)

/-! ## Conditions -/

/-- Tells whether a condition holds. -/
def test (isBracket : Bool) (arguments : List String) : Tool Unit := do
  if isBracket && arguments.getLast? != some "]" then die "missing ']'" 2
  let words := if isBracket then arguments.dropLast else arguments
  match ← ExceptT.lift (StateT.lift (Shell.Condition.judge words).run) with
  | .ok result => quit (if result then 0 else 1)
  | .error text => die text 2

/-! ## The directory and the user -/

/-- Says the directory at work. -/
def pwd (arguments : List String) : Tool Unit := do
  let _ ← parse { letters := OptionTable.ofLetters "LP".toList } arguments
  say (Text.Octets.ofBytes (← ask .currentDirectory).bytes ++ "\n")

/-- Says something that never changes. -/
def constant (text : String) : List String → Tool Unit := fun _ => say (text ++ "\n")

/-- Says who the user is. -/
def id (arguments : List String) : Tool Unit := do
  let p ← parse { letters := OptionTable.ofLetters "ugGnrz".toList } arguments
  if p.has 'u' || p.has 'g' || p.has 'G' then say (if p.has 'n' then "root\n" else "0\n")
  else say "uid=0(root) gid=0(root) groups=0(root)\n"

end Deadwood.Utility
