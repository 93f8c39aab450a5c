import Deadwood.Text.Blank
import Deadwood.Text.Quoted
import Deadwood.Text.WordChar

/-!
# Log lines

What the program says while it works. A filter decides by the topic and the level of a line
whether it is shown; of the rules that fit a topic the most specific one counts. A line is shown
without the control characters that terminals act on.
-/

namespace Deadwood

/-- How important a log line is. -/
inductive LogLevel where
  | error
  | warn
  | info
  | debug
  | trace
deriving DecidableEq, Repr, Inhabited

/-- How much has to be shown for a level to be among it. -/
def LogLevel.rank : LogLevel → Nat
  | .error => 1
  | .warn => 2
  | .info => 3
  | .debug => 4
  | .trace => 5

/-- The label of a level, five characters wide. -/
def LogLevel.label : LogLevel → String
  | .error => "ERROR"
  | .warn => " WARN"
  | .info => " INFO"
  | .debug => "DEBUG"
  | .trace => "TRACE"

/-- A log line. -/
structure LogLine where
  level : LogLevel
  topic : String
  message : String
  /-- What else there is to say, by name. -/
  details : List (String × String) := []
deriving DecidableEq, Repr, Inhabited

/-- A character of a message as it is shown: the controls that terminals act on are written by
number. -/
def LogLine.showChar (c : Char) : List Char :=
  let n := c.toNat
  if [0x07, 0x08, 0x0C, 0x1B, 0x7F].contains n then
    ['\\', 'x', Nat.digitChar (n / 16), Nat.digitChar (n % 16)]
  else if 0x80 ≤ n && n ≤ 0x9F then ['\\', 'u', '\x7b'] ++ Text.Quoted.hex n ++ ['\x7d']
  else [c]

/-- A log line as it is shown. -/
def LogLine.text (l : LogLine) : String :=
  let details := l.details.map fun d => " " ++ d.1 ++ "=" ++ d.2
  l.level.label ++ " " ++ String.ofList (l.message.toList.flatMap LogLine.showChar) ++
    String.join details

/-- A rule: how much is shown of some lines. -/
structure LogRule where
  /-- What the topics of the lines start with; without it the rule is for every topic. -/
  topic : Option (List Char) := none
  /-- A part that the lines need to have. -/
  part : Option (List Char) := none
  shown : Nat := 5
deriving DecidableEq, Repr, Inhabited

/-- A filter: its rules. Without a rule that fits, nothing is shown. -/
abbrev LogFilter := List LogRule

namespace LogRule

/-- How much a number says is shown. -/
def shownByNumber? (cs : List Char) : Option Nat :=
  let digits := match cs with
    | '+' :: rest => rest
    | _ => cs
  if digits.isEmpty || !digits.all Char.isDigit then none
  else
    let n := digits.foldl (fun n c => 10 * n + (c.toNat - 48)) 0
    if n ≤ 5 then some n else none

/-- How much a word or a number says is shown. -/
def shown? (cs : List Char) : Option Nat :=
  (shownByNumber? cs).or (match String.ofList (cs.map Char.toLower) with
    | "off" => some 0
    | "error" => some 1
    | "warn" => some 2
    | "info" => some 3
    | "debug" => some 4
    | "trace" => some 5
    | _ => none)

/-- How much is shown according to what stands behind an equals sign; all of it if nothing does. -/
def shownAfter? (cs : List Char) : Option Nat := if cs.isEmpty then some 5 else shown? cs

/-- The characters of a text from one place up to another. -/
def slice (cs : List Char) (start stop : Nat) : List Char := (cs.drop start).take (stop - start)

/-- The place of the first character, from a place on, that is one of two. -/
def findEither (cs : List Char) (start : Nat) (a b : Char) : Option (Nat × Char) :=
  let stop := start + ((cs.drop start).takeWhile fun c => c != a && c != b).length
  (cs[stop]?).map fun c => (stop, c)

/-- What stands behind the closing bracket of a rule: nothing, or an equals sign and how much is
shown. `cs` is the rule as it is written and `bare` the same without the blanks around it; places
are counted in `bare` and looked up in `cs`. -/
def readEnd (cs bare : List Char) (place : Nat) : Option Nat :=
  match bare[place]? with
  | none => some 5
  | some '=' => shownAfter? (cs.drop (place + 1))
  | some _ => none

/-- Reads the bracket of a rule, which starts before `start`. A scope or a value is asked for in it
by rules that fit no line, because lines stand in no scope. -/
def readBracket (cs bare : List Char) (topic : Option (List Char)) (start : Nat) :
    Option (List LogRule) :=
  match findEither bare start ']' '\x7b' with
  | none => none
  | some (stop, ']') => (readEnd cs bare (stop + 1)).map fun _ => []
  | some (stop, _) =>
    match findEither bare (stop + 1) '\x7d' '\x7d' with
    | none => none
    | some (close, _) =>
      let part := slice cs (stop + 1) close
      if part.isEmpty || bare[close + 1]? != some ']' then none
      else (readEnd cs bare (close + 2)).map fun shown =>
        if part.contains '=' || start < stop then []
        else [{ topic, part := some part, shown }]

/-- The rules that a text stands for: a topic, how much is shown, or both with an equals sign, and
perhaps a bracket behind the topic. A text of any other form stands for nothing. Blanks around the
rule are passed over, but the places in it are counted without them. -/
def ofList? (cs : List Char) : Option (List LogRule) :=
  let bare := Text.trimList Text.isBlank cs
  match bare with
  | [] => none
  | '[' :: _ => readBracket cs bare none 1
  | c :: _ =>
    if !(Text.isWordChar c || c == '-' || c == ':') then none
    else match findEither bare 0 '=' '[' with
      | none => some [match shown? cs with
        | some shown => { shown }
        | none => { topic := some cs }]
      | some (stop, '=') =>
        (shownAfter? (cs.drop (stop + 1))).map fun shown =>
          [{ topic := some (cs.take stop), shown }]
      | some (stop, _) => readBracket cs bare (some (cs.take stop)) (stop + 1)

/-- Whether a rule fits a line; the parts of a line are its message and its details. -/
def fits (r : LogRule) (l : LogLine) : Bool :=
  let parts := "message" :: l.details.map (·.1)
  r.topic.all (·.isPrefixOf l.topic.toList) &&
    r.part.all fun part => parts.contains (String.ofList part)

/-- How specific a rule is: by the length of its topic first, then by its part. -/
def weight (r : LogRule) : Nat := 2 * r.topic.elim 0 (·.length + 1) + r.part.elim 0 fun _ => 1

end LogRule

namespace LogFilter

/-- The filter of a program that is told nothing else. -/
def usual : LogFilter := [{ shown := 3 }]

/-- The filter that a text stands for: rules with commas between them. If one of them is none, the
text stands for no filter. -/
def ofString? (s : String) : Option LogFilter :=
  let texts := (s.splitOn ",").filter (!·.isEmpty)
  (texts.mapM fun t => LogRule.ofList? t.toList).map List.flatten

/-- The filter that a text stands for, or else the usual one. -/
def ofString (s : String) : LogFilter := (ofString? s).getD usual

/-- The filter that the variables of this program and of all programs ask for. The second counts if
the first is not set or stands for no filter. Formalises `env_filter`. -/
def ofVariables (own shared : Option String) : LogFilter :=
  ((own.bind ofString?).or (shared.bind ofString?)).getD usual

/-- How much is shown of what is like a line: what the most specific rule says, and of several
the last one. -/
def shown (f : LogFilter) (l : LogLine) : Nat :=
  let heavier := fun (best r : LogRule) => if best.weight ≤ r.weight then r else best
  ((List.filter (·.fits l) f).foldl heavier { shown := 0 }).shown

/-- Whether a line is shown. -/
def admits (f : LogFilter) (l : LogLine) : Bool := l.level.rank ≤ f.shown l

/-- The text of the lines that are shown. -/
def render (f : LogFilter) (lines : List LogLine) : String :=
  String.join ((lines.filter f.admits).map fun l => l.text ++ "\n")

end LogFilter

end Deadwood
