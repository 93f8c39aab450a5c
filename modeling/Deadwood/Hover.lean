import Deadwood.Definition

/-!
# Hovers

The text shown for a function whose name is under the cursor on the line of its definition. When
the word there is another one, the text has changed since the report, and nothing is shown.
-/

namespace Deadwood.Hover

/-- A place as hovers show it: the name of the file, or its whole path if it has none, and the line.
Formalises `location`. -/
def location (file : Path) (line : UInt32) : String :=
  let name := file.fileName?.elim file.text Text.Utf8.decodeLossy
  s!"{name}:{line.toNat}"

/-- The text about a function. Formalises `render`. -/
def render (f : FunctionRecord) : String :=
  let defined := location f.file f.line
  if f.usageCount == 0 then s!"**{f.name}** is unused, defined at `{defined}`"
  else
    let times := if f.usageCount == 1 then "time" else "times"
    let used := s!"**{f.name}** used {f.usageCount.toNat} {times}, defined at `{defined}`"
    match f.lastUsed with
    | some site => s!"{used}, last used at `{location site.file site.line}`"
    | none => used

/-- The text for a word on a line of a file. Formalises `hover_from_index`. -/
def at? (index : DefinitionIndex) (file : Path) (line : UInt32) (word : String) : Option String :=
  match index.lookup file line with
  | some f => if f.name == word then some (render f) else none
  | none => none

end Deadwood.Hover
