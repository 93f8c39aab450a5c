import Deadwood.Json.Schema
import Deadwood.Report.Basic

/-!
# The form of a report

Which objects are reports, and what report an object is, said without the reading of documents: a
test on the members of the object and of the records in it, and a reading field by field that takes
a default for what is missing. Neither depends on members that no report has, nor on which of its
two names the list of functions has.
-/

namespace Deadwood

open Json (Members)

/-! ## Forms of values -/

namespace Json

def isNull : Json → Bool
  | .null => true
  | _ => false

def isText : Json → Bool
  | .string _ => true
  | _ => false

def isArray : Json → Bool
  | .array _ => true
  | _ => false

/-- A whole number between two bounds. -/
def isWholeIn (low high : Int) : Json → Bool
  | .number (.whole n) => low ≤ n && n ≤ high
  | _ => false

/-- A list whose items all have one form. -/
def isListOf (form : Json → Bool) : Json → Bool
  | .array items => items.all form
  | _ => false

/-- An object whose members have one form. -/
def isObjectOf (form : Members → Bool) : Json → Bool
  | .object ms => form ms
  | _ => false

/-- The text of a value, empty if it is none. -/
def textD : Json → String
  | .string s => s
  | _ => ""

/-- The number of 32 bits that a value is, zero if it is none. -/
def word32D : Json → UInt32
  | .number (.whole n) => .ofNat n.toNat
  | _ => 0

/-- The items of a value, none if it is no list. -/
def itemsD : Json → List Json
  | .array items => items
  | _ => []

/-- The members of a value, none if it is no object. -/
def membersD : Json → Members
  | .object ms => ms
  | _ => []

namespace Members

/-- There is a value under a name, and it has a form. -/
def requires (ms : Members) (name : String) (form : Json → Bool) : Bool :=
  (ms.get? name).any form

/-- The value under a name has a form, if there is one. -/
def allows (ms : Members) (name : String) (form : Json → Bool) : Bool :=
  (ms.get? name).all form

/-- The value under a name, null if there is none. -/
def getD (ms : Members) (name : String) : Json := (ms.get? name).getD .null

end Members

end Json

/-! ## Forms of records -/

/-- The largest number of 32 bits. -/
def maxWord32 : Int := 4294967295

/-- Whether the members of an object are those of a usage site. -/
def UsageSite.isForm (ms : Members) : Bool :=
  ms.requires "file" (·.isText) && ms.requires "line" (·.isWholeIn 1 maxWord32)

/-- Whether the members of an object are those of a function. -/
def FunctionRecord.isForm (ms : Members) : Bool :=
  ms.requires "name" (·.isText) && ms.requires "file" (·.isText) &&
  ms.requires "line" (·.isWholeIn 1 maxWord32) &&
  ms.requires "usage_count" (·.isWholeIn 0 maxWord32) &&
  ms.allows "last_used" fun x => x.isNull || x.isObjectOf UsageSite.isForm

/-- Whether the members of an object are those of a comment. -/
def CommentRecord.isForm (ms : Members) : Bool :=
  ms.requires "file" (·.isText) && ms.requires "line" (·.isWholeIn 1 maxWord32) &&
  ms.allows "content" (·.isText)

/-- Whether the members of an object are those of a report: exactly one of the two names for the
list of functions is there. -/
def Report.isForm (ms : Members) : Bool :=
  ms.has "functions" != ms.has "unused_functions" &&
  ms.allows "functions" (·.isListOf (·.isObjectOf FunctionRecord.isForm)) &&
  ms.allows "unused_functions" (·.isListOf (·.isObjectOf FunctionRecord.isForm)) &&
  ms.allows "commented_code" (·.isListOf (·.isObjectOf CommentRecord.isForm))

/-! ## Field by field -/

/-- The usage site that members give. -/
def UsageSite.reading (ms : Members) : UsageSite where
  file := .ofText (ms.getD "file").textD
  line := (ms.getD "line").word32D

/-- The function that members give; without uses it has no last one. -/
def FunctionRecord.reading (ms : Members) : FunctionRecord where
  name := (ms.getD "name").textD
  file := .ofText (ms.getD "file").textD
  line := (ms.getD "line").word32D
  usageCount := (ms.getD "usage_count").word32D
  lastUsed :=
    if (ms.getD "usage_count").word32D = 0 then none
    else (ms.getD "last_used").asObject?.map UsageSite.reading

/-- The comment that members give. -/
def CommentRecord.reading (ms : Members) : CommentRecord where
  file := .ofText (ms.getD "file").textD
  line := (ms.getD "line").word32D
  content := (ms.getD "content").textD

/-- The report that members give, its functions under either name. -/
def Report.reading (ms : Members) : Report where
  functions := ((ms.getD "functions").itemsD ++ (ms.getD "unused_functions").itemsD).map
    fun x => FunctionRecord.reading x.membersD
  comments := (ms.getD "commented_code").itemsD.map fun x => CommentRecord.reading x.membersD

/-! ## What a report is read from -/

namespace Json

/-- Changes the items of a list. -/
def mapItems (f : Json → Json) : Json → Json
  | .array items => .array (items.map f)
  | x => x

/-- Changes the members of an object. -/
def mapMembers (f : Members → Members) : Json → Json
  | .object ms => .object (f ms)
  | x => x

/-- The members under some names only, their values changed. -/
def Members.pick (ms : Members) (fields : List (String × (Json → Json))) : Members :=
  fields.filterMap fun field => (ms.get? field.1).map fun x => (field.1, field.2 x)

end Json

/-- The members of a usage site, without all others. -/
def UsageSite.core (ms : Members) : Members := ms.pick [("file", id), ("line", id)]

/-- The members of a function, without all others. -/
def FunctionRecord.core (ms : Members) : Members :=
  ms.pick [("name", id), ("file", id), ("line", id), ("usage_count", id),
    ("last_used", Json.mapMembers UsageSite.core)]

/-- The members of a comment, without all others. -/
def CommentRecord.core (ms : Members) : Members :=
  ms.pick [("file", id), ("line", id), ("content", id)]

/-- The members of a report, without all others. The list of functions stands under its newer
name, unless it is there under both. -/
def Report.core (ms : Members) : Members :=
  let functions := Json.mapItems (Json.mapMembers FunctionRecord.core)
  let comments := Json.mapItems (Json.mapMembers CommentRecord.core)
  let known := ms.pick [("functions", functions), ("unused_functions", functions),
    ("commented_code", comments)]
  if ms.has "functions" then known
  else known.map fun member =>
    (if member.1 = "unused_functions" then "functions" else member.1, member.2)

/-! ## Records that are given as lists -/

/-- Whether a value in the place of a function, and its last use, are no lists of fields. -/
def FunctionRecord.isNamed (x : Json) : Bool :=
  !x.isArray && x.membersD.allows "last_used" fun y => !y.isArray

/-- Whether no record in a report is given as the list of its fields. -/
def Report.isNamed (ms : Members) : Bool :=
  (ms.getD "functions").itemsD.all FunctionRecord.isNamed &&
  (ms.getD "unused_functions").itemsD.all FunctionRecord.isNamed &&
  (ms.getD "commented_code").itemsD.all fun x => !x.isArray

/-! ## Members that do not matter -/

namespace Json

@[simp] theorem itemsD_null : Json.null.itemsD = [] := rfl

theorem isListOf_mapItems (form : Json → Bool) (f : Json → Json) (x : Json) :
    (x.mapItems f).isListOf form = x.isListOf (fun y => form (f y)) := by
  cases x <;> simp [mapItems, isListOf, Function.comp_def]

theorem itemsD_mapItems (f : Json → Json) (x : Json) :
    (x.mapItems f).itemsD = x.itemsD.map f := by
  cases x <;> simp [mapItems, itemsD]

theorem isObjectOf_mapMembers (form : Members → Bool) (f : Members → Members) (x : Json) :
    (x.mapMembers f).isObjectOf form = x.isObjectOf (fun ms => form (f ms)) := by
  cases x <;> rfl

theorem isArray_mapMembers (f : Members → Members) (x : Json) :
    (x.mapMembers f).isArray = x.isArray := by
  cases x <;> rfl

theorem isNull_mapMembers (f : Members → Members) (x : Json) :
    (x.mapMembers f).isNull = x.isNull := by
  cases x <;> rfl

theorem asObject?_mapMembers (f : Members → Members) (x : Json) :
    (x.mapMembers f).asObject? = x.asObject?.map f := by
  cases x <;> rfl

theorem membersD_mapMembers {f : Members → Members} (hf : f [] = []) (x : Json) :
    (x.mapMembers f).membersD = f x.membersD := by
  cases x with
  | object ms => rfl
  | _ => exact hf.symm

/-- What is picked under a name is what stands there, changed as the name asks. -/
theorem Members.get?_pick (ms : Members) (fields : List (String × (Json → Json)))
    (name : String) :
    (ms.pick fields).get? name = (fields.lookup name).bind fun f => (ms.get? name).map f := by
  induction fields with
  | nil => rfl
  | cons field fields ih =>
    obtain ⟨other, f⟩ := field
    have hpick : ms.pick ((other, f) :: fields) =
        ((ms.get? other).map fun x => (other, f x)).toList ++ ms.pick fields := by
      cases h : ms.get? other <;> simp [pick, h]
    rw [hpick, List.lookup_cons]
    by_cases hname : name = other
    · subst hname
      cases h : ms.get? name with
      | none => simp [ih, h]
      | some x => simp [get?_cons]
    · rw [beq_false_of_ne hname]
      cases ms.get? other <;> simp [get?_cons, hname, ih]

end Json

theorem UsageSite.isForm_core (ms : Members) : isForm (core ms) = isForm ms := by
  simp [isForm, core, Members.requires, Members.get?_pick, List.lookup_cons]

theorem UsageSite.reading_core (ms : Members) : reading (core ms) = reading ms := by
  simp [reading, core, Members.getD, Members.get?_pick, List.lookup_cons]

theorem FunctionRecord.isForm_core (ms : Members) : isForm (core ms) = isForm ms := by
  simp [isForm, core, Members.requires, Members.allows, Members.get?_pick, List.lookup_cons,
    Option.all_map, Json.isNull_mapMembers, Json.isObjectOf_mapMembers, UsageSite.isForm_core]

theorem FunctionRecord.reading_core (ms : Members) : reading (core ms) = reading ms := by
  have hlast : ((core ms).getD "last_used").asObject?.map UsageSite.reading =
      (ms.getD "last_used").asObject?.map UsageSite.reading := by
    simp only [core, Members.getD, Members.get?_pick, List.lookup_cons]
    cases ms.get? "last_used" with
    | none => rfl
    | some x => simp [Json.asObject?_mapMembers, Function.comp_def, UsageSite.reading_core]
  have hcount : (core ms).getD "usage_count" = ms.getD "usage_count" := by
    simp [core, Members.getD, Members.get?_pick, List.lookup_cons]
  rw [reading, reading, hlast, hcount]
  simp [core, Members.getD, Members.get?_pick, List.lookup_cons]

theorem FunctionRecord.isNamed_core (x : Json) : isNamed (x.mapMembers core) = isNamed x := by
  rw [isNamed, isNamed, Json.isArray_mapMembers, Json.membersD_mapMembers rfl]
  simp [core, Members.allows, Members.get?_pick, List.lookup_cons, Option.all_map,
    Json.isArray_mapMembers]

theorem CommentRecord.isForm_core (ms : Members) : isForm (core ms) = isForm ms := by
  simp [isForm, core, Members.requires, Members.allows, Members.get?_pick, List.lookup_cons]

theorem CommentRecord.reading_core (ms : Members) : reading (core ms) = reading ms := by
  simp [reading, core, Members.getD, Members.get?_pick, List.lookup_cons]

namespace Report

/-- Neither the form of a report nor its reading depends on members that no report has, or on
which of its two names the list of functions has. -/
theorem core_keeps (ms : Members) :
    isForm (core ms) = isForm ms ∧ reading (core ms) = reading ms ∧
      isNamed (core ms) = isNamed ms := by
  have hfunction (x : Json) := FunctionRecord.reading_core x.membersD
  have hcomment (x : Json) := CommentRecord.reading_core x.membersD
  simp only [← Json.membersD_mapMembers (rfl : FunctionRecord.core [] = [])] at hfunction
  simp only [← Json.membersD_mapMembers (rfl : CommentRecord.core [] = [])] at hcomment
  unfold core
  cases hnew : ms.get? "functions" <;> cases hold : ms.get? "unused_functions" <;>
    cases hcomments : ms.get? "commented_code" <;>
    simp [Members.has, Members.pick, Members.get?_cons, isForm, reading, isNamed, Members.allows,
      Members.getD, hnew, hold, hcomments, Json.isListOf_mapItems,
      Json.itemsD_mapItems, Json.isObjectOf_mapMembers, Json.isArray_mapMembers,
      FunctionRecord.isForm_core, CommentRecord.isForm_core, FunctionRecord.isNamed_core,
      hfunction, hcomment, Function.comp_def]

end Report

end Deadwood
