import Deadwood.Editor.Diagnostic
import Deadwood.Editor.Params
import Deadwood.Proofs.Json.Schema
import Mathlib.Data.List.Forall2

/-!
# The contents of messages

What the values in messages stand for, field by field and without reference to how they are read or
written. A value that an editor sends is read as what it stands for, and a value that an editor is
sent stands for what it was written for.
-/

namespace Deadwood.Editor

open Json (Decoder Members)

/-! ## Members -/

theorem member?_eq_some {name : String} {x y : Json} :
    member? name x = some y ↔ ∃ ms : Members, x = .object ms ∧ ms.get? name = some y := by
  cases x <;> simp [member?]

/-- A member is absent, or it is null. -/
def Lacks (name : String) (x : Json) : Prop :=
  member? name x = none ∨ member? name x = some .null

/-! ## Values -/

/-- A text stands for an address. -/
def DenotesUrl (x : Json) (url : Url) : Prop :=
  ∃ address : String, x = .string address ∧ Url.parse? address = some url

/-- A value is a whole number of 32 bits with a sign. -/
def IsInt32 (x : Json) : Prop :=
  ∃ n : Int, x = .number (.whole n) ∧ -2147483648 ≤ n ∧ n < 2147483648

/-- An object stands for a position. -/
structure DenotesPosition (x : Json) (p : Position) : Prop where
  line : member? "line" x = some (.nat p.line.toNat)
  character : member? "character" x = some (.nat p.character.toNat)

/-- An object stands for a range. -/
structure DenotesRange (x : Json) (r : Range) : Prop where
  start : ∃ y, member? "start" x = some y ∧ DenotesPosition y r.start
  stop : ∃ y, member? "end" x = some y ∧ DenotesPosition y r.stop

/-- An object names a document. -/
structure DenotesIdentifier (x : Json) (url : Url) : Prop where
  uri : ∃ y, member? "uri" x = some y ∧ DenotesUrl y url

/-- An object names a document in one of its versions. -/
structure DenotesVersioned (x : Json) (url : Url) : Prop extends DenotesIdentifier x url where
  version : ∃ y, member? "version" x = some y ∧ IsInt32 y

/-- An object is a document with its language, its version and its text. -/
structure DenotesItem (x : Json) (url : Url) (text : String) : Prop
    extends DenotesVersioned x url where
  languageId : ∃ language, member? "languageId" x = some (.string language)
  text : member? "text" x = some (.string text)

/-- An object stands for a change of a document. A change of the whole text has no range. -/
structure DenotesChange (x : Json) (c : TextChange) : Prop where
  range : match c.range with
    | none => Lacks "range" x
    | some r => ∃ y, member? "range" x = some y ∧ DenotesRange y r
  rangeLength : Lacks "rangeLength" x ∨
    ∃ n : UInt32, member? "rangeLength" x = some (.nat n.toNat)
  text : member? "text" x = some (.string c.text)

/-- A member says what the editor calls a piece of work, or it is left out. -/
def HoldsToken (name : String) (x : Json) : Prop :=
  Lacks name x ∨ (∃ s, member? name x = some (.string s)) ∨
    ∃ y, member? name x = some y ∧ IsInt32 y

/-- An object says for which document the editor wants the lenses. -/
structure DenotesLensRequest (x : Json) (url : Url) : Prop where
  document : ∃ y, member? "textDocument" x = some y ∧ DenotesIdentifier y url
  work : HoldsToken "workDoneToken" x
  part : HoldsToken "partialResultToken" x

/-- An object has a range. -/
def HasRange (x : Json) (r : Range) : Prop :=
  ∃ y, member? "range" x = some y ∧ DenotesRange y r

/-- The line on which the range of an object starts, as it is written. -/
def startLine? (x : Json) : Option Json :=
  (member? "range" x).bind fun range => (member? "start" range).bind (member? "line")

/-- Whether an object says that it is a warning. -/
def isWarning (x : Json) : Bool :=
  match member? "severity" x with
  | some (.number (.whole 2)) => true
  | _ => false

/-! ## Reading members -/

section Members

variable {α β : Type} {ms : Members} {name : String} {item : Decoder α}

theorem read_of_member {x : Json} {a : α} (h : member? name (.object ms) = some x)
    (ha : item x = .ok a) : ms.read name item = .ok (some a) :=
  Json.Members.read_eq_some.mpr ⟨x, h, ha⟩

theorem read_string_of_member {s : String} (h : member? name (.object ms) = some (.string s)) :
    ms.read name Json.stringDecoder = .ok (some s) :=
  read_of_member h rfl

/-- A member that is lacking is read as nothing. -/
theorem readOption_of_lacks (h : Lacks name (.object ms)) :
    ms.readOption name item = .ok none := by
  unfold Json.Members.readOption Json.Members.read
  rcases h with h | h
  · rw [show ms.get? name = none from h]
    rfl
  · rw [show ms.get? name = some .null from h]
    rfl

/-- A member that is neither lacking nor null is read as its value is. -/
theorem readOption_of_member {x : Json} {a : α} (h : member? name (.object ms) = some x)
    (hx : x ≠ .null) (ha : item x = .ok a) : ms.readOption name item = .ok (some a) := by
  have hoption : Json.optionDecoder item x = .ok (some a) :=
    Json.optionDecoder_eq_ok.mpr (Or.inr ⟨hx, a, ha, rfl⟩)
  unfold Json.Members.readOption
  rw [read_of_member h hoption]
  rfl

/-- Null stands for no contents, and is not an object. -/
theorem Params.read_of_ok {form : Decoder α} {x y : Json} {a : α}
    (h : member? name x = some y) (ha : form x = .ok a) : Params.read form x = .ok a := by
  obtain ⟨ms, rfl, _⟩ := member?_eq_some.mp h
  rw [Params.read, ha]
  · rfl
  · exact nofun

theorem Params.single_of_member {record : String} {x y : Json} {a : α}
    (h : member? name x = some y) (ha : item y = .ok a) :
    Params.single record name item x = .ok a := by
  obtain ⟨ms, rfl, _⟩ := member?_eq_some.mp h
  show (ms.read name item >>= Json.required name) = .ok a
  rw [read_of_member h ha]
  rfl

theorem Params.pair_of_members {record name' : String} {item' : Decoder β} {x y y' : Json} {a : α}
    {b : β} (h : member? name x = some y) (ha : item y = .ok a) (h' : member? name' x = some y')
    (hb : item' y' = .ok b) : Params.pair record name name' item item' x = .ok (a, b) := by
  obtain ⟨ms, rfl, _⟩ := member?_eq_some.mp h
  have hboth : Params.both ms name name' item item' = .ok (some a, some b) := by
    unfold Params.both
    rw [read_of_member h ha, read_of_member h' hb]
    split <;> rfl
  show (Params.both ms name name' item item' >>= _) = .ok (a, b)
  rw [hboth]
  rfl

end Members

/-! ## Reading what was sent -/

theorem DenotesUrl.decoder_eq {x : Json} {url : Url} (h : DenotesUrl x url) :
    Url.decoder x = .ok url := by
  obtain ⟨address, rfl, hparse⟩ := h
  simp only [Url.decoder, hparse]

theorem IsInt32.decoder_eq {x : Json} (h : IsInt32 x) :
    ∃ n, Json.int32Decoder x = .ok n := by
  obtain ⟨n, rfl, hlow, hhigh⟩ := h
  exact ⟨n, if_pos ⟨hlow, hhigh⟩⟩

theorem DenotesPosition.position_eq {x : Json} {p : Position} (h : DenotesPosition x p) :
    Params.position x = .ok p := by
  unfold Params.position
  rw [Params.pair_of_members h.line (Json.word32Decoder_eq_ok.mpr rfl) h.character
    (Json.word32Decoder_eq_ok.mpr rfl)]
  rfl

theorem DenotesRange.range_eq {x : Json} {r : Range} (h : DenotesRange x r) :
    Params.range x = .ok r := by
  obtain ⟨⟨y, hy, hstart⟩, ⟨z, hz, hstop⟩⟩ := h
  unfold Params.range
  rw [Params.pair_of_members hy hstart.position_eq hz hstop.position_eq]
  rfl

theorem DenotesIdentifier.identifier_eq {x : Json} {url : Url} (h : DenotesIdentifier x url) :
    Params.identifier x = .ok url := by
  obtain ⟨y, hy, hurl⟩ := h.uri
  exact Params.single_of_member hy hurl.decoder_eq

theorem DenotesVersioned.versionedIdentifier_eq {x : Json} {url : Url}
    (h : DenotesVersioned x url) : Params.versionedIdentifier x = .ok url := by
  obtain ⟨y, hy, hurl⟩ := h.uri
  obtain ⟨z, hz, hversion⟩ := h.version
  obtain ⟨n, hn⟩ := hversion.decoder_eq
  unfold Params.versionedIdentifier
  rw [Params.pair_of_members hy hurl.decoder_eq hz hn]
  rfl

theorem DenotesItem.item_eq {x : Json} {url : Url} {text : String} (h : DenotesItem x url text) :
    Params.item x = .ok (url, text) := by
  obtain ⟨y, hy, hurl⟩ := h.uri
  obtain ⟨z, hz, hversion⟩ := h.version
  obtain ⟨n, hn⟩ := hversion.decoder_eq
  obtain ⟨language, hlanguage⟩ := h.languageId
  obtain ⟨ms, rfl, _⟩ := member?_eq_some.mp hy
  show Params.itemOfMembers ms = .ok (url, text)
  unfold Params.itemOfMembers
  rw [read_string_of_member hlanguage, read_string_of_member h.text,
    read_of_member hy hurl.decoder_eq, read_of_member hz hn]
  rfl

/-- The length of what a change replaces is read, whatever it is. -/
theorem DenotesChange.readOption_rangeLength {ms : Members} {c : TextChange}
    (h : DenotesChange (.object ms) c) :
    ∃ n, ms.readOption "rangeLength" Json.word32Decoder = .ok n := by
  rcases h.rangeLength with hlacks | ⟨n, hn⟩
  · exact ⟨none, readOption_of_lacks hlacks⟩
  · exact ⟨some n, readOption_of_member hn nofun (Json.word32Decoder_eq_ok.mpr rfl)⟩

theorem DenotesChange.readOption_range {ms : Members} {c : TextChange}
    (h : DenotesChange (.object ms) c) : ms.readOption "range" Params.range = .ok c.range := by
  have hrange := h.range
  cases hc : c.range with
  | none =>
    rw [hc] at hrange
    exact readOption_of_lacks hrange
  | some r =>
    rw [hc] at hrange
    obtain ⟨y, hy, hr⟩ := hrange
    obtain ⟨z, hz, _⟩ := hr.start
    obtain ⟨ms', rfl, _⟩ := member?_eq_some.mp hz
    exact readOption_of_member hy nofun hr.range_eq

theorem DenotesChange.change_eq {x : Json} {c : TextChange} (h : DenotesChange x c) :
    Params.change x = .ok c := by
  obtain ⟨ms, rfl, _⟩ := member?_eq_some.mp h.text
  obtain ⟨n, hn⟩ := h.readOption_rangeLength
  show Params.changeOfMembers ms = .ok c
  unfold Params.changeOfMembers
  rw [h.readOption_range, hn, read_string_of_member h.text]
  rfl

/-- The changes of a message are read one by one. -/
theorem listDecoder_change_eq {items : List Json} {changes : List TextChange}
    (h : List.Forall₂ DenotesChange items changes) :
    Json.listDecoder Params.change (.array items) = .ok changes := by
  refine Json.listDecoder_eq_ok.mpr ⟨items, rfl, ?_⟩
  induction h with
  | nil => rfl
  | cons hfirst _ ih => rw [List.map_cons, List.map_cons, hfirst.change_eq, ih]

theorem HoldsToken.readOption_eq {ms : Members} {name : String}
    (h : HoldsToken name (.object ms)) : ∃ t, ms.readOption name Params.token = .ok t := by
  rcases h with hlacks | ⟨s, hs⟩ | ⟨y, hy, hint⟩
  · exact ⟨none, readOption_of_lacks hlacks⟩
  · exact ⟨some (), readOption_of_member hs nofun rfl⟩
  · obtain ⟨n, rfl, hlow, hhigh⟩ := hint
    have hn : Json.int32Decoder (.number (.whole n)) = .ok n := if_pos ⟨hlow, hhigh⟩
    exact ⟨some (), readOption_of_member hy nofun (by simp only [Params.token, hn])⟩

theorem DenotesLensRequest.read_eq {x : Json} {url : Url} (h : DenotesLensRequest x url) :
    Params.read Params.lenses x = .ok url := by
  obtain ⟨y, hy, hidentifier⟩ := h.document
  refine Params.read_of_ok hy ?_
  obtain ⟨ms, rfl, _⟩ := member?_eq_some.mp hy
  obtain ⟨t, ht⟩ := h.work.readOption_eq
  obtain ⟨u, hu⟩ := h.part.readOption_eq
  show (ms.read "textDocument" Params.identifier >>= _) = .ok url
  rw [read_of_member hy hidentifier.identifier_eq]
  show (ms.readOption "workDoneToken" Params.token >>= _) = .ok url
  rw [ht]
  show (ms.readOption "partialResultToken" Params.token >>= _) = .ok url
  rw [hu]
  rfl

/-! ## Writing -/

theorem denotesPosition_positionJson (p : Position) : DenotesPosition (positionJson p) p :=
  ⟨rfl, rfl⟩

theorem denotesRange_rangeJson (r : Range) : DenotesRange (rangeJson r) r :=
  ⟨⟨_, rfl, denotesPosition_positionJson r.start⟩, ⟨_, rfl, denotesPosition_positionJson r.stop⟩⟩

theorem hasRange_toJson (d : Diagnostic) : HasRange d.toJson d.range :=
  ⟨_, rfl, denotesRange_rangeJson d.range⟩

theorem hasRange_lensJson (l : Lens) : HasRange (lensJson l) (lensRange l) :=
  ⟨_, rfl, denotesRange_rangeJson (lensRange l)⟩

/-- Where a range starts is written in the object that has it. -/
theorem HasRange.startLine?_eq {x : Json} {r : Range} (h : HasRange x r) :
    startLine? x = some (.nat r.start.line.toNat) := by
  obtain ⟨y, hy, hrange⟩ := h
  obtain ⟨z, hz, hstart⟩ := hrange.start
  rw [startLine?, hy, Option.bind_some, hz, Option.bind_some, hstart.line]

theorem isWarning_toJson (d : Diagnostic) : isWarning d.toJson = (d.severity == .warning) := by
  obtain ⟨range, severity, message⟩ := d
  cases severity <;> rfl

/-! ## Lines -/

theorem one_le_of_ne_zero {line : UInt32} (h : line ≠ 0) : 1 ≤ line := by
  rw [UInt32.le_iff_toNat_le]
  have hne : line.toNat ≠ 0 := fun hzero => h (UInt32.toNat_inj.mp hzero)
  show 1 ≤ line.toNat
  omega

theorem zeroBased_eq {line : UInt32} (h : 1 ≤ line) : zeroBased line = line - 1 := by
  have hne : (line == 0) = false := by
    rw [beq_eq_false_iff_ne]
    rintro rfl
    cases (h : 1 ≤ 0)
  rw [zeroBased, hne]
  rfl

/-- Taking one from a line that counts from one does not wrap. -/
theorem toNat_sub_one {line : UInt32} (h : 1 ≤ line) : (line - 1).toNat + 1 = line.toNat := by
  have hle : 1 ≤ line.toNat := h
  rw [UInt32.toNat_sub_of_le _ _ h]
  show line.toNat - 1 + 1 = line.toNat
  omega

theorem toNat_zeroBased (line : UInt32) : (zeroBased line).toNat = line.toNat - 1 := by
  by_cases h : line = 0
  · rw [h]
    rfl
  · have hone := one_le_of_ne_zero h
    rw [zeroBased_eq hone, ← toNat_sub_one hone]
    rfl

/-- The range of a line goes from its start to that of the next line. -/
theorem lineRange_eq {line : UInt32} (h : 1 ≤ line) :
    lineRange line = ⟨⟨line - 1, 0⟩, ⟨line, 0⟩⟩ := by
  rw [lineRange, zeroBased_eq h, UInt32.sub_add_cancel]

theorem lensRange_eq {lens : Lens} (h : 1 ≤ lens.line) :
    lensRange lens = ⟨⟨lens.line - 1, 0⟩, ⟨lens.line - 1, 0⟩⟩ := by
  rw [lensRange, zeroBased_eq h]

end Deadwood.Editor
