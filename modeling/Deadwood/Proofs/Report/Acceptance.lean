import Deadwood.Proofs.Json.Grammar
import Deadwood.Proofs.Report.Schema

/-!
# What accepted documents are

A document that gives a report is JSON, and it has a list of functions. If it is an object, the
list is one of its members, under either of the two names. But a report is also read from the list
of its fields without their names, and then it is the report of the object with those fields.
-/

namespace Deadwood.Report

open Json (Members)

/-- Whether a value is an object with a list of functions, under either of the two names. -/
def hasFunctions : Json → Bool :=
  Json.isObjectOf fun ms =>
    ms.requires "functions" (·.isArray) || ms.requires "unused_functions" (·.isArray)

/-- The fields of a report by their names, if there are as many as a report can have. -/
def named : List Json → Members
  | [functions] => [("functions", functions)]
  | [functions, comments] => [("commented_code", comments), ("functions", functions)]
  | _ => []

/-! ## Reports with names -/

/-- A list that is read is one. -/
theorem requires_isArray_of_read {α : Type} {item : Json.Decoder α} {ms : Members} {name : String}
    {as : List α} (h : ms.read name (Json.listDecoder item) = .ok (some as)) :
    ms.requires name (·.isArray) = true := by
  obtain ⟨x, hget, hlist⟩ := Members.read_eq_some.mp h
  obtain ⟨items, rfl, -⟩ := Json.listDecoder_eq_ok.mp hlist
  rw [Members.requires, hget]
  rfl

/-- Members that give a report have a list of functions. -/
theorem hasFunctions_of_ofMembers {ms : Members} {raw : Report} (h : ofMembers ms = .ok raw) :
    hasFunctions (.object ms) = true := by
  obtain ⟨-, hfunctions⟩ := ofMembers_eq_ok.mp h
  show (_ || _) = true
  rw [Bool.or_eq_true]
  rcases functionsOf_eq_ok.mp hfunctions with ⟨hnew, -⟩ | ⟨-, hold⟩
  · exact Or.inl (requires_isArray_of_read hnew)
  · exact Or.inr (requires_isArray_of_read hold)

/-! ## Reports without names -/

theorem ofFields_eq_ok {items : List Json} {raw : Report} :
    ofFields items = .ok raw ↔
      (∃ x, items[0]? = some x ∧
        Json.listDecoder FunctionRecord.decoder x = .ok raw.functions) ∧
      (items[1]? = none ∧ [] = raw.comments ∨ ∃ x, items[1]? = some x ∧
        Json.listDecoder CommentRecord.decoder x = .ok raw.comments) ∧
      items.length ≤ 2 := by
  simp only [ofFields, Json.bind_eq_ok, Json.pure_eq_ok, Json.Fields.read_eq_ok,
    Json.Fields.readD_eq_ok, Json.Fields.noMore_eq_ok]
  constructor
  · rintro ⟨_, hfunctions, _, hcomments, _, hlength, rfl⟩
    exact ⟨hfunctions, hcomments, hlength⟩
  · rintro ⟨hfunctions, hcomments, hlength⟩
    exact ⟨_, hfunctions, _, hcomments, (), hlength, rfl⟩

/-- A list gives the report that its items give under their names, and no other. -/
theorem ofFields_iff_named {items : List Json} {raw : Report} :
    ofFields items = .ok raw ↔ ofMembers (named items) = .ok raw := by
  rw [ofFields_eq_ok, ofMembers_eq_ok, functionsOf_eq_ok, Members.read_getD_eq]
  simp only [Members.read_eq_some]
  rcases items with _ | ⟨functions, _ | ⟨comments, _ | ⟨x, rest⟩⟩⟩
  · simp [named]
  · simp [named, Members.get?_cons, and_comm]
  · simp [named, Members.get?_cons, and_comm]
  · simp [named]

/-- A document that is a list gives the report of the object with the same fields. -/
theorem decode_of_named {document other : List UInt8} {items : List Json} {r : Report}
    (hlist : Json.read document = .ok (.array items))
    (hobject : Json.read other = .ok (.object (named items))) :
    decode document = .ok r ↔ decode other = .ok r := by
  rw [decode_eq_ok hlist, decode_eq_ok hobject]
  show _ ∧ (∃ raw, ofFields items = .ok raw ∧ _) ↔
    _ ∧ (∃ raw, ofMembers (named items) = .ok raw ∧ _)
  constructor
  · rintro ⟨-, raw, hraw, hrest⟩
    have hraw := ofFields_iff_named.mp hraw
    exact ⟨reportedError?_eq_none (ofMembers_eq_ok.mp hraw).2, raw, hraw, hrest⟩
  · rintro ⟨-, raw, hraw, hrest⟩
    exact ⟨rfl, raw, ofFields_iff_named.mpr hraw, hrest⟩

/-! ## Documents -/

/-- What gives a report is one document. It is an object with a list of functions unless it is a
list, and a list gives what the object with the same fields gives. -/
theorem isDocument_of_decode {document : List UInt8} {r : Report} (h : decode document = .ok r) :
    ∃ x, Json.read document = .ok x ∧ Json.IsDocument document x ∧
      (hasFunctions x = true ↔ x.isArray = false) ∧
      ∀ items, x = .array items → hasFunctions (.object (named items)) = true ∧
        ∀ other, Json.read other = .ok (.object (named items)) → decode other = .ok r := by
  cases hread : Json.read document with
  | error fault =>
    rw [decode, decodeRaw, hread] at h
    cases h
  | ok x =>
    obtain ⟨-, raw, hraw, -⟩ := (decode_eq_ok hread).mp h
    refine ⟨x, rfl, Json.isDocument_of_read hread, ?_, ?_⟩
    · -- only objects and lists are read as records
      cases x with
      | object ms => exact iff_of_true (hasFunctions_of_ofMembers hraw) rfl
      | array items => exact iff_of_false Bool.false_ne_true Bool.noConfusion
      | _ => cases hraw
    · rintro items rfl
      refine ⟨hasFunctions_of_ofMembers (ofFields_iff_named.mp hraw), ?_⟩
      intro other hother
      exact (decode_of_named hread hother).mp h

/-- A report with the older name for its functions, and a member that no report has. -/
def olderDocument : Json := .object [("unused_functions", .array []), ("version", .nat 2)]

theorem isDocument_of_decode_older :
    decode olderDocument.toBytes = .ok ⟨[], []⟩ ∧
      ∃ x, Json.IsDocument olderDocument.toBytes x ∧ hasFunctions x = true := by
  have hreadable : Json.Readable (126 + 1) olderDocument := by
    simp only [olderDocument, Json.readable_object_cons, Json.readable_object_nil, and_true]
    exact ⟨.array fun _ h => absurd h List.not_mem_nil, .nat _ (by decide)⟩
  have hread : Json.read olderDocument.toBytes = .ok olderDocument := Json.read_toBytes hreadable
  have hdecode : decode olderDocument.toBytes = .ok ⟨[], []⟩ :=
    (decode_eq_ok hread).mpr ⟨rfl, _, rfl, rfl, rfl⟩
  obtain ⟨x, hx, hdocument, hobject, -⟩ := isDocument_of_decode hdecode
  obtain rfl : olderDocument = x := Except.ok.inj (hread.symm.trans hx)
  exact ⟨hdecode, _, hdocument, hobject.mpr rfl⟩

/-- The document `[[]]` is no object, and it is accepted as the empty report. -/
theorem decode_list_of_fields :
    Json.read [91, 91, 93, 93] = .ok (.array [.array []]) ∧
      hasFunctions (.array [.array []]) = false ∧ decode [91, 91, 93, 93] = .ok ⟨[], []⟩ :=
  ⟨rfl, rfl, rfl⟩

end Deadwood.Report
