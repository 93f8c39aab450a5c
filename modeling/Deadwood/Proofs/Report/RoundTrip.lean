import Deadwood.Failure
import Deadwood.Report.Decode
import Deadwood.Report.Encode
import Deadwood.Proofs.Json.RoundTrip
import Deadwood.Proofs.Report.Schema

/-!
# Reading written reports back

What is read of a written report is the report itself, but for the last uses of functions that are
not used. A line number that is zero is refused, the first one in the order of the report. So the
reports that come back as they were are those whose lines count from one and whose last uses agree
with the counts.
-/

namespace Deadwood

open Json (Members)

/-! ## Records after they are read -/

theorem Json.word32Decoder_word32 (n : UInt32) : word32Decoder (word32 n) = .ok n :=
  word32Decoder_eq_ok.mpr rfl

theorem Json.asRead_word32 (n : UInt32) : (word32 n).asRead = word32 n := by
  rw [word32, nat, asRead]

namespace Path

theorem text_ofText (s : String) : (ofText s).text = s := Text.Utf8.decodeLossy_encode s

theorem isText_iff {p : Path} : p.isText = true ↔ ∃ s, p = .ofText s := by
  rw [isText, beq_iff_eq]
  constructor
  · intro h
    exact ⟨p.text, h.symm⟩
  · rintro ⟨s, rfl⟩
    rw [text_ofText]

theorem decoder_toJson {p : Path} (h : p.isText = true) : Path.decoder p.toJson.asRead = .ok p := by
  rw [isText, beq_iff_eq] at h
  rw [toJson, Json.asRead, decoder, h]

end Path

theorem UsageSite.decoder_toJson {u : UsageSite} (h : u.file.isText = true) :
    UsageSite.decoder u.toJson.asRead = .ok u := by
  rw [toJson, Json.asRead, decoder, Json.recordDecoder, ofMembers_eq_ok]
  simp only [Members.read_eq_some, Json.membersAsRead, Members.ofList, List.foldl_cons,
    List.foldl_nil, Members.get?_insert, Json.asRead_word32]
  exact ⟨⟨_, rfl, Path.decoder_toJson h⟩, ⟨_, rfl, Json.word32Decoder_word32 _⟩⟩

theorem UsageSite.asRead_toJson_ne_null (u : UsageSite) : u.toJson.asRead ≠ .null := by
  rw [toJson, Json.asRead]
  intro h
  cases h

theorem FunctionRecord.decoder_toJson {f : FunctionRecord} (hfile : f.file.isText = true)
    (hsite : ∀ u, f.lastUsed = some u → u.file.isText = true) :
    FunctionRecord.decoder f.toJson.asRead = .ok f := by
  rw [toJson, Json.asRead, decoder, Json.recordDecoder, ofMembers_eq_ok]
  simp only [Members.read_eq_some, Members.read_getD_eq]
  -- only the last member depends on whether there is a last use
  cases hlast : f.lastUsed <;>
    simp only [List.cons_append, List.nil_append, Json.membersAsRead, Members.ofList,
      List.foldl_cons, List.foldl_nil, Members.get?_insert, Json.asRead_word32] <;>
    refine ⟨⟨_, rfl, rfl⟩, ⟨_, rfl, Path.decoder_toJson hfile⟩,
      ⟨_, rfl, Json.word32Decoder_word32 _⟩, ⟨_, rfl, Json.word32Decoder_word32 _⟩, ?_⟩
  case none => exact .inl ⟨rfl, trivial⟩
  case some u =>
    have hu : Json.optionDecoder UsageSite.decoder u.toJson.asRead = .ok (some u) :=
      Json.optionDecoder_eq_ok.mpr
        (.inr ⟨u.asRead_toJson_ne_null, u, UsageSite.decoder_toJson (hsite u hlast), rfl⟩)
    exact .inr ⟨_, rfl, hu⟩

theorem CommentRecord.decoder_toJson {c : CommentRecord} (h : c.file.isText = true) :
    CommentRecord.decoder c.toJson.asRead = .ok c := by
  rw [toJson, Json.asRead, decoder, Json.recordDecoder, ofMembers_eq_ok]
  simp only [Members.read_eq_some, Members.read_getD_eq, Json.membersAsRead, Members.ofList,
    List.foldl_cons, List.foldl_nil, Members.get?_insert, Json.asRead_word32]
  exact ⟨⟨_, rfl, Path.decoder_toJson h⟩, ⟨_, rfl, Json.word32Decoder_word32 _⟩,
    .inr ⟨_, rfl, rfl⟩⟩

/-- A list of records is read back when each of them is. -/
theorem Json.listDecoder_asRead {α : Type} {item : Json.Decoder α} {toJson : α → Json}
    {xs : List α} (h : ∀ x ∈ xs, item (toJson x).asRead = .ok x) :
    Json.listDecoder item (Json.array (xs.map toJson)).asRead = .ok xs := by
  rw [asRead, itemsAsRead_eq_map, List.map_map, listDecoder_eq_ok]
  exact ⟨_, rfl, by rw [List.map_map]; exact List.map_congr_left h⟩

/-! ## What is written can be read -/

theorem Json.readable_word32 (depth : Nat) (n : UInt32) : Json.Readable depth (Json.word32 n) := by
  refine .nat depth ?_
  have hbound : n.toNat < 4294967296 := n.toNat_lt
  have hmax : maxWord = 18446744073709551615 := rfl
  omega

theorem UsageSite.readable_toJson (depth : Nat) (u : UsageSite) :
    Json.Readable (depth + 1) u.toJson := by
  simp only [toJson, Json.readable_object_cons]
  exact ⟨.string .., Json.readable_word32 .., Json.readable_object_nil _⟩

theorem FunctionRecord.readable_toJson (depth : Nat) (f : FunctionRecord) :
    Json.Readable (depth + 2) f.toJson := by
  rw [toJson]
  simp only [List.cons_append, List.nil_append, Json.readable_object_cons]
  refine ⟨.string .., .string .., Json.readable_word32 .., Json.readable_word32 .., ?_⟩
  cases f.lastUsed with
  | none => exact Json.readable_object_nil _
  | some u =>
    exact Json.readable_object_cons.mpr ⟨u.readable_toJson depth, Json.readable_object_nil _⟩

theorem CommentRecord.readable_toJson (depth : Nat) (c : CommentRecord) :
    Json.Readable (depth + 1) c.toJson := by
  simp only [toJson, Json.readable_object_cons]
  exact ⟨.string .., Json.readable_word32 .., .string .., Json.readable_object_nil _⟩

theorem Report.readable_toJson (depth : Nat) (r : Report) :
    Json.Readable (depth + 4) r.toJson := by
  simp only [toJson, Json.readable_object_cons, Json.readable_array_iff, List.forall_mem_map]
  exact ⟨fun f _ => f.readable_toJson depth, fun c _ => c.readable_toJson (depth + 1),
    Json.readable_object_nil _⟩

/-! ## Reports after they are read -/

namespace Report

theorem mem_paths {r : Report} {p : Path} :
    p ∈ r.paths ↔
      (∃ f ∈ r.functions, p = f.file ∨ ∃ u, f.lastUsed = some u ∧ p = u.file) ∨
        ∃ c ∈ r.comments, p = c.file := by
  simp [paths, eq_comm]

/-- Before its lines are looked at, a written report is read back as it is. -/
theorem decoder_toJson {r : Report} (h : ∀ p ∈ r.paths, p.isText = true) :
    decoder r.toJson.asRead = .ok r := by
  have hfunctions : Json.listDecoder FunctionRecord.decoder
      (Json.array (r.functions.map (·.toJson))).asRead = .ok r.functions := by
    refine Json.listDecoder_asRead fun f hf => FunctionRecord.decoder_toJson ?_ fun u hu => ?_
    · exact h _ (mem_paths.mpr (.inl ⟨f, hf, .inl rfl⟩))
    · exact h _ (mem_paths.mpr (.inl ⟨f, hf, .inr ⟨u, hu, rfl⟩⟩))
  have hcomments : Json.listDecoder CommentRecord.decoder
      (Json.array (r.comments.map (·.toJson))).asRead = .ok r.comments :=
    Json.listDecoder_asRead fun c hc =>
      CommentRecord.decoder_toJson (h _ (mem_paths.mpr (.inr ⟨c, hc, rfl⟩)))
  rw [toJson, Json.asRead, decoder, Json.recordDecoder, ofMembers_eq_ok, functionsOf_eq_ok]
  simp only [Members.read_eq_some, Members.read_getD_eq, Json.membersAsRead, Members.ofList,
    List.foldl_cons, List.foldl_nil, Members.get?_insert]
  exact ⟨.inr ⟨_, rfl, hcomments⟩, .inl ⟨⟨_, rfl, hfunctions⟩, rfl⟩⟩

/-- A written report says nothing of an error. -/
theorem reportedError?_toJson (r : Report) : reportedError? r.toJson.asRead = none := by
  rw [toJson, Json.asRead, reportedError?]
  simp only [Json.membersAsRead, Members.ofList, List.foldl_cons, List.foldl_nil, Members.has,
    Members.get?_insert]
  rfl

/-! ## Lines in order -/

/-- A line number of a report, with what has it and the file it is in. -/
structure NumberedLine where
  owner : LineOwner
  file : Path
  line : UInt32

/-- The line numbers of a function, its own before that of its last use. -/
def linesOf (f : FunctionRecord) : List NumberedLine :=
  ⟨.function f.name, f.file, f.line⟩ ::
    f.lastUsed.toList.map fun u => ⟨.lastUse f.name, u.file, u.line⟩

/-- All line numbers of a report, those of functions before those of comments. -/
def lines (r : Report) : List NumberedLine :=
  r.functions.flatMap linesOf ++ r.comments.map fun c => ⟨.comment, c.file, c.line⟩

/-- The flaw of a line number, if it is zero. -/
def NumberedLine.flaw? (l : NumberedLine) : Option Flaw :=
  if l.line == 0 then some (.zeroLine l.owner l.file) else none

theorem findSome?_flaw? (ls : List NumberedLine) :
    ls.findSome? NumberedLine.flaw? =
      (ls.find? (·.line == 0)).map fun l => .zeroLine l.owner l.file := by
  induction ls with
  | nil => rfl
  | cons l ls ih =>
    rw [List.findSome?_cons, List.find?_cons, ih, NumberedLine.flaw?]
    cases l.line == 0 <;> rfl

theorem functionFlaw?_eq_findSome? (f : FunctionRecord) :
    functionFlaw? f = (linesOf f).findSome? NumberedLine.flaw? := by
  rw [linesOf, List.findSome?_cons, functionFlaw?]
  by_cases hline : f.line = 0
  · simp [NumberedLine.flaw?, hline]
  · cases f.lastUsed <;> simp [NumberedLine.flaw?, hline]

/-- The flaw of a report is that of the first of its lines that is zero. -/
theorem lineFlaw?_eq_find? (r : Report) :
    lineFlaw? r = (r.lines.find? (·.line == 0)).map fun l => .zeroLine l.owner l.file := by
  have hfunctions : r.functions.findSome? functionFlaw? =
      (r.functions.flatMap linesOf).findSome? NumberedLine.flaw? := by
    induction r.functions with
    | nil => rfl
    | cons f fs ih =>
      rw [List.flatMap_cons, List.findSome?_append, ← functionFlaw?_eq_findSome?, ← ih,
        List.findSome?_cons]
      cases functionFlaw? f <;> rfl
  have hcomments : r.comments.findSome? commentFlaw? =
      (r.comments.map fun c => (⟨.comment, c.file, c.line⟩ : NumberedLine)).findSome?
        NumberedLine.flaw? := by
    rw [List.findSome?_map]
    rfl
  rw [← findSome?_flaw?, lineFlaw?, lines, List.findSome?_append, hfunctions, hcomments]

/-- A report whose lines count from one and whose last uses agree with the counts of uses. -/
structure Consistent (r : Report) : Prop where
  lines_ne_zero : ∀ l ∈ r.lines, l.line ≠ 0
  lastUsed_eq_none : ∀ f ∈ r.functions, f.usageCount = 0 → f.lastUsed = none

/-- The report without last uses of functions that are not used. -/
def withoutStaleUses (r : Report) : Report :=
  { r with functions := r.functions.map fun f =>
      { f with lastUsed := if f.usageCount = 0 then none else f.lastUsed } }

theorem normalize_eq_withoutStaleUses (r : Report) : normalize r = r.withoutStaleUses := by
  rw [normalize, withoutStaleUses]
  congr 2
  funext f
  exact dropStaleUse_mk ..

theorem withoutStaleUses_eq_self_iff {r : Report} :
    r.withoutStaleUses = r ↔ ∀ f ∈ r.functions, f.usageCount = 0 → f.lastUsed = none := by
  have hfield (f : FunctionRecord) :
      { f with lastUsed := if f.usageCount = 0 then none else f.lastUsed } = f ↔
        (f.usageCount = 0 → f.lastUsed = none) := by
    obtain ⟨name, file, line, count, last⟩ := f
    by_cases hcount : count = 0 <;> simp [hcount, eq_comm]
  obtain ⟨functions, comments⟩ := r
  simp only [withoutStaleUses, Report.mk.injEq, and_true]
  calc functions.map _ = functions
    _ ↔ functions.map _ = functions.map id := by rw [List.map_id]
    _ ↔ ∀ f ∈ functions, { f with lastUsed := if f.usageCount = 0 then none else f.lastUsed } = f :=
      List.map_inj_left
    _ ↔ ∀ f ∈ functions, f.usageCount = 0 → f.lastUsed = none :=
      forall_congr' fun f => imp_congr_right fun _ => hfield f

/-- Reading the bytes of a written report: the first line that is zero is refused, all else comes
back but for stale last uses. -/
theorem decode_toBytes {r : Report} (h : ∀ p ∈ r.paths, p.isText = true) :
    decode r.toJson.toBytes =
      match r.lines.find? (·.line == 0) with
      | some l => .error (.zeroLine l.owner l.file)
      | none => .ok r.withoutStaleUses := by
  have hread : Json.read r.toJson.toBytes = .ok r.toJson.asRead :=
    Json.read_toBytes (r.readable_toJson 123)
  rw [decode, decodeRaw, hread]
  simp only [reportedError?_toJson, decoder_toJson h, lineFlaw?_eq_find?]
  cases r.lines.find? (·.line == 0) with
  | some flaw => rfl
  | none => exact congrArg Except.ok (normalize_eq_withoutStaleUses r)

/-- Every report whose paths are texts can be written, and then read. If none of its lines is
zero, it comes back in full, but for the last uses of functions without uses; else the first line
that is zero makes it malformed. It comes back as it was iff it is consistent. -/
theorem decode_encode? (r : Report) :
    ((∃ b, r.encode? = some b) ↔ ∀ p ∈ r.paths, ∃ s, p = .ofText s) ∧
    ∀ b, r.encode? = some b →
      (decode b).mapError Failure.malformed =
        (match r.lines.find? (·.line == 0) with
        | some l => .error (.malformed (.zeroLine l.owner l.file))
        | none => .ok r.withoutStaleUses) ∧
      (decode b = .ok r ↔ r.Consistent) := by
  have hall : r.paths.all (·.isText) = true ↔ ∀ p ∈ r.paths, p.isText = true := List.all_eq_true
  refine ⟨?_, fun b hb => ?_⟩
  · simp only [encode?, Option.ite_none_right_eq_some, exists_and_left, hall, Path.isText_iff]
    exact and_iff_left ⟨_, rfl⟩
  · simp only [encode?, Option.ite_none_right_eq_some, hall, Option.some.injEq] at hb
    obtain ⟨htexts, rfl⟩ := hb
    have hconsistent : r.Consistent ↔
        r.lines.find? (·.line == 0) = none ∧ r.withoutStaleUses = r := by
      rw [withoutStaleUses_eq_self_iff, List.find?_eq_none]
      simp only [beq_iff_eq]
      exact ⟨fun h => ⟨h.1, h.2⟩, fun h => ⟨h.1, h.2⟩⟩
    rw [decode_toBytes htexts, hconsistent]
    cases r.lines.find? (·.line == 0) with
    | some l => exact ⟨rfl, by simp⟩
    | none => exact ⟨rfl, by simp⟩

/-- A report with characters that have to be escaped, and with a last use that does not come
back. -/
def escaped : Report where
  functions := [
    ⟨"a\"\\\n\u0001", .ofText "é/😀.py", 4294967295, 3, some ⟨.ofText "b.py", 1⟩⟩,
    ⟨"", .ofText "", 7, 0, some ⟨.ofText "b.py", 2⟩⟩]
  comments := [⟨.ofText "\t", 1, "x = 1"⟩]

theorem decode_encode?_escaped :
    escaped.encode? = some escaped.toJson.toBytes ∧
      (decode escaped.toJson.toBytes).mapError Failure.malformed = .ok escaped.withoutStaleUses ∧
      ¬decode escaped.toJson.toBytes = .ok escaped := by
  have hencode : escaped.encode? = some escaped.toJson.toBytes := if_pos (by decide +kernel)
  have hlines : escaped.lines.find? (·.line == 0) = none := by decide +kernel
  obtain ⟨hdecode, hsame⟩ := (decode_encode? escaped).2 _ hencode
  rw [hlines] at hdecode
  refine ⟨hencode, hdecode, fun h => ?_⟩
  have hlast := (hsame.mp h).lastUsed_eq_none _ (List.mem_cons_of_mem _ List.mem_cons_self) rfl
  cases hlast

end Report

end Deadwood
