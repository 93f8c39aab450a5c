import Deadwood.Failure
import Deadwood.Report.Decode
import Deadwood.Proofs.Json.RoundTrip
import Deadwood.Proofs.Json.Schema
import Deadwood.Proofs.Report.Form

/-!
# Which documents are reports

Reading a document gives a report iff its object is of the form of one, and gives the report that
the object is field by field. Each reading of a record is compared with the form of that record
first, then those of lists, then that of the whole.
-/

namespace Deadwood

open Json (Members Decoder Mismatch)

/-! ## What fields are read from -/

namespace Json.Members

variable {α : Type} {ms : Members} {name : String}

theorem read_string_eq_some {s : String} :
    ms.read name stringDecoder = .ok (some s) ↔
      ms.requires name (·.isText) = true ∧ (ms.getD name).textD = s := by
  rw [read_eq_some, requires, getD]
  cases ms.get? name with
  | none => simp
  | some x => cases x <;> simp [stringDecoder, isText, textD]

theorem read_path_eq_some {p : Path} :
    ms.read name Path.decoder = .ok (some p) ↔
      ms.requires name (·.isText) = true ∧ .ofText (ms.getD name).textD = p := by
  rw [read_eq_some, requires, getD]
  cases ms.get? name with
  | none => simp
  | some x => cases x <;> simp [Path.decoder, isText, textD]

/-- A number of 32 bits that is not below `low`. -/
theorem read_word32_eq_some {n : UInt32} {low : Nat} :
    ms.read name word32Decoder = .ok (some n) ∧ low ≤ n.toNat ↔
      ms.requires name (·.isWholeIn low maxWord32) = true ∧ (ms.getD name).word32D = n := by
  simp only [read_eq_some, requires, getD, word32Decoder_eq_ok]
  have hbound : n.toNat < 4294967296 := n.toNat_lt
  have hmax : maxWord32 = 4294967295 := rfl
  constructor
  · rintro ⟨⟨x, hx, rfl⟩, hlow⟩
    rw [hx]
    refine ⟨?_, UInt32.ofNat_toNat⟩
    simp only [Option.any_some, nat, isWholeIn, Bool.and_eq_true, decide_eq_true_eq]
    omega
  · rintro ⟨hform, hn⟩
    obtain ⟨x, hx, hwhole⟩ := (Option.any_eq_true _ _).mp hform
    rw [hx] at hn
    unfold isWholeIn at hwhole
    split at hwhole
    case _ k =>
      simp only [Bool.and_eq_true, decide_eq_true_eq] at hwhole
      have hsmall : k.toNat < 4294967296 := by omega
      have hk : n.toNat = k.toNat := by
        rw [← hn]
        exact UInt32.toNat_ofNat_of_lt' hsmall
      refine ⟨⟨_, hx, ?_⟩, by omega⟩
      rw [hk, nat, Int.toNat_of_nonneg (by omega)]
    case _ => cases hwhole

/-- A line number that is not zero. -/
theorem read_line_eq_some {n : UInt32} :
    ms.read name word32Decoder = .ok (some n) ∧ n ≠ 0 ↔
      ms.requires name (·.isWholeIn 1 maxWord32) = true ∧ (ms.getD name).word32D = n := by
  have hpos : n ≠ 0 ↔ 1 ≤ n.toNat := by
    rw [Ne, ← UInt32.toNat_inj]
    exact Nat.pos_iff_ne_zero.symm
  rw [hpos]
  exact read_word32_eq_some

/-- A count, which may be zero. -/
theorem read_count_eq_some {n : UInt32} :
    ms.read name word32Decoder = .ok (some n) ↔
      ms.requires name (·.isWholeIn 0 maxWord32) = true ∧ (ms.getD name).word32D = n :=
  (and_iff_left n.toNat.zero_le).symm.trans read_word32_eq_some

/-- A value that may be missing is read as its default or as what stands there. -/
theorem read_getD_eq {item : Decoder α} {default a : α} :
    (∃ o, ms.read name item = .ok o ∧ o.getD default = a) ↔
      ms.get? name = none ∧ default = a ∨ ∃ x, ms.get? name = some x ∧ item x = .ok a := by
  unfold read
  cases ms.get? name with
  | none => simp
  | some x =>
    simp only [map_eq_ok, reduceCtorEq, false_and, false_or, Option.some.injEq, exists_eq_left']
    constructor
    · rintro ⟨_, ⟨a, ha, rfl⟩, rfl⟩
      exact ha
    · intro ha
      exact ⟨_, ⟨a, ha, rfl⟩, rfl⟩

end Json.Members

/-! ## Single records -/

theorem UsageSite.ofMembers_eq_ok {ms : Members} {u : UsageSite} :
    UsageSite.ofMembers ms = .ok u ↔
      ms.read "file" Path.decoder = .ok (some u.file) ∧
      ms.read "line" Json.word32Decoder = .ok (some u.line) := by
  simp only [UsageSite.ofMembers, Json.bind_eq_ok, Json.pure_eq_ok, Json.required_eq_ok]
  constructor
  · rintro ⟨_, hfile, _, hline, file, rfl, line, rfl, rfl⟩
    exact ⟨hfile, hline⟩
  · rintro ⟨hfile, hline⟩
    exact ⟨_, hfile, _, hline, _, rfl, _, rfl, rfl⟩

/-- A usage site with a line that is not zero is read from exactly the objects of its form. -/
theorem UsageSite.ofMembers_iff_isForm {ms : Members} {u : UsageSite} :
    UsageSite.ofMembers ms = .ok u ∧ u.line ≠ 0 ↔ isForm ms = true ∧ reading ms = u := by
  rw [ofMembers_eq_ok, and_assoc, Members.read_path_eq_some, Members.read_line_eq_some]
  obtain ⟨file, line⟩ := u
  simp only [isForm, reading, Bool.and_eq_true, UsageSite.mk.injEq]
  exact and_and_and_comm

theorem FunctionRecord.ofMembers_eq_ok {ms : Members} {f : FunctionRecord} :
    FunctionRecord.ofMembers ms = .ok f ↔
      ms.read "name" Json.stringDecoder = .ok (some f.name) ∧
      ms.read "file" Path.decoder = .ok (some f.file) ∧
      ms.read "line" Json.word32Decoder = .ok (some f.line) ∧
      ms.read "usage_count" Json.word32Decoder = .ok (some f.usageCount) ∧
      ∃ lastUsed, ms.read "last_used" (Json.optionDecoder UsageSite.decoder) = .ok lastUsed ∧
        lastUsed.getD none = f.lastUsed := by
  simp only [FunctionRecord.ofMembers, Json.bind_eq_ok, Json.pure_eq_ok, Json.required_eq_ok]
  constructor
  · rintro ⟨_, hfile, _, hlast, _, hline, _, hname, _, hcount, _, rfl, _, rfl, _, rfl, _, rfl, rfl⟩
    exact ⟨hname, hfile, hline, hcount, _, hlast, rfl⟩
  · rintro ⟨hname, hfile, hline, hcount, _, hlast, hlastUsed⟩
    exact ⟨_, hfile, _, hlast, _, hline, _, hname, _, hcount, _, rfl, _, rfl, _, rfl, _, rfl,
      by rw [hlastUsed]⟩

theorem Report.functionFlaw?_eq_none {f : FunctionRecord} :
    Report.functionFlaw? f = none ↔ f.line ≠ 0 ∧ ∀ u, f.lastUsed = some u → u.line ≠ 0 := by
  unfold Report.functionFlaw?
  by_cases hline : f.line = 0
  · simp [hline]
  · cases f.lastUsed <;> simp [hline]

theorem Report.dropStaleUse_mk (name : String) (file : Path) (line count : UInt32)
    (last : Option UsageSite) :
    Report.dropStaleUse ⟨name, file, line, count, last⟩ =
      ⟨name, file, line, count, if count = 0 then none else last⟩ := by
  by_cases hcount : count = 0 <;> simp [Report.dropStaleUse, FunctionRecord.isUnused, hcount]

/-- A last use is missing, null or an object of its form. -/
theorem FunctionRecord.lastUsed_iff_isForm {ms : Members} {o : Option UsageSite}
    (hlist : ms.allows "last_used" (fun y => !y.isArray) = true) :
    (∃ lastUsed, ms.read "last_used" (Json.optionDecoder UsageSite.decoder) = .ok lastUsed ∧
        lastUsed.getD none = o) ∧ (∀ u, o = some u → u.line ≠ 0) ↔
      ms.allows "last_used" (fun x => x.isNull || x.isObjectOf UsageSite.isForm) = true ∧
        (ms.getD "last_used").asObject?.map UsageSite.reading = o := by
  rw [Members.read_getD_eq]
  unfold Members.allows Members.getD at *
  cases hget : ms.get? "last_used" with
  | none => simp +contextual [Json.asObject?, eq_comm]
  | some x =>
    cases x with
    | object us =>
      cases o with
      | none => simp [Json.optionDecoder, Json.map_eq_ok, Json.asObject?]
      | some u =>
        simpa [Json.optionDecoder, Json.map_eq_ok, Json.asObject?, Json.isNull, Json.isObjectOf,
          UsageSite.decoder, Json.recordDecoder] using
          UsageSite.ofMembers_iff_isForm (u := u)
    | array items => simp [hget, Json.isArray] at hlist
    | null => simp +contextual [Json.optionDecoder, Json.asObject?, Json.isNull, eq_comm]
    | _ => simp [Json.optionDecoder, Json.isNull, Json.isObjectOf, UsageSite.decoder,
        Json.recordDecoder, Except.map]

/-- A function without a flaw, freed of a stale last use, is read from exactly the objects of its
form. -/
theorem FunctionRecord.decoder_iff_isForm {x : Json} {g : FunctionRecord}
    (hnamed : isNamed x = true) :
    (∃ f, FunctionRecord.decoder x = .ok f ∧ Report.functionFlaw? f = none ∧
        Report.dropStaleUse f = g) ↔
      x.isObjectOf isForm = true ∧ reading x.membersD = g := by
  simp only [isNamed, Bool.and_eq_true, Bool.not_eq_true'] at hnamed
  obtain ⟨hx, hlist⟩ := hnamed
  cases x with
  | object ms =>
    simp only [Json.membersD] at hlist
    simp only [decoder, Json.recordDecoder, ofMembers_eq_ok, Report.functionFlaw?_eq_none,
      Json.isObjectOf, Json.membersD, isForm, Bool.and_eq_true]
    constructor
    · rintro ⟨⟨name, file, line, count, last⟩, ⟨hname, hfile, hline, hcount, hlast⟩,
        ⟨hpos, hsite⟩, rfl⟩
      obtain ⟨hname', rfl⟩ := Members.read_string_eq_some.mp hname
      obtain ⟨hfile', rfl⟩ := Members.read_path_eq_some.mp hfile
      obtain ⟨hline', rfl⟩ := Members.read_line_eq_some.mp ⟨hline, hpos⟩
      obtain ⟨hcount', rfl⟩ := Members.read_count_eq_some.mp hcount
      obtain ⟨hlast', rfl⟩ := (lastUsed_iff_isForm hlist).mp ⟨hlast, hsite⟩
      exact ⟨⟨⟨⟨⟨hname', hfile'⟩, hline'⟩, hcount'⟩, hlast'⟩, (Report.dropStaleUse_mk ..).symm⟩
    · rintro ⟨⟨⟨⟨⟨hname, hfile⟩, hline⟩, hcount⟩, hlast⟩, rfl⟩
      obtain ⟨hline', hpos⟩ := Members.read_line_eq_some.mpr ⟨hline, rfl⟩
      obtain ⟨hlast', hsite⟩ := (lastUsed_iff_isForm hlist).mpr ⟨hlast, rfl⟩
      have hname' := Members.read_string_eq_some.mpr ⟨hname, rfl⟩
      have hfile' := Members.read_path_eq_some.mpr ⟨hfile, rfl⟩
      have hcount' := Members.read_count_eq_some.mpr ⟨hcount, rfl⟩
      exact ⟨⟨_, _, _, _, _⟩, ⟨hname', hfile', hline', hcount', hlast'⟩, ⟨hpos, hsite⟩,
        Report.dropStaleUse_mk ..⟩
  | array items => cases hx
  | _ => simp [decoder, Json.recordDecoder, Json.isObjectOf]

theorem CommentRecord.ofMembers_eq_ok {ms : Members} {c : CommentRecord} :
    CommentRecord.ofMembers ms = .ok c ↔
      ms.read "file" Path.decoder = .ok (some c.file) ∧
      ms.read "line" Json.word32Decoder = .ok (some c.line) ∧
      ∃ content, ms.read "content" Json.stringDecoder = .ok content ∧
        content.getD "" = c.content := by
  simp only [CommentRecord.ofMembers, Json.bind_eq_ok, Json.pure_eq_ok, Json.required_eq_ok]
  constructor
  · rintro ⟨_, hcontent, _, hfile, _, hline, _, rfl, _, rfl, rfl⟩
    exact ⟨hfile, hline, _, hcontent, rfl⟩
  · rintro ⟨hfile, hline, _, hcontent, hc⟩
    exact ⟨_, hcontent, _, hfile, _, hline, _, rfl, _, rfl, by rw [hc]⟩

theorem Report.commentFlaw?_eq_none {c : CommentRecord} :
    Report.commentFlaw? c = none ↔ c.line ≠ 0 := by
  simp [Report.commentFlaw?]

/-- The content of a comment may be missing. -/
theorem CommentRecord.content_iff_isForm {ms : Members} {s : String} :
    (∃ content, ms.read "content" Json.stringDecoder = .ok content ∧ content.getD "" = s) ↔
      ms.allows "content" (·.isText) = true ∧ (ms.getD "content").textD = s := by
  rw [Members.read_getD_eq, Members.allows, Members.getD]
  cases ms.get? "content" with
  | none => simp [Json.textD]
  | some x => cases x <;> simp [Json.stringDecoder, Json.isText, Json.textD]

/-- A comment without a flaw is read from exactly the objects of its form. -/
theorem CommentRecord.decoder_iff_isForm {x : Json} {d : CommentRecord}
    (hnamed : x.isArray = false) :
    (∃ c, CommentRecord.decoder x = .ok c ∧ Report.commentFlaw? c = none ∧ c = d) ↔
      x.isObjectOf isForm = true ∧ reading x.membersD = d := by
  cases x with
  | object ms =>
    simp only [decoder, Json.recordDecoder, ofMembers_eq_ok, Report.commentFlaw?_eq_none,
      Json.isObjectOf, Json.membersD, isForm, Bool.and_eq_true, content_iff_isForm,
      Members.read_path_eq_some]
    constructor
    · rintro ⟨⟨file, line, content⟩, ⟨⟨hfile, rfl⟩, hline, hcontent, rfl⟩, hpos, rfl⟩
      obtain ⟨hline', rfl⟩ := Members.read_line_eq_some.mp ⟨hline, hpos⟩
      exact ⟨⟨⟨hfile, hline'⟩, hcontent⟩, rfl⟩
    · rintro ⟨⟨⟨hfile, hline⟩, hcontent⟩, rfl⟩
      obtain ⟨hline', hpos⟩ := Members.read_line_eq_some.mpr ⟨hline, rfl⟩
      exact ⟨⟨_, _, _⟩, ⟨⟨hfile, rfl⟩, hline', hcontent, rfl⟩, hpos, rfl⟩
  | array items => cases hnamed
  | _ => simp [decoder, Json.recordDecoder, Json.isObjectOf]

/-! ## Lists of records -/

/-- If items are read, and without a flaw, from exactly the values of a form, then so are lists from
the lists of such values. -/
theorem Report.listDecoder_iff_isListOf {α : Type} {item : Decoder α} {flaw? : α → Option Flaw}
    (clean : α → α) {form : Json → Bool} {reading : Json → α} {x : Json} (bs : List α)
    (hitem : ∀ y ∈ x.itemsD, ∀ b,
      (∃ a, item y = .ok a ∧ flaw? a = none ∧ clean a = b) ↔ form y = true ∧ reading y = b) :
    (∃ as, Json.listDecoder item x = .ok as ∧ as.findSome? flaw? = none ∧ as.map clean = bs) ↔
      x.isListOf form = true ∧ x.itemsD.map reading = bs := by
  cases x with
  | array items =>
    simp only [Json.listDecoder, Json.mapM_eq_ok, Json.isListOf, Json.itemsD] at hitem ⊢
    induction items generalizing bs with
    | nil => simp
    | cons y items ih =>
      obtain ⟨hy, hitems⟩ := List.forall_mem_cons.mp hitem
      have ih (bs : List α) := @ih bs hitems
      rw [List.all_cons, Bool.and_eq_true]
      constructor
      · rintro ⟨_ | ⟨a, as⟩, hread, hflaw, rfl⟩
        · cases hread
        · obtain ⟨ha, has⟩ := List.cons.inj hread
          rw [List.findSome?_cons] at hflaw
          cases hfa : flaw? a with
          | some flaw => simp [hfa] at hflaw
          | none =>
            rw [hfa] at hflaw
            obtain ⟨hform, hreading⟩ := (hy _).mp ⟨a, ha, hfa, rfl⟩
            obtain ⟨hforms, hreadings⟩ := (ih _).mp ⟨as, has, hflaw, rfl⟩
            exact ⟨⟨hform, hforms⟩, by rw [List.map_cons, hreading, hreadings, List.map_cons]⟩
      · rintro ⟨⟨hform, hforms⟩, rfl⟩
        obtain ⟨a, ha, hfa, hclean⟩ := (hy _).mpr ⟨hform, rfl⟩
        obtain ⟨as, has, hflaw, hcleans⟩ := (ih _).mpr ⟨hforms, rfl⟩
        refine ⟨a :: as, by rw [List.map_cons, ha, has, List.map_cons], ?_, ?_⟩
        · rw [List.findSome?_cons, hfa, hflaw]
        · rw [List.map_cons, hclean, hcleans, List.map_cons]
  | _ => simp [Json.listDecoder, Json.isListOf]

/-! ## Whole reports -/

namespace Report

theorem functionsOf_eq_ok {ms : Members} {fs : List FunctionRecord} :
    functionsOf ms = .ok fs ↔
      ms.read "functions" (Json.listDecoder FunctionRecord.decoder) = .ok (some fs) ∧
          ms.get? "unused_functions" = none ∨
        ms.get? "functions" = none ∧
          ms.read "unused_functions" (Json.listDecoder FunctionRecord.decoder) = .ok (some fs) := by
  rw [functionsOf]
  cases hnew : ms.get? "functions" <;> cases hold : ms.get? "unused_functions" <;>
    simp [Members.read, Members.has, hnew, hold, Json.bind_eq_ok, Json.map_eq_ok,
      Json.required_eq_ok, throw, throwThe, MonadExceptOf.throw]

theorem ofMembers_eq_ok {ms : Members} {r : Report} :
    ofMembers ms = .ok r ↔
      (∃ comments, ms.read "commented_code" (Json.listDecoder CommentRecord.decoder) =
        .ok comments ∧ comments.getD [] = r.comments) ∧
      functionsOf ms = .ok r.functions := by
  simp only [ofMembers, Json.bind_eq_ok, Json.pure_eq_ok]
  constructor
  · rintro ⟨_, hcomments, _, hfunctions, rfl⟩
    exact ⟨⟨_, hcomments, rfl⟩, hfunctions⟩
  · rintro ⟨⟨_, hcomments, hr⟩, hfunctions⟩
    exact ⟨_, hcomments, _, hfunctions, by rw [hr]⟩

theorem lineFlaw?_eq_none {r : Report} :
    lineFlaw? r = none ↔
      r.functions.findSome? functionFlaw? = none ∧ r.comments.findSome? commentFlaw? = none := by
  rw [lineFlaw?, Option.or_eq_none_iff]

/-- What a document has to pass for its report to be given. -/
theorem decode_eq_ok {b : List UInt8} {x : Json} {r : Report} (hread : Json.read b = .ok x) :
    decode b = .ok r ↔
      reportedError? x = none ∧
        ∃ raw, decoder x = .ok raw ∧ lineFlaw? raw = none ∧ normalize raw = r := by
  rw [decode, decodeRaw, hread, Json.map_eq_ok]
  cases herror : reportedError? x with
  | some text => simp [herror]
  | none =>
    cases hraw : decoder x with
    | error mismatch => simp [herror, hraw]
    | ok raw => cases hline : lineFlaw? raw <;> simp [herror, hraw, hline]

/-- The functions of a report, if they are of their form under exactly one of the two names. -/
theorem functionsOf_iff_isForm {ms : Members} {fs : List FunctionRecord}
    (hnew : (ms.getD "functions").itemsD.all FunctionRecord.isNamed = true)
    (hold : (ms.getD "unused_functions").itemsD.all FunctionRecord.isNamed = true) :
    (∃ raw, functionsOf ms = .ok raw ∧ raw.findSome? functionFlaw? = none ∧
        raw.map dropStaleUse = fs) ↔
      (ms.has "functions" != ms.has "unused_functions" &&
        ms.allows "functions" (·.isListOf (·.isObjectOf FunctionRecord.isForm)) &&
        ms.allows "unused_functions" (·.isListOf (·.isObjectOf FunctionRecord.isForm))) = true ∧
      ((ms.getD "functions").itemsD ++ (ms.getD "unused_functions").itemsD).map
        (fun x => FunctionRecord.reading x.membersD) = fs := by
  have hlist (x : Json) (h : x.itemsD.all FunctionRecord.isNamed = true) :=
    listDecoder_iff_isListOf dropStaleUse fs fun y hy g =>
      FunctionRecord.decoder_iff_isForm (x := y) (g := g) (List.all_eq_true.mp h y hy)
  simp only [functionsOf_eq_ok, Members.read_eq_some, Members.has, Members.allows, Members.getD]
    at hnew hold ⊢
  cases hfunctions : ms.get? "functions" with
  | none =>
    cases holder : ms.get? "unused_functions" with
    | none => simp
    | some x => simpa [Json.itemsD] using hlist x (by simpa [holder] using hold)
  | some x =>
    cases ms.get? "unused_functions" with
    | none => simpa [Json.itemsD] using hlist x (by simpa [hfunctions] using hnew)
    | some y => simp

/-- The comments of a report, if they are of their form. -/
theorem comments_iff_isForm {ms : Members} {cs : List CommentRecord}
    (hnamed : (ms.getD "commented_code").itemsD.all (fun x => !x.isArray) = true) :
    (∃ comments, ms.read "commented_code" (Json.listDecoder CommentRecord.decoder) =
        .ok comments ∧ comments.getD [] = cs) ∧ cs.findSome? commentFlaw? = none ↔
      ms.allows "commented_code" (·.isListOf (·.isObjectOf CommentRecord.isForm)) = true ∧
      (ms.getD "commented_code").itemsD.map (fun x => CommentRecord.reading x.membersD) = cs := by
  rw [Members.read_getD_eq]
  unfold Members.allows Members.getD at *
  cases hget : ms.get? "commented_code" with
  | none => simp +contextual [Json.itemsD, eq_comm]
  | some x =>
    rw [hget] at hnamed
    have hlist := listDecoder_iff_isListOf id cs fun y hy d =>
      CommentRecord.decoder_iff_isForm (x := y) (d := d)
        (by simpa using List.all_eq_true.mp hnamed y hy)
    simpa using hlist

/-- Beside a list of functions, a complaint of the analyzer is not looked at. -/
theorem reportedError?_eq_none {ms : Members} {fs : List FunctionRecord}
    (h : functionsOf ms = .ok fs) : reportedError? (.object ms) = none := by
  have hlist : (ms.has "functions" || ms.has "unused_functions") = true := by
    rw [functionsOf_eq_ok] at h
    rcases h with ⟨h, _⟩ | ⟨_, h⟩
    all_goals
      obtain ⟨x, hx, _⟩ := Members.read_eq_some.mp h
      simp [Members.has, hx]
  rw [reportedError?, if_pos hlist]

/-- A document whose records are objects gives a report iff it is of the form of one, and then
gives the report that is read field by field. -/
theorem decode_iff_isForm {b : List UInt8} {ms : Members} (hread : Json.read b = .ok (.object ms))
    (hnamed : isNamed ms = true) {r : Report} :
    decode b = .ok r ↔ isForm ms = true ∧ reading ms = r := by
  simp only [isNamed, Bool.and_eq_true] at hnamed
  obtain ⟨⟨hnew, hold⟩, hcomments⟩ := hnamed
  have hform : isForm ms = true ∧ reading ms = r ↔
      (∃ raw, functionsOf ms = .ok raw ∧ raw.findSome? functionFlaw? = none ∧
        raw.map dropStaleUse = r.functions) ∧
      (∃ comments, ms.read "commented_code" (Json.listDecoder CommentRecord.decoder) =
        .ok comments ∧ comments.getD [] = r.comments) ∧
      r.comments.findSome? commentFlaw? = none := by
    rw [functionsOf_iff_isForm hnew hold, comments_iff_isForm hcomments, isForm,
      Bool.and_eq_true]
    obtain ⟨functions, comments⟩ := r
    simp only [reading, Report.mk.injEq]
    exact and_and_and_comm
  rw [hform, decode_eq_ok hread]
  simp only [decoder, Json.recordDecoder, ofMembers_eq_ok, lineFlaw?_eq_none]
  constructor
  · rintro ⟨-, raw, ⟨hread, hfunctions⟩, ⟨hflaws, hflaws'⟩, rfl⟩
    exact ⟨⟨raw.functions, hfunctions, hflaws, rfl⟩, hread, hflaws'⟩
  · rintro ⟨⟨functions, hfunctions, hflaws, hclean⟩, hread, hflaws'⟩
    exact ⟨reportedError?_eq_none hfunctions, ⟨functions, r.comments⟩, ⟨hread, hfunctions⟩,
      ⟨hflaws, hflaws'⟩, by rw [normalize, hclean]⟩

/-- Reading a document that is an object, with all records in it objects, gives a report iff the
object is of the form of one. It is the one that is read field by field, and stays the same when
members that no report has come or go and when the list of functions is given under its other
name. All else is a malformed report. -/
theorem decode_accepts_form (b : List UInt8) (ms : Members)
    (hread : Json.read b = .ok (.object ms)) (hnamed : isNamed ms = true) :
    (∀ r, decode b = .ok r ↔ isForm ms = true ∧ reading ms = r) ∧
    (isForm ms = false →
      ∃ flaw, (decode b).mapError Failure.malformed = .error (.malformed flaw)) ∧
    ∀ b' ms', Json.read b' = .ok (.object ms') → core ms' = core ms →
      ∀ r, decode b' = .ok r ↔ decode b = .ok r := by
  refine ⟨fun r => decode_iff_isForm hread hnamed, fun hform => ?_, fun b' ms' hread' hcore r => ?_⟩
  · cases hdecode : decode b with
    | error flaw => exact ⟨flaw, rfl⟩
    | ok r =>
      have hform' := ((decode_iff_isForm hread hnamed).mp hdecode).1
      simp [hform] at hform'
  · obtain ⟨hform, hreading, hlists⟩ := core_keeps ms
    obtain ⟨hform', hreading', hlists'⟩ := core_keeps ms'
    rw [hcore] at hform' hreading' hlists'
    have hnamed' : isNamed ms' = true := by rw [← hlists', hlists, hnamed]
    rw [decode_iff_isForm hread' hnamed', decode_iff_isForm hread hnamed, ← hform', ← hreading',
      hform, hreading]

/-- A report among members that no report has, a complaint of the analyzer with them, and with its
functions under their older name. -/
def amongStrangers : Members :=
  [("error", .string "none found"),
    ("unused_functions", .array [.object [("name", .string "f"), ("file", .string "a.py"),
      ("line", .nat 4294967295), ("usage_count", .nat 2), ("kind", .null),
      ("last_used", .object [("file", .string "b.py"), ("line", .nat 1), ("column", .null)])]]),
    ("commented_code", .array [.object [("file", .string "a.py"), ("line", .nat 2),
      ("score", .bool true)]])]

/-- The same report without them, and with its functions under their newer name. -/
def alone : Members :=
  [("functions", .array [.object [("name", .string "f"), ("file", .string "a.py"),
      ("line", .nat 4294967295), ("usage_count", .nat 2),
      ("last_used", .object [("file", .string "b.py"), ("line", .nat 1)])]]),
    ("commented_code", .array [.object [("file", .string "a.py"), ("line", .nat 2)]])]

theorem decode_accepts_form_amongStrangers :
    let ms := Members.ofList (Json.membersAsRead amongStrangers)
    let r : Report :=
      { functions := [⟨"f", .ofText "a.py", 4294967295, 2, some ⟨.ofText "b.py", 1⟩⟩]
        comments := [⟨.ofText "a.py", 2, ""⟩] }
    Json.read (Json.object amongStrangers).toBytes = .ok (.object ms) ∧ isNamed ms = true ∧
      decode (Json.object amongStrangers).toBytes = .ok r ∧
      decode (Json.object alone).toBytes = .ok r := by
  intro ms r
  have hreadable : Json.Readable (122 + 5) (.object amongStrangers) := by
    simp only [amongStrangers, Json.readable_object_cons, Json.readable_object_nil,
      Json.readable_array_iff, List.forall_mem_singleton, and_true]
    exact ⟨.string .., ⟨.string .., .string .., .nat _ (by decide), .nat _ (by decide), .null _,
      .string .., .nat _ (by decide), .null _⟩, .string .., .nat _ (by decide), .bool ..⟩
  have hreadable' : Json.Readable (122 + 5) (.object alone) := by
    simp only [alone, Json.readable_object_cons, Json.readable_object_nil,
      Json.readable_array_iff, List.forall_mem_singleton, and_true]
    exact ⟨⟨.string .., .string .., .nat _ (by decide), .nat _ (by decide), .string ..,
      .nat _ (by decide)⟩, .string .., .nat _ (by decide)⟩
  have hread := Json.read_toBytes hreadable
  have hnamed : isNamed ms = true := by decide +kernel
  obtain ⟨haccepts, -, hsame⟩ := decode_accepts_form _ ms hread hnamed
  have hdecode := (haccepts r).mpr ⟨by decide +kernel, by decide +kernel⟩
  exact ⟨hread, hnamed, hdecode, (hsame _ _ (Json.read_toBytes hreadable') rfl r).mpr hdecode⟩

end Report

end Deadwood
