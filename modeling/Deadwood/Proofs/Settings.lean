import Deadwood.Settings.Json
import Deadwood.Proofs.Report.RoundTrip

/-!
# Settings given in part

An editor may name some settings only, and may send more than there are settings. What is then read
is said here field by field: a setting that is named has the value that was given for it, null
included where that means none, and every other one has its default. This holds at each of the three
levels apart, so that to name the analyzer without any of its settings changes nothing.

* `Excerpt.get?_of` : what is found among members that were kept or added;
* `AnalyzerSettings.decoder_excerpt`, `FindingSettings.decoder_excerpt` : the two inner levels;
* `Settings.ofOptions_excerpt` : all three levels.
-/

namespace Deadwood

open Json (Members Decoder)

/-! ## Parts of an object -/

namespace Json

/-- Which members of an object are kept, by their names, and which are added. -/
structure Excerpt where
  keeps : String → Bool
  added : Members

namespace Excerpt

/-- The members that are kept and those that are added. -/
def of (e : Excerpt) (ms : Members) : Members :=
  .ofList (ms.filter (fun m => e.keeps m.1) ++ e.added)

/-- Nothing is added under a name that the object has. -/
def AddsStrangers (e : Excerpt) (ms : Members) : Prop :=
  ∀ m ∈ e.added, ms.get? m.1 = none

end Excerpt

namespace Members

/-- Members under other names do not matter for what is found under a name. -/
theorem get?_foldl_insert_of_ne {pairs : Members} {name : String}
    (h : ∀ m ∈ pairs, m.1 ≠ name) (ms : Members) :
    get? (pairs.foldl (fun ms m => insert m.1 m.2 ms) ms) name = ms.get? name := by
  induction pairs generalizing ms with
  | nil => rfl
  | cons m pairs ih =>
    obtain ⟨hm, hpairs⟩ := List.forall_mem_cons.mp h
    rw [List.foldl_cons, ih hpairs, get?_insert, if_neg hm.symm]

/-- Nothing is found under a name iff no member has it. -/
theorem get?_eq_none_iff {ms : Members} {name : String} :
    ms.get? name = none ↔ name ∉ ms.map (·.1) := by
  induction ms with
  | nil => simp
  | cons m ms ih =>
    obtain ⟨other, x⟩ := m
    rw [get?_cons, List.map_cons, List.mem_cons, not_or]
    by_cases hname : name = other
    · simp [hname]
    · simp [hname, ih]

/-- Members with distinct names are all found after they were put in. -/
theorem get?_foldl_insert {pairs : Members} (h : (pairs.map (·.1)).Nodup) (ms : Members)
    (name : String) :
    get? (pairs.foldl (fun ms m => insert m.1 m.2 ms) ms) name =
      (get? pairs name).or (ms.get? name) := by
  induction pairs generalizing ms with
  | nil => rfl
  | cons m pairs ih =>
    obtain ⟨other, x⟩ := m
    obtain ⟨hother, hpairs⟩ := List.nodup_cons.mp h
    rw [List.foldl_cons, ih hpairs, get?_insert, get?_cons]
    by_cases hname : name = other
    · subst hname
      rw [if_pos rfl, if_pos rfl, get?_eq_none_iff.mpr hother]
      rfl
    · rw [if_neg hname, if_neg hname]

theorem get?_filter (ms : Members) (keeps : String → Bool) (name : String) :
    get? (ms.filter fun m => keeps m.1) name = if keeps name then ms.get? name else none := by
  induction ms with
  | nil => simp
  | cons m ms ih =>
    obtain ⟨other, x⟩ := m
    rw [List.filter_cons, get?_cons]
    by_cases hname : name = other
    · subst hname
      by_cases hkeeps : keeps name = true
      · simp [hkeeps, get?_cons]
      · simp [hkeeps, ih]
    · by_cases hkeeps : keeps other = true
      · simp [hkeeps, get?_cons, hname, ih]
      · simp [hkeeps, hname, ih]

end Members

/-- Under a name that the object has, an excerpt has its value iff it is kept. -/
theorem Excerpt.get?_of {e : Excerpt} {ms : Members} (hdistinct : (ms.map (·.1)).Nodup)
    (hadded : e.AddsStrangers ms) {name : String} {x : Json} (hx : ms.get? name = some x) :
    (e.of ms).get? name = if e.keeps name then some x else none := by
  have hother : ∀ m ∈ e.added, m.1 ≠ name := by
    rintro m hm rfl
    rw [hadded m hm] at hx
    cases hx
  have hkept : ((ms.filter fun m => e.keeps m.1).map (·.1)).Nodup :=
    hdistinct.sublist (List.filter_sublist.map _)
  rw [of, Members.ofList, List.foldl_append, Members.get?_foldl_insert_of_ne hother,
    Members.get?_foldl_insert hkept, Members.get?_filter, hx, Members.get?_nil, Option.or_none]

/-- A field is read from an excerpt iff it is kept, and then as it was written. -/
theorem Excerpt.read_of {α : Type} {e : Excerpt} {ms : Members}
    (hdistinct : (ms.map (·.1)).Nodup) (hadded : e.AddsStrangers ms) {name : String} {x : Json}
    (hx : ms.get? name = some x) {item : Decoder α} {a : α} (ha : item x = .ok a) :
    (e.of ms).read name item = .ok (if e.keeps name then some a else none) := by
  rw [Members.read, get?_of hdistinct hadded hx]
  cases e.keeps name with
  | true => exact congrArg (Except.map some) ha
  | false => rfl

theorem getD_ite {α : Type} (b : Bool) (a default : α) :
    (if b then some a else none).getD default = if b then a else default := by
  cases b <;> rfl

/-! ## Values as they are written -/

theorem natDecoder_nat {bits n : Nat} (h : n < Nat.pow 2 bits) (name : String) :
    natDecoder bits name (.nat n) = .ok n := by
  have hrange : (0 : Int) ≤ n ∧ (n : Int) < Nat.pow 2 bits := by omega
  rw [nat, natDecoder, if_pos hrange]
  rfl

theorem word64Decoder_nat (n : UInt64) : word64Decoder (.nat n.toNat) = .ok n := by
  rw [word64Decoder, natDecoder_nat n.toNat_lt]
  exact congrArg Except.ok UInt64.ofNat_toNat

theorem optionDecoder_ofOption {α : Type} {item : Decoder α} {toJson : α → Json}
    {o : Option α} (h : ∀ a ∈ o, toJson a ≠ .null ∧ item (toJson a) = .ok a) :
    optionDecoder item (ofOption toJson o) = .ok o := by
  rw [optionDecoder_eq_ok]
  cases o with
  | none => exact .inl ⟨rfl, rfl⟩
  | some a => exact .inr ⟨(h a rfl).1, a, (h a rfl).2, rfl⟩

end Json

theorem Path.decoder_toJson_of_isText {p : Path} (h : p.isText = true) :
    p.toJson ≠ .null ∧ Path.decoder p.toJson = .ok p := by
  have hread := decoder_toJson h
  rw [toJson, Json.asRead] at hread
  refine ⟨?_, hread⟩
  intro hnull
  cases hnull

/-! ## The settings of the analyzer -/

namespace AnalyzerSettings

/-- The paths among the settings. -/
def paths (a : AnalyzerSettings) : List Path :=
  a.path.toList ++ a.installDir.toList ++ a.candidates

/-- The settings at some names, with the defaults of all others. -/
def overlay (a : AnalyzerSettings) (keeps : String → Bool) : AnalyzerSettings :=
  let base : AnalyzerSettings := {}
  { runtime := if keeps "runtime" then a.runtime else base.runtime
    path := if keeps "path" then a.path else base.path
    installDir := if keeps "installDir" then a.installDir else base.installDir
    candidates := if keeps "candidates" then a.candidates else base.candidates
    timeoutSecs := if keeps "timeoutSecs" then a.timeoutSecs else base.timeoutSecs }

theorem nodup_names (a : AnalyzerSettings) : (a.toJson.membersD.map (·.1)).Nodup := by
  change ["runtime", "path", "installDir", "candidates", "timeoutSecs"].Nodup
  decide

theorem optionDecoder_path {a : AnalyzerSettings} (hpaths : ∀ p ∈ a.paths, p.isText = true)
    {o : Option Path} (ho : o = a.path ∨ o = a.installDir) :
    Json.optionDecoder Path.decoder (Json.ofOption Path.toJson o) = .ok o := by
  refine Json.optionDecoder_ofOption ?_
  intro p hp
  apply Path.decoder_toJson_of_isText
  apply hpaths
  rw [Option.mem_def] at hp
  rcases ho with rfl | rfl <;> simp [paths, hp]

theorem listDecoder_candidates {a : AnalyzerSettings} (hpaths : ∀ p ∈ a.paths, p.isText = true) :
    Json.listDecoder Path.decoder (.array (a.candidates.map Path.toJson)) = .ok a.candidates := by
  refine Json.listDecoder_eq_ok.mpr ⟨_, rfl, ?_⟩
  rw [List.map_map]
  apply List.map_congr_left
  intro p hp
  exact (Path.decoder_toJson_of_isText (hpaths p (List.mem_append_right _ hp))).2

theorem optionDecoder_runtime (a : AnalyzerSettings) :
    Json.optionDecoder Json.stringDecoder (Json.ofOption .string a.runtime) = .ok a.runtime := by
  refine Json.optionDecoder_ofOption ?_
  intro s _
  refine ⟨?_, rfl⟩
  intro hnull
  cases hnull

/-- The settings of an analyzer as they are read from a part of them. -/
theorem decoder_excerpt {a : AnalyzerSettings} (hpaths : ∀ p ∈ a.paths, p.isText = true)
    {e : Json.Excerpt} (hadded : e.AddsStrangers a.toJson.membersD) :
    decoder (a.toJson.mapMembers e.of) = .ok (a.overlay e.keeps) := by
  have hread {α : Type} (name : String) {x : Json} (hx : a.toJson.membersD.get? name = some x)
      {item : Decoder α} {y : α} (hy : item x = .ok y) :=
    Json.Excerpt.read_of a.nodup_names hadded hx hy
  have hcandidates := hread "candidates" rfl (listDecoder_candidates hpaths)
  have hdir := hread "installDir" rfl (optionDecoder_path hpaths (.inr rfl))
  have hpath := hread "path" rfl (optionDecoder_path hpaths (.inl rfl))
  have hruntime := hread "runtime" rfl a.optionDecoder_runtime
  have htimeout := hread "timeoutSecs" rfl (Json.word64Decoder_nat a.timeoutSecs)
  show ofMembers (e.of a.toJson.membersD) = _
  rw [ofMembers, hcandidates, hdir, hpath, hruntime, htimeout]
  simp only [bind, Except.bind, pure, Except.pure, Json.getD_ite, overlay]

end AnalyzerSettings

/-! ## The settings of findings -/

namespace FindingSettings

/-- The settings at some names, with the defaults of all others. -/
def overlay (f : FindingSettings) (keeps : String → Bool) : FindingSettings :=
  let base : FindingSettings := {}
  { includeSnippet := if keeps "includeCommentSnippet" then f.includeSnippet
      else base.includeSnippet }

/-- The settings of findings as they are read from a part of them. -/
theorem decoder_excerpt {f : FindingSettings} {e : Json.Excerpt}
    (hadded : e.AddsStrangers f.toJson.membersD) :
    decoder (f.toJson.mapMembers e.of) = .ok (f.overlay e.keeps) := by
  have hdistinct : (f.toJson.membersD.map (·.1)).Nodup := List.pairwise_singleton _ _
  have hsnippet : (e.of f.toJson.membersD).read "includeCommentSnippet" Json.boolDecoder =
      .ok (if e.keeps "includeCommentSnippet" then some f.includeSnippet else none) :=
    Json.Excerpt.read_of hdistinct hadded rfl rfl
  show ofMembers (e.of f.toJson.membersD) = _
  rw [ofMembers, hsnippet]
  simp only [bind, Except.bind, pure, Except.pure, Json.getD_ite, overlay]

end FindingSettings

/-! ## All settings -/

namespace Settings

/-- A part of the settings in a member: some of the members inside it, if it has any. -/
def cutMember (analyzer findings : Json.Excerpt) (m : String × Json) : String × Json :=
  (m.1,
    if m.1 = "analyzer" then m.2.mapMembers analyzer.of
    else if m.1 = "diagnostics" then m.2.mapMembers findings.of
    else m.2)

/-- A part of the settings as JSON, cut at each of the three levels. -/
def excerpt (s : Settings) (top analyzer findings : Json.Excerpt) : Json :=
  s.toJson.mapMembers fun ms => top.of (ms.map (cutMember analyzer findings))

/-- The settings at some names, with the defaults of all others. -/
def overlay (s : Settings) (top analyzer findings : String → Bool) : Settings :=
  let base : Settings := {}
  { analyzer := if top "analyzer" then s.analyzer.overlay analyzer else base.analyzer
    debounceMs := if top "debounceMs" then s.debounceMs else base.debounceMs
    findings := if top "diagnostics" then s.findings.overlay findings else base.findings }

theorem overlay_true (s : Settings) :
    s.overlay (fun _ => true) (fun _ => true) (fun _ => true) = s := rfl

theorem overlay_false (s : Settings) (analyzer findings : String → Bool) :
    s.overlay (fun _ => false) analyzer findings = {} := rfl

/-- Settings as they are read from a part of them. -/
theorem decoder_excerpt {s : Settings} (hpaths : ∀ p ∈ s.analyzer.paths, p.isText = true)
    {top analyzer findings : Json.Excerpt} (htop : top.AddsStrangers s.toJson.membersD)
    (hanalyzer : analyzer.AddsStrangers s.analyzer.toJson.membersD)
    (hfindings : findings.AddsStrangers s.findings.toJson.membersD) :
    decoder (s.excerpt top analyzer findings) =
      .ok (s.overlay top.keeps analyzer.keeps findings.keeps) := by
  let ms : Members := s.toJson.membersD.map (cutMember analyzer findings)
  have hnames : ms.map (·.1) = s.toJson.membersD.map (·.1) := rfl
  have hdistinct : (ms.map (·.1)).Nodup := by
    change ["analyzer", "debounceMs", "diagnostics"].Nodup
    decide
  -- what is inside a member does not change its name
  have hadded : top.AddsStrangers ms := by
    intro m hm
    rw [Json.Members.get?_eq_none_iff, hnames, ← Json.Members.get?_eq_none_iff]
    exact htop m hm
  have hread {α : Type} (name : String) {x : Json} (hx : ms.get? name = some x)
      {item : Decoder α} {y : α} (hy : item x = .ok y) :=
    Json.Excerpt.read_of hdistinct hadded hx hy
  have hfirst := hread "analyzer" rfl (AnalyzerSettings.decoder_excerpt hpaths hanalyzer)
  have hsecond := hread "debounceMs" rfl (Json.word64Decoder_nat s.debounceMs)
  have hthird := hread "diagnostics" rfl (FindingSettings.decoder_excerpt hfindings)
  show ofMembers (top.of ms) = _
  rw [ofMembers, hfirst, hsecond, hthird]
  simp only [bind, Except.bind, pure, Except.pure, Json.getD_ite, overlay]

theorem ofOptions_object (ms : Members) :
    ofOptions (some (.object ms)) = (decoder (.object ms)).mapError fun m => ⟨m⟩ := rfl

/-- Settings whose paths are texts can be sent in part, any members being left out and any others
being added at each of the three levels. What is read then has the given value at every name that is
kept, and the default at every other. All settings come back if all names are kept, and if none is
kept, all are the defaults. -/
theorem ofOptions_excerpt (s : Settings) (top analyzer findings : Json.Excerpt)
    (hpaths : ∀ p ∈ s.analyzer.paths, ∃ t, p = .ofText t)
    (htop : top.AddsStrangers s.toJson.membersD)
    (hanalyzer : analyzer.AddsStrangers s.analyzer.toJson.membersD)
    (hfindings : findings.AddsStrangers s.findings.toJson.membersD) :
    ofOptions (some (s.excerpt top analyzer findings)) =
      .ok (s.overlay top.keeps analyzer.keeps findings.keeps) ∧
    ((∀ name, top.keeps name = true) → (∀ name, analyzer.keeps name = true) →
      (∀ name, findings.keeps name = true) →
        ofOptions (some (s.excerpt top analyzer findings)) = .ok s) ∧
    ((∀ name, top.keeps name = false) →
      ofOptions (some (s.excerpt top analyzer findings)) = .ok {}) := by
  have htexts : ∀ p ∈ s.analyzer.paths, p.isText = true := by
    intro p hp
    exact Path.isText_iff.mpr (hpaths p hp)
  have hread : ofOptions (some (s.excerpt top analyzer findings)) =
      .ok (s.overlay top.keeps analyzer.keeps findings.keeps) := by
    have hdecode := decoder_excerpt htexts htop hanalyzer hfindings
    rw [excerpt, toJson, Json.mapMembers] at hdecode ⊢
    rw [ofOptions_object, hdecode]
    rfl
  refine ⟨hread, ?_, ?_⟩
  · intro hall hanalyzer hfindings
    rw [hread, funext hall, funext hanalyzer, funext hfindings, overlay_true]
  · intro hnone
    rw [hread, funext hnone, overlay_false]

/-- Settings far from the defaults. -/
def unusual : Settings where
  analyzer :=
    { runtime := none
      path := some (.ofText "/opt/dcf/cli.py")
      candidates := [.ofText "é 1.py"]
      timeoutSecs := 18446744073709551615 }
  debounceMs := 0
  findings := { includeSnippet := false }

/-- Of these, the analyzer's runtime, which is null, and its time limit are sent, and the time to
wait after a change. Misspelled names do not matter. -/
theorem ofOptions_excerpt_unusual :
    let top : Json.Excerpt := ⟨(· != "diagnostics"), [("debounce_ms", .nat 1), ("trace", .null)]⟩
    let analyzer : Json.Excerpt :=
      ⟨fun name => name == "runtime" || name == "timeoutSecs", [("Path", .array [.bool true])]⟩
    let findings : Json.Excerpt := ⟨fun _ => true, []⟩
    (∀ p ∈ unusual.analyzer.paths, ∃ t, p = .ofText t) ∧
    top.AddsStrangers unusual.toJson.membersD ∧
    analyzer.AddsStrangers unusual.analyzer.toJson.membersD ∧
    findings.AddsStrangers unusual.findings.toJson.membersD ∧
    ofOptions (some (unusual.excerpt top analyzer findings)) =
      .ok { analyzer := { runtime := none, timeoutSecs := 18446744073709551615 }
            debounceMs := 0 } := by
  intro top analyzer findings
  have hpaths : ∀ p ∈ unusual.analyzer.paths, ∃ t, p = .ofText t := by
    intro p hp
    change p ∈ [Path.ofText "/opt/dcf/cli.py", Path.ofText "é 1.py"] at hp
    rcases List.mem_cons.mp hp with rfl | hp
    · exact ⟨_, rfl⟩
    · exact ⟨_, List.mem_singleton.mp hp⟩
  have htop : top.AddsStrangers unusual.toJson.membersD := by
    intro m hm
    rcases List.mem_cons.mp hm with rfl | hm
    · rfl
    · rw [List.mem_singleton] at hm
      subst hm
      rfl
  have hanalyzer : analyzer.AddsStrangers unusual.analyzer.toJson.membersD := by
    intro m hm
    rw [List.mem_singleton] at hm
    subst hm
    rfl
  have hfindings : findings.AddsStrangers unusual.findings.toJson.membersD := by
    intro m hm
    cases hm
  obtain ⟨hread, -⟩ :=
    ofOptions_excerpt unusual top analyzer findings hpaths htop hanalyzer hfindings
  exact ⟨hpaths, htop, hanalyzer, hfindings, hread⟩

end Settings

end Deadwood
