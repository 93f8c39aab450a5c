import Mathlib.Data.List.Perm.Basic
import Mathlib.Data.List.TakeDrop
import Deadwood.Command.Printer
import Deadwood.Proofs.Text.Utf8

/-!
# Command lines denote commands

A command that is written as its name, its options in any order and its workspace behind two dashes
is read back as that command. Reading keeps a list of what was given. Each option that is new and
whose value is right is added to its end, so the list of a whole line is an order of the options of
the command; since no option is in it twice, what is found in it does not depend on the order.

* `readWord_word`, `readWords_words` : one option, and a row of options;
* `exists_readWith_eq` : what a whole line comes to, by what was given in it;
* `get?_eq_value?` : the order of the options does not matter;
* `readLine_lineWith` : every command is read back, unless two of its options exclude each other.
-/

namespace Deadwood.Command

open Text.Utf8 (encode decode?)

/-! ## Values -/

theorem digits?_toDigits (n : Nat) : digits? (Nat.toDigits 10 n) = some n := by
  have hne : (Nat.toDigits 10 n).isEmpty = false := by simp [Nat.toDigits_ne_nil]
  have hall : (Nat.toDigits 10 n).all Char.isDigit = true := by
    rw [List.all_eq_true]
    intro c hc
    exact Nat.isDigit_of_mem_toDigits (by decide) (by decide) hc
  rw [digits?, hne, hall]
  exact congrArg some Nat.ofDigitChars_ten_toDigits

/-- A number is read back from its digits. -/
theorem number?_toString (n : UInt64) : number? (toString n.toNat) = some n := by
  have hread : number? (toString n.toNat) =
      (digits? (Nat.toDigits 10 n.toNat)).bind fun m =>
        if m < Nat.pow 2 64 then some (UInt64.ofNat m) else none := by
    rw [number?, Nat.toString_eq_ofList_toDigits, String.toList_ofList]
    split
    case _ rest hdigits =>
      -- a digit is no plus sign
      have hplus : '+' ∈ Nat.toDigits 10 n.toNat := by
        rw [hdigits]
        exact List.mem_cons_self
      exact absurd (Nat.isDigit_of_mem_toDigits (by decide) (by decide) hplus) (by decide)
    case _ => rfl
  rw [hread, digits?_toDigits, Option.bind_some, if_pos n.toNat_lt]
  exact congrArg some UInt64.ofNat_toNat

theorem number?_numeral (n : UInt64) : (decode? (numeral n)).bind number? = some n := by
  rw [numeral, Text.Utf8.decode?_encode, Option.bind_some, number?_toString]

/-! ## What words look like -/

theorem span_equalsSign {name : Argument} (h : equalsSign ∉ name) (rest : Argument) :
    (name ++ rest).span (· != equalsSign) =
      (name ++ rest.takeWhile (· != equalsSign), rest.dropWhile (· != equalsSign)) := by
  have hname : ∀ b ∈ name, (b != equalsSign) = true := by
    intro b hb
    rw [bne_iff_ne]
    rintro rfl
    exact h hb
  rw [List.span_eq_takeWhile_dropWhile, List.takeWhile_append_of_pos hname,
    List.dropWhile_append_of_pos hname]

theorem splitValue_of_notMem {name : Argument} (h : equalsSign ∉ name) :
    splitValue name = (name, none) := by
  have hspan := span_equalsSign h []
  rw [List.append_nil] at hspan
  rw [splitValue, hspan]
  simp

/-- Only the first equals sign counts, the value may have more of them. -/
theorem splitValue_append {name : Argument} (h : equalsSign ∉ name) (value : Argument) :
    splitValue (name ++ equalsSign :: value) = (name, some value) := by
  rw [splitValue, span_equalsSign h]
  simp

theorem ofArgument_dashes {rest : Argument} (h : rest ≠ []) :
    Word.ofArgument (dash :: dash :: rest) = .long (splitValue rest).1 (splitValue rest).2 := by
  cases rest with
  | nil => exact absurd rfl h
  | cons b rest => rfl

theorem encode_dashes (s : String) : encode ("--" ++ s) = dash :: dash :: encode s :=
  Text.Utf8.encode_append "--" s

/-! ## One option -/

namespace Parameter

/-- An option as it is written: two dashes and its name, and its value if it takes one. -/
def word (p : Parameter) (value : Argument) : Argument :=
  let name := p.name?.getD ""
  match p.kind with
  | .none => encode ("--" ++ name)
  | _ => encode ("--" ++ name ++ "=") ++ value

/-- What stands behind the name of an option. -/
def attached (p : Parameter) (value : Argument) : Option Argument :=
  match p.kind with
  | .none => none
  | _ => some value

/-- An option can have a value; one that takes no value is kept with an empty one. -/
structure Takes (p : Parameter) (value : Argument) : Prop where
  named : p ≠ .workspace
  check : p.kind.check value = .ok ()
  empty : p.kind = .none → value = []

theorem eq_of_name? {p q : Parameter} (h : p.name? = q.name?) : p = q := by
  revert h
  cases p <;> cases q <;> decide

theorem exists_name? {p : Parameter} (h : p ≠ .workspace) :
    ∃ name, p.name? = some name ∧ encode name ≠ [] ∧ equalsSign ∉ encode name := by
  cases p with
  | workspace => exact absurd rfl h
  | json | debounceMs | analyzer | installDir | runtime | noRuntime | timeout | noSnippets =>
    exact ⟨_, rfl, by decide, by decide⟩

theorem ofArgument_word {p : Parameter} {name : String} (hname : p.name? = some name)
    (hne : encode name ≠ []) (hsign : equalsSign ∉ encode name) (value : Argument) :
    Word.ofArgument (p.word value) = .long (encode name) (p.attached value) := by
  have hflag : Word.ofArgument (encode ("--" ++ name)) = .long (encode name) none := by
    rw [encode_dashes, ofArgument_dashes hne, splitValue_of_notMem hsign]
  have hvalue : Word.ofArgument (encode ("--" ++ name ++ "=") ++ value) =
      .long (encode name) (some value) := by
    have hbytes : encode ("--" ++ name ++ "=") ++ value =
        dash :: dash :: (encode name ++ equalsSign :: value) := by
      rw [Text.Utf8.encode_append, encode_dashes, List.append_assoc]
      rfl
    rw [hbytes, ofArgument_dashes (List.append_ne_nil_of_left_ne_nil hne _),
      splitValue_append hsign]
  rw [word, attached, hname, Option.getD_some]
  cases p.kind with
  | none => exact hflag
  | path | text | number => exact hvalue

/-- An option is found by its name. -/
theorem find?_name {parameters : List Parameter} {p : Parameter} (hp : p ∈ parameters)
    {name : String} (hname : p.name? = some name) :
    parameters.find? (·.name?.map encode == some (encode name)) = some p := by
  have hself : (p.name?.map encode == some (encode name)) = true := by
    rw [hname, Option.map_some, beq_self_eq_true]
  have hencode : Function.Injective encode :=
    Function.LeftInverse.injective Text.Utf8.decodeLossy_encode
  cases hfind : parameters.find? (·.name?.map encode == some (encode name)) with
  | none => exact absurd hself (List.find?_eq_none.mp hfind p hp)
  | some q =>
    have hq := List.find?_some hfind
    rw [beq_iff_eq] at hq
    have hsame : q.name? = p.name? := by
      rw [hname]
      exact Option.map_injective hencode hq
    rw [eq_of_name? hsame]

end Parameter

namespace Reading

theorem settle_of_last {r : Reading} (h : r.last = none) : r.settle = .ok r := by
  rw [settle, h]

theorem add_of_new {r : Reading} {p : Parameter} (hnew : r.given.lookup p = none)
    {value : Argument} (hcheck : p.kind.check value = .ok ()) :
    r.add p value = .ok { r with given := r.given ++ [(p, value)] } := by
  rw [add, hnew, hcheck]
  rfl

theorem readOption_of_new {r : Reading} (hlast : r.last = none) {p : Parameter}
    (hnew : r.given.lookup p = none) {value : Argument} (htakes : p.Takes value) :
    r.readOption p (p.attached value) = .ok { r with given := r.given ++ [(p, value)] } := by
  have hadd := add_of_new hnew htakes.check
  unfold readOption Parameter.attached
  cases hkind : p.kind with
  | none =>
    rw [htakes.empty hkind] at hadd ⊢
    rw [settle_of_last hlast]
    exact hadd
  | path | text | number =>
    rw [settle_of_last hlast]
    exact hadd

/-- The word of an option that is new adds it to what was given. -/
theorem readWord_word {parameters : List Parameter} {r : Reading} (hlast : r.last = none)
    (hescaped : r.escaped = false) {p : Parameter} (hp : p ∈ parameters)
    (hnew : r.given.lookup p = none) {value : Argument} (htakes : p.Takes value) :
    r.readWord parameters (p.word value) = .ok { r with given := r.given ++ [(p, value)] } := by
  obtain ⟨name, hname, hne, hsign⟩ := Parameter.exists_name? htakes.named
  have hread : r.readWord parameters (p.word value) = r.readOption p (p.attached value) := by
    rw [readWord, hescaped, if_neg Bool.false_ne_true, Parameter.ofArgument_word hname hne hsign]
    dsimp only
    rw [Parameter.find?_name hp hname]
  rw [hread, readOption_of_new hlast hnew htakes]

/-! ## A row of options and a workspace -/

/-- A row of distinct options that are new adds them all, in their order. -/
theorem readWords_words {parameters : List Parameter} {entries : List (Parameter × Argument)}
    (htakes : ∀ e ∈ entries, e.1 ∈ parameters ∧ e.1.Takes e.2)
    (done : List (Parameter × Argument)) (hdistinct : ((done ++ entries).map (·.1)).Nodup)
    (rest : List Argument) :
    Reading.readWords parameters { given := done } (entries.map (fun e => e.1.word e.2) ++ rest) =
      Reading.readWords parameters { given := done ++ entries } rest := by
  induction entries generalizing done with
  | nil => rw [List.map_nil, List.nil_append, List.append_nil]
  | cons e entries ih =>
    obtain ⟨⟨hp, htake⟩, htakes⟩ := List.forall_mem_cons.mp htakes
    have hnew : done.lookup e.1 = none := by
      rw [List.lookup_eq_none_iff]
      intro d hd
      rw [bne_iff_ne]
      intro heq
      rw [List.map_append, List.nodup_append] at hdistinct
      exact hdistinct.2.2 d.1 (List.mem_map_of_mem hd) e.1 List.mem_cons_self heq.symm
    -- the option goes behind those that were read before it, and the rest follows from there
    have hstep := readWord_word (r := { given := done }) rfl rfl hp hnew htake
    have hrest := ih htakes (done ++ [e]) (by rwa [List.append_assoc, List.singleton_append])
    rw [List.map_cons, List.cons_append, readWords, hstep]
    rw [List.append_assoc, List.singleton_append] at hrest
    exact hrest

/-- What a workspace adds to what was given. -/
def workspaceEntries (w : Option Path) : List (Parameter × Argument) :=
  w.toList.map fun p => (.workspace, p.bytes)

/-- A workspace behind two dashes is added last, whatever it looks like. -/
theorem exists_settle_workspace {parameters : List Parameter} {w : Option Path}
    (hw : ∀ p ∈ w, Parameter.workspace ∈ parameters ∧ p.bytes ≠ [])
    {given : List (Parameter × Argument)} (hnew : given.lookup .workspace = none) :
    ∃ r, (Reading.readWords parameters { given } (workspaceWords w)).bind settle = .ok r ∧
      r.given = given ++ workspaceEntries w := by
  cases w with
  | none => exact ⟨{ given }, rfl, (List.append_nil given).symm⟩
  | some p =>
    obtain ⟨hp, hne⟩ := hw p rfl
    have hpath : ValueKind.path.check p.bytes = .ok () := by
      rw [ValueKind.check, if_neg (by simpa using hne)]
    have hplain : (⟨given, none, true⟩ : Reading).readPlain parameters p.bytes =
        .ok ⟨given, some (.workspace, some p.bytes), true⟩ := by
      have hhas : (⟨given, none, true⟩ : Reading).has .workspace = false := by
        rw [has, hnew]
        rfl
      rw [readPlain, hhas, List.contains_iff_mem.mpr hp]
      rfl
    have hsettle : (⟨given, some (.workspace, some p.bytes), true⟩ : Reading).settle =
        .ok ⟨given ++ [(.workspace, p.bytes)], none, true⟩ :=
      add_of_new (r := ⟨given, none, true⟩) hnew hpath
    have hdashes : (⟨given, none, false⟩ : Reading).readWord parameters (encode "--") =
        .ok ⟨given, none, true⟩ := by
      have hescape : Word.ofArgument (encode "--") = .escape := by decide
      rw [readWord, if_neg Bool.false_ne_true, hescape]
    refine ⟨⟨given ++ [(.workspace, p.bytes)], none, true⟩, ?_, rfl⟩
    rw [workspaceWords, readWords, hdashes]
    show ((⟨given, none, true⟩ : Reading).readWords parameters [p.bytes]).bind settle = _
    rw [readWords, readWord, if_pos rfl, hplain]
    exact hsettle

end Reading

/-- What a line comes to, by what was given in it. -/
theorem exists_readWith_eq {parameters : List Parameter} (build : Reading → Command)
    {entries : List (Parameter × Argument)}
    (htakes : ∀ e ∈ entries, e.1 ∈ parameters ∧ e.1.Takes e.2)
    (hdistinct : (entries.map (·.1)).Nodup) {w : Option Path}
    (hw : ∀ p ∈ w, Parameter.workspace ∈ parameters ∧ p.bytes ≠ []) :
    ∃ r : Reading, r.given = entries ++ Reading.workspaceEntries w ∧
      readWith parameters build (entries.map (fun e => e.1.word e.2) ++ workspaceWords w) =
        if r.flag .runtime && r.flag .noRuntime then .error .conflict else .ok (build r) := by
  have hnew : entries.lookup .workspace = none := by
    rw [List.lookup_eq_none_iff]
    intro e he
    rw [bne_iff_ne]
    exact (htakes e he).2.named.symm
  obtain ⟨r, hr, hgiven⟩ := Reading.exists_settle_workspace hw hnew
  refine ⟨r, hgiven, ?_⟩
  rw [readWith, Reading.readWords_words htakes [] hdistinct, List.nil_append, hr]

/-! ## What is given in a command -/

/-- What is found under a parameter does not depend on the order of distinct parameters. -/
theorem lookup_of_perm {l m : List (Parameter × Argument)} (h : l.Perm m)
    (hdistinct : (l.map (·.1)).Nodup) (p : Parameter) : l.lookup p = m.lookup p := by
  induction h with
  | nil => rfl
  | cons e _ ih =>
    rw [List.lookup_cons, List.lookup_cons, ih (List.nodup_cons.mp hdistinct).2]
  | swap e d l =>
    obtain ⟨q, x⟩ := e
    obtain ⟨r, y⟩ := d
    have hne : r ≠ q := by
      rintro rfl
      exact (List.nodup_cons.mp hdistinct).1 List.mem_cons_self
    by_cases hp : p = q
    · simp [List.lookup_cons, hp, beq_false_of_ne hne.symm]
    · simp [List.lookup_cons, beq_false_of_ne hp]
  | trans hl _ ihl ihm => rw [ihl hdistinct, ihm ((hl.map _).nodup_iff.mp hdistinct)]

/-- The parameters of a list that have a value, with their values. -/
def entriesOf (value? : Parameter → Option Argument) (parameters : List Parameter) :
    List (Parameter × Argument) :=
  parameters.flatMap fun p => ((value? p).map (p, ·)).toList

theorem entriesOf_append (value? : Parameter → Option Argument) (l m : List Parameter) :
    entriesOf value? (l ++ m) = entriesOf value? l ++ entriesOf value? m :=
  List.flatMap_append

theorem mem_entriesOf {value? : Parameter → Option Argument} {parameters : List Parameter}
    {e : Parameter × Argument} :
    e ∈ entriesOf value? parameters ↔ e.1 ∈ parameters ∧ value? e.1 = some e.2 := by
  obtain ⟨p, value⟩ := e
  simp [entriesOf]

theorem map_fst_entriesOf (value? : Parameter → Option Argument) (parameters : List Parameter) :
    (entriesOf value? parameters).map (·.1) = parameters.filter fun p => (value? p).isSome := by
  induction parameters with
  | nil => rfl
  | cons p parameters ih =>
    rw [entriesOf, List.flatMap_cons, List.map_append, ← entriesOf, ih, List.filter_cons]
    cases value? p <;> rfl

theorem lookup_entriesOf (value? : Parameter → Option Argument) (parameters : List Parameter)
    (p : Parameter) :
    (entriesOf value? parameters).lookup p = if p ∈ parameters then value? p else none := by
  induction parameters with
  | nil => rfl
  | cons q parameters ih =>
    rw [entriesOf, List.flatMap_cons, List.lookup_append, ← entriesOf, ih]
    by_cases hq : p = q
    · subst hq
      cases value? p <;> simp
    · cases value? q <;> simp [List.lookup_cons, beq_false_of_ne hq, hq]

/-- How it is kept that an option without a value is given. -/
def flagValue (given : Bool) : Option Argument := if given then some [] else none

/-- The values in options about the analyzer. -/
def analyzerValue? (o : AnalyzerOptions) : Parameter → Option Argument
  | .analyzer => o.analyzer.map (·.bytes)
  | .installDir => o.installDir.map (·.bytes)
  | .runtime => o.runtime.map encode
  | .noRuntime => flagValue o.noRuntime
  | .timeout => o.timeout.map numeral
  | .noSnippets => flagValue o.noSnippets
  | _ => none

/-- The value of a parameter in a command. -/
def value? : Command → Parameter → Option Argument
  | .scan w _ _, .workspace => w.map (·.bytes)
  | .scan _ json _, .json => flagValue json
  | .scan _ _ o, p => analyzerValue? o p
  | .watch w _ _, .workspace => w.map (·.bytes)
  | .watch _ debounce _, .debounceMs => debounce.map numeral
  | .watch _ _ o, p => analyzerValue? o p
  | .lsp, _ => none

/-- The options of a command. -/
def optionParameters : Command → List Parameter
  | .lsp => []
  | .scan _ _ _ => .json :: analyzerParameters
  | .watch _ _ _ => .debounceMs :: analyzerParameters

/-- A command has each of its options once, and a workspace besides. -/
theorem nodup_optionParameters (c : Command) :
    (c.optionParameters ++ [Parameter.workspace]).Nodup := by
  cases c with
  | lsp => decide
  | scan w json o =>
    show (Parameter.json :: analyzerParameters ++ [Parameter.workspace]).Nodup
    decide
  | watch w debounce o =>
    show (Parameter.debounceMs :: analyzerParameters ++ [Parameter.workspace]).Nodup
    decide

theorem ne_workspace_of_mem {c : Command} {p : Parameter} (h : p ∈ c.optionParameters) :
    p ≠ .workspace :=
  (List.nodup_append.mp c.nodup_optionParameters).2.2 p h .workspace List.mem_cons_self

theorem valueWord_eq {p : Parameter} {name : String} (hname : p.name? = some name)
    (hkind : p.kind ≠ .none) (value : Option Argument) :
    valueWord name value = ((value.map (p, ·)).toList).map fun e => e.1.word e.2 := by
  cases value with
  | none => rfl
  | some value =>
    have hword : p.word value = encode ("--" ++ name ++ "=") ++ value := by
      rw [Parameter.word, hname]
      cases hp : p.kind with
      | none => exact absurd hp hkind
      | path | text | number => rfl
    rw [Option.map_some, Option.toList_some, List.map_singleton, hword, valueWord]

theorem flagWord_eq {p : Parameter} {name : String} (hname : p.name? = some name)
    (hkind : p.kind = .none) (given : Bool) :
    flagWord name given = (((flagValue given).map (p, ·)).toList).map fun e => e.1.word e.2 := by
  cases given with
  | false => rfl
  | true =>
    have hword : p.word [] = encode ("--" ++ name) := by
      rw [Parameter.word, hname, hkind]
      rfl
    rw [flagWord, if_pos rfl, ← hword]
    rfl

theorem analyzerWords_eq (o : AnalyzerOptions) :
    analyzerWords o =
      (entriesOf (analyzerValue? o) analyzerParameters).map fun e => e.1.word e.2 := by
  have hanalyzer := valueWord_eq (p := .analyzer) rfl (by decide) (o.analyzer.map (·.bytes))
  have hdir := valueWord_eq (p := .installDir) rfl (by decide) (o.installDir.map (·.bytes))
  have hruntime := valueWord_eq (p := .runtime) rfl (by decide) (o.runtime.map encode)
  have hnone := flagWord_eq (p := .noRuntime) rfl rfl o.noRuntime
  have htimeout := valueWord_eq (p := .timeout) rfl (by decide) (o.timeout.map numeral)
  have hsnippets := flagWord_eq (p := .noSnippets) rfl rfl o.noSnippets
  rw [analyzerWords, hanalyzer, hdir, hruntime, hnone, htimeout, hsnippets]
  simp only [entriesOf, analyzerParameters, List.flatMap_cons, List.flatMap_nil, List.append_nil,
    List.map_append, List.append_assoc]
  rfl

/-- The words of the options of a command are the words of what is given in it. -/
theorem optionWords_eq (c : Command) :
    c.optionWords = (entriesOf c.value? c.optionParameters).map fun e => e.1.word e.2 := by
  cases c with
  | lsp => rfl
  | scan w json o =>
    have hjson := flagWord_eq (p := .json) rfl rfl json
    rw [optionWords, analyzerWords_eq, hjson, ← List.map_append]
    rfl
  | watch w debounce o =>
    have hdebounce := valueWord_eq (p := .debounceMs) rfl (by decide) (debounce.map numeral)
    rw [optionWords, analyzerWords_eq, hdebounce, ← List.map_append]
    rfl

/-! ## Reading a command back -/

/-- The options of a command about the analyzer. -/
def options : Command → AnalyzerOptions
  | .lsp => {}
  | .scan _ _ o => o
  | .watch _ _ o => o

/-- The paths in a command. -/
def paths (c : Command) : List Path :=
  c.workspace?.toList ++ c.options.analyzer.toList ++ c.options.installDir.toList

theorem mem_paths {c : Command} {q : Path} :
    q ∈ c.paths ↔
      q ∈ c.workspace? ∨ q ∈ c.options.analyzer ∨ q ∈ c.options.installDir := by
  simp [paths]

/-- A program that runs the analyzer is named, and it is said that there is none. -/
def IsContradictory (c : Command) : Prop :=
  c.options.runtime.isSome = true ∧ c.options.noRuntime = true

instance (c : Command) : Decidable c.IsContradictory := inferInstanceAs (Decidable (_ ∧ _))

theorem value?_of_mem {p : Parameter} (hp : p ∈ analyzerParameters) {c : Command} :
    c.value? p = analyzerValue? c.options p := by
  cases p with
  | workspace | json | debounceMs => exact absurd hp (by decide)
  | analyzer | installDir | runtime | noRuntime | timeout | noSnippets => cases c <;> rfl

theorem takes_path {p : Parameter} (hp : p ≠ .workspace) (hkind : p.kind = .path) {q : Path}
    (hq : q.bytes ≠ []) : p.Takes q.bytes where
  named := hp
  check := by rw [hkind, ValueKind.check, if_neg (by simpa using hq)]
  empty h := by rw [hkind] at h; cases h

theorem takes_numeral {p : Parameter} (hp : p ≠ .workspace) (hkind : p.kind = .number)
    (n : UInt64) : p.Takes (numeral n) where
  named := hp
  check := by
    rw [hkind, ValueKind.check, number?_numeral]
    rfl
  empty h := by rw [hkind] at h; cases h

theorem takes_flag {p : Parameter} (hp : p ≠ .workspace) (hkind : p.kind = .none) {given : Bool}
    {value : Argument} (h : flagValue given = some value) : p.Takes value where
  named := hp
  check := by rw [hkind, ValueKind.check]
  empty _ := by
    cases given with
    | false => cases h
    | true => exact (Option.some.inj h).symm

/-- Every option about the analyzer can have the value that it is written with. -/
theorem takes_analyzerValue? {o : AnalyzerOptions} (hanalyzer : ∀ q ∈ o.analyzer, q.bytes ≠ [])
    (hdir : ∀ q ∈ o.installDir, q.bytes ≠ []) {p : Parameter} {value : Argument}
    (h : analyzerValue? o p = some value) : p.Takes value := by
  cases p with
  | workspace | json | debounceMs => cases h
  | analyzer =>
    obtain ⟨q, hq, rfl⟩ := Option.map_eq_some_iff.mp h
    exact takes_path (by decide) rfl (hanalyzer q hq)
  | installDir =>
    obtain ⟨q, hq, rfl⟩ := Option.map_eq_some_iff.mp h
    exact takes_path (by decide) rfl (hdir q hq)
  | runtime =>
    obtain ⟨text, -, rfl⟩ := Option.map_eq_some_iff.mp h
    refine ⟨by decide, ?_, ?_⟩
    · rw [Parameter.kind, ValueKind.check, Text.Utf8.decode?_encode]
      rfl
    · intro hkind
      cases hkind
  | timeout =>
    obtain ⟨n, -, rfl⟩ := Option.map_eq_some_iff.mp h
    exact takes_numeral (by decide) rfl n
  | noRuntime | noSnippets => exact takes_flag (by decide) rfl h

/-- Every option of a command can have the value that it is written with. -/
theorem takes_value? {c : Command} (hpaths : ∀ q ∈ c.paths, q.bytes ≠ []) {p : Parameter}
    (hp : p ∈ c.optionParameters) {value : Argument} (h : c.value? p = some value) :
    p.Takes value := by
  have hanalyzer : ∀ q ∈ c.options.analyzer, q.bytes ≠ [] := by
    intro q hq
    exact hpaths q (mem_paths.mpr (.inr (.inl hq)))
  have hdir : ∀ q ∈ c.options.installDir, q.bytes ≠ [] := by
    intro q hq
    exact hpaths q (mem_paths.mpr (.inr (.inr hq)))
  cases c with
  | lsp => cases h
  | scan w json o =>
    cases p with
    | workspace => exact absurd rfl (ne_workspace_of_mem hp)
    | json => exact takes_flag (by decide) rfl h
    | debounceMs | analyzer | installDir | runtime | noRuntime | timeout | noSnippets =>
      exact takes_analyzerValue? hanalyzer hdir h
  | watch w debounce o =>
    cases p with
    | workspace => exact absurd rfl (ne_workspace_of_mem hp)
    | debounceMs =>
      obtain ⟨n, -, rfl⟩ := Option.map_eq_some_iff.mp h
      exact takes_numeral (by decide) rfl n
    | json | analyzer | installDir | runtime | noRuntime | timeout | noSnippets =>
      exact takes_analyzerValue? hanalyzer hdir h

/-- Whatever the order of the options is, what is found is what the command has. -/
theorem get?_eq_value? {c : Command} {entries : List (Parameter × Argument)}
    (horder : entries.Perm (entriesOf c.value? c.optionParameters)) {r : Reading}
    (hr : r.given = entries ++ Reading.workspaceEntries c.workspace?) (p : Parameter) :
    r.get? p = c.value? p := by
  have hworkspace : Reading.workspaceEntries c.workspace? = entriesOf c.value? [.workspace] := by
    cases c with
    | lsp => rfl
    | scan w _ _ | watch w _ _ => cases w <;> rfl
  have hall : r.given.Perm (entriesOf c.value? (c.optionParameters ++ [.workspace])) := by
    rw [hr, hworkspace, entriesOf_append]
    exact horder.append_right _
  have hdistinct : (r.given.map (·.1)).Nodup := by
    rw [(hall.map _).nodup_iff, map_fst_entriesOf]
    exact c.nodup_optionParameters.sublist List.filter_sublist
  rw [Reading.get?, lookup_of_perm hall hdistinct, lookup_entriesOf]
  cases c <;> cases p <;> rfl

/-- What can follow the name of a command. -/
def parameters : Command → List Parameter
  | .lsp => []
  | .scan _ _ _ => scanParameters
  | .watch _ _ _ => watchParameters

theorem mem_parameters {c : Command} {p : Parameter} (h : p ∈ c.optionParameters) :
    p ∈ c.parameters := by
  cases c with
  | lsp => exact h
  | scan w json o | watch w debounce o => exact List.mem_cons_of_mem _ h

theorem workspace_mem_parameters {c : Command} {w : Path} (h : w ∈ c.workspace?) :
    Parameter.workspace ∈ c.parameters := by
  cases c with
  | lsp => cases h
  | scan w json o | watch w debounce o => exact List.mem_cons_self

/-- How a command of the same name is built. -/
def build : Command → Reading → Command
  | .lsp => fun _ => .lsp
  | .scan _ _ _ => fun r => .scan (r.path? .workspace) (r.flag .json) r.analyzerOptions
  | .watch _ _ _ => fun r => .watch (r.path? .workspace) (r.value? .debounceMs) r.analyzerOptions

theorem readLine_name (c : Command) (words : List Argument) :
    readLine (encode c.name :: words) = readWith c.parameters c.build words := by
  cases c with
  | lsp => rfl
  | scan w json o =>
    rw [name, readLine, readNamed?, if_neg (by decide), if_pos (by decide)]
    rfl
  | watch w debounce o =>
    rw [name, readLine, readNamed?, if_neg (by decide), if_neg (by decide), if_pos (by decide)]
    rfl

theorem path?_of_get? {r : Reading} {p : Parameter} {w : Option Path}
    (h : r.get? p = w.map (·.bytes)) : r.path? p = w := by
  rw [Reading.path?, h]
  cases w <;> rfl

theorem value?_of_get? {r : Reading} {p : Parameter} {n : Option UInt64}
    (h : r.get? p = n.map numeral) : r.value? p = n := by
  rw [Reading.value?, Reading.text?, h]
  cases n with
  | none => rfl
  | some n => exact number?_numeral n

theorem flag_of_get? {r : Reading} {p : Parameter} {given : Bool}
    (h : r.get? p = flagValue given) : r.flag p = given := by
  rw [Reading.flag, h]
  cases given <;> rfl

theorem text?_of_get? {r : Reading} {p : Parameter} {text : Option String}
    (h : r.get? p = text.map encode) : r.text? p = text := by
  rw [Reading.text?, h]
  cases text with
  | none => rfl
  | some text => exact Text.Utf8.decode?_encode text

theorem analyzerOptions_eq {r : Reading} {o : AnalyzerOptions}
    (h : ∀ p ∈ analyzerParameters, r.get? p = analyzerValue? o p) : r.analyzerOptions = o := by
  have hanalyzer := path?_of_get? (h .analyzer (by decide))
  have hdir := path?_of_get? (h .installDir (by decide))
  have hruntime := text?_of_get? (h .runtime (by decide))
  have hnone := flag_of_get? (h .noRuntime (by decide))
  have htimeout := value?_of_get? (h .timeout (by decide))
  have hsnippets := flag_of_get? (h .noSnippets (by decide))
  rw [Reading.analyzerOptions, hanalyzer, hdir, hruntime, hnone, htimeout, hsnippets]

/-- A command is built from its own values. -/
theorem build_eq {c : Command} {r : Reading} (h : ∀ p, r.get? p = c.value? p) : c.build r = c := by
  have hoptions : r.analyzerOptions = c.options := by
    apply analyzerOptions_eq
    intro p hp
    rw [h p, value?_of_mem hp]
  cases c with
  | lsp => rfl
  | scan w json o =>
    show scan (r.path? .workspace) (r.flag .json) r.analyzerOptions = _
    rw [path?_of_get? (h .workspace), flag_of_get? (h .json), hoptions]
    rfl
  | watch w debounce o =>
    show watch (r.path? .workspace) (r.value? .debounceMs) r.analyzerOptions = _
    rw [path?_of_get? (h .workspace), value?_of_get? (h .debounceMs), hoptions]
    rfl

/-- Every command is read back from its command line, in whatever order its options are written,
and however its values look; only a command that names a program to run the analyzer and says that
there is none is refused. -/
theorem readLine_lineWith (c : Command) (words : List Argument)
    (hpaths : ∀ p ∈ c.paths, p.bytes ≠ []) (horder : words.Perm c.optionWords) :
    (¬c.IsContradictory → readLine (c.lineWith words) = .ok c) ∧
      (c.IsContradictory → readLine (c.lineWith words) = .error .conflict) := by
  -- the words are those of the given options in some order
  rw [optionWords_eq] at horder
  obtain ⟨entries, rfl, hentries⟩ : Relation.Comp (· = List.map _ ·) List.Perm words
      (entriesOf c.value? c.optionParameters) := by
    rw [List.eq_map_comp_perm]
    exact horder
  have htakes : ∀ e ∈ entries, e.1 ∈ c.parameters ∧ e.1.Takes e.2 := by
    intro e he
    obtain ⟨hp, hvalue⟩ := mem_entriesOf.mp (hentries.mem_iff.mp he)
    exact ⟨mem_parameters hp, takes_value? hpaths hp hvalue⟩
  have hdistinct : (entries.map (·.1)).Nodup := by
    rw [(hentries.map _).nodup_iff, map_fst_entriesOf]
    exact (List.nodup_append.mp c.nodup_optionParameters).1.sublist List.filter_sublist
  have hworkspace : ∀ p ∈ c.workspace?, Parameter.workspace ∈ c.parameters ∧ p.bytes ≠ [] := by
    intro p hp
    exact ⟨workspace_mem_parameters hp, hpaths p (mem_paths.mpr (.inl hp))⟩
  obtain ⟨r, hgiven, hread⟩ := exists_readWith_eq c.build htakes hdistinct hworkspace
  have hget := get?_eq_value? hentries hgiven
  have hruntime : r.flag .runtime = c.options.runtime.isSome := by
    rw [Reading.flag, hget, value?_of_mem (by decide)]
    exact Option.isSome_map
  have hnone : r.flag .noRuntime = c.options.noRuntime :=
    flag_of_get? ((hget .noRuntime).trans (value?_of_mem (by decide)))
  have hline : readLine (c.lineWith (entries.map fun e => e.1.word e.2)) =
      if c.options.runtime.isSome && c.options.noRuntime then .error .conflict else .ok c := by
    rw [lineWith, List.cons_append, readLine_name, hread, hruntime, hnone, build_eq hget]
  rw [hline]
  constructor
  · intro hconsistent
    rw [if_neg (by rwa [Bool.and_eq_true])]
  · intro hcontradictory
    rw [if_pos (by rwa [Bool.and_eq_true])]

/-- Values may look like options or like nothing that is text. -/
theorem readLine_lineWith_strangeValues :
    let odd : Command := .scan (some (.ofText "--json")) true
      { analyzer := some ⟨[dash, equalsSign, 255]⟩, runtime := some "--no-runtime",
        timeout := some 18446744073709551615 }
    let torn : Command := .watch none (some 0) { runtime := some "sh", noRuntime := true }
    (∀ p ∈ odd.paths, p.bytes ≠ []) ∧ ¬odd.IsContradictory ∧
      readLine (odd.lineWith odd.optionWords.reverse) = .ok odd ∧
      (∀ p ∈ torn.paths, p.bytes ≠ []) ∧ torn.IsContradictory ∧
      readLine (torn.lineWith torn.optionWords) = .error .conflict ∧
      readLine (torn.lineWith torn.optionWords.reverse) = .error .conflict := by
  intro odd torn
  have hodd : ∀ p ∈ odd.paths, p.bytes ≠ [] := by decide
  have htorn : ∀ p ∈ torn.paths, p.bytes ≠ [] := by decide
  have hconsistent : ¬odd.IsContradictory := by decide
  have hcontradictory : torn.IsContradictory := by decide
  have hread := (readLine_lineWith odd _ hodd (List.reverse_perm _)).1 hconsistent
  have hrefused := (readLine_lineWith torn _ htorn (List.Perm.refl _)).2 hcontradictory
  have hrefused' := (readLine_lineWith torn _ htorn (List.reverse_perm _)).2 hcontradictory
  exact ⟨hodd, hconsistent, hread, htorn, hcontradictory, hrefused, hrefused'⟩

end Deadwood.Command
