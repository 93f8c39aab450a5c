import Deadwood.Settings.Basic
import Deadwood.Report.Decode
import Deadwood.Report.Encode

/-!
# Settings as JSON

Settings are read from the options that an editor sends. What is not named keeps its default;
absent and null are the same only for the options as a whole and for the three optional settings,
where null means none.
-/

namespace Deadwood

open Json (Mismatch Decoder Members)

/-! ## Reading -/

namespace AnalyzerSettings

/-- Analyzer settings from the members of an object, looked at in the order of their names. -/
def ofMembers (ms : Members) : Except Mismatch AnalyzerSettings := do
  let candidates ← ms.read "candidates" (Json.listDecoder Path.decoder)
  let installDir ← ms.read "installDir" (Json.optionDecoder Path.decoder)
  let path ← ms.read "path" (Json.optionDecoder Path.decoder)
  let runtime ← ms.read "runtime" (Json.optionDecoder Json.stringDecoder)
  let timeoutSecs ← ms.read "timeoutSecs" Json.word64Decoder
  let base : AnalyzerSettings := {}
  return {
    runtime := runtime.getD base.runtime
    path := path.getD base.path
    installDir := installDir.getD base.installDir
    candidates := candidates.getD base.candidates
    timeoutSecs := timeoutSecs.getD base.timeoutSecs }

/-- Analyzer settings from the list of their fields. -/
def ofFields (items : List Json) : Except Mismatch AnalyzerSettings := do
  let base : AnalyzerSettings := {}
  let runtime ← Json.Fields.readD items 0 (Json.optionDecoder Json.stringDecoder) base.runtime
  let path ← Json.Fields.readD items 1 (Json.optionDecoder Path.decoder) base.path
  let installDir ← Json.Fields.readD items 2 (Json.optionDecoder Path.decoder) base.installDir
  let candidates ← Json.Fields.readD items 3 (Json.listDecoder Path.decoder) base.candidates
  let timeoutSecs ← Json.Fields.readD items 4 Json.word64Decoder base.timeoutSecs
  Json.Fields.noMore 5 items
  return { runtime, path, installDir, candidates, timeoutSecs }

/-- Analyzer settings. -/
def decoder : Decoder AnalyzerSettings := Json.recordDecoder "AnalyzerConfig" ofMembers ofFields

end AnalyzerSettings

namespace FindingSettings

/-- Finding settings from the members of an object. -/
def ofMembers (ms : Members) : Except Mismatch FindingSettings := do
  let includeSnippet ← ms.read "includeCommentSnippet" Json.boolDecoder
  return { includeSnippet := includeSnippet.getD true }

/-- Finding settings from the list of their fields. -/
def ofFields (items : List Json) : Except Mismatch FindingSettings := do
  let includeSnippet ← Json.Fields.readD items 0 Json.boolDecoder true
  Json.Fields.noMore 1 items
  return { includeSnippet }

/-- Finding settings. -/
def decoder : Decoder FindingSettings := Json.recordDecoder "DiagnosticsConfig" ofMembers ofFields

end FindingSettings

namespace Settings

/-- Settings from the members of an object, looked at in the order of their names. -/
def ofMembers (ms : Members) : Except Mismatch Settings := do
  let analyzer ← ms.read "analyzer" AnalyzerSettings.decoder
  let debounceMs ← ms.read "debounceMs" Json.word64Decoder
  let findings ← ms.read "diagnostics" FindingSettings.decoder
  let base : Settings := {}
  return {
    analyzer := analyzer.getD base.analyzer
    debounceMs := debounceMs.getD base.debounceMs
    findings := findings.getD base.findings }

/-- Settings from the list of their fields. -/
def ofFields (items : List Json) : Except Mismatch Settings := do
  let base : Settings := {}
  let analyzer ← Json.Fields.readD items 0 AnalyzerSettings.decoder base.analyzer
  let debounceMs ← Json.Fields.readD items 1 Json.word64Decoder base.debounceMs
  let findings ← Json.Fields.readD items 2 FindingSettings.decoder base.findings
  Json.Fields.noMore 3 items
  return { analyzer, debounceMs, findings }

/-- Settings. -/
def decoder : Decoder Settings := Json.recordDecoder "DcfConfig" ofMembers ofFields

/-- Why options are no settings. -/
structure Refusal where
  mismatch : Mismatch
deriving Inhabited

/-- The wording of a refusal. -/
def Refusal.message (r : Refusal) : String :=
  "Configuration error: invalid initializationOptions: " ++ r.mismatch.message

/-- The settings in the options of an editor; no options and null are the defaults. Formalises
`from_initialization_options`. -/
def ofOptions : Option Json → Except Refusal Settings
  | none => .ok {}
  | some .null => .ok {}
  | some x => (decoder x).mapError fun m => ⟨m⟩

end Settings

/-! ## Writing -/

/-- A value that may be absent, with null for absence. -/
def Json.ofOption {α : Type} (f : α → Json) : Option α → Json
  | some x => f x
  | none => .null

/-- Analyzer settings as JSON. -/
def AnalyzerSettings.toJson (a : AnalyzerSettings) : Json :=
  .object [("runtime", Json.ofOption .string a.runtime), ("path", Json.ofOption Path.toJson a.path),
    ("installDir", Json.ofOption Path.toJson a.installDir),
    ("candidates", .array (a.candidates.map Path.toJson)),
    ("timeoutSecs", Json.nat a.timeoutSecs.toNat)]

/-- Finding settings as JSON. -/
def FindingSettings.toJson (f : FindingSettings) : Json :=
  .object [("includeCommentSnippet", .bool f.includeSnippet)]

/-- Settings as JSON. -/
def Settings.toJson (s : Settings) : Json :=
  .object [("analyzer", s.analyzer.toJson), ("debounceMs", Json.nat s.debounceMs.toNat),
    ("diagnostics", s.findings.toJson)]

end Deadwood
