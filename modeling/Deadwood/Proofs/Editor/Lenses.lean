import Deadwood.Editor.Server
import Deadwood.Proofs.Editor.Contents
import Deadwood.Proofs.Editor.Keys
import Deadwood.Proofs.Editor.Shown
import Deadwood.Proofs.Finding.Table

/-!
# Lenses and diagnostics of a document

The diagnostics of a document are sent when a report is applied, its lenses are fetched later. Both
start from the report, but the diagnostics go through the table of findings, the plan and the
addresses of files, the lenses through the path of the document and its names. Where reports name
their files from the root, the two meet: the lenses of a document stand on the lines of the warnings
that were sent for it.

* `Session.lenses_eq_inFile` : the lenses of a document, if the report names files from the root;
* `filterMap_sentFor?_plan` : what an update sends for a document then;
* `lensLines_eq_warningLines` : both together.
-/

namespace Deadwood

/-- All files of a report are named from the root. -/
structure Report.IsAbsolute (r : Report) : Prop where
  functions : ∀ f ∈ r.functions, f.file.isAbsolute = true
  comments : ∀ c ∈ r.comments, c.file.isAbsolute = true

/-- All files of the findings of such a report are named from the root. -/
theorem Report.IsAbsolute.findings {r : Report} (h : r.IsAbsolute) (settings : FindingSettings) :
    ∀ e ∈ (FindingTable.ofReport settings r).entries, e.1.isAbsolute = true :=
  FindingTable.forall_ofReport (P := fun p => p.isAbsolute = true) settings h.functions h.comments

/-- There are no lenses in a file of which no function is known. -/
theorem Lens.inFile_eq_nil {r : Report} {file : Path}
    (h : ∀ f ∈ r.functions, f.file.same file = false) : Lens.inFile r file = [] := by
  rw [Lens.inFile, List.map_eq_nil_iff, Report.unusedIn, List.filter_eq_nil_iff]
  intro f hf
  rw [h f (List.mem_filter.mp hf).1]
  exact Bool.false_ne_true

namespace Editor

open PathMap

/-! ## Lenses of a document -/

/-- Where files are named from the root, the lenses of a document are those of its path. -/
theorem Session.lenses_eq_inFile {s : Session} (hroot : s.root.isAbsolute = true)
    (hreport : s.current.report.IsAbsolute) (path : Path) :
    s.lenses path = Lens.inFile s.current.report path := by
  cases hstrip : Path.stripBase? s.root path with
  | none =>
    rw [lenses, Path.reportKeys, hstrip, Option.toList_none, List.map_singleton,
      List.find?_singleton]
    cases Lens.inFile s.current.report path <;> rfl
  | some rest =>
    have hkeys : Path.reportKeys s.root path = [path, rest] := by
      rw [Path.reportKeys, hstrip]
      rfl
    have hrest : Lens.inFile s.current.report rest = [] := by
      -- the name below the root is relative, so no file of the report is meant by it
      refine Lens.inFile_eq_nil fun f hf => ?_
      rw [← Bool.not_eq_true, Path.same_iff_anchor_steps]
      rintro ⟨hanchor, -⟩
      have habsolute := hreport.functions f hf
      rw [Path.isAbsolute, hanchor, ← Path.isAbsolute,
        Path.isAbsolute_of_stripBase? hroot hstrip] at habsolute
      cases habsolute
    rw [lenses_of_reportKeys hkeys, hrest]
    split
    case _ hempty => exact (List.isEmpty_iff.mp hempty).symm
    case _ => rfl

/-! ## Diagnostics of a document -/

/-- Where files are named from the root, an update sends for the address of a file what the plan has
for it, once or not at all. -/
theorem filterMap_sentFor?_plan (root : Path) {previous next : FindingTable}
    (habsolute : ∀ e ∈ (Publication.planTable previous next).entries, e.1.isAbsolute = true)
    {file : Path} (hfile : file.isAbsolute = true) {url : Url} (hurl : Url.ofPath? file = some url)
    {u : Update} (hu : u.publications = Publication.plan previous next) :
    (Message.ofUpdate root u).filterMap (Message.sentFor? url) =
      ((Publication.planTable previous next).get? file).toList.map (·.map .ofFinding) := by
  have hfilter : (Publication.planTable previous next).entries.filter
        (fun e => decide (Path.publishUrl? root e.1 = some url)) =
      (Publication.planTable previous next).entries.filter (·.1.same file) := by
    apply List.filter_congr
    intro e he
    have hjoin : root.join e.1 = e.1 := if_pos (habsolute e he)
    rw [Bool.eq_iff_iff, decide_eq_true_iff, Path.publishUrl?, hjoin, ← hurl,
      Url.ofPath?_eq_iff_same (habsolute e he) hfile]
  have hfound : ((Publication.planTable previous next).entries.filter (·.1.same file)).map (·.2) =
      ((Publication.planTable previous next).get? file).toList :=
    (Publication.planTable previous next).ordered.filter_same file
  rw [filterMap_sentFor?_ofUpdate, hu, Publication.plan, List.filter_map, List.map_map, ← hfound,
    ← hfilter, List.map_map]
  rfl

/-! ## Both together -/

/-- The lines on which lenses stand, counted from zero. -/
def lensLines (lenses : List Lens) : List Nat := lenses.map fun l => (lensRange l).start.line.toNat

/-- The lines on which the warnings among diagnostics start, counted from zero. -/
def warningLines (diagnostics : List Diagnostic) : List Nat :=
  (diagnostics.filter (·.severity == .warning)).map (·.range.start.line.toNat)

/-- The lines of lenses are those written in their objects. -/
theorem map_startLine?_lensJson (lenses : List Lens) :
    (lenses.map lensJson).map startLine? = (lensLines lenses).map fun n => some (.nat n) := by
  rw [lensLines, List.map_map, List.map_map]
  exact List.map_congr_left fun l _ => (hasRange_lensJson l).startLine?_eq

/-- The lines of warnings are those written in the objects that say so. -/
theorem map_startLine?_toJson (diagnostics : List Diagnostic) :
    ((diagnostics.map Diagnostic.toJson).filter isWarning).map startLine? =
      (warningLines diagnostics).map fun n => some (.nat n) := by
  have hwarning : isWarning ∘ Diagnostic.toJson = (·.severity == .warning) :=
    funext isWarning_toJson
  rw [warningLines, List.filter_map, hwarning, List.map_map, List.map_map]
  exact List.map_congr_left fun d _ => (hasRange_toJson d).startLine?_eq

/-- The objects in the list that a message sends for an address. -/
def Message.itemsFor? (url : Url) (m : Message) : Option (List Json) :=
  (m.sentFor? url).bind fun _ =>
    match member? "diagnostics" m.params with
    | some (.array items) => some items
    | _ => none

theorem Message.itemsFor?_eq (url : Url) (m : Message) :
    m.itemsFor? url = (m.sentFor? url).map (·.map Diagnostic.toJson) := by
  cases m with
  | log importance text => rfl
  | publish other diagnostics =>
    by_cases hother : other = url
    · have hsent : sentFor? url (.publish other diagnostics) = some diagnostics := if_pos hother
      rw [itemsFor?, hsent]
      rfl
    · have hsent : sentFor? url (.publish other diagnostics) = none := if_neg hother
      rw [itemsFor?, hsent]
      rfl

theorem filterMap_itemsFor? (url : Url) (messages : List Message) :
    messages.filterMap (Message.itemsFor? url) =
      (messages.filterMap (Message.sentFor? url)).map (·.map Diagnostic.toJson) := by
  rw [List.map_filterMap]
  exact List.filterMap_congr fun m _ => m.itemsFor?_eq url

/-- The lenses of a file are on the lines of the warnings about its findings. -/
theorem lensLines_inFile (settings : FindingSettings) (r : Report) (file : Path) :
    lensLines (Lens.inFile r file) =
      warningLines ((((FindingTable.ofReport settings r).findings? file).getD []).map
        .ofFinding) := by
  have hwarnings : (((FindingTable.ofReport settings r).findings? file).getD []).filter
      ((·.severity == .warning) ∘ Diagnostic.ofFinding) =
        (r.unusedIn file).map FunctionRecord.finding :=
    FindingTable.filter_warning_ofReport settings r file
  rw [lensLines, warningLines, List.filter_map, hwarnings, Lens.inFile, List.map_map, List.map_map,
    List.map_map]
  rfl

/-- An unused function has a lens in each spelling of its file. -/
theorem mem_lensLines_inFile {r : Report} {f : FunctionRecord} (hf : f ∈ r.functions)
    (hunused : f.usageCount = 0) {file : Path} (hfile : f.file.same file = true) :
    f.line.toNat - 1 ∈ lensLines (Lens.inFile r file) := by
  have hmem : f ∈ r.unusedIn file :=
    List.mem_filter.mpr ⟨List.mem_filter.mpr ⟨hf, beq_iff_eq.mpr hunused⟩, hfile⟩
  exact List.mem_map.mpr ⟨⟨f.line, unusedMessage⟩, List.mem_map.mpr ⟨f, hmem, rfl⟩,
    toNat_zeroBased f.line⟩

/-- Where files are named from the root, an update sends at most one list for the address of a file,
and its warnings are on the lines of the lenses of the file. -/
theorem warningLines_sent (root : Path) {settings settings' : FindingSettings}
    {earlier report : Report} (hearlier : earlier.IsAbsolute) (hreport : report.IsAbsolute)
    {file : Path} (hfile : file.isAbsolute = true) {url : Url} (hurl : Url.ofPath? file = some url)
    {u : Update}
    (hu : u.publications =
      Publication.plan (.ofReport settings earlier) (.ofReport settings' report)) :
    let sent := (Message.ofUpdate root u).filterMap (Message.sentFor? url)
    sent.length ≤ 1 ∧ warningLines (sent.head?.getD []) = lensLines (Lens.inFile report file) := by
  intro sent
  let previous := FindingTable.ofReport settings earlier
  let next := FindingTable.ofReport settings' report
  let planned := (Publication.planTable previous next).get? file
  have habsolute : ∀ e ∈ (Publication.planTable previous next).entries, e.1.isAbsolute = true :=
    Publication.forall_planTable (P := fun p => p.isAbsolute = true) (hearlier.findings settings)
      (hreport.findings settings')
  have hsent : sent = planned.toList.map (·.map .ofFinding) :=
    filterMap_sentFor?_plan root habsolute hfile hurl hu
  have hplanned : planned.getD [] = (next.findings? file).getD [] :=
    Publication.getD_get?_planTable previous next file
  constructor
  · rw [hsent, List.length_map]
    cases planned with
    | none => exact Nat.zero_le 1
    | some findings => exact Nat.le_refl 1
  · have hhead : sent.head?.getD [] = (planned.getD []).map .ofFinding := by
      rw [hsent]
      cases planned <;> rfl
    rw [hhead, hplanned, lensLines_inFile settings']

/-- A server that is ready answers a request for lenses with those of the document, as objects. -/
theorem Server.request_lenses {server : Server} (hready : server.stage = .ready)
    {session : Session} (hsession : server.session? = some session) {params : Json} {url : Url}
    (hparams : DenotesLensRequest params url) {path : Path} (hpath : url.toPath? = some path) :
    server.request "textDocument/codeLens" params =
      (server, .result (.array ((session.lenses path).map lensJson))) := by
  have hlenses : server.lenses? url = some (.array ((session.lenses path).map lensJson)) := by
    simp [lenses?, hsession, hpath]
  have hanswer : server.answer "textDocument/codeLens" params =
      (server, .result (.array ((session.lenses path).map lensJson))) := by
    simp [answer, reply, hparams.read_eq, hlenses]
  have hmethod : isMethod "textDocument/codeLens" = true := by decide +kernel
  have hrequest : server.request "textDocument/codeLens" params =
      server.answer "textDocument/codeLens" params := by
    simp [request, hready, hmethod, cancelMethod, notificationMethods]
  rw [hrequest, hanswer]

/-- The lenses of a document stand on the lines of the warnings that are sent for it. For reports
that name their files from the root, an update sends at most one list for the address of a file. A
request for the lenses of this address is then answered with a list of objects, and the start lines
written in them are those written in the objects of that list that are warnings, in the same order.
Every unused function of the file is among them. -/
theorem lensLines_eq_warningLines (session : Session) (hroot : session.root.isAbsolute = true)
    (settings : FindingSettings) (generation : Nat) (earlier report : Report)
    (hcurrent : session.current = .build settings generation earlier)
    (hearlier : earlier.IsAbsolute) (hreport : report.IsAbsolute) (file : Path)
    (hfile : file.isAbsolute = true) :
    let after := (session.apply report).1
    let update := (session.apply report).2
    ∃ url, Url.ofPath? file = some url ∧
      let sent := (Message.ofUpdate session.root update).filterMap (Message.itemsFor? url)
      sent.length ≤ 1 ∧
      ∀ (server : Server) (params : Json), server.stage = .ready →
        server.session? = some after → DenotesLensRequest params url →
        ∃ (items : List Json) (lines : List Nat),
          server.request "textDocument/codeLens" params = (server, .result (.array items)) ∧
          items.map startLine? = lines.map (fun n => some (.nat n)) ∧
          ((sent.head?.getD []).filter isWarning).map startLine? =
            lines.map (fun n => some (.nat n)) ∧
          ∀ f ∈ report.functions, f.usageCount = 0 → f.file.same file = true →
            f.line.toNat - 1 ∈ lines := by
  intro after update
  obtain ⟨url, hurl⟩ : ∃ url, Url.ofPath? file = some url := by
    rw [Url.ofPath?, if_neg (by simp [hfile])]
    exact ⟨_, rfl⟩
  obtain ⟨path, hpath, hsame⟩ := Url.exists_toPath?_of_ofPath? hurl
  have hplan : update.publications = Publication.plan (.ofReport settings earlier)
      (.ofReport session.scheduler.pipeline.settings report) := by
    change Publication.plan session.current.findings _ = _
    rw [hcurrent]
    rfl
  have hlenses : after.lenses path = Lens.inFile report file := by
    rw [Session.lenses_eq_inFile (s := after) hroot hreport path]
    exact Lens.inFile_congr report hsame
  obtain ⟨hcount, hlines⟩ := warningLines_sent session.root hearlier hreport hfile hurl hplan
  refine ⟨url, hurl, ?_⟩
  intro sent
  have hsent : sent = _ := filterMap_itemsFor? url (Message.ofUpdate session.root update)
  refine ⟨?_, fun server params hready hserver hparams =>
    ⟨(after.lenses path).map lensJson, lensLines (Lens.inFile report file),
      Server.request_lenses hready hserver hparams hpath, ?_, ?_, ?_⟩⟩
  · rw [hsent, List.length_map]
    exact hcount
  · rw [map_startLine?_lensJson, hlenses]
  · have hhead : sent.head?.getD [] = (((Message.ofUpdate session.root update).filterMap
        (Message.sentFor? url)).head?.getD []).map Diagnostic.toJson := by
      rw [hsent, List.head?_map]
      cases ((Message.ofUpdate session.root update).filterMap (Message.sentFor? url)).head? <;> rfl
    rw [hhead, map_startLine?_toJson, hlines]
  · intro f hf hunused hsameFile
    exact mem_lensLines_inFile hf hunused hsameFile

/-- An unused function in a file of the workspace. -/
def strayBefore : Report := { functions := [⟨"old", .ofText "/w/b.py", 1, 0, none⟩] }

/-- Another one, in a file that is spelled in two ways, and a comment before it. -/
def strayAfter : Report where
  functions := [⟨"stray", .ofText "/w//a.py", 5, 0, none⟩]
  comments := [⟨.ofText "/w/a.py", 2, "x = 1"⟩]

/-- An editor asks for the lenses of that file. -/
def strayRequest : Json := .object [("textDocument", .object [("uri", .string "file:///w/a.py")])]

theorem lensLines_eq_warningLines_stray :
    let session := ((Session.start ⟨[]⟩ (.ofText "/w") {} false).apply strayBefore).1
    let after := (session.apply strayAfter).1
    let update := (session.apply strayAfter).2
    let file := Path.ofText "/w/a.py"
    let server : Server :=
      { tree := default, home := default, stage := .ready, session? := some after }
    session.root.isAbsolute = true ∧ session.current = .build {} 1 strayBefore ∧
      strayBefore.IsAbsolute ∧ strayAfter.IsAbsolute ∧ file.isAbsolute = true ∧
      ∃ url, Url.ofPath? file = some url ∧ DenotesLensRequest strayRequest url ∧
        let sent := (Message.ofUpdate session.root update).filterMap (Message.itemsFor? url)
        sent.length ≤ 1 ∧ ∃ (items : List Json) (lines : List Nat),
          server.request "textDocument/codeLens" strayRequest =
            (server, .result (.array items)) ∧
          items.map startLine? = lines.map (fun n => some (.nat n)) ∧
          ((sent.head?.getD []).filter isWarning).map startLine? =
            lines.map (fun n => some (.nat n)) ∧ 4 ∈ lines := by
  intro session after update file server
  have hroot : session.root.isAbsolute = true := by decide
  have hcurrent : session.current = .build {} 1 strayBefore := rfl
  have hbefore : strayBefore.IsAbsolute := ⟨by decide, by decide⟩
  have hafter : strayAfter.IsAbsolute := ⟨by decide, by decide⟩
  have hfile : file.isAbsolute = true := by decide
  obtain ⟨url, hurl, hcount, hlenses⟩ :=
    lensLines_eq_warningLines session hroot {} 1 strayBefore strayAfter hcurrent hbefore hafter file
      hfile
  have hparse : Url.parse? "file:///w/a.py" = some url := by
    rw [← hurl]
    decide +kernel
  have hrequest : DenotesLensRequest strayRequest url :=
    ⟨⟨_, rfl, ⟨_, rfl, _, rfl, hparse⟩⟩, .inl (.inl rfl), .inl (.inl rfl)⟩
  obtain ⟨items, lines, hanswer, hitems, hwarnings, hall⟩ :=
    hlenses server strayRequest rfl rfl hrequest
  have hstray : 4 ∈ lines :=
    hall ⟨"stray", .ofText "/w//a.py", 5, 0, none⟩ List.mem_cons_self rfl (by decide)
  exact ⟨hroot, hcurrent, hbefore, hafter, hfile, url, hurl, hrequest, hcount, items, lines,
    hanswer, hitems, hwarnings, hstray⟩

end Editor

end Deadwood
