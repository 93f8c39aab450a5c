import Deadwood.Editor.Message
import Deadwood.Proofs.Finding.Publication
import Deadwood.Proofs.Pipeline.Generations
import Deadwood.Proofs.Url.FilePath

/-!
# What the editor shows for an address

Publications name files as reports spell them, the editor knows addresses. A relative file and an
absolute one are two files of a table but may have one address, and then the lists that an update
publishes for them replace each other. They are sent in path order, so it is the last spelling of
the last two tables that decides what is shown, even if only the older table has it and its list is
empty.

* `lastSent?_plan` : what one update leaves for an address;
* `lastSent?_messages` : what is shown after any updates, for the address of a current file;
* `cleared_by_older_spelling` : two updates after which the findings of a file are not shown.
-/

namespace Deadwood.Editor

open PathMap

/-! ## What is sent -/

/-- The diagnostics that a message gives for an address. -/
def Message.sentFor? (url : Url) : Message → Option (List Diagnostic)
  | .publish u diagnostics => if u = url then some diagnostics else none
  | .log _ _ => none

/-- What was sent for an address last; each list takes the place of those before it. -/
def lastSent? (url : Url) (messages : List Message) : Option (List Diagnostic) :=
  (messages.filterMap (Message.sentFor? url)).getLast?

/-- The messages about all updates, when reports have been applied in this order. -/
def messages (root : Path) (settings : FindingSettings) (reports : List Report) : List Message :=
  (Update.history settings reports).flatMap (Message.ofUpdate root)

theorem lastSent?_append (url : Url) (before after : List Message) :
    lastSent? url (before ++ after) = (lastSent? url after).or (lastSent? url before) := by
  rw [lastSent?, List.filterMap_append, List.getLast?_append]
  rfl

/-- What an update sends to an address: the lists of the publications about files with this address,
in order. -/
theorem filterMap_sentFor?_ofUpdate (root : Path) (url : Url) (u : Update) :
    (Message.ofUpdate root u).filterMap (Message.sentFor? url) =
      (u.publications.filter fun p => Path.publishUrl? root p.file = some url).map
        fun p => p.findings.map .ofFinding := by
  have hsent (ps : List Publication) :
      (ps.filterMap (Message.ofPublication? root)).filterMap (Message.sentFor? url) =
        (ps.filter fun p => Path.publishUrl? root p.file = some url).map
          fun p => p.findings.map .ofFinding := by
    induction ps with
    | nil => rfl
    | cons p ps ih =>
      cases haddress : Path.publishUrl? root p.file with
      | none => simp [Message.ofPublication?, haddress, ih]
      | some other =>
        by_cases hother : other = url <;>
          simp [Message.ofPublication?, Message.sentFor?, haddress, hother, ih]
  have hsummary : Message.sentFor? url (Message.summary u) = none := rfl
  rw [Message.ofUpdate, List.filterMap_append, hsent, List.filterMap_cons, hsummary,
    List.filterMap_nil, List.append_nil]

/-- The last publication that an update sends to an address. -/
theorem lastSent?_ofUpdate (root : Path) (url : Url) (u : Update) :
    lastSent? url (Message.ofUpdate root u) =
      (u.publications.filter fun p => Path.publishUrl? root p.file = some url).getLast?.map
        fun p => p.findings.map .ofFinding := by
  rw [lastSent?, filterMap_sentFor?_ofUpdate, List.getLast?_map]

/-! ## Spellings of one file -/

/-- A file of one of two tables. -/
def Named (previous next : FindingTable) (file : Path) : Prop :=
  next.get? file ≠ none ∨ previous.get? file ≠ none

/-- Of the files of two tables that are spellings of one file below the root, the last one in path
order. -/
structure LastSpelling (root : Path) (previous next : FindingTable) (file last : Path) :
    Prop where
  named : Named previous next last
  same_join : (root.join last).same (root.join file) = true
  not_before : ∀ other, Named previous next other →
    (root.join other).same (root.join file) = true → compare other last ≠ .gt

/-- Among absolute files each has one spelling only. -/
theorem LastSpelling.of_isAbsolute {root : Path} {previous next : FindingTable} {file : Path}
    (hfile : Named previous next file)
    (h : ∀ other, Named previous next other → other.isAbsolute = true) :
    LastSpelling root previous next file file := by
  refine ⟨hfile, Path.same_refl _, fun other hother hsame => ?_⟩
  rw [Path.join, if_pos (h other hother), Path.join, if_pos (h file hfile)] at hsame
  rw [Path.compare_eq_iff_same.mpr hsame]
  decide

/-- Two last spellings are found alike. -/
theorem LastSpelling.get?_eq {root : Path} {previous next : FindingTable} {file last last' : Path}
    (h : LastSpelling root previous next file last)
    (h' : LastSpelling root previous next file last') (t : FindingTable) :
    t.get? last = t.get? last' := by
  have hle := h'.not_before last h.named h.same_join
  have hge := h.not_before last' h'.named h'.same_join
  have heq : compare last last' = .eq := by
    cases hcompare : compare last last' with
    | lt => exact absurd (Std.OrientedCmp.gt_of_lt hcompare) hge
    | eq => rfl
    | gt => exact absurd hcompare hle
  exact get?_congr t (Path.compare_eq_iff_same.mp heq)

/-! ## One update -/

/-- A plan has the files of both tables, with their new findings. -/
theorem named_of_mem_planTable {previous next : FindingTable} {e : Path × List Finding}
    (he : e ∈ (Publication.planTable previous next).entries) :
    Named previous next e.1 ∧ e.2 = (next.get? e.1).getD [] := by
  have hfound := get?_of_mem he
  rw [Publication.get?_planTable] at hfound
  unfold Named
  cases hnext : next.get? e.1 with
  | some findings => simp_all
  | none => cases hprevious : previous.get? e.1 <;> simp_all

/-- Every file of either table has an entry in the plan. -/
theorem exists_mem_planTable {previous next : FindingTable} {file : Path}
    (h : Named previous next file) :
    ∃ e ∈ (Publication.planTable previous next).entries, e.1.same file = true := by
  have hfound : (Publication.planTable previous next).get? file ≠ none := by
    rw [Publication.get?_planTable]
    rcases h with h | h
    · simp [h]
    · simp [h]
  obtain ⟨findings, hfindings⟩ := Option.ne_none_iff_exists'.mp hfound
  obtain ⟨e, he, hsame, -⟩ := exists_mem_of_get? hfindings
  exact ⟨e, he, hsame⟩

/-- After an update, what was sent last for the address of a file is what the new table says of its
last spelling. -/
theorem lastSent?_plan {root : Path} (hroot : root.isAbsolute = true)
    {previous next : FindingTable} {file : Path} (hfile : Named previous next file) {url : Url}
    (hurl : Path.publishUrl? root file = some url)
    {u : Update} (hu : u.publications = Publication.plan previous next) :
    ∃ last, LastSpelling root previous next file last ∧
      lastSent? url (Message.ofUpdate root u) =
        some (((next.get? last).getD []).map .ofFinding) := by
  -- the entries of the plan at this address
  let entries := (Publication.planTable previous next).entries
  let sent := entries.filter fun e => Path.publishUrl? root e.1 = some url
  have hsent (e : Path × List Finding) :
      e ∈ sent ↔ e ∈ entries ∧ (root.join e.1).same (root.join file) = true := by
    rw [List.mem_filter, decide_eq_true_iff, ← hurl, Path.publishUrl?_eq_iff_same hroot]
  have hlast : lastSent? url (Message.ofUpdate root u) =
      sent.getLast?.map fun e => e.2.map .ofFinding := by
    rw [lastSent?_ofUpdate, hu, Publication.plan, List.filter_map, List.getLast?_map,
      Option.map_map]
    rfl
  have hmem (other : Path) (hother : Named previous next other)
      (hsame : (root.join other).same (root.join file) = true) :
      ∃ e ∈ sent, e.1.same other = true := by
    obtain ⟨e, he, heother⟩ := exists_mem_planTable hother
    have hjoin := Path.same_join heother hroot
    exact ⟨e, (hsent e).mpr ⟨he, by rw [Path.same_congr_left hjoin, hsame]⟩, heother⟩
  have hordered : OrderedEntries sent := (Publication.planTable previous next).ordered.filter _
  obtain ⟨e₀, he₀, -⟩ := hmem file hfile (Path.same_refl _)
  obtain ⟨e, he⟩ : ∃ e, sent.getLast? = some e :=
    Option.ne_none_iff_exists'.mp
      (mt List.getLast?_eq_none_iff.mp (List.ne_nil_of_mem he₀))
  obtain ⟨heplan, hesame⟩ := (hsent e).mp (List.mem_of_getLast? he)
  obtain ⟨henamed, hefindings⟩ := named_of_mem_planTable heplan
  refine ⟨e.1, ⟨henamed, hesame, fun other hother hsame => ?_⟩, ?_⟩
  · -- another spelling has an entry too, and none comes after the last
    obtain ⟨e', he', heother⟩ := hmem other hother hsame
    rw [← Path.compare_congr_left heother]
    exact hordered.compare_getLast? he he'
  · rw [hlast, he, Option.map_some, hefindings]

/-! ## All updates -/

/-- The messages end with those about the update of the last report. -/
theorem messages_eq_append (root : Path) (settings : FindingSettings) {reports : List Report}
    (h : reports ≠ []) :
    ∃ before, messages root settings reports =
      before ++ Message.ofUpdate root (Update.ofReports settings reports reports.length) := by
  rcases List.eq_nil_or_concat reports with hnil | ⟨before, report, rfl⟩
  · exact absurd hnil h
  · refine ⟨messages root settings before, ?_⟩
    rw [messages, List.concat_eq_append, Update.history_concat, List.flatMap_append,
      List.flatMap_singleton, List.length_append, List.length_singleton]
    rfl

/-- After any updates, a file of the current snapshot has an address, and what was sent for it last
is what the snapshot says of the last spelling of the file in the last two snapshots: the findings
of the file itself if it is this spelling, as it is when all files are absolute. -/
theorem lastSent?_messages (root : Path) (hroot : root.isAbsolute = true)
    (settings : FindingSettings) (reports : List Report) (file : Path) (findings : List Finding)
    (hfile : (Snapshot.ofReports settings reports reports.length).findings.get? file =
      some findings) :
    let previous := (Snapshot.ofReports settings reports (reports.length - 1)).findings
    let current := (Snapshot.ofReports settings reports reports.length).findings
    ∃ url, Path.publishUrl? root file = some url ∧
      (∃ last, LastSpelling root previous current file last ∧
        lastSent? url (messages root settings reports) =
          some (((current.get? last).getD []).map .ofFinding)) ∧
      (LastSpelling root previous current file file →
        lastSent? url (messages root settings reports) = some (findings.map .ofFinding)) ∧
      ((∀ other, Named previous current other → other.isAbsolute = true) →
        lastSent? url (messages root settings reports) = some (findings.map .ofFinding)) := by
  intro previous current
  obtain ⟨url, hurl⟩ := Path.publishUrl?_isSome hroot file
  have hnamed : Named previous current file := .inl (by rw [hfile]; exact Option.some_ne_none _)
  have hreports : reports ≠ [] := by
    rintro rfl
    cases hfile
  obtain ⟨last, hlast, hsent⟩ := lastSent?_plan hroot hnamed hurl
    (u := Update.ofReports settings reports reports.length) rfl
  have hmessages : lastSent? url (messages root settings reports) =
      some (((current.get? last).getD []).map .ofFinding) := by
    obtain ⟨before, hbefore⟩ := messages_eq_append root settings hreports
    rw [hbefore, lastSent?_append, hsent]
    rfl
  have hself (h : LastSpelling root previous current file file) :
      lastSent? url (messages root settings reports) = some (findings.map .ofFinding) := by
    rw [hmessages, hlast.get?_eq h, hfile]
    rfl
  exact ⟨url, hurl, ⟨last, hlast, hmessages⟩, hself, fun h => hself (.of_isAbsolute hnamed h)⟩

/-- Two reports on one function, whose file the first one names below the root and the second one
from it. -/
def respelled : List Report :=
  [{ functions := [⟨"foo", .ofText "a.py", 3, 0, none⟩] },
    { functions := [⟨"foo", .ofText "/w/a.py", 5, 0, none⟩] }]

theorem lastSent?_messages_respelled :
    let root := Path.ofText "/w"
    let file := Path.ofText "/w/a.py"
    let findings := [FunctionRecord.finding ⟨"foo", file, 5, 0, none⟩]
    let previous := (Snapshot.ofReports {} respelled 1).findings
    let current := (Snapshot.ofReports {} respelled 2).findings
    root.isAbsolute = true ∧ current.get? file = some findings ∧
      ∃ url last, Path.publishUrl? root file = some url ∧
        LastSpelling root previous current file last ∧
        lastSent? url (messages root {} respelled) =
          some (((current.get? last).getD []).map .ofFinding) := by
  intro root file findings previous current
  have hroot : root.isAbsolute = true := by decide
  have hfile : current.get? file = some findings := by decide +kernel
  obtain ⟨url, hurl, ⟨last, hlast, hsent⟩, -⟩ :=
    lastSent?_messages root hroot {} respelled file findings hfile
  exact ⟨hroot, hfile, url, last, hurl, hlast, hsent⟩

/-- Findings can be overwritten: the older spelling of the file comes after the newer one, and the
empty list that clears it is sent last, for the address of both. -/
theorem cleared_by_older_spelling :
    ¬∀ (root : Path) (settings : FindingSettings) (reports : List Report) (file : Path)
      (findings : List Finding) (url : Url),
      root.isAbsolute = true →
      (Snapshot.ofReports settings reports reports.length).findings.get? file = some findings →
      Path.publishUrl? root file = some url →
      ∃ sent, lastSent? url (messages root settings reports) = some sent ∧
        ∀ f ∈ findings, Diagnostic.ofFinding f ∈ sent := by
  intro h
  let file := Path.ofText "/w/a.py"
  let finding := FunctionRecord.finding ⟨"foo", file, 5, 0, none⟩
  let url : Url :=
    { scheme := "file".toList, user := some [], path := .segments ["w".toList, "a.py".toList] }
  obtain ⟨sent, hsent, hall⟩ := h (.ofText "/w") {} respelled file [finding] url (by decide)
    (by decide +kernel) (by decide +kernel)
  have hcleared : lastSent? url (messages (.ofText "/w") {} respelled) = some [] := by
    decide +kernel
  cases hsent.symm.trans hcleared
  cases hall finding List.mem_cons_self

end Deadwood.Editor
