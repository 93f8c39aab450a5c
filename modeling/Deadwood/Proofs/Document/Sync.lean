import Deadwood.Editor.Server
import Deadwood.Proofs.Document.Position
import Deadwood.Proofs.Editor.Contents

/-!
# Open documents in step with the editor

An editor has texts open and tells the server when it opens, changes or closes one. A change of a
part is computed by the editor from its own text: it names the positions of two cuts and gives the
text that takes the place of what is between them. After each message the server holds just the
texts that the editor has open.
-/

namespace Deadwood

open Document

/-! ## Changes -/

/-- An editor describes by a change how it gets from one text to another. -/
inductive TextChange.Describes : TextChange → String → String → Prop where
  | whole (old new : String) : Describes ⟨none, new⟩ old new
  | part {range : Range} {a b c : String} (new : String)
      (hstart : PositionOf range.start a.toList) (hstop : PositionOf range.stop (a ++ b).toList)
      (hfirst : ¬ TearsLineEnd a.toList (b ++ c).toList)
      (hsecond : ¬ TearsLineEnd (a ++ b).toList c.toList) :
      Describes ⟨some range, new⟩ (a ++ b ++ c) (a ++ new ++ c)

/-- An editor describes by changes, one after another, how it gets from one text to another. -/
inductive TextChange.DescribesAll : List TextChange → String → String → Prop where
  | nil (text : String) : DescribesAll [] text text
  | cons {change : TextChange} {changes : List TextChange} {old middle new : String}
      (hfirst : change.Describes old middle) (hrest : DescribesAll changes middle new) :
      DescribesAll (change :: changes) old new

/-- A change leads where its editor got by it. -/
theorem TextChange.Describes.apply_eq {change : TextChange} {old new : String}
    (h : change.Describes old new) : change.apply old = new := by
  cases h with
  | whole => rfl
  | @part range a b c new hstart hstop hfirst hsecond =>
    rw [String.toList_append] at hstop hfirst hsecond
    have hreplace := replace_of_positionOf hstart hstop hfirst hsecond new.toList
    show String.ofList (replace range new.toList (a ++ b ++ c).toList) = a ++ new ++ c
    rw [String.toList_append, String.toList_append, hreplace, ← String.toList_append,
      ← String.toList_append, String.ofList_toList]

/-- Changes lead where their editor got by them. -/
theorem TextChange.DescribesAll.foldl_eq {changes : List TextChange} {old new : String}
    (h : DescribesAll changes old new) :
    changes.foldl (fun text c => c.apply text) old = new := by
  induction h with
  | nil => rfl
  | cons hfirst _ ih =>
    rw [List.foldl_cons, hfirst.apply_eq]
    exact ih

/-! ## Notifications -/

/-- What an editor tells about its documents. -/
inductive Notification where
  | opened (url : Url) (text : String)
  | changed (url : Url) (changes : List TextChange)
  | closed (url : Url)

/-- The document that a notification is about. -/
def Notification.url : Notification → Url
  | .opened url _ => url
  | .changed url _ => url
  | .closed url => url

/-- The texts that an editor has open. -/
abbrev EditorTexts := Url → Option String

namespace EditorTexts

/-- No text is open. -/
def none : EditorTexts := fun _ => .none

/-- Opens, replaces or closes a text. -/
def set (texts : EditorTexts) (url : Url) (text? : Option String) : EditorTexts := fun u =>
  if u = url then text? else texts u

/-- What an editor tells when its texts change. It may also tell of changes to a text that is not
open. -/
inductive Tells : EditorTexts → Notification → EditorTexts → Prop where
  | opened (texts : EditorTexts) (url : Url) (text : String) :
      Tells texts (.opened url text) (texts.set url (some text))
  | changed {texts : EditorTexts} {url : Url} {changes : List TextChange} {old new : String}
      (hopen : texts url = some old) (hchanges : TextChange.DescribesAll changes old new) :
      Tells texts (.changed url changes) (texts.set url (some new))
  | stray {texts : EditorTexts} {url : Url} (hclosed : texts url = .none)
      (changes : List TextChange) : Tells texts (.changed url changes) texts
  | closed (texts : EditorTexts) (url : Url) :
      Tells texts (.closed url) (texts.set url .none)

end EditorTexts

/-! ## The store -/

namespace DocumentStore

/-- What a notification makes of the open documents. -/
def take (store : DocumentStore) : Notification → DocumentStore
  | .opened url text => store.insert url text
  | .changed url changes => store.change url changes
  | .closed url => store.close url

theorem text?_cons (d : Url × String) (rest : List (Url × String)) (u : Url) :
    text? ⟨d :: rest⟩ u = if u = d.1 then some d.2 else text? ⟨rest⟩ u := by
  unfold text?
  rw [List.lookup_cons]
  by_cases h : u = d.1
  · rw [if_pos h, beq_iff_eq.mpr h]
  · rw [if_neg h, beq_eq_false_iff_ne.mpr h]

theorem text?_close (store : DocumentStore) (url u : Url) :
    (store.close url).text? u = if u = url then none else store.text? u := by
  obtain ⟨documents⟩ := store
  induction documents with
  | nil => simp [close, text?]
  | cons d rest ih =>
    unfold close at ih ⊢
    rw [List.filter_cons]
    by_cases hd : d.1 = url
    · rw [if_neg (by simp [hd]), ih, text?_cons, hd]
      split <;> rfl
    · rw [if_pos (by simp [hd]), text?_cons, text?_cons, ih]
      by_cases hu : u = url
      · rw [if_pos hu, if_pos hu, if_neg fun h => hd (h.symm.trans hu)]
      · rw [if_neg hu, if_neg hu]

theorem text?_insert (store : DocumentStore) (url u : Url) (text : String) :
    (store.insert url text).text? u = if u = url then some text else store.text? u := by
  unfold insert
  rw [text?_cons]
  split
  · rfl
  case _ hne => exact (text?_close store url u).trans (if_neg hne)

theorem text?_change (store : DocumentStore) (url u : Url) (changes : List TextChange) :
    (store.change url changes).text? u =
      if u = url then (store.text? u).map (changes.foldl fun text c => c.apply text)
      else store.text? u := by
  obtain ⟨documents⟩ := store
  induction documents with
  | nil => simp [change, text?]
  | cons d rest ih =>
    unfold change at ih ⊢
    rw [List.map_cons, text?_cons, text?_cons, ih]
    by_cases hd : d.1 = url
    · rw [if_pos (beq_iff_eq.mpr hd)]
      by_cases hu : u = d.1
      · rw [if_pos hu, if_pos hu, if_pos (hu.trans hd)]
        rfl
      · rw [if_neg hu, if_neg hu]
    · rw [if_neg (mt beq_iff_eq.mp hd)]
      by_cases hu : u = d.1
      · rw [if_pos hu, if_pos hu, if_neg fun h => hd (hu.symm.trans h)]
      · rw [if_neg hu, if_neg hu]

/-- Changes to a document that is not open change nothing. -/
theorem change_eq_self {store : DocumentStore} {url : Url} (h : store.text? url = none)
    (changes : List TextChange) : store.change url changes = store := by
  obtain ⟨documents⟩ := store
  unfold change
  congr 1
  induction documents with
  | nil => rfl
  | cons d rest ih =>
    rw [text?_cons] at h
    split at h
    · cases h
    case _ hne =>
      rw [List.map_cons, ih h, if_neg (mt beq_iff_eq.mp (Ne.symm hne))]

/-- A notification changes no document but the one it is about. -/
theorem text?_take_of_ne (store : DocumentStore) (n : Notification) {u : Url} (h : u ≠ n.url) :
    (store.take n).text? u = store.text? u := by
  cases n with
  | opened url text => exact (text?_insert store url u text).trans (if_neg h)
  | changed url changes => exact (text?_change store url u changes).trans (if_neg h)
  | closed url => exact (text?_close store url u).trans (if_neg h)

/-! ## Each document once -/

/-- Each document is in the store once. -/
def Distinct (store : DocumentStore) : Prop := (store.documents.map Prod.fst).Nodup

theorem Distinct.close {store : DocumentStore} (h : store.Distinct) (url : Url) :
    (store.close url).Distinct :=
  List.Nodup.sublist (List.filter_sublist.map Prod.fst) h

theorem Distinct.insert {store : DocumentStore} (h : store.Distinct) (url : Url) (text : String) :
    (store.insert url text).Distinct := by
  refine List.nodup_cons.mpr ⟨?_, h.close url⟩
  intro hmem
  obtain ⟨d, hd, rfl⟩ := List.mem_map.mp hmem
  have hkept := (List.mem_filter.mp hd).2
  simp at hkept

theorem Distinct.change {store : DocumentStore} (h : store.Distinct) (url : Url)
    (changes : List TextChange) : (store.change url changes).Distinct := by
  have hkeys : (store.change url changes).documents.map Prod.fst =
      store.documents.map Prod.fst := by
    unfold DocumentStore.change
    rw [List.map_map]
    apply List.map_congr_left
    intro d _
    simp only [Function.comp]
    split <;> rfl
  unfold Distinct
  rw [hkeys]
  exact h

theorem Distinct.take {store : DocumentStore} (h : store.Distinct) (n : Notification) :
    (store.take n).Distinct := by
  cases n with
  | opened url text => exact h.insert url text
  | changed url changes => exact h.change url changes
  | closed url => exact h.close url

/-- Where each document is there once, the documents are the texts that are found. -/
theorem mem_documents_iff {store : DocumentStore} (h : store.Distinct) {u : Url} {text : String} :
    (u, text) ∈ store.documents ↔ store.text? u = some text := by
  obtain ⟨documents⟩ := store
  induction documents with
  | nil => simp [text?]
  | cons d rest ih =>
    obtain ⟨hhead, hrest⟩ := List.nodup_cons.mp h
    rw [List.mem_cons, ih hrest, text?_cons]
    by_cases hu : u = d.1
    · have hgone : text? ⟨rest⟩ u ≠ some text := by
        intro hfound
        apply hhead
        rw [← hu]
        exact List.mem_map_of_mem (f := Prod.fst) ((ih hrest).mpr hfound)
      rw [if_pos hu, or_iff_left hgone, Option.some_inj, Prod.ext_iff]
      exact ⟨fun heq => heq.2.symm, fun heq => ⟨hu, heq.symm⟩⟩
    · rw [if_neg hu]
      exact or_iff_right fun heq => hu (congrArg Prod.fst heq)

/-! ## In step -/

/-- The store holds just the texts that an editor has open. -/
structure Holds (store : DocumentStore) (texts : EditorTexts) : Prop where
  distinct : store.Distinct
  text?_eq : ∀ url, store.text? url = texts url

theorem holds_empty : Holds {} EditorTexts.none := ⟨List.nodup_nil, fun _ => rfl⟩

/-- A notification leads the store where the texts of the editor are. -/
theorem Holds.take {store : DocumentStore} {texts texts' : EditorTexts} (h : store.Holds texts)
    {n : Notification} (hn : texts.Tells n texts') : (store.take n).Holds texts' := by
  refine ⟨h.distinct.take n, fun u => ?_⟩
  cases hn with
  | opened url text =>
    rw [DocumentStore.take, text?_insert, h.text?_eq]
    rfl
  | @changed url changes old new hopen hchanges =>
    rw [DocumentStore.take, text?_change, h.text?_eq]
    unfold EditorTexts.set
    by_cases hu : u = url
    · rw [if_pos hu, if_pos hu, hu, hopen, Option.map_some, hchanges.foldl_eq]
    · rw [if_neg hu, if_neg hu]
  | @stray url hclosed changes =>
    rw [DocumentStore.take, change_eq_self ((h.text?_eq url).trans hclosed), h.text?_eq]
  | closed url =>
    rw [DocumentStore.take, text?_close, h.text?_eq]
    rfl

end DocumentStore

/-! ## The server -/

namespace Editor

/-- A message of the editor carries a notification about its documents: what its fields are, each of
them in its place. -/
inductive Carries : String → Json → Notification → Prop where
  | opened {params document : Json} {url : Url} {text : String}
      (hdocument : member? "textDocument" params = some document)
      (hitem : DenotesItem document url text) :
      Carries "textDocument/didOpen" params (.opened url text)
  | changed {params document : Json} {items : List Json} {url : Url} {changes : List TextChange}
      (hdocument : member? "textDocument" params = some document)
      (hversioned : DenotesVersioned document url)
      (hchanges : member? "contentChanges" params = some (.array items))
      (hitems : List.Forall₂ DenotesChange items changes) :
      Carries "textDocument/didChange" params (.changed url changes)
  | closed {params document : Json} {url : Url}
      (hdocument : member? "textDocument" params = some document)
      (hidentifier : DenotesIdentifier document url) :
      Carries "textDocument/didClose" params (.closed url)

/-- The messages that an editor has sent, oldest first, and the texts that it has open after
them. -/
inductive Sent : List (String × Json) → EditorTexts → Prop where
  | nil : Sent [] EditorTexts.none
  | concat {messages : List (String × Json)} {texts texts' : EditorTexts} {method : String}
      {params : Json} {n : Notification} (hsent : Sent messages texts)
      (hcarries : Carries method params n) (htells : texts.Tells n texts') :
      Sent (messages ++ [(method, params)]) texts'

namespace Server

/-- Takes notifications one after another. -/
def notifyAll (s : Server) (messages : List (String × Json)) : Server :=
  messages.foldl (fun s m => (s.notify m.1 m.2).1) s

/-- What a message carries is read from it. -/
theorem take_eq_of_carries (s : Server) {method : String} {params : Json} {n : Notification}
    (h : Carries method params n) :
    s.take method params = { s with documents := s.documents.take n } := by
  cases h with
  | @opened params document url text hdocument hitem =>
    have hread : Params.read Params.opened params = .ok (url, text) :=
      Params.read_of_ok hdocument (Params.single_of_member hdocument hitem.item_eq)
    simp [take, heed, hread, DocumentStore.take]
  | @changed params document items url changes hdocument hversioned hchanges hitems =>
    have hread : Params.read Params.changed params = .ok (url, changes) :=
      Params.read_of_ok hdocument (Params.pair_of_members hdocument
        hversioned.versionedIdentifier_eq hchanges (listDecoder_change_eq hitems))
    simp [take, heed, hread, DocumentStore.take]
  | @closed params document url hdocument hidentifier =>
    have hread : Params.read Params.closed params = .ok url :=
      Params.read_of_ok hdocument (Params.single_of_member hdocument hidentifier.identifier_eq)
    simp [take, heed, hread, DocumentStore.take]

/-- A server that is ready takes what a message carries. -/
theorem notify_eq_of_ready {s : Server} (hready : s.stage = .ready) {method : String}
    {params : Json} {n : Notification} (h : Carries method params n) :
    (s.notify method params).1 = { s with documents := s.documents.take n } := by
  rw [← s.take_eq_of_carries h]
  cases h <;> simp [notify, hready, notificationMethods]

/-- A server that is not ready does not heed what a message carries. -/
theorem notify_eq_of_not_ready {s : Server} (hready : s.stage ≠ .ready) {method : String}
    {params : Json} {n : Notification} (h : Carries method params n) :
    (s.notify method params).1 = s := by
  cases h <;> simp [notify, hready] <;> split <;> rfl

/-- A server in any stage takes what a message carries, or does not heed it. -/
theorem notify_documents (s : Server) {method : String} {params : Json} {n : Notification}
    (h : Carries method params n) :
    (s.notify method params).1 = s ∨
      (s.notify method params).1 = { s with documents := s.documents.take n } := by
  by_cases hready : s.stage = .ready
  · exact Or.inr (notify_eq_of_ready hready h)
  · exact Or.inl (notify_eq_of_not_ready hready h)

/-- A server that is ready and has no documents is in step with an editor that has none. -/
theorem holds_of_sent {s : Server} (hready : s.stage = .ready) (hempty : s.documents = {})
    {messages : List (String × Json)} {texts : EditorTexts} (h : Sent messages texts) :
    (s.notifyAll messages).stage = .ready ∧ (s.notifyAll messages).documents.Holds texts := by
  induction h with
  | nil => exact ⟨hready, hempty ▸ DocumentStore.holds_empty⟩
  | @concat messages texts texts' method params n _ hcarries htells ih =>
    obtain ⟨hstage, hholds⟩ := ih
    have hlast : s.notifyAll (messages ++ [(method, params)]) =
        ((s.notifyAll messages).notify method params).1 := by
      rw [notifyAll, List.foldl_append]
      rfl
    rw [hlast, notify_eq_of_ready hstage hcarries]
    exact ⟨hstage, hholds.take htells⟩

/-- After every sequence of messages about documents, a server that started without documents holds
just the texts that the editor has open. At any time a message about changes to a document that is
not open changes nothing, and no message about one document changes another. -/
theorem documents_eq_editorTexts (s : Server) (hready : s.stage = .ready)
    (hempty : s.documents = {}) (messages : List (String × Json)) (texts : EditorTexts)
    (h : Sent messages texts) :
    ((∀ url text, (url, text) ∈ (s.notifyAll messages).documents.documents ↔
        texts url = some text) ∧
      ((s.notifyAll messages).documents.documents.map Prod.fst).Nodup) ∧
    (∀ (t : Server) (method : String) (params : Json) (url : Url) (changes : List TextChange),
      Carries method params (.changed url changes) → t.documents.text? url = none →
        (t.notify method params).1 = t) ∧
    (∀ (t : Server) (method : String) (params : Json) (n : Notification) (url : Url),
      Carries method params n → url ≠ n.url →
        (t.notify method params).1.documents.text? url = t.documents.text? url) := by
  refine ⟨?_, ?_, ?_⟩
  · obtain ⟨_, hholds⟩ := holds_of_sent hready hempty h
    refine ⟨fun url text => ?_, hholds.distinct⟩
    rw [DocumentStore.mem_documents_iff hholds.distinct, hholds.text?_eq]
  · intro t method params url changes hcarries hclosed
    rcases t.notify_documents hcarries with hsame | htaken
    · exact hsame
    · rw [htaken, DocumentStore.take, DocumentStore.change_eq_self hclosed]
  · intro t method params n url hcarries hne
    rcases t.notify_documents hcarries with hsame | htaken
    · rw [hsame]
    · rw [htaken]
      exact t.documents.text?_take_of_ne n hne

/-- The change from `y` to a carriage return on the second line, behind a character of two units. -/
def pairChange : Json :=
  let place (column : Int) : Json := .object
    [("line", .number (.whole 1)), ("character", .number (.whole column))]
  .object [("range", .object [("start", place 2), ("end", place 3)]), ("text", .string "\r")]

/-- An editor opens `file:///w/a.py` with a text that has a line end of two characters and a
character of two units, and changes it. -/
def pairMessages : List (String × Json) :=
  [("textDocument/didOpen", .object [("textDocument", .object
      [("uri", .string "file:///w/a.py"), ("languageId", .string "python"),
        ("version", .number (.whole 1)), ("text", .string "x\r\n😀y\n")])]),
    ("textDocument/didChange", .object
      [("textDocument", .object
        [("uri", .string "file:///w/a.py"), ("version", .number (.whole 2))]),
        ("contentChanges", .array [pairChange])])]

/-- The document of `pairMessages`. -/
def pairUrl : Url :=
  { scheme := "file".toList, user := some [], path := .segments ["w".toList, "a.py".toList] }

theorem documents_eq_editorTexts_pair :
    (pairUrl, "x\r\n😀\r\n") ∈
      (notifyAll { tree := default, home := default, stage := .ready }
        pairMessages).documents.documents := by
  have hdescribes : TextChange.Describes ⟨some ⟨⟨1, 2⟩, ⟨1, 3⟩⟩, "\r"⟩
      ("x\r\n😀" ++ "y" ++ "\n") ("x\r\n😀" ++ "\r" ++ "\n") :=
    .part "\r" ⟨by decide, by decide⟩ ⟨by decide, by decide⟩ (by decide) (by decide)
  have hurl : DenotesUrl (.string "file:///w/a.py") pairUrl := ⟨_, rfl, by decide +kernel⟩
  have hversion (n : Int) (hn : 0 ≤ n ∧ n < 3) : IsInt32 (.number (.whole n)) :=
    ⟨n, rfl, by omega, by omega⟩
  have hchange : DenotesChange pairChange ⟨some ⟨⟨1, 2⟩, ⟨1, 3⟩⟩, "\r"⟩ :=
    ⟨⟨_, rfl, ⟨_, rfl, rfl, rfl⟩, ⟨_, rfl, rfl, rfl⟩⟩, .inl (.inl rfl), rfl⟩
  have hopened : Sent (pairMessages.take 1) (EditorTexts.none.set pairUrl (some "x\r\n😀y\n")) :=
    .concat .nil (.opened rfl
      ⟨⟨⟨⟨_, rfl, hurl⟩⟩, ⟨_, rfl, hversion 1 (by decide)⟩⟩, ⟨_, rfl⟩, rfl⟩) (.opened _ _ _)
  have hsent : Sent pairMessages ((EditorTexts.none.set pairUrl (some "x\r\n😀y\n")).set pairUrl
      (some "x\r\n😀\r\n")) :=
    .concat hopened (.changed rfl ⟨⟨⟨_, rfl, hurl⟩⟩, ⟨_, rfl, hversion 2 (by decide)⟩⟩ rfl
      (.cons hchange .nil)) (.changed (if_pos rfl) (.cons hdescribes (.nil _)))
  exact ((documents_eq_editorTexts _ rfl rfl _ _ hsent).1.1 pairUrl _).mpr (if_pos rfl)

end Server

end Editor

end Deadwood
