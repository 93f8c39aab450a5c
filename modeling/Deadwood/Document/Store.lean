import Deadwood.Document.Position
import Deadwood.Url.Basic

/-!
# Open documents

The texts that an editor has open, by their URLs, and how they follow the editor's changes.
-/

namespace Deadwood

/-- A change of a text: new text for a part of it, or for all of it. -/
structure TextChange where
  range : Option Range := none
  text : String
deriving DecidableEq, Repr, Inhabited

/-- The text after a change. Formalises one turn of the loop of `did_change`. -/
def TextChange.apply (change : TextChange) (text : String) : String :=
  match change.range with
  | some range => String.ofList (Document.replace range change.text.toList text.toList)
  | none => change.text

/-- The open documents, each URL once. -/
structure DocumentStore where
  documents : List (Url × String) := []
deriving DecidableEq, Repr, Inhabited

namespace DocumentStore

/-- The text of a document, if it is open. -/
def text? (store : DocumentStore) (url : Url) : Option String := store.documents.lookup url

/-- How many documents are open. -/
def size (store : DocumentStore) : Nat := store.documents.length

/-- Takes a document away. Formalises `did_close`. -/
def close (store : DocumentStore) (url : Url) : DocumentStore :=
  ⟨store.documents.filter (·.1 != url)⟩

/-- Adds a document, in the place of one with its URL. Formalises `did_open`. -/
def insert (store : DocumentStore) (url : Url) (text : String) : DocumentStore :=
  ⟨(url, text) :: (store.close url).documents⟩

/-- Applies changes to a document, one after another; a document that is not open does not change.
Formalises `did_change`. -/
def change (store : DocumentStore) (url : Url) (changes : List TextChange) : DocumentStore :=
  ⟨store.documents.map fun d =>
    if d.1 == url then (d.1, changes.foldl (fun text c => c.apply text) d.2) else d⟩

end DocumentStore

end Deadwood
