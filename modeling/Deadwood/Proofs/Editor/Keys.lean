import Deadwood.Editor.Session
import Deadwood.Proofs.Definition
import Deadwood.Proofs.Url.FilePath

/-!
# Finding a published file again

A report may name a file below the root of its workspace. Its findings are published at the address
of the file below the root; what the editor then asks about that document is looked up under two
names, the path of the document and what is left of it below the root. The second is the name in the
report, up to spelling, unless the report's name starts at an explicit dot: joining drops the dot, and
taking the root off does not bring it back.

* `Path.exists_reportKeys` : the two names of a document that was published below the root;
* `published_file_found` : which lenses and hovers are found for it;
* `dotted_file_not_found` : a file that is published and not found again.
-/

namespace Deadwood

/-! ## The names of a document -/

namespace Path

/-- The components of a relative path below an absolute one. -/
theorem components_join {root file : Path} (hroot : root.isAbsolute = true)
    (hfile : file.isAbsolute = false) :
    (root.join file).components = root.components ++ file.steps := by
  rw [components_of_isAbsolute (isAbsolute_join hroot file), steps_join root hfile,
    components_of_isAbsolute hroot]
  rfl

/-- A file below the root is published at the address of a document with two names: the path of the
file, and one with the steps of the file. -/
theorem exists_reportKeys {root file : Path} (hroot : root.isAbsolute = true)
    (hfile : file.isAbsolute = false) {url : Url} (hurl : publishUrl? root file = some url) :
    ∃ path rest, url.toPath? = some path ∧ path.same (root.join file) = true ∧
      reportKeys root path = [path, rest] ∧ rest.components = file.steps := by
  obtain ⟨path, hpath, hsame⟩ := Url.exists_toPath?_of_ofPath? hurl
  have hcomponents : path.components = root.components ++ file.steps := by
    rw [same_iff.mp hsame, components_join hroot hfile]
  obtain ⟨rest, hrest, hsteps⟩ := exists_stripBase?_of_components hcomponents
  refine ⟨path, rest, hpath, hsame, ?_, hsteps⟩
  rw [reportKeys, hrest]
  rfl

/-- A relative path is spelled by its steps alone iff it does not start at a dot. -/
theorem same_iff_of_components_eq_steps {rest file : Path} (hfile : file.isAbsolute = false)
    (h : rest.components = file.steps) : rest.same file = true ↔ file.anchor ≠ .here := by
  rw [same_iff, h, components_eq]
  cases hanchor : file.anchor with
  | root =>
    rw [isAbsolute, hanchor] at hfile
    cases hfile
  | here => simp [Anchor.components]
  | none => simp [Anchor.components]

/-- One of the names of a document is the name of the file it was published for iff that does not
start at a dot. -/
theorem exists_mem_reportKeys_iff {root file path rest : Path} (hroot : root.isAbsolute = true)
    (hfile : file.isAbsolute = false) (hpath : path.same (root.join file) = true)
    (hkeys : reportKeys root path = [path, rest]) (hrest : rest.components = file.steps) :
    (∃ key ∈ reportKeys root path, key.same file = true) ↔ file.anchor ≠ .here := by
  have hne : path.same file = false := by
    -- the path of the document is absolute and the file is not
    rw [same_congr_left hpath, ← Bool.not_eq_true, same_iff_anchor_steps]
    rintro ⟨hanchor, -⟩
    rw [isAbsolute, ← hanchor, beq_iff_eq.mp (isAbsolute_join hroot file)] at hfile
    cases hfile
  rw [hkeys]
  simp [hne, same_iff_of_components_eq_steps hfile hrest]

end Path

/-! ## Looking a file up -/

/-- The lenses of a file do not depend on how it is spelled. -/
theorem Lens.inFile_congr (r : Report) {p q : Path} (h : p.same q = true) :
    Lens.inFile r p = Lens.inFile r q := by
  unfold Lens.inFile Report.unusedIn
  congr 2
  funext f
  rw [Path.same_comm, Path.same_congr_left h, Path.same_comm]

/-- The hovers of a file do not depend on how it is spelled. -/
theorem Hover.at?_congr (index : DefinitionIndex) {p q : Path} (h : p.same q = true)
    (line : UInt32) (word : String) :
    Hover.at? index p line word = Hover.at? index q line word := by
  unfold Hover.at? DefinitionIndex.lookup
  rw [PathMap.get?_congr index.files h]

namespace Editor

namespace Session

/-- The lenses of a document with two names: those under the second one count if there are none
under the first. -/
theorem lenses_of_reportKeys {s : Session} {path rest : Path}
    (h : Path.reportKeys s.root path = [path, rest]) :
    s.lenses path =
      if (Lens.inFile s.current.report path).isEmpty then Lens.inFile s.current.report rest
      else Lens.inFile s.current.report path := by
  rw [lenses, h, List.map_cons, List.map_singleton, List.find?_cons, List.find?_singleton]
  cases hpath : Lens.inFile s.current.report path with
  | cons l ls => rfl
  | nil => cases hrest : Lens.inFile s.current.report rest <;> rfl

/-- The hover in a document with two names: that under the second one counts if there is none under
the first. -/
theorem hover?_of_reportKeys {s : Session} {path rest : Path}
    (h : Path.reportKeys s.root path = [path, rest]) (line : UInt32) (word : String) :
    s.hover? path line word =
      (Hover.at? s.current.index path line word).or
        (Hover.at? s.current.index rest line word) := by
  rw [hover?, h, List.findSome?_cons, List.findSome?_singleton]
  cases Hover.at? s.current.index path line word <;> rfl

end Session

/-- A relative file is published at the address of a document that has the file's name among its own
iff this does not start at a dot. If it does not, the document shows the lenses and hovers of the
file wherever its absolute path has none of its own. -/
theorem published_file_found (root file : Path) (hroot : root.isAbsolute = true)
    (hfile : file.isAbsolute = false) (url : Url)
    (hurl : Path.publishUrl? root file = some url) :
    ∃ path, url.toPath? = some path ∧
      ((∃ key ∈ Path.reportKeys root path, key.same file = true) ↔ file.anchor ≠ .here) ∧
      (file.anchor ≠ .here → ∀ s : Session, s.root = root →
        (s.lenses path =
          if (Lens.inFile s.current.report path).isEmpty then Lens.inFile s.current.report file
          else Lens.inFile s.current.report path) ∧
        ∀ line word, s.hover? path line word =
          (Hover.at? s.current.index path line word).or
            (Hover.at? s.current.index file line word)) := by
  obtain ⟨path, rest, hpath, hsame, hkeys, hrest⟩ := Path.exists_reportKeys hroot hfile hurl
  refine ⟨path, hpath, Path.exists_mem_reportKeys_iff hroot hfile hsame hkeys hrest, ?_⟩
  intro hanchor s hs
  have hname : rest.same file = true :=
    (Path.same_iff_of_components_eq_steps hfile hrest).mpr hanchor
  rw [← hs] at hkeys
  constructor
  · rw [Session.lenses_of_reportKeys hkeys, Lens.inFile_congr _ hname]
  · intro line word
    rw [Session.hover?_of_reportKeys hkeys, Hover.at?_congr _ hname]

theorem published_file_found_spaced :
    let root := Path.ofText "/w/"
    let file := Path.ofText "pkg//./a b.py"
    let url : Url :=
      { scheme := "file".toList, user := some [],
        path := .segments ["w".toList, "pkg".toList, "a%20b.py".toList] }
    root.isAbsolute = true ∧ file.isAbsolute = false ∧ Path.publishUrl? root file = some url ∧
      ∃ path, url.toPath? = some path ∧
        ∃ key ∈ Path.reportKeys root path, key.same file = true := by
  intro root file url
  have hroot : root.isAbsolute = true := by decide
  have hfile : file.isAbsolute = false := by decide
  have hurl : Path.publishUrl? root file = some url := by decide +kernel
  obtain ⟨path, hpath, hfound, -⟩ := published_file_found root file hroot hfile url hurl
  exact ⟨hroot, hfile, hurl, path, hpath, hfound.mpr (by decide)⟩

/-- A file can be published and not found again: a dot at the front of its name is lost on the way
to its address. -/
theorem dotted_file_not_found :
    ¬∀ (root file : Path) (url : Url) (path : Path),
      root.isAbsolute = true → file.bytes ≠ [] → file.isAbsolute = false →
      Path.Component.up ∉ file.components →
      Path.publishUrl? root file = some url → url.toPath? = some path →
      ∃ key ∈ Path.reportKeys root path, key.same file = true := by
  intro h
  let root := Path.ofText "/w"
  let file := Path.ofText "./a.py"
  have hroot : root.isAbsolute = true := by decide
  have hfile : file.isAbsolute = false := by decide
  obtain ⟨url, hurl⟩ := Path.publishUrl?_isSome hroot file
  obtain ⟨path, rest, hpath, hsame, hkeys, hrest⟩ := Path.exists_reportKeys hroot hfile hurl
  have hfound := h root file url path hroot (by decide) hfile (by decide) hurl hpath
  have hanchor := (Path.exists_mem_reportKeys_iff hroot hfile hsame hkeys hrest).mp hfound
  exact hanchor (by decide)

end Editor

end Deadwood
