import Deadwood.Url.FilePath
import Deadwood.Proofs.Path.Strip
import Deadwood.Proofs.Text.Utf8

/-!
# The URLs of files

Percent encoding loses nothing, so the steps of an absolute path can be read off its URL. Two
absolute paths have one URL iff they are spellings of one path, and the path that is read off a URL
is a spelling of the one it was made for.
-/

namespace Deadwood.Url

open Text.Utf8

/-! ## Percent encoding -/

theorem hexValue?_upperHexDigit : ∀ n < 16,
    (upperHexDigit n).toNat < 0x80 ∧ hexValue? (upperHexDigit n).toNat.toUInt8 = some n := by
  decide

theorem decode_cons_of_ne {b : UInt8} (h : b ≠ 37) (rest : List UInt8) :
    decode (b :: rest) = b :: decode rest := by
  rw [decode, if_neg (by simpa using h)]

/-- A byte written by its number is read back. -/
theorem decode_encodeByte (b : UInt8) (rest : List UInt8) :
    decode (encodeList (encodeByte b) ++ rest) = b :: decode rest := by
  have hb : b.toNat < 256 := b.toNat_lt
  obtain ⟨hhigh, hhigh'⟩ := hexValue?_upperHexDigit (b.toNat / 16) (by omega)
  obtain ⟨hlow, hlow'⟩ := hexValue?_upperHexDigit (b.toNat % 16) (by omega)
  have hbytes : encodeList (encodeByte b) =
      [37, (upperHexDigit (b.toNat / 16)).toNat.toUInt8,
        (upperHexDigit (b.toNat % 16)).toNat.toUInt8] := by
    rw [encodeByte, encodeList_cons, encodeList_cons, encodeList_cons, encodeChar_of_lt hhigh,
      encodeChar_of_lt hlow]
    rfl
  have hvalue : (b.toNat / 16 * 16 + b.toNat % 16).toUInt8 = b := by
    rw [Nat.div_add_mod' b.toNat 16]
    exact UInt8.ofNat_toNat
  rw [hbytes, List.cons_append, decode]
  simp [escaped?, hhigh', hlow', hvalue]

/-- Bytes in percent encoding are read back, if the percent sign does not stand for itself. -/
theorem decode_encodeBytes {plain : Char → Bool} (hplain : plain '%' = false) (bs : List UInt8)
    (rest : List UInt8) :
    decode (encodeList (encodeBytes plain bs) ++ rest) = bs ++ decode rest := by
  induction bs with
  | nil => rfl
  | cons b bs ih =>
    rw [encodeBytes, List.flatMap_cons, ← encodeBytes, encodeList_append, List.append_assoc,
      List.cons_append, ← ih]
    split
    case _ h =>
      simp only [Bool.and_eq_true, decide_eq_true_eq] at h
      obtain ⟨hsmall, hself⟩ := h
      have hsmall : b.toNat < 128 := UInt8.lt_iff_toNat_lt.mp hsmall
      have hne : b ≠ 37 := by
        rintro rfl
        exact Bool.false_ne_true (hplain.symm.trans hself)
      have hchar : (Char.ofNat b.toNat).toNat = b.toNat := by
        have hvalid : b.toNat.isValidChar := .inl (by omega)
        rw [Char.ofNat, dif_pos hvalid]
        rfl
      have hbyte : encodeList [Char.ofNat b.toNat] = [b] := by
        rw [encodeList_cons, encodeList_nil, List.append_nil,
          encodeChar_of_lt (by rw [hchar]; exact hsmall), hchar]
        exact congrArg ([·]) UInt8.ofNat_toNat
      rw [hbyte, List.singleton_append, decode_cons_of_ne hne]
    case _ => exact decode_encodeByte b _

/-! ## Absolute paths -/

/-- The step that a segment of a path stands for, if it stands for one. -/
def stepOf? (segment : List Char) : Option Path.Component :=
  Path.Component.ofSegment? (decode (encodeList segment))

/-- A name is read back from the segment it is written as. -/
theorem decode_name (bs : List UInt8) : decode (encodeList (encodeBytes plainInName bs)) = bs := by
  have hrest := decode_encodeBytes (by decide : plainInName '%' = false) bs []
  rw [List.append_nil, decode, List.append_nil] at hrest
  exact hrest

/-- A step is read off the segment it is written as. -/
theorem stepOf?_encodeBytes {p : Path} {c : Path.Component} (h : c ∈ p.steps) :
    stepOf? (encodeBytes plainInName c.bytes) = some c := by
  rw [stepOf?, decode_name, Path.ofSegment?_bytes h]

theorem stepOf?_nil : stepOf? [] = none := by
  rw [stepOf?, encodeList_nil, decode]
  rfl

/-- The segments that are written for an absolute path: its steps, or an empty one for the root. -/
def segmentsOf (p : Path) : List (List Char) :=
  if p.steps.isEmpty then [[]] else p.steps.map fun c => encodeBytes plainInName c.bytes

theorem segmentsOf_ne_nil (p : Path) : segmentsOf p ≠ [] := by
  unfold segmentsOf
  split
  case _ => exact List.cons_ne_nil _ _
  case _ hsteps => exact fun h => hsteps (List.isEmpty_iff.mpr (List.map_eq_nil_iff.mp h))

/-- A segment that is written stands for a step or is empty. -/
theorem mem_segmentsOf {p : Path} {segment : List Char} (h : segment ∈ segmentsOf p) :
    segment = [] ∨ ∃ c ∈ p.steps, segment = encodeBytes plainInName c.bytes := by
  unfold segmentsOf at h
  split at h
  case _ => exact Or.inl (List.mem_singleton.mp h)
  case _ =>
    obtain ⟨c, hc, rfl⟩ := List.mem_map.mp h
    exact Or.inr ⟨c, hc, rfl⟩

/-- The steps of a path are read off the segments that are written for it. -/
theorem filterMap_stepOf?_segmentsOf (p : Path) : (segmentsOf p).filterMap stepOf? = p.steps := by
  unfold segmentsOf
  split
  case _ hempty =>
    -- the root has one empty segment, which is no step
    rw [List.isEmpty_iff.mp hempty, List.filterMap_cons, stepOf?_nil, List.filterMap_nil]
  case _ =>
    have hsteps : p.steps.filterMap (stepOf? ∘ fun c => encodeBytes plainInName c.bytes) =
        p.steps.filterMap some := by
      apply List.filterMap_congr
      intro c hc
      exact stepOf?_encodeBytes hc
    rw [List.filterMap_map, hsteps, List.filterMap_some]

/-- What the URL of a path is. -/
theorem ofPath?_eq_some {p : Path} {u : Url} (h : ofPath? p = some u) :
    p.isAbsolute = true ∧ u.host = [] ∧ u.path = .segments (segmentsOf p) := by
  rw [ofPath?, Option.ite_none_left_eq_some] at h
  obtain ⟨hp, hu⟩ := h
  have habsolute : p.isAbsolute = true := by simpa using hp
  rw [Path.components_of_isAbsolute habsolute] at hu
  cases hu
  refine ⟨habsolute, rfl, ?_⟩
  simp only [List.drop_succ_cons, List.drop_zero, List.isEmpty_map, segmentsOf]

/-- Two absolute paths have one URL iff they are spellings of one path. -/
theorem ofPath?_eq_iff_same {p q : Path} (hp : p.isAbsolute = true) (hq : q.isAbsolute = true) :
    ofPath? p = ofPath? q ↔ p.same q = true := by
  constructor
  · intro h
    obtain ⟨u, hu⟩ : ∃ u, ofPath? p = some u := by
      rw [ofPath?, if_neg (by simp [hp])]
      exact ⟨_, rfl⟩
    have hsegments : UrlPath.segments (segmentsOf p) = .segments (segmentsOf q) :=
      (ofPath?_eq_some hu).2.2.symm.trans (ofPath?_eq_some (h.symm.trans hu)).2.2
    refine Path.same_iff_anchor_steps.mpr ⟨(beq_iff_eq.mp hp).trans (beq_iff_eq.mp hq).symm, ?_⟩
    rw [← filterMap_stepOf?_segmentsOf p, UrlPath.segments.inj hsegments,
      filterMap_stepOf?_segmentsOf]
  · intro h
    rw [ofPath?, ofPath?, hp, hq, Path.same_iff.mp h]

/-! ## Reading a URL back -/

/-- The bytes that are read off the segments written for a path: a slash before each. -/
def bytesOf (p : Path) : List UInt8 :=
  ((segmentsOf p).map fun s => decode (encodeList s)).flatMap (Path.slash :: ·)

/-- What is read off the segments written for a path starts at the root. -/
theorem exists_bytesOf_eq_cons (p : Path) : ∃ rest, bytesOf p = Path.slash :: rest := by
  obtain ⟨s, rest, hsegments⟩ := List.exists_cons_of_ne_nil (segmentsOf_ne_nil p)
  rw [bytesOf, hsegments, List.map_cons, List.flatMap_cons, List.cons_append]
  exact ⟨_, rfl⟩

/-- The segments written for a path are read back to its steps. -/
theorem steps_bytesOf (p : Path) : (⟨bytesOf p⟩ : Path).steps = p.steps := by
  have hnames : ∀ s ∈ (segmentsOf p).map fun s => decode (encodeList s), Path.slash ∉ s := by
    intro s hs
    obtain ⟨segment, hsegment, rfl⟩ := List.mem_map.mp hs
    rcases mem_segmentsOf hsegment with rfl | ⟨c, hc, rfl⟩
    · rw [encodeList_nil, decode]
      exact List.not_mem_nil
    · rw [decode_name]
      exact Path.slash_notMem_bytes hc
  rw [Path.steps, bytesOf, Path.splitSlashes_flatMap hnames, List.filterMap_cons]
  change ((segmentsOf p).map _).filterMap Path.Component.ofSegment? = p.steps
  rw [List.filterMap_map]
  exact filterMap_stepOf?_segmentsOf p

/-- The path that is read off the URL of a path, with the slash that a drive letter gets. -/
theorem toPath?_of_ofPath? {p : Path} {u : Url} (h : ofPath? p = some u) :
    u.toPath? =
      some ⟨if endsInDriveLetter (bytesOf p) then bytesOf p ++ [Path.slash] else bytesOf p⟩ := by
  obtain ⟨-, hhost, hpath⟩ := ofPath?_eq_some h
  have hbytes : (segmentsOf p).flatMap (fun s => 47 :: decode (encodeList s)) = bytesOf p :=
    (List.flatMap_map _ _ _).symm
  rw [toPath?, hhost, if_neg (by decide), hpath]
  simp only [hbytes]
  rfl

/-- The path that is read off the URL of a path is a spelling of it. -/
theorem exists_toPath?_of_ofPath? {p : Path} {u : Url} (h : ofPath? p = some u) :
    ∃ q, u.toPath? = some q ∧ q.same p = true := by
  obtain ⟨rest, hrest⟩ := exists_bytesOf_eq_cons p
  have hp := (ofPath?_eq_some h).1
  have hsame (q : Path) (hq : ∃ rest, q.bytes = Path.slash :: rest) (hsteps : q.steps = p.steps) :
      q.same p = true := by
    have hanchor := beq_iff_eq.mp (Path.isAbsolute_iff.mpr hq)
    exact Path.same_iff_anchor_steps.mpr ⟨hanchor.trans (beq_iff_eq.mp hp).symm, hsteps⟩
  refine ⟨_, toPath?_of_ofPath? h, ?_⟩
  split
  case _ =>
    refine hsame _ ⟨rest ++ [Path.slash], by rw [hrest, List.cons_append]⟩ ?_
    rw [Path.steps_append_slash, steps_bytesOf]
  case _ => exact hsame _ ⟨rest, hrest⟩ (steps_bytesOf p)

end Deadwood.Url

namespace Deadwood.Path

/-- Below an absolute root every file has a URL. -/
theorem publishUrl?_isSome {root : Path} (h : root.isAbsolute = true) (file : Path) :
    ∃ url, publishUrl? root file = some url := by
  rw [publishUrl?, Url.ofPath?, if_neg (by simp [isAbsolute_join h])]
  exact ⟨_, rfl⟩

/-- Two files are published under one URL iff they are spellings of one path below the root. -/
theorem publishUrl?_eq_iff_same {root : Path} (h : root.isAbsolute = true) (p q : Path) :
    publishUrl? root p = publishUrl? root q ↔ (root.join p).same (root.join q) = true :=
  Url.ofPath?_eq_iff_same (isAbsolute_join h p) (isAbsolute_join h q)

end Deadwood.Path
