import Deadwood.Json.Reader
import Deadwood.Json.Writer
import Deadwood.Proofs.Text.Utf8

/-!
# Reading back written JSON

The bytes of a written value are read back as that value, with the members of its objects in the
order of their names. The leaves come first: a string, of whatever characters, is given back by its
escapes, and a number by its digits. Lists and objects follow by induction on the value; what is
read ends where the value ends, whatever follows, as long as that does not continue a number.
-/

namespace Deadwood.Json

open Text.Utf8

/-! ## Strings -/

/-- A byte that stands for itself inside a string. -/
def IsPlain (b : UInt8) : Prop := b ≠ 34 ∧ b ≠ 92 ∧ 32 ≤ b

/-- Plain bytes are taken over one by one. -/
theorem readStringFrom_plain {bs : List UInt8} (h : ∀ b ∈ bs, IsPlain b) (fuel : Nat)
    (done rest : List UInt8) :
    readStringFrom (bs.length + fuel) done (bs ++ rest) =
      readStringFrom fuel (bs.reverse ++ done) rest := by
  induction bs generalizing done with
  | nil => rw [List.length_nil, Nat.zero_add]; rfl
  | cons b bs ih =>
    obtain ⟨hquote, hbackslash, hcontrol⟩ := h b List.mem_cons_self
    have hlt : ¬ b < 32 := UInt8.not_lt.mpr hcontrol
    rw [List.length_cons, Nat.add_right_comm, List.cons_append, readStringFrom]
    simp only [beq_iff_eq, hquote, hbackslash, hlt, if_false]
    rw [ih fun x hx => h x (List.mem_cons_of_mem b hx)]
    simp

theorem isPlain_toUInt8 {n : Nat} (h : n < 256) (hquote : n ≠ 34) (hbackslash : n ≠ 92)
    (hcontrol : 32 ≤ n) : IsPlain n.toUInt8 := by
  refine ⟨fun h34 => hquote ?_, fun h92 => hbackslash ?_, ?_⟩
  · rw [← toNat_toUInt8 h, h34]; rfl
  · rw [← toNat_toUInt8 h, h92]; rfl
  · rw [UInt8.le_iff_toNat_le, toNat_toUInt8 h]; exact hcontrol

theorem toNat_ne_of_ne {c : Char} {n : Nat} (h : c ≠ Char.ofNat n) : c.toNat ≠ n := by
  rintro rfl
  exact h (Char.ofNat_toNat c).symm

/-- The bytes of a character that needs no escape are plain. -/
theorem isPlain_of_mem_encodeChar {c : Char} (hquote : c ≠ '"') (hbackslash : c ≠ '\\')
    (hcontrol : 0x20 ≤ c.toNat) {b : UInt8} (hb : b ∈ encodeChar c) : IsPlain b := by
  have hvalid := toNat_valid c
  unfold encodeChar at hb
  dsimp only at hb
  split at hb
  case _ hone =>
    rw [List.mem_singleton] at hb
    subst hb
    exact isPlain_toUInt8 (by omega) (toNat_ne_of_ne hquote) (toNat_ne_of_ne hbackslash) hcontrol
  -- the bytes of all longer characters are beyond 128
  case _ =>
    have hbeyond : ∃ n, b = n.toUInt8 ∧ 0x80 ≤ n ∧ n < 256 := by
      split at hb
      · simp only [List.mem_cons, List.not_mem_nil, or_false] at hb
        rcases hb with rfl | rfl <;> exact ⟨_, rfl, by omega, by omega⟩
      split at hb <;> simp only [List.mem_cons, List.not_mem_nil, or_false] at hb
      · rcases hb with rfl | rfl | rfl <;> exact ⟨_, rfl, by omega, by omega⟩
      · rcases hb with rfl | rfl | rfl | rfl <;> exact ⟨_, rfl, by omega, by omega⟩
    obtain ⟨n, rfl, hlow, hhigh⟩ := hbeyond
    exact isPlain_toUInt8 hhigh (by omega) (by omega) (by omega)

/-- A digit of base sixteen gives its value back. -/
theorem hexValue?_hexDigit : ∀ n < 16,
    hexValue? (hexDigit n).toNat.toUInt8 = some n ∧ (hexDigit n).toNat < 0x80 := by
  decide

/-- A control character that is written by its number is read back from it. -/
theorem readEscape_number {c : Char} (h : c.toNat < 0x20) (rest : List UInt8) :
    readEscape (encodeList ['u', '0', '0', hexDigit (c.toNat / 16), hexDigit (c.toNat % 16)] ++
      rest) = .ok (encodeChar c, rest) := by
  obtain ⟨hhigh, hhigh'⟩ := hexValue?_hexDigit (c.toNat / 16) (by omega)
  obtain ⟨hlow, hlow'⟩ := hexValue?_hexDigit (c.toNat % 16) (by omega)
  have hn : ((0 * 16 + 0) * 16 + c.toNat / 16) * 16 + c.toNat % 16 = c.toNat := by omega
  have hzero : hexValue? 48 = some 0 := by decide
  have hlead : isLowSurrogate c.toNat = false ∧ isHighSurrogate c.toNat = false := by
    simp only [isLowSurrogate, isHighSurrogate, Bool.and_eq_false_iff, decide_eq_false_iff_not]
    omega
  simp only [encodeList_cons, encodeList_nil, encodeChar_of_lt hhigh', encodeChar_of_lt hlow']
  show readUnicodeEscape (48 :: 48 :: _ :: _ :: rest) = _
  simp only [readUnicodeEscape, readHex4, hzero, hhigh, hlow, hn]
  simp [bind, Except.bind, pure, Except.pure, hlead, Char.ofNat_toNat]

/-- A character is written as itself, or as an escape that is read back as its bytes. -/
theorem escapeChar_cases (c : Char) :
    (escapeChar c = [c] ∧ ∀ b ∈ encodeChar c, IsPlain b) ∨
    ∃ e, escapeChar c = '\\' :: e ∧
      ∀ rest, readEscape (encodeList e ++ rest) = .ok (encodeChar c, rest) := by
  by_cases hquote : c = '"'
  · subst hquote
    exact Or.inr ⟨['"'], rfl, fun _ => rfl⟩
  by_cases hbackslash : c = '\\'
  · subst hbackslash
    exact Or.inr ⟨['\\'], rfl, fun _ => rfl⟩
  by_cases hplain : 0x20 ≤ c.toNat
  · refine Or.inl ⟨?_, fun b hb => isPlain_of_mem_encodeChar hquote hbackslash hplain hb⟩
    simp [escapeChar, hquote, hbackslash, hplain]
  right
  by_cases hline : c = '\n'
  · subst hline
    exact ⟨['n'], rfl, fun _ => rfl⟩
  by_cases hreturn : c = '\r'
  · subst hreturn
    exact ⟨['r'], rfl, fun _ => rfl⟩
  by_cases htab : c = '\t'
  · subst htab
    exact ⟨['t'], rfl, fun _ => rfl⟩
  by_cases hback : c.toNat = 8
  · rw [← Char.ofNat_toNat c, hback]
    exact ⟨['b'], rfl, fun _ => rfl⟩
  by_cases hfeed : c.toNat = 12
  · rw [← Char.ofNat_toNat c, hfeed]
    exact ⟨['f'], rfl, fun _ => rfl⟩
  refine ⟨['u', '0', '0', hexDigit (c.toNat / 16), hexDigit (c.toNat % 16)], ?_,
    readEscape_number (by omega)⟩
  simp [escapeChar, hquote, hbackslash, hplain, hline, hreturn, htab, hback, hfeed]

/-- The bytes of a written character are read as the bytes of that character, in at most as many
steps as there are bytes. -/
theorem readStringFrom_escapeChar (c : Char) :
    ∃ k ≤ (encodeList (escapeChar c)).length, ∀ fuel done rest,
      readStringFrom (k + fuel) done (encodeList (escapeChar c) ++ rest) =
        readStringFrom fuel ((encodeChar c).reverse ++ done) rest := by
  rcases escapeChar_cases c with ⟨hself, hplain⟩ | ⟨e, hescape, hread⟩
  · rw [hself, encodeList_cons, encodeList_nil, List.append_nil]
    exact ⟨_, Nat.le_refl _, fun fuel done rest => readStringFrom_plain hplain fuel done rest⟩
  · have hbytes : encodeList (escapeChar c) = 92 :: encodeList e := by rw [hescape]; rfl
    refine ⟨1, by rw [hbytes, List.length_cons]; omega, fun fuel done rest => ?_⟩
    rw [hbytes, List.cons_append, Nat.add_comm, readStringFrom]
    simp [hread rest]

/-- The bytes of written characters are read as the bytes of those characters. -/
theorem readStringFrom_escapes (cs : List Char) :
    ∃ k ≤ (encodeList (cs.flatMap escapeChar)).length, ∀ fuel done rest,
      readStringFrom (k + fuel) done (encodeList (cs.flatMap escapeChar) ++ rest) =
        readStringFrom fuel ((encodeList cs).reverse ++ done) rest := by
  induction cs with
  | nil => exact ⟨0, Nat.le_refl _, fun fuel done rest => by rw [Nat.zero_add]; rfl⟩
  | cons c cs ih =>
    obtain ⟨k, hk, hfirst⟩ := readStringFrom_escapeChar c
    obtain ⟨l, hl, hothers⟩ := ih
    rw [List.flatMap_cons, encodeList_append, List.length_append]
    refine ⟨k + l, by omega, fun fuel done rest => ?_⟩
    rw [Nat.add_assoc, List.append_assoc, hfirst, hothers, encodeList_cons, List.reverse_append,
      List.append_assoc]

/-- A written string is read back, whatever follows it. -/
theorem readString_writeString (s : String) (rest : List UInt8) :
    readString (encodeList (s.toList.flatMap escapeChar) ++ 34 :: rest) = .ok (s, rest) := by
  obtain ⟨k, hk, hread⟩ := readStringFrom_escapes s.toList
  have hfuel : (encodeList (s.toList.flatMap escapeChar) ++ 34 :: rest).length =
      k + ((encodeList (s.toList.flatMap escapeChar)).length - k + rest.length + 1) := by
    rw [List.length_append, List.length_cons]
    omega
  rw [readString, hfuel, hread, readStringFrom]
  simp [finishString, decodeFront_encodeList]

/-! ## Numbers -/

/-- What follows a number without continuing it. -/
def EndsNumber (rest : List UInt8) : Prop :=
  ∀ b ∈ rest.head?, isDigit b = false ∧ b ≠ 46 ∧ b ≠ 101 ∧ b ≠ 69

theorem endsNumber_nil : EndsNumber [] := nofun

/-- A comma or a closing bracket ends a number. -/
theorem endsNumber_cons {b : UInt8} (h : b = 44 ∨ b = 93 ∨ b = 125) (rest : List UInt8) :
    EndsNumber (b :: rest) := by
  intro c hc
  cases hc
  rcases h with rfl | rfl | rfl <;> decide

/-- The byte of a decimal digit. -/
theorem digit_byte {d : Nat} (h : d < 10) :
    ∃ b, encodeChar (Nat.digitChar d) = [b] ∧ isDigit b = true ∧ digitValue b = d := by
  have htable : ∀ d < 10, encodeChar (Nat.digitChar d) = [(48 + d).toUInt8] ∧
      isDigit (48 + d).toUInt8 = true ∧ digitValue (48 + d).toUInt8 = d := by
    decide
  exact ⟨_, htable d h⟩

/-- The digits of a number that fits a word are read as that number. -/
theorem readDigits_toDigits {n : Nat} (hpos : 0 < n) (hfits : n ≤ maxWord) :
    ∃ b bs, encodeList (Nat.toDigits 10 n) = b :: bs ∧ isDigit b = true ∧ b ≠ 48 ∧
      ∀ rest, readDigits (digitValue b) 1 (bs ++ rest) = readDigits n (bs.length + 1) rest := by
  induction n using Nat.strongRecOn with
  | ind n ih =>
    by_cases hlt : n < 10
    · obtain ⟨b, hbytes, hdigit, hvalue⟩ := digit_byte hlt
      refine ⟨b, [], ?_, hdigit, ?_, fun rest => ?_⟩
      · rw [Nat.toDigits_of_lt_base hlt, encodeList_cons, hbytes]
        rfl
      · rintro rfl
        have hzero : digitValue 48 = 0 := by decide
        omega
      · rw [hvalue]
        rfl
    · obtain ⟨b, bs, hbytes, hdigit, hne, hread⟩ :=
        ih (n / 10) (by omega) (by omega) (by omega)
      obtain ⟨d, hlast, hlastDigit, hlastValue⟩ := digit_byte (Nat.mod_lt n (by omega : 10 > 0))
      refine ⟨b, bs ++ [d], ?_, hdigit, hne, fun rest => ?_⟩
      · rw [Nat.toDigits_of_base_le (by omega) (by omega), encodeList_append, hbytes,
          encodeList_cons, hlast]
        rfl
      · have hnext : n / 10 * 10 + digitValue d = n := by omega
        rw [List.append_assoc, hread, List.singleton_append, readDigits]
        simp [hnext, hlastDigit, hfits]

theorem readDigits_of_endsNumber {rest : List UInt8} (h : EndsNumber rest) (n k : Nat) :
    readDigits n k rest = (n, k, rest) := by
  cases rest with
  | nil => rfl
  | cons b rest =>
    have hb := (h b rfl).1
    simp [readDigits, hb]

theorem skipDigits_of_endsNumber {rest : List UInt8} (h : EndsNumber rest) :
    skipDigits 0 rest = (0, rest) := by
  cases rest with
  | nil => rfl
  | cons b rest =>
    have hb := (h b rfl).1
    simp [skipDigits, hb]

theorem readAfterWhole_of_endsNumber {rest : List UInt8} (h : EndsNumber rest) (n : Nat) :
    readAfterWhole false n 0 rest = .ok (.whole n, rest) := by
  cases rest with
  | nil => rfl
  | cons b rest =>
    obtain ⟨-, hpoint, hsmall, hlarge⟩ := h b rfl
    simp [readAfterWhole, wholeNumber, hpoint, hsmall, hlarge]

/-- The digits of a number are read back as that number. -/
theorem readNumber_toDigits {n : Nat} (hfits : n ≤ maxWord) {rest : List UInt8}
    (hrest : EndsNumber rest) :
    ∃ b bs, encodeList (Nat.toDigits 10 n) = b :: bs ∧ isDigit b = true ∧
      readNumber false (b :: (bs ++ rest)) = .ok (.number (.whole n), rest) := by
  rcases Nat.eq_zero_or_pos n with rfl | hpos
  · refine ⟨48, [], rfl, by decide, ?_⟩
    have hzero : readUnsigned false (48 :: rest) = .ok (.whole 0, rest) := by
      cases rest with
      | nil => rfl
      | cons c rest =>
        have hc := (hrest c rfl).1
        have hdigit : isDigit 48 = true := by decide
        simpa [readUnsigned, hdigit, hc] using readAfterWhole_of_endsNumber hrest 0
    rw [readNumber, List.nil_append, hzero]
    rfl
  · obtain ⟨b, bs, hbytes, hdigit, hne, hread⟩ := readDigits_toDigits hpos hfits
    refine ⟨b, bs, hbytes, hdigit, ?_⟩
    have hwhole : readUnsigned false (b :: (bs ++ rest)) = .ok (.whole n, rest) := by
      simp only [readUnsigned, hdigit, beq_iff_eq, hne, Bool.not_true, Bool.false_eq_true,
        if_false, hread, readDigits_of_endsNumber hrest, skipDigits_of_endsNumber hrest,
        readAfterWhole_of_endsNumber hrest]
    rw [readNumber, hwhole]

/-! ## Values that can be read back -/

mutual

/-- A value as it is read back: the members of an object are put in one after another. -/
def asRead : Json → Json
  | .null => .null
  | .bool b => .bool b
  | .number n => .number n
  | .string s => .string s
  | .array items => .array (itemsAsRead items)
  | .object members => .object (Members.ofList (membersAsRead members))

/-- Items as they are read back. -/
def itemsAsRead : List Json → List Json
  | [] => []
  | x :: rest => asRead x :: itemsAsRead rest

/-- Members as they are read back, before they are put in order. -/
def membersAsRead : List (String × Json) → List (String × Json)
  | [] => []
  | (name, x) :: rest => (name, asRead x) :: membersAsRead rest

end

theorem itemsAsRead_eq_map (items : List Json) : itemsAsRead items = items.map asRead := by
  induction items with
  | nil => rw [itemsAsRead, List.map_nil]
  | cons x items ih => rw [itemsAsRead, ih, List.map_cons]

/-- Values that can be read back with so many brackets around their innermost part, and whose
numbers are natural and fit a word. -/
inductive Readable : Nat → Json → Prop where
  | null (depth : Nat) : Readable depth .null
  | bool (depth : Nat) (b : Bool) : Readable depth (.bool b)
  | nat (depth : Nat) {n : Nat} (hfits : n ≤ maxWord) : Readable depth (.nat n)
  | string (depth : Nat) (s : String) : Readable depth (.string s)
  | array {depth : Nat} {items : List Json} (hitems : ∀ x ∈ items, Readable depth x) :
      Readable (depth + 1) (.array items)
  | object {depth : Nat} {members : List (String × Json)}
      (hmembers : ∀ m ∈ members, Readable depth m.2) : Readable (depth + 1) (.object members)

theorem readable_array_iff {depth : Nat} {items : List Json} :
    Readable (depth + 1) (.array items) ↔ ∀ x ∈ items, Readable depth x :=
  ⟨fun h => by cases h with | array hitems => exact hitems, .array⟩

theorem readable_object_nil (depth : Nat) : Readable (depth + 1) (.object []) := .object nofun

theorem readable_object_cons {depth : Nat} {name : String} {x : Json}
    {members : List (String × Json)} :
    Readable (depth + 1) (.object ((name, x) :: members)) ↔
      Readable depth x ∧ Readable (depth + 1) (.object members) := by
  constructor
  · intro h
    cases h with
    | object h =>
      obtain ⟨hx, hmembers⟩ := List.forall_mem_cons.mp h
      exact ⟨hx, .object hmembers⟩
  · rintro ⟨hx, hmembers⟩
    cases hmembers with
    | object hmembers => exact .object (List.forall_mem_cons.mpr ⟨hx, hmembers⟩)

/-- A digit is no blank and begins no other value than a number. -/
theorem digit_head {b : UInt8} (h : isDigit b = true) :
    isBlankByte b = false ∧ b ≠ 110 ∧ b ≠ 116 ∧ b ≠ 102 ∧ b ≠ 45 := by
  have hrange : 48 ≤ b.toNat ∧ b.toNat ≤ 57 := by
    simpa [isDigit, UInt8.le_iff_toNat_le] using h
  have hne : ∀ c : UInt8, c.toNat < 48 ∨ 57 < c.toNat → b ≠ c := by
    rintro c hc rfl
    omega
  refine ⟨?_, hne _ (by decide), hne _ (by decide), hne _ (by decide), hne _ (by decide)⟩
  simp [isBlankByte, hne 32 (by decide), hne 10 (by decide), hne 9 (by decide),
    hne 13 (by decide)]

theorem write_nat (n : Nat) : write (.nat n) = Nat.toDigits 10 n := by
  rw [Json.nat, write]
  rfl

/-- A written value begins with a byte that is no blank and does not close a list. -/
theorem Readable.head {depth : Nat} {x : Json} (h : Readable depth x) :
    ∃ b bs, encodeList (write x) = b :: bs ∧ isBlankByte b = false ∧ b ≠ 93 := by
  cases h with
  | null => exact ⟨110, _, rfl, by decide, by decide⟩
  | bool depth b =>
    cases b with
    | true => exact ⟨116, _, rfl, by decide, by decide⟩
    | false => exact ⟨102, _, rfl, by decide, by decide⟩
  | nat depth hfits =>
    obtain ⟨b, bs, hbytes, hdigit, -⟩ := readNumber_toDigits hfits endsNumber_nil
    obtain ⟨hblank, hothers⟩ := digit_head hdigit
    refine ⟨b, bs, hbytes, hblank, ?_⟩
    rintro rfl
    cases hdigit
  | string => exact ⟨34, _, rfl, by decide, by decide⟩
  | array => exact ⟨91, _, rfl, by decide, by decide⟩
  | object => exact ⟨123, _, rfl, by decide, by decide⟩

theorem skipBlank_cons {b : UInt8} (h : isBlankByte b = false) (rest : List UInt8) :
    skipBlank (b :: rest) = b :: rest := by
  rw [skipBlank, List.dropWhile_cons_of_neg]
  simp [h]

/-! ## Lists and objects -/

/-- A value is read back with so many brackets around it, whatever follows. -/
def ReadsBack (depth : Nat) (x : Json) : Prop :=
  ∀ rest, EndsNumber rest → readValue depth (encodeList (write x) ++ rest) = .ok (x.asRead, rest)

theorem encodeList_writeItems_cons (x y : Json) (items : List Json) :
    encodeList (writeItems (x :: y :: items)) =
      encodeList (write x) ++ 44 :: encodeList (writeItems (y :: items)) := by
  rw [writeItems, encodeList_append, encodeList_cons]
  rfl

/-- Written items begin as the first of them does. -/
theorem writeItems_head {depth : Nat} {x : Json} (h : Readable depth x) (items : List Json) :
    ∃ b bs, encodeList (writeItems (x :: items)) = b :: bs ∧ isBlankByte b = false ∧ b ≠ 93 := by
  obtain ⟨b, bs, hbytes, hblank, hbracket⟩ := h.head
  cases items with
  | nil => exact ⟨b, bs, by rw [writeItems, hbytes], hblank, hbracket⟩
  | cons y items =>
    refine ⟨b, bs ++ 44 :: encodeList (writeItems (y :: items)), ?_, hblank, hbracket⟩
    rw [encodeList_writeItems_cons, hbytes, List.cons_append]

/-- There are no more items than bytes. -/
theorem length_le_writeItems {depth : Nat} {items : List Json}
    (h : ∀ x ∈ items, Readable depth x) :
    items.length ≤ (encodeList (writeItems items)).length := by
  induction items with
  | nil => exact Nat.zero_le _
  | cons x items ih =>
    cases items with
    | nil =>
      obtain ⟨b, bs, hbytes, -⟩ := writeItems_head (h x List.mem_cons_self) []
      rw [hbytes, List.length_cons, List.length_cons]
      exact Nat.succ_le_succ (Nat.zero_le _)
    | cons y items =>
      have hmore := ih fun z hz => h z (List.mem_cons_of_mem x hz)
      simp only [encodeList_writeItems_cons, List.length_append, List.length_cons] at hmore ⊢
      omega

/-- Written items are read back up to the bracket behind them. -/
theorem readItems_writeItems {depth : Nat} {items : List Json} (hne : items ≠ [])
    (hreadable : ∀ x ∈ items, Readable depth x) (hitems : ∀ x ∈ items, ReadsBack depth x)
    {fuel : Nat} (hfuel : items.length ≤ fuel) (done : List Json) (rest : List UInt8) :
    readItems (readValue depth) fuel done (encodeList (writeItems items) ++ 93 :: rest) =
      .ok (done.reverse ++ itemsAsRead items, rest) := by
  induction items generalizing fuel done with
  | nil => exact absurd rfl hne
  | cons x items ih =>
    rw [List.length_cons] at hfuel
    obtain ⟨fuel, rfl⟩ : ∃ k, fuel = k + 1 := ⟨fuel - 1, by omega⟩
    have hx := hitems x List.mem_cons_self
    cases items with
    | nil =>
      have hread := hx (93 :: rest) (endsNumber_cons (by decide) rest)
      rw [readItems, writeItems, hread]
      simp [skipBlank_cons (show isBlankByte 93 = false by decide), itemsAsRead]
    | cons y items =>
      have hmore : readItems (readValue depth) fuel (x.asRead :: done)
          (encodeList (writeItems (y :: items)) ++ 93 :: rest) =
          .ok ((x.asRead :: done).reverse ++ itemsAsRead (y :: items), rest) :=
        ih nofun (fun z hz => hreadable z (List.mem_cons_of_mem x hz))
          (fun z hz => hitems z (List.mem_cons_of_mem x hz)) (by omega) _
      have hread := hx (44 :: (encodeList (writeItems (y :: items)) ++ 93 :: rest))
        (endsNumber_cons (by decide) _)
      -- the next item begins with neither a blank nor the closing bracket
      obtain ⟨b, bs, hbytes, hblank, hbracket⟩ := writeItems_head
        (hreadable y (List.mem_cons_of_mem x List.mem_cons_self)) items
      rw [hbytes, List.cons_append] at hmore hread
      rw [encodeList_writeItems_cons, List.append_assoc, List.cons_append, hbytes,
        List.cons_append, readItems, hread]
      simp [skipBlank_cons (show isBlankByte 44 = false by decide), skipBlank_cons hblank,
        hbracket, hmore, itemsAsRead]

/-- A written list is read back. -/
theorem readArray_writeItems {depth : Nat} {items : List Json}
    (hreadable : ∀ x ∈ items, Readable depth x) (hitems : ∀ x ∈ items, ReadsBack depth x)
    (rest : List UInt8) :
    readArray (readValue depth) (encodeList (writeItems items) ++ 93 :: rest) =
      .ok (.array (itemsAsRead items), rest) := by
  cases items with
  | nil => rfl
  | cons x items =>
    have hfuel : (x :: items).length ≤
        (encodeList (writeItems (x :: items)) ++ 93 :: rest).length := by
      have := length_le_writeItems hreadable
      rw [List.length_append]
      omega
    have hread := readItems_writeItems (List.cons_ne_nil x items) hreadable hitems hfuel [] rest
    obtain ⟨b, bs, hbytes, hblank, hbracket⟩ := writeItems_head (hreadable x List.mem_cons_self)
      items
    rw [hbytes, List.cons_append] at hread ⊢
    rw [readArray, skipBlank_cons hblank]
    simp only [beq_iff_eq, hbracket, if_false, hread, List.reverse_nil, List.nil_append]

/-- The bytes of a member after the opening quote of its name. -/
def memberBytes (name : String) (x : Json) : List UInt8 :=
  encodeList (name.toList.flatMap escapeChar) ++ 34 :: 58 :: encodeList (write x)

theorem encodeList_writeMembers_singleton (name : String) (x : Json) :
    encodeList (writeMembers [(name, x)]) = 34 :: memberBytes name x := by
  simp [writeMembers, writeString, memberBytes, encodeChar]

theorem encodeList_writeMembers_cons (name : String) (x : Json) (m : String × Json)
    (members : List (String × Json)) :
    encodeList (writeMembers ((name, x) :: m :: members)) =
      34 :: memberBytes name x ++ 44 :: encodeList (writeMembers (m :: members)) := by
  simp [writeMembers, writeString, memberBytes, encodeChar]

/-- A written member is read back. -/
theorem readMember_memberBytes {depth : Nat} {name : String} {x : Json}
    (hx : ReadsBack depth x) {rest : List UInt8} (hrest : EndsNumber rest) :
    readMember (readValue depth) (memberBytes name x ++ rest) = .ok ((name, x.asRead), rest) := by
  have hname := readString_writeString name (58 :: (encodeList (write x) ++ rest))
  rw [memberBytes, List.append_assoc, List.cons_append, List.cons_append, readMember, hname]
  simp [skipBlank_cons (show isBlankByte 58 = false by decide), hx rest hrest]

/-- There are no more members than bytes. -/
theorem length_le_writeMembers (members : List (String × Json)) :
    members.length ≤ (encodeList (writeMembers members)).length := by
  induction members with
  | nil => exact Nat.zero_le _
  | cons m members ih =>
    obtain ⟨name, x⟩ := m
    cases members with
    | nil =>
      rw [encodeList_writeMembers_singleton, List.length_cons, List.length_cons]
      exact Nat.succ_le_succ (Nat.zero_le _)
    | cons m members =>
      simp only [encodeList_writeMembers_cons, List.length_append, List.length_cons] at ih ⊢
      omega

/-- Written members are read back up to the brace behind them, and put in one after another. -/
theorem readMembers_writeMembers {depth : Nat} {members : List (String × Json)}
    (hne : members ≠ []) (hmembers : ∀ m ∈ members, ReadsBack depth m.2) {fuel : Nat}
    (hfuel : members.length ≤ fuel) (done : Members) (rest : List UInt8) :
    ∃ bytes, encodeList (writeMembers members) ++ 125 :: rest = 34 :: bytes ∧
      readMembers (readValue depth) fuel done bytes =
        .ok ((membersAsRead members).foldl (fun ms m => Members.insert m.1 m.2 ms) done, rest) := by
  induction members generalizing fuel done with
  | nil => exact absurd rfl hne
  | cons m members ih =>
    obtain ⟨name, x⟩ := m
    rw [List.length_cons] at hfuel
    obtain ⟨fuel, rfl⟩ : ∃ k, fuel = k + 1 := ⟨fuel - 1, by omega⟩
    have hx : ReadsBack depth x := hmembers _ List.mem_cons_self
    cases members with
    | nil =>
      refine ⟨memberBytes name x ++ 125 :: rest, by rw [encodeList_writeMembers_singleton]; rfl, ?_⟩
      rw [readMembers, readMember_memberBytes hx (endsNumber_cons (by decide) rest)]
      simp [skipBlank_cons (show isBlankByte 125 = false by decide), membersAsRead]
    | cons m members =>
      obtain ⟨bytes, hbytes, hmore⟩ := ih nofun
        (fun z hz => hmembers z (List.mem_cons_of_mem _ hz)) (show _ ≤ fuel by omega)
        (done.insert name x.asRead)
      refine ⟨memberBytes name x ++ 44 :: 34 :: bytes, ?_, ?_⟩
      · rw [encodeList_writeMembers_cons, List.append_assoc, List.cons_append, List.cons_append,
          hbytes]
      · rw [readMembers, readMember_memberBytes hx (endsNumber_cons (by decide) _)]
        simp [skipBlank_cons (show isBlankByte 44 = false by decide),
          skipBlank_cons (show isBlankByte 34 = false by decide), hmore, membersAsRead]

/-- A written object is read back. -/
theorem readObject_writeMembers {depth : Nat} {members : List (String × Json)}
    (hmembers : ∀ m ∈ members, ReadsBack depth m.2) (rest : List UInt8) :
    readObject (readValue depth) (encodeList (writeMembers members) ++ 125 :: rest) =
      .ok (.object (Members.ofList (membersAsRead members)), rest) := by
  cases members with
  | nil => rfl
  | cons m members =>
    have hfuel : (m :: members).length ≤
        (encodeList (writeMembers (m :: members)) ++ 125 :: rest).length := by
      have := length_le_writeMembers (m :: members)
      rw [List.length_append]
      omega
    obtain ⟨bytes, hbytes, hread⟩ := readMembers_writeMembers (List.cons_ne_nil m members) hmembers
      hfuel [] rest
    rw [hbytes] at hread ⊢
    rw [readObject, skipBlank_cons (by decide)]
    simp only [show ((34 : UInt8) == 125) = false by decide, beq_self_eq_true,
      Bool.false_eq_true, if_true, if_false, hread, Members.ofList]

/-! ## Values and documents -/

/-- A value is read back from its bytes, whatever follows that does not continue a number. -/
theorem Readable.readsBack {depth : Nat} {x : Json} (h : Readable depth x) :
    ReadsBack depth x := by
  induction h with
  | null =>
    intro rest _
    show readValue _ (110 :: 117 :: 108 :: 108 :: rest) = _
    rw [readValue, skipBlank_cons (by decide)]
    rfl
  | bool depth b =>
    intro rest _
    cases b with
    | true =>
      show readValue _ (116 :: 114 :: 117 :: 101 :: rest) = _
      rw [readValue, skipBlank_cons (by decide)]
      rfl
    | false =>
      show readValue _ (102 :: 97 :: 108 :: 115 :: 101 :: rest) = _
      rw [readValue, skipBlank_cons (by decide)]
      rfl
  | nat depth hfits =>
    intro rest hrest
    obtain ⟨b, bs, hbytes, hdigit, hread⟩ := readNumber_toDigits hfits hrest
    have hhead := digit_head hdigit
    rw [write_nat, hbytes, List.cons_append, readValue, skipBlank_cons hhead.1]
    simp [hhead, hdigit, hread, asRead, Json.nat]
  | string depth s =>
    intro rest _
    have hread := readString_writeString s rest
    have hbytes : encodeList (write (.string s)) ++ rest =
        34 :: (encodeList (s.toList.flatMap escapeChar) ++ 34 :: rest) := by
      simp [write, writeString, encodeChar]
    rw [hbytes, readValue, skipBlank_cons (by decide)]
    simp [isDigit, hread, asRead]
  | @array depth items hitems ih =>
    intro rest _
    have hread := readArray_writeItems hitems ih rest
    have hbytes : encodeList (write (.array items)) ++ rest =
        91 :: (encodeList (writeItems items) ++ 93 :: rest) := by
      simp [write, encodeChar]
    rw [hbytes, readValue, skipBlank_cons (by decide)]
    simp [isDigit, hread, asRead]
  | @object depth members hmembers ih =>
    intro rest _
    have hread := readObject_writeMembers ih rest
    have hbytes : encodeList (write (.object members)) ++ rest =
        123 :: (encodeList (writeMembers members) ++ 125 :: rest) := by
      simp [write, encodeChar]
    rw [hbytes, readValue, skipBlank_cons (by decide)]
    simp [isDigit, hread, asRead]

/-- The document of a value is read back as that value. -/
theorem read_toBytes {x : Json} (h : Readable maxDepth x) : read x.toBytes = .ok x.asRead := by
  have hread := h.readsBack [] endsNumber_nil
  rw [List.append_nil] at hread
  rw [read, toBytes, hread]
  rfl

end Deadwood.Json
