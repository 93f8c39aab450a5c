import Deadwood.Json.Schema

/-!
# What the readings of data accept

Each reading of a value succeeds on values of one form only. These laws say which, so that proofs
about records never open the readings themselves.
-/

namespace Deadwood.Json

variable {α β ε : Type}

/-! ## Results in sequence -/

theorem bind_eq_ok {x : Except ε α} {f : α → Except ε β} {b : β} :
    (x >>= f) = .ok b ↔ ∃ a, x = .ok a ∧ f a = .ok b := by
  cases x with
  | error e => exact ⟨nofun, nofun⟩
  | ok a => exact ⟨fun h => ⟨a, rfl, h⟩, fun ⟨a', ha, h⟩ => Except.ok.inj ha ▸ h⟩

theorem map_eq_ok {x : Except ε α} {f : α → β} {b : β} :
    x.map f = .ok b ↔ ∃ a, x = .ok a ∧ f a = b := by
  cases x with
  | error e => exact ⟨nofun, nofun⟩
  | ok a => simp [Except.map]

theorem pure_eq_ok {a b : α} : (pure a : Except ε α) = .ok b ↔ a = b := by
  simp [pure, Except.pure]

/-- A list is read iff each of its items is. -/
theorem mapM_eq_ok {f : α → Except ε β} {xs : List α} {ys : List β} :
    xs.mapM f = .ok ys ↔ xs.map f = ys.map .ok := by
  induction xs generalizing ys with
  | nil => cases ys <;> simp [pure, Except.pure]
  | cons x xs ih =>
    rw [List.mapM_cons, bind_eq_ok, List.map_cons]
    simp only [bind_eq_ok, pure_eq_ok, ih]
    cases ys with
    | nil => simp
    | cons y ys =>
      rw [List.map_cons, List.cons.injEq]
      constructor
      · rintro ⟨z, hz, zs, hzs, h⟩
        cases h
        exact ⟨hz, hzs⟩
      · rintro ⟨hy, hys⟩
        exact ⟨y, hy, ys, hys, rfl⟩

/-! ## Scalars, lists and options -/

/-- A number of 32 bits is a whole number, and exactly as large. -/
theorem word32Decoder_eq_ok {x : Json} {n : UInt32} :
    word32Decoder x = .ok n ↔ x = .nat n.toNat := by
  rw [word32Decoder, map_eq_ok]
  have hbound : n.toNat < 4294967296 := n.toNat_lt
  constructor
  · rintro ⟨k, hk, rfl⟩
    unfold natDecoder at hk
    split at hk
    case _ z =>
      split at hk
      case _ hrange =>
        cases hk
        obtain ⟨hlow, hhigh⟩ := hrange
        have hpow : (Nat.pow 2 32 : Int) = 4294967296 := rfl
        have hsmall : z.toNat < 4294967296 := by omega
        rw [UInt32.toNat_ofNat_of_lt' hsmall, nat, Int.toNat_of_nonneg hlow]
      case _ => cases hk
    case _ => cases hk
  · rintro rfl
    refine ⟨n.toNat, ?_, UInt32.ofNat_toNat⟩
    have hrange : (0 : Int) ≤ n.toNat ∧ (n.toNat : Int) < Nat.pow 2 32 := by
      have hpow : (Nat.pow 2 32 : Int) = 4294967296 := rfl
      omega
    rw [nat, natDecoder, if_pos hrange]
    rfl

theorem listDecoder_eq_ok {item : Decoder α} {x : Json} {ys : List α} :
    listDecoder item x = .ok ys ↔ ∃ items, x = .array items ∧ items.map item = ys.map .ok := by
  cases x <;> simp [listDecoder, mapM_eq_ok]

theorem optionDecoder_eq_ok {item : Decoder α} {x : Json} {y : Option α} :
    optionDecoder item x = .ok y ↔
      x = .null ∧ none = y ∨ x ≠ .null ∧ ∃ a, item x = .ok a ∧ some a = y := by
  cases x <;> simp [optionDecoder, map_eq_ok]

/-! ## Members -/

theorem Members.read_eq_some {ms : Members} {name : String} {item : Decoder α} {a : α} :
    ms.read name item = .ok (some a) ↔ ∃ x, ms.get? name = some x ∧ item x = .ok a := by
  unfold read
  cases ms.get? name <;> simp [map_eq_ok]

/-- What is found after a value was put in under a name. -/
theorem Members.get?_insert (ms : Members) (name other : String) (x : Json) :
    (ms.insert name x).get? other = if other = name then some x else ms.get? other := by
  induction ms with
  | nil => rw [insert, get?_cons]
  | cons m ms ih =>
    obtain ⟨name', x'⟩ := m
    rw [insert]
    split
    · rw [get?_cons]
    · split
      · next hname =>
        subst hname
        rw [get?_cons, get?_cons]
        split <;> rfl
      · next hne =>
        rw [get?_cons, get?_cons, ih]
        by_cases hother : other = name'
        · rw [if_pos hother, if_pos hother, if_neg (hother ▸ Ne.symm hne)]
        · rw [if_neg hother, if_neg hother]

theorem required_eq_ok {field : String} {o : Option α} {a : α} :
    required field o = .ok a ↔ o = some a := by
  cases o <;> simp [required]

/-! ## Fields without names -/

namespace Fields

variable {items : List Json} {place size : Nat} {item : Decoder α} {a : α}

theorem read_eq_ok {record : String} :
    read record size items place item = .ok a ↔ ∃ x, items[place]? = some x ∧ item x = .ok a := by
  unfold read
  cases items[place]? <;> simp

theorem readD_eq_ok {default : α} :
    readD items place item default = .ok a ↔
      items[place]? = none ∧ default = a ∨ ∃ x, items[place]? = some x ∧ item x = .ok a := by
  unfold readD
  cases items[place]? <;> simp

theorem noMore_eq_ok {u : Unit} : noMore size items = .ok u ↔ items.length ≤ size := by
  unfold noMore
  split <;> simp [*]

end Fields

end Deadwood.Json
