import Mathlib.Data.List.Nodup
import WirelessScan.Config.Decode

/-!
# What values decode to

For each type of a key there is one way to write a member of it as a TOML value, or three for a
member of a kind. A value decodes to a member exactly if it is that member written down, so any
other value is refused.
-/

namespace WirelessScan

/-! ## Names -/

/-- A kind is read by name if its list has all members and no two of them share a name. -/
structure Named.Lawful (α : Type) [Named α] : Prop where
  mem_members : ∀ a : α, a ∈ Named.members
  nodup_names : ((Named.members (α := α)).map Named.name).Nodup

namespace Named

theorem lawful_scanType : Lawful ScanType where
  mem_members a := by cases a <;> decide
  nodup_names := by decide

theorem lawful_band : Lawful Band where
  mem_members a := by cases a <;> decide
  nodup_names := by decide

theorem lawful_outcome : Lawful Replay.Outcome where
  mem_members a := by cases a <;> decide
  nodup_names := by decide

theorem name_of_ofName? {α : Type} [Named α] {text : String} {a : α}
    (h : ofName? text = some a) : name a = text := by
  have hfound := List.find?_some h
  exact eq_of_beq hfound

/-- A name is looked up to the member that it is the name of. -/
theorem Lawful.ofName?_eq_some_iff {α : Type} [Named α] (h : Lawful α) {text : String} {a : α} :
    ofName? text = some a ↔ text = name a := by
  constructor
  · intro hfind
    exact (name_of_ofName? hfind).symm
  · rintro rfl
    obtain ⟨b, hb⟩ : ∃ b, ofName? (name a) = some b := by
      rw [← Option.isSome_iff_exists]
      unfold ofName?
      rw [List.find?_isSome]
      exact ⟨a, h.mem_members a, beq_self_eq_true _⟩
    have hsame : b = a := List.inj_on_of_nodup_map h.nodup_names (h.mem_members b)
      (h.mem_members a) (name_of_ofName? hb)
    rw [hb, hsame]

end Named

namespace Config

open Toml (Value)

/-! ## Values -/

variable {v : Value}

theorem decodeString_eq_some_iff {s : String} : decodeString v = some s ↔ v = .string s := by
  cases v <;> simp [decodeString]

theorem decodeBool_eq_some_iff {b : Bool} : decodeBool v = some b ↔ v = .boolean b := by
  cases v <;> simp [decodeBool]

theorem decodeBelow_eq_some_iff {bound n : Nat} :
    decodeBelow bound v = some n ↔ n < bound ∧ v = .integer n := by
  cases v with
  | integer k =>
      simp only [decodeBelow, Option.ite_none_right_eq_some, Option.some.injEq,
        Value.integer.injEq]
      omega
  | _ => simp [decodeBelow]

theorem decodeUInt32_eq_some_iff {n : UInt32} :
    decodeUInt32 v = some n ↔ v = .integer n.toNat := by
  simp only [decodeUInt32, Option.map_eq_some_iff, decodeBelow_eq_some_iff]
  constructor
  · rintro ⟨k, ⟨hk, rfl⟩, rfl⟩
    rw [UInt32.toNat_ofNat_of_lt' hk]
  · rintro rfl
    exact ⟨n.toNat, ⟨n.toNat_lt_size, rfl⟩, UInt32.ofNat_toNat⟩

theorem decodeUInt64_eq_some_iff {n : UInt64} :
    decodeUInt64 v = some n ↔ v = .integer n.toNat := by
  simp only [decodeUInt64, Option.map_eq_some_iff, decodeBelow_eq_some_iff]
  constructor
  · rintro ⟨k, ⟨hk, rfl⟩, rfl⟩
    rw [UInt64.toNat_ofNat_of_lt' hk]
  · rintro rfl
    exact ⟨n.toNat, ⟨n.toNat_lt_size, rfl⟩, UInt64.ofNat_toNat⟩

section Lists

variable {α : Type} {decode : Value → Option α} {write : α → Value}

/-- Items decode one by one. -/
theorem mapM_decode_eq_some_iff (h : ∀ v a, decode v = some a ↔ v = write a) {items : List Value}
    {as : List α} : items.mapM decode = some as ↔ items = as.map write := by
  induction items generalizing as with
  | nil => cases as <;> simp
  | cons v items ih =>
      simp only [List.mapM_cons, Option.bind_eq_bind, Option.bind_eq_some_iff, Option.pure_def,
        Option.some.injEq, h, ih]
      cases as with
      | nil => simp
      | cons a as =>
          rw [List.map_cons, List.cons.injEq]
          constructor
          · rintro ⟨_, hv, _, hitems, heq⟩
            obtain ⟨rfl, rfl⟩ := List.cons.inj heq
            exact ⟨hv, hitems⟩
          · rintro ⟨hv, hitems⟩
            exact ⟨a, hv, as, hitems, rfl⟩

theorem decodeList_eq_some_iff (h : ∀ v a, decode v = some a ↔ v = write a) {as : List α} :
    decodeList decode v = some as ↔ v = .array (as.map write) := by
  cases v with
  | array items => rw [decodeList, mapM_decode_eq_some_iff h, Value.array.injEq]
  | _ => simp [decodeList]

end Lists

/-! ## Kinds -/

/-- The values that are written for a name: the name, or a table with nothing but the name, without
any content. -/
def spellings (name : String) : List Value :=
  [.string name, .table [(name, .table [])], .table [(name, .array [])]]

theorem decodeKind_eq_some_iff {α : Type} [Named α] (h : Named.Lawful α) {a : α} :
    decodeKind v = some a ↔ v ∈ spellings (Named.name a) := by
  unfold decodeKind
  split
  · simp [spellings, h.ofName?_eq_some_iff]
  · simp [spellings, h.ofName?_eq_some_iff]
  · simp [spellings, h.ofName?_eq_some_iff]
  next hstring htable harray =>
    simp only [spellings, List.mem_cons, List.not_mem_nil, or_false, reduceCtorEq, false_iff,
      not_or]
    exact ⟨hstring _, htable _, harray _⟩

end Config

end WirelessScan
