/-!
# Sorted maps

A finite map kept as a list of entries in strictly increasing order of their keys. Traversals
follow that order. The view of a map is `find?`; each operation has one lemma that says what it
does to the view.
-/

namespace WirelessScan

/-- A finite map from `κ` to `α`, listed in increasing order of the keys. -/
structure SortedMap (κ α : Type) [LT κ] where
  entries : List (κ × α)
  sorted : entries.Pairwise fun a b => a.1 < b.1

namespace SortedMap

/-! ## Operations on lists of entries -/

section Entries

variable {κ α : Type}

/-- The value under a key. -/
def findEntry [DecidableEq κ] (k : κ) : List (κ × α) → Option α
  | [] => none
  | (k', a) :: rest => if k = k' then some a else findEntry k rest

/-- Puts a value under a key of an increasing list, in place of the value that is there. -/
def insertEntry [LT κ] [DecidableLT κ] (k : κ) (a : α) : List (κ × α) → List (κ × α)
  | [] => [(k, a)]
  | (k', a') :: rest =>
    if k < k' then (k, a) :: (k', a') :: rest
    else if k' < k then (k', a') :: insertEntry k a rest
    else (k, a) :: rest

/-- Replaces each value in order, passing a state along. -/
def mapEntries {σ : Type} (f : κ → α → σ → α × σ) : List (κ × α) → σ → List (κ × α) × σ
  | [], s => ([], s)
  | (k, a) :: rest, s =>
    let r := f k a s
    let rest' := mapEntries f rest r.2
    ((k, r.1) :: rest'.1, rest'.2)

theorem map_fst_mapEntries {σ : Type} (f : κ → α → σ → α × σ) (l : List (κ × α)) (s : σ) :
    (mapEntries f l s).1.map Prod.fst = l.map Prod.fst := by
  induction l generalizing s with
  | nil => rfl
  | cons head rest ih => simp [mapEntries, ih]

/-- Whether a list of entries is increasing depends on its keys alone. -/
theorem pairwise_of_map_fst_eq [LT κ] {l l' : List (κ × α)}
    (heq : l'.map Prod.fst = l.map Prod.fst) (h : l.Pairwise fun a b => a.1 < b.1) :
    l'.Pairwise fun a b => a.1 < b.1 := by
  rw [← List.pairwise_map (f := Prod.fst)] at h ⊢
  rwa [heq]

theorem mem_insertEntry [LT κ] [DecidableLT κ] {k : κ} {a : α} {l : List (κ × α)} {e : κ × α}
    (h : e ∈ insertEntry k a l) : e = (k, a) ∨ e ∈ l := by
  induction l with
  | nil => simpa [insertEntry] using h
  | cons head rest ih =>
    obtain ⟨k', a'⟩ := head
    simp only [insertEntry] at h
    split at h
    · simpa using h
    · split at h
      · cases List.mem_cons.mp h with
        | inl heq => exact .inr (heq ▸ List.mem_cons_self)
        | inr hmem => exact (ih hmem).imp id (List.mem_cons_of_mem _)
      · cases List.mem_cons.mp h with
        | inl heq => exact .inl heq
        | inr hmem => exact .inr (List.mem_cons_of_mem _ hmem)

theorem findEntry_filter [DecidableEq κ] {k k' : κ} {l : List (κ × α)} :
    findEntry k' (l.filter (·.1 ≠ k)) = if k' = k then none else findEntry k' l := by
  induction l with
  | nil => simp [findEntry]
  | cons head rest ih =>
    obtain ⟨k₀, a₀⟩ := head
    by_cases h₀ : k₀ = k
    · subst h₀
      simp only [List.filter_cons, ne_eq, not_true_eq_false, decide_false, Bool.false_eq_true,
        if_false, findEntry, ih]
      split <;> simp_all
    · simp only [List.filter_cons, ne_eq, h₀, not_false_eq_true, decide_true, if_true, findEntry,
        ih]
      by_cases h₁ : k' = k₀
      · subst h₁; simp [h₀]
      · simp [h₁]

variable [LE κ] [LT κ] [DecidableLT κ] [Std.LawfulOrderLT κ] [Std.IsLinearOrder κ]

theorem pairwise_insertEntry {k : κ} {a : α} {l : List (κ × α)}
    (h : l.Pairwise fun a b => a.1 < b.1) :
    (insertEntry k a l).Pairwise fun a b => a.1 < b.1 := by
  induction l with
  | nil => simp [insertEntry]
  | cons head rest ih =>
    obtain ⟨k', a'⟩ := head
    obtain ⟨hk', hrest⟩ := List.pairwise_cons.mp h
    simp only [insertEntry]
    split
    next hlt =>
      refine List.pairwise_cons.mpr ⟨fun e he => ?_, h⟩
      cases List.mem_cons.mp he with
      | inl heq => subst heq; exact hlt
      | inr hmem => exact Std.lt_trans hlt (hk' e hmem)
    next hge =>
      split
      next hgt =>
        refine List.pairwise_cons.mpr ⟨fun e he => ?_, ih hrest⟩
        cases mem_insertEntry he with
        | inl heq => subst heq; exact hgt
        | inr hmem => exact hk' e hmem
      next hle =>
        have hkk' : k = k' := by
          rcases Std.lt_trichotomy k k' with hlt | heq | hgt
          · exact absurd hlt hge
          · exact heq
          · exact absurd hgt hle
        subst hkk'
        exact List.pairwise_cons.mpr ⟨hk', hrest⟩

theorem findEntry_insertEntry [DecidableEq κ] {k k' : κ} {a : α} {l : List (κ × α)} :
    findEntry k' (insertEntry k a l) = if k' = k then some a else findEntry k' l := by
  induction l with
  | nil => simp [insertEntry, findEntry]
  | cons head rest ih =>
    obtain ⟨k₀, a₀⟩ := head
    simp only [insertEntry]
    split
    · simp [findEntry]
    next hge =>
      split
      next hgt =>
        simp only [findEntry, ih]
        by_cases h₀ : k' = k₀
        · subst h₀
          have hne : k' ≠ k := fun heq => Std.lt_irrefl (heq ▸ hgt)
          simp [hne]
        · simp [h₀]
      next hle =>
        have hkk₀ : k = k₀ := by
          rcases Std.lt_trichotomy k k₀ with hlt | heq | hgt
          · exact absurd hlt hge
          · exact heq
          · exact absurd hgt hle
        subst hkk₀
        simp only [findEntry]
        split <;> rfl

end Entries

/-! ## Maps -/

section Maps

variable {κ α : Type} [LT κ]

/-- The map without entries. -/
def empty : SortedMap κ α := ⟨[], .nil⟩

instance : EmptyCollection (SortedMap κ α) := ⟨empty⟩
instance : Inhabited (SortedMap κ α) := ⟨empty⟩

/-- The number of entries. -/
def size (m : SortedMap κ α) : Nat := m.entries.length

/-- The keys in increasing order. -/
def keys (m : SortedMap κ α) : List κ := m.entries.map Prod.fst

/-- The values in increasing order of their keys. -/
def values (m : SortedMap κ α) : List α := m.entries.map Prod.snd

/-- Replaces each value in increasing order of the keys, passing a state along. -/
def mapAccum {σ : Type} (m : SortedMap κ α) (f : κ → α → σ → α × σ) (s : σ) :
    SortedMap κ α × σ :=
  (⟨(mapEntries f m.entries s).1, pairwise_of_map_fst_eq (map_fst_mapEntries f _ _) m.sorted⟩,
    (mapEntries f m.entries s).2)

variable [DecidableEq κ]

/-- The value under a key. -/
def find? (m : SortedMap κ α) (k : κ) : Option α := findEntry k m.entries

/-- Removes a key. -/
def erase (m : SortedMap κ α) (k : κ) : SortedMap κ α :=
  ⟨m.entries.filter (·.1 ≠ k), m.sorted.filter _⟩

@[simp] theorem find?_empty (k : κ) : (empty : SortedMap κ α).find? k = none := rfl

@[simp] theorem find?_erase (m : SortedMap κ α) (k k' : κ) :
    (m.erase k).find? k' = if k' = k then none else m.find? k' :=
  findEntry_filter

variable [LE κ] [DecidableLT κ] [Std.LawfulOrderLT κ] [Std.IsLinearOrder κ]

/-- Puts a value under a key, in place of the value that is there. -/
def insert (m : SortedMap κ α) (k : κ) (a : α) : SortedMap κ α :=
  ⟨insertEntry k a m.entries, pairwise_insertEntry m.sorted⟩

@[simp] theorem find?_insert (m : SortedMap κ α) (k k' : κ) (a : α) :
    (m.insert k a).find? k' = if k' = k then some a else m.find? k' :=
  findEntry_insertEntry

end Maps

end SortedMap

end WirelessScan
