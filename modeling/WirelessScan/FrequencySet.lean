/-!
# Sets of frequencies

A set of centre frequencies in MHz, kept as a strictly increasing list. The order makes the list a
normal form: two sets with the same members are equal (`FrequencySet.ext_mem`).
-/

namespace WirelessScan

/-- A finite set of frequencies in MHz. -/
structure FrequencySet where
  /-- The members in increasing order, each once. -/
  toList : List UInt32
  sorted : toList.Pairwise (· < ·)
deriving DecidableEq, Repr

namespace FrequencySet

/-- Puts a frequency at its place in an increasing list, unless it is there already. -/
def insertSorted (f : UInt32) : List UInt32 → List UInt32
  | [] => [f]
  | g :: rest =>
    if f < g then f :: g :: rest
    else if f = g then g :: rest
    else g :: insertSorted f rest

theorem mem_insertSorted {x f : UInt32} {fs : List UInt32} :
    x ∈ insertSorted f fs ↔ x = f ∨ x ∈ fs := by
  induction fs with
  | nil => simp [insertSorted]
  | cons g rest ih =>
    simp only [insertSorted]
    split
    · simp
    · split
      · subst f; simp
      · simp only [List.mem_cons, ih, or_left_comm]

theorem pairwise_insertSorted {f : UInt32} {fs : List UInt32} (h : fs.Pairwise (· < ·)) :
    (insertSorted f fs).Pairwise (· < ·) := by
  induction fs with
  | nil => simp [insertSorted]
  | cons g rest ih =>
    obtain ⟨hg, hrest⟩ := List.pairwise_cons.mp h
    simp only [insertSorted]
    split
    next hlt =>
      refine List.pairwise_cons.mpr ⟨fun x hx => ?_, h⟩
      cases List.mem_cons.mp hx with
      | inl heq => exact heq ▸ hlt
      | inr hmem => exact Std.lt_trans hlt (hg x hmem)
    next hge =>
      split
      · exact h
      next hne =>
        refine List.pairwise_cons.mpr ⟨fun x hx => ?_, ih hrest⟩
        cases mem_insertSorted.mp hx with
        | inl heq =>
          subst heq
          rcases Std.lt_trichotomy x g with hlt | heq | hgt
          · exact absurd hlt hge
          · exact absurd heq hne
          · exact hgt
        | inr hmem => exact hg x hmem

/-- The set without members. -/
def empty : FrequencySet := ⟨[], .nil⟩

instance : EmptyCollection FrequencySet := ⟨empty⟩
instance : Inhabited FrequencySet := ⟨empty⟩

/-- The set with one more member. -/
def insert (f : UInt32) (s : FrequencySet) : FrequencySet :=
  ⟨insertSorted f s.toList, pairwise_insertSorted s.sorted⟩

instance : Membership UInt32 FrequencySet := ⟨fun s f => f ∈ s.toList⟩

theorem mem_def {f : UInt32} {s : FrequencySet} : f ∈ s ↔ f ∈ s.toList := Iff.rfl

instance (f : UInt32) (s : FrequencySet) : Decidable (f ∈ s) :=
  inferInstanceAs (Decidable (f ∈ s.toList))

/-- The set of the members of a list, whose order and repetitions do not matter. -/
def ofList (fs : List UInt32) : FrequencySet :=
  fs.foldr insert empty

/-- Whether the set has no members. -/
def isEmpty (s : FrequencySet) : Bool :=
  s.toList.isEmpty

/-- The number of members. -/
def size (s : FrequencySet) : Nat :=
  s.toList.length

@[simp] theorem not_mem_empty (f : UInt32) : f ∉ empty := by
  simp [mem_def, empty]

@[simp] theorem mem_insert {x f : UInt32} {s : FrequencySet} :
    x ∈ s.insert f ↔ x = f ∨ x ∈ s :=
  mem_insertSorted

@[simp] theorem mem_ofList {x : UInt32} {fs : List UInt32} : x ∈ ofList fs ↔ x ∈ fs := by
  induction fs with
  | nil => simp [ofList]
  | cons f rest ih =>
    have hcons : ofList (f :: rest) = (ofList rest).insert f := rfl
    simp [hcons, ih]

/-- Increasing lists with the same members are equal. -/
theorem eq_of_pairwise_of_mem_iff {xs ys : List UInt32} (hx : xs.Pairwise (· < ·))
    (hy : ys.Pairwise (· < ·)) (hmem : ∀ f, f ∈ xs ↔ f ∈ ys) : xs = ys := by
  induction xs generalizing ys with
  | nil =>
    cases ys with
    | nil => rfl
    | cons y ys => exact absurd ((hmem y).mpr List.mem_cons_self) List.not_mem_nil
  | cons x xs ih =>
    cases ys with
    | nil => exact absurd ((hmem x).mp List.mem_cons_self) List.not_mem_nil
    | cons y ys =>
      obtain ⟨hxlt, hxs⟩ := List.pairwise_cons.mp hx
      obtain ⟨hylt, hys⟩ := List.pairwise_cons.mp hy
      have hxy : x = y := by
        cases List.mem_cons.mp ((hmem x).mp List.mem_cons_self) with
        | inl h => exact h
        | inr h =>
          cases List.mem_cons.mp ((hmem y).mpr List.mem_cons_self) with
          | inl h' => exact h'.symm
          | inr h' => exact absurd (Std.lt_trans (hylt x h) (hxlt y h')) (Std.lt_irrefl)
      subst hxy
      refine congrArg (x :: ·) (ih hxs hys fun f => ⟨fun hf => ?_, fun hf => ?_⟩)
      · cases List.mem_cons.mp ((hmem f).mp (List.mem_cons_of_mem x hf)) with
        | inl h => exact absurd (h ▸ hxlt f hf) (Std.lt_irrefl)
        | inr h => exact h
      · cases List.mem_cons.mp ((hmem f).mpr (List.mem_cons_of_mem x hf)) with
        | inl h => exact absurd (h ▸ hylt f hf) (Std.lt_irrefl)
        | inr h => exact h

/-- A set is determined by its members. -/
theorem ext_mem {s t : FrequencySet} (h : ∀ f, f ∈ s ↔ f ∈ t) : s = t := by
  cases s with
  | mk xs hx =>
    cases t with
    | mk ys hy =>
      have heq : xs = ys := eq_of_pairwise_of_mem_iff hx hy h
      subst heq
      rfl

end FrequencySet

end WirelessScan
