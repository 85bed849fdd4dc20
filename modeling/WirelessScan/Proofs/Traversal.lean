import WirelessScan.SortedMap

/-!
# Traversals of sorted maps

A traversal visits every entry once, in increasing order of the keys, and passes a state along. The
scanners need four views of it: what it leaves under a key when the new values do not depend on the
state, an induction principle that sees a traversal as replacements of single entries, what the
visits do to the state or ask of it in their order, and when a traversal changes nothing.
-/

namespace WirelessScan.SortedMap

variable {κ α σ : Type}

/-! ## Lists of entries -/

section Entries

variable [DecidableEq κ]

theorem findEntry_mapEntries {f : κ → α → σ → α × σ} {g : κ → α → α}
    (hf : ∀ k a s, (f k a s).1 = g k a) (l : List (κ × α)) (s : σ) (k : κ) :
    findEntry k (mapEntries f l s).1 = (findEntry k l).map (g k) := by
  induction l generalizing s with
  | nil => rfl
  | cons head rest ih =>
      obtain ⟨k', a⟩ := head
      simp only [mapEntries, findEntry, ih, hf]
      split
      next heq => subst heq; rfl
      next => rfl

theorem mem_of_findEntry {k : κ} {a : α} {l : List (κ × α)} (h : findEntry k l = some a) :
    (k, a) ∈ l := by
  induction l with
  | nil => simp [findEntry] at h
  | cons head rest ih =>
      obtain ⟨k', a'⟩ := head
      simp only [findEntry] at h
      split at h
      next heq =>
        subst heq
        obtain rfl := Option.some.inj h
        exact List.mem_cons_self
      next => exact List.mem_cons_of_mem _ (ih h)

variable [LT κ] [LE κ] [DecidableLT κ] [Std.LawfulOrderLT κ] [Std.IsLinearOrder κ]

omit [DecidableLT κ] [Std.IsLinearOrder κ] in
/-- The value under a key that stands behind smaller keys. -/
theorem findEntry_append_cons {before rest : List (κ × α)} {k : κ} {a : α}
    (hbefore : ∀ e ∈ before, e.1 < k) : findEntry k (before ++ (k, a) :: rest) = some a := by
  induction before with
  | nil => simp [findEntry]
  | cons head before ih =>
      obtain ⟨k', a'⟩ := head
      have hlt : k' < k := hbefore (k', a') List.mem_cons_self
      have hne : k ≠ k' := fun heq => Std.lt_irrefl (heq ▸ hlt)
      simp only [List.cons_append, findEntry, hne, if_false]
      exact ih fun e he => hbefore e (List.mem_cons_of_mem _ he)

omit [DecidableEq κ] in
/-- Putting a value under a key that is there replaces the value in its place. -/
theorem insertEntry_append_cons {before rest : List (κ × α)} {k : κ} {a a' : α}
    (hbefore : ∀ e ∈ before, e.1 < k) :
    insertEntry k a' (before ++ (k, a) :: rest) = before ++ (k, a') :: rest := by
  induction before with
  | nil => simp [insertEntry, Std.lt_irrefl]
  | cons head before ih =>
      obtain ⟨k', a₀⟩ := head
      have hlt : k' < k := hbefore (k', a₀) List.mem_cons_self
      have hnot : ¬ k < k' := fun h => Std.lt_irrefl (Std.lt_trans h hlt)
      simp only [List.cons_append, insertEntry, hnot, hlt, if_false, if_true]
      rw [ih fun e he => hbefore e (List.mem_cons_of_mem _ he)]

end Entries

/-! ## Maps -/

variable [LT κ] [DecidableEq κ]

/-- A traversal whose new values do not depend on the state changes every value in place. -/
theorem find?_mapAccum {f : κ → α → σ → α × σ} {g : κ → α → α}
    (hf : ∀ k a s, (f k a s).1 = g k a) (m : SortedMap κ α) (s : σ) (k : κ) :
    (m.mapAccum f s).1.find? k = (m.find? k).map (g k) :=
  findEntry_mapEntries hf m.entries s k

omit [DecidableEq κ] in
/-- What the visits of a traversal add to a log stands there in the order of the keys. -/
theorem mapAccum_log {β : Type} {f : κ → α → σ → α × σ} (log : σ → List β) {added : α → List β}
    (h : ∀ k a s, log (f k a s).2 = log s ++ added a) (m : SortedMap κ α) (s : σ) :
    log (m.mapAccum f s).2 = log s ++ m.values.flatMap added := by
  have hentries : ∀ (l : List (κ × α)) (s : σ),
      log (mapEntries f l s).2 = log s ++ (l.map Prod.snd).flatMap added := by
    intro l
    induction l with
    | nil => simp [mapEntries]
    | cons head rest ih =>
        intro s
        simp only [mapEntries, ih, h, List.map_cons, List.flatMap_cons, List.append_assoc]
  exact hentries m.entries s

omit [DecidableEq κ] in
/-- A traversal takes the steps of all its visits in the order of the keys. -/
theorem mapAccum_foldl {β : Type} {f : κ → α → σ → α × σ} {g : σ → β → σ}
    {steps : α → List β} (h : ∀ k a s, (f k a s).2 = (steps a).foldl g s)
    (m : SortedMap κ α) (s : σ) :
    (m.mapAccum f s).2 = (m.values.flatMap steps).foldl g s := by
  have hentries : ∀ (l : List (κ × α)) (s : σ),
      (mapEntries f l s).2 = ((l.map Prod.snd).flatMap steps).foldl g s := by
    intro l
    induction l with
    | nil => exact fun _ => rfl
    | cons head rest ih =>
        intro s
        simp only [mapEntries, ih, h, List.map_cons, List.flatMap_cons, List.foldl_append]
  exact hentries m.entries s

section Lookup

variable [LE κ] [Std.LawfulOrderLT κ]

/-- The value under a key is that of the entry with the key. -/
theorem find?_eq_some_iff {m : SortedMap κ α} {k : κ} {a : α} :
    m.find? k = some a ↔ (k, a) ∈ m.entries := by
  refine ⟨mem_of_findEntry, fun hmem => ?_⟩
  obtain ⟨before, rest, heq⟩ := List.append_of_mem hmem
  have hsorted := m.sorted
  rw [heq] at hsorted
  rw [find?, heq]
  exact findEntry_append_cons fun e he =>
    (List.pairwise_append.mp hsorted).2.2 e he (k, a) List.mem_cons_self

theorem mem_values {m : SortedMap κ α} {a : α} : a ∈ m.values ↔ ∃ k, m.find? k = some a := by
  simp [values, find?_eq_some_iff]

/-- Going through the keys and looking each one up is going through the values. -/
theorem flatMap_keys {β : Type} (m : SortedMap κ α) (f : α → List β) :
    (m.keys.flatMap fun k => (m.find? k).elim [] f) = m.values.flatMap f := by
  rw [keys, values, List.flatMap_map, List.flatMap_map, List.flatMap_def, List.flatMap_def]
  refine congrArg List.flatten (List.map_congr_left fun e he => ?_)
  rw [find?_eq_some_iff.mpr he, Option.elim_some]

/-- What each visit demands of the state besides what held before, a traversal demands for all
entries. -/
theorem mapAccum_iff {f : κ → α → σ → α × σ} (holds : σ → Prop) {demand : α → Prop}
    (h : ∀ k a s, holds (f k a s).2 ↔ holds s ∧ demand a) (m : SortedMap κ α) (s : σ) :
    holds (m.mapAccum f s).2 ↔ holds s ∧ ∀ k a, m.find? k = some a → demand a := by
  have hentries : ∀ (l : List (κ × α)) (s : σ),
      holds (mapEntries f l s).2 ↔ holds s ∧ ∀ e ∈ l, demand e.2 := by
    intro l
    induction l with
    | nil => simp [mapEntries]
    | cons head rest ih =>
        intro s
        simp only [mapEntries, ih, h, List.forall_mem_cons, and_assoc]
  simp only [find?_eq_some_iff]
  exact (hentries m.entries s).trans (and_congr_right fun _ => Prod.forall)

/-- A traversal whose visits change nothing changes nothing. -/
theorem mapAccum_eq_self {f : κ → α → σ → α × σ} {m : SortedMap κ α} {s : σ}
    (h : ∀ k a, m.find? k = some a → f k a s = (a, s)) : m.mapAccum f s = (m, s) := by
  have hentries : ∀ l : List (κ × α), (∀ e ∈ l, f e.1 e.2 s = (e.2, s)) →
      mapEntries f l s = (l, s) := by
    intro l
    induction l with
    | nil => exact fun _ => rfl
    | cons head rest ih =>
        intro hl
        obtain ⟨hhead, hrest⟩ := List.forall_mem_cons.mp hl
        simp only [mapEntries, hhead, ih hrest]
  have hmap := hentries m.entries fun e he => h e.1 e.2 (find?_eq_some_iff.mpr he)
  simp only [mapAccum, hmap]

end Lookup

omit [DecidableEq κ] in
/-- A traversal commutes with a change of the state, if each visit does. -/
theorem mapAccum_comm {f : κ → α → σ → α × σ} (g : σ → σ)
    (h : ∀ k a s, f k a (g s) = ((f k a s).1, g (f k a s).2)) (m : SortedMap κ α) (s : σ) :
    m.mapAccum f (g s) = ((m.mapAccum f s).1, g (m.mapAccum f s).2) := by
  have hentries : ∀ (l : List (κ × α)) (s : σ),
      mapEntries f l (g s) = ((mapEntries f l s).1, g (mapEntries f l s).2) := by
    intro l
    induction l with
    | nil => exact fun _ => rfl
    | cons head rest ih =>
        intro s
        simp only [mapEntries, h, ih]
  simp only [mapAccum, hentries]

variable [LE κ] [DecidableLT κ] [Std.LawfulOrderLT κ] [Std.IsLinearOrder κ]

omit [DecidableLT κ] in
/-- A map is determined by its values. -/
theorem ext_find? {m m' : SortedMap κ α} (h : ∀ k, m.find? k = m'.find? k) : m = m' := by
  have hmem : ∀ e, e ∈ m.entries ↔ e ∈ m'.entries := fun ⟨k, a⟩ => by
    rw [← find?_eq_some_iff, ← find?_eq_some_iff, h]
  have hnodup : ∀ m : SortedMap κ α, m.entries.Nodup := by
    intro m
    refine m.sorted.imp ?_
    rintro e _ hlt rfl
    exact Std.lt_irrefl hlt
  have hentries : m.entries = m'.entries :=
    List.Perm.eq_of_pairwise (fun _ _ _ _ hlt hgt => absurd (Std.lt_trans hlt hgt) Std.lt_irrefl)
      m.sorted m'.sorted ((List.perm_ext_iff_of_nodup (hnodup m) (hnodup m')).mpr hmem)
  cases m
  cases m'
  simpa using hentries

/-- Putting a value under the key that it is under changes nothing. -/
theorem insert_of_find? {m : SortedMap κ α} {k : κ} {a : α} (h : m.find? k = some a) :
    m.insert k a = m := by
  obtain ⟨before, rest, heq⟩ := List.append_of_mem (find?_eq_some_iff.mp h)
  have hsorted := m.sorted
  rw [heq] at hsorted
  have hbefore : ∀ e ∈ before, e.1 < k := fun e he =>
    (List.pairwise_append.mp hsorted).2.2 e he (k, a) List.mem_cons_self
  cases m with
  | mk entries sorted =>
      obtain rfl := heq
      simp only [insert, insertEntry_append_cons hbefore]

/-- What every replacement of an entry by its visited form preserves, a traversal preserves. -/
theorem mapAccum_induction {f : κ → α → σ → α × σ} (motive : SortedMap κ α → σ → Prop)
    (hvisit : ∀ m s k a, m.find? k = some a → motive m s →
      motive (m.insert k (f k a s).1) (f k a s).2)
    (m : SortedMap κ α) (s : σ) (hstart : motive m s) :
    motive (m.mapAccum f s).1 (m.mapAccum f s).2 := by
  -- The entries in front are visited, the others are not.
  suffices h : ∀ (rest before : List (κ × α)) (s : σ)
      (hsorted : (before ++ rest).Pairwise fun a b => a.1 < b.1)
      (hsorted' : (before ++ (mapEntries f rest s).1).Pairwise fun a b => a.1 < b.1),
      motive ⟨before ++ rest, hsorted⟩ s →
        motive ⟨before ++ (mapEntries f rest s).1, hsorted'⟩ (mapEntries f rest s).2 by
    exact h m.entries [] s m.sorted (m.mapAccum f s).1.sorted hstart
  intro rest
  induction rest with
  | nil => exact fun _ _ _ _ h => h
  | cons head rest ih =>
      obtain ⟨k, a⟩ := head
      intro before s hsorted hsorted' h
      have hbefore : ∀ e ∈ before, e.1 < k := fun e he =>
        (List.pairwise_append.mp hsorted).2.2 e he (k, a) List.mem_cons_self
      have hfind : (⟨before ++ (k, a) :: rest, hsorted⟩ : SortedMap κ α).find? k = some a :=
        findEntry_append_cons hbefore
      have hnext := hvisit _ s k a hfind h
      have heq : (⟨before ++ (k, a) :: rest, hsorted⟩ : SortedMap κ α).insert k (f k a s).1 =
          ⟨before ++ (k, (f k a s).1) :: rest,
            pairwise_of_map_fst_eq (by simp) hsorted⟩ := by
        simp only [insert, insertEntry_append_cons hbefore]
      rw [heq] at hnext
      have hassoc := ih (before ++ [(k, (f k a s).1)]) (f k a s).2
        (pairwise_of_map_fst_eq (by simp) hsorted)
        (pairwise_of_map_fst_eq (by simp [mapEntries]) hsorted')
      simp only [List.append_assoc, List.singleton_append] at hassoc
      exact hassoc hnext

end WirelessScan.SortedMap
