import WirelessScan.Proofs.Coverage

/-!
# The standard channel plan

Numbers and centre frequencies of channels share one space of arguments, and the blocks of the plan
are built by different formulas. The plan keeps the two apart: what it knows as a frequency stands
for itself, and every other argument it knows is the number of one of its 2.4 or 5 GHz channels.
So a frequency it answers is one it lists (`standard_frequency?_listed`), and naming a listed
frequency gives it back (`standard_frequency?_of_listed`). Resolving what came out of a resolution
therefore changes nothing.
-/

namespace WirelessScan

namespace Plan

/-! ## Frequencies as numbers without a bound -/

/-- The centre frequency of a 2.4 GHz channel in MHz. -/
def centre24 (channel : Nat) : Nat :=
  if channel = 14 then 2484 else 2407 + 5 * channel

/-- The centre frequency of a 5 GHz channel in MHz. -/
def centre5 (channel : Nat) : Nat :=
  5000 + 5 * channel

/-- The centre frequency of a 6 GHz channel in MHz; channel 2 stands apart from the grid. -/
def centre6 (channel : Nat) : Nat :=
  if channel = 2 then 5935 else 5950 + 5 * channel

/-- The numbers of the 2.4 GHz channels. -/
def numbers24 : List Nat := List.range' 1 14

/-- The numbers of the 5 GHz channels without radar detection. -/
def numbers5 : List Nat := List.range' 36 4 4 ++ List.range' 149 5 4

/-- The numbers of the 5 GHz channels with radar detection. -/
def numbers5Dfs : List Nat := List.range' 52 4 4 ++ List.range' 100 12 4

/-- The centre frequencies of a block in MHz, from the numbers of its channels. -/
def centres : SubBand → List Nat
  | .ghz24 => numbers24.map centre24
  | .ghz5 => numbers5.map centre5
  | .ghz5Dfs => numbers5Dfs.map centre5
  | .ghz6 => (2 :: List.range' 1 59 4).map centre6
  | .ghz60 => [58320, 60480, 62640, 64800, 66960, 69120]

/-- No frequency of a block overflows. -/
theorem block_toNat (b : SubBand) : (block b).map UInt32.toNat = centres b := by
  cases b <;> decide

theorem ghz24Frequency_toNat {c : UInt32} (h : c.toNat ≤ 14) :
    (ghz24Frequency c).toNat = centre24 c.toNat := by
  by_cases hc : c = 14
  · rw [hc]
    rfl
  · have hne : c.toNat ≠ 14 := fun h => hc (UInt32.toNat_inj.mp h)
    rw [ghz24Frequency, if_neg hc, centre24, if_neg hne, UInt32.toNat_add, UInt32.toNat_mul]
    simp only [UInt32.reduceToNat]
    omega

theorem ghz5Frequency_toNat {c : UInt32} (h : c.toNat ≤ 177) :
    (ghz5Frequency c).toNat = centre5 c.toNat := by
  rw [ghz5Frequency, centre5, UInt32.toNat_add, UInt32.toNat_mul]
  simp only [UInt32.reduceToNat]
  omega

/-! ## Numbers and frequencies -/

/-- The number of a 2.4 or 5 GHz channel of the plan, with the centre frequency of the channel. -/
inductive Numbers : UInt32 → UInt32 → Prop
  | ghz24 {c f : UInt32} (listed : c.toNat ∈ numbers24) (centre : f.toNat = centre24 c.toNat) :
      Numbers c f
  | ghz5 {c f : UInt32} (listed : c.toNat ∈ numbers5 ∨ c.toNat ∈ numbers5Dfs)
      (centre : f.toNat = centre5 c.toNat) : Numbers c f

theorem isKnown_iff {f : UInt32} : isKnown f = true ↔ ∃ b, f ∈ block b := by
  simp only [isKnown, List.any_eq_true, List.contains_iff_mem]
  constructor
  · rintro ⟨b, -, hf⟩
    exact ⟨b, hf⟩
  · rintro ⟨b, hf⟩
    exact ⟨b, b.mem_all, hf⟩

/-- Every number on the grids is below every frequency. -/
theorem grid_lt_block {b : SubBand} {f : UInt32} (hf : f ∈ block b) : 177 < f.toNat := by
  have hblock : (block b).all (177 < ·.toNat) = true := by cases b <;> decide
  exact of_decide_eq_true (List.all_eq_true.mp hblock f hf)

/-- A table has the numbers that are its members without a bound. -/
theorem mem_channels_iff {table : List UInt32} {numbers : List Nat}
    (h : table.map UInt32.toNat = numbers) {c : UInt32} : c ∈ table ↔ c.toNat ∈ numbers := by
  rw [← h, List.mem_map]
  constructor
  · intro hc
    exact ⟨c, hc, rfl⟩
  · rintro ⟨d, hd, heq⟩
    exact UInt32.toNat_inj.mp heq ▸ hd

theorem mem_ghz24Channels {c : UInt32} : c ∈ ghz24Channels ↔ c.toNat ∈ numbers24 :=
  mem_channels_iff (by decide)

theorem mem_ghz5Channels {c : UInt32} : c ∈ ghz5Channels ↔ c.toNat ∈ numbers5 :=
  mem_channels_iff (by decide)

theorem mem_ghz5DfsChannels {c : UInt32} : c ∈ ghz5DfsChannels ↔ c.toNat ∈ numbers5Dfs :=
  mem_channels_iff (by decide)

theorem mem_numbers24 {n : Nat} : n ∈ numbers24 ↔ 1 ≤ n ∧ n ≤ 14 := by
  rw [numbers24, List.mem_range'_1]
  omega

theorem le_of_mem_numbers5 {n : Nat} (h : n ∈ numbers5 ∨ n ∈ numbers5Dfs) :
    32 ≤ n ∧ n ≤ 177 := by
  have hnumbers : ∀ n ∈ numbers5 ++ numbers5Dfs, 32 ≤ n ∧ n ≤ 177 := by decide
  exact hnumbers n (List.mem_append.mpr h)

/-- The grid of the 5 GHz numbers meets no block but those of 5 GHz. So a number whose frequency is
in the plan is the number of a channel. -/
theorem listed_of_known {c : UInt32} (hc : c.toNat ≤ 177) {b : SubBand}
    (hf : ghz5Frequency c ∈ block b) : c.toNat ∈ numbers5 ∨ c.toNat ∈ numbers5Dfs := by
  have hcentre := ghz5Frequency_toNat hc
  have hsame : ∀ d : UInt32, d.toNat ≤ 177 → ghz5Frequency d = ghz5Frequency c → d = c := by
    intro d hd heq
    have hnat := congrArg UInt32.toNat heq
    rw [ghz5Frequency_toNat hd, hcentre, centre5, centre5] at hnat
    exact UInt32.toNat_inj.mp (by omega)
  rw [centre5] at hcentre
  cases b with
  | ghz24 =>
      have hbelow : (block .ghz24).all (·.toNat < 5000) = true := by decide
      have := of_decide_eq_true (List.all_eq_true.mp hbelow _ hf)
      omega
  | ghz5 =>
      obtain ⟨d, hd, heq⟩ := List.mem_map.mp hf
      have hnumber := mem_ghz5Channels.mp hd
      exact .inl (hsame d (le_of_mem_numbers5 (.inl hnumber)).2 heq ▸ hnumber)
  | ghz5Dfs =>
      obtain ⟨d, hd, heq⟩ := List.mem_map.mp hf
      have hnumber := mem_ghz5DfsChannels.mp hd
      exact .inr (hsame d (le_of_mem_numbers5 (.inr hnumber)).2 heq ▸ hnumber)
  | ghz6 =>
      have habove : (block .ghz6).all (5885 < ·.toNat) = true := by decide
      have := of_decide_eq_true (List.all_eq_true.mp habove _ hf)
      omega
  | ghz60 =>
      have habove : (block .ghz60).all (5885 < ·.toNat) = true := by decide
      have := of_decide_eq_true (List.all_eq_true.mp habove _ hf)
      omega

section Grid

variable {c f : UInt32}

theorem gridFrequency?_eq_some_iff : gridFrequency? c = some f ↔
    (1 ≤ c.toNat ∧ c.toNat ≤ 14 ∧ f = ghz24Frequency c) ∨
      (32 ≤ c.toNat ∧ c.toNat ≤ 177 ∧ f = ghz5Frequency c) := by
  simp only [gridFrequency?, UInt32.le_iff_toNat_le, UInt32.reduceToNat]
  split
  next h24 =>
    have hnot : ¬ 32 ≤ c.toNat := by omega
    simp [h24, hnot, eq_comm]
  next h24 =>
    split
    next h5 => simp [h5, eq_comm, show ¬ c.toNat ≤ 14 by omega]
    next h5 =>
      simp only [reduceCtorEq, false_iff]
      rintro (⟨hlow, hhigh, -⟩ | ⟨hlow, hhigh, -⟩)
      · exact h24 ⟨hlow, hhigh⟩
      · exact h5 ⟨hlow, hhigh⟩

/-- The frequency of a number on a grid does not overflow. -/
theorem gridFrequency?_toNat (h : gridFrequency? c = some f) :
    f.toNat = if c.toNat ≤ 14 then centre24 c.toNat else centre5 c.toNat := by
  rcases gridFrequency?_eq_some_iff.mp h with ⟨-, hhigh, rfl⟩ | ⟨hlow, hhigh, rfl⟩
  · rw [if_pos hhigh, ghz24Frequency_toNat hhigh]
  · rw [if_neg (by omega), ghz5Frequency_toNat hhigh]

theorem Numbers.grid (h : Numbers c f) : gridFrequency? c = some f ∧ isKnown f = true := by
  rw [gridFrequency?_eq_some_iff, isKnown_iff]
  cases h with
  | ghz24 listed centre =>
      obtain ⟨hlow, hhigh⟩ := mem_numbers24.mp listed
      obtain rfl : f = ghz24Frequency c :=
        UInt32.toNat_inj.mp (centre.trans (ghz24Frequency_toNat hhigh).symm)
      exact ⟨.inl ⟨hlow, hhigh, rfl⟩, .ghz24, List.mem_map_of_mem (mem_ghz24Channels.mpr listed)⟩
  | ghz5 listed centre =>
      obtain ⟨hlow, hhigh⟩ := le_of_mem_numbers5 listed
      obtain rfl : f = ghz5Frequency c :=
        UInt32.toNat_inj.mp (centre.trans (ghz5Frequency_toNat hhigh).symm)
      refine ⟨.inr ⟨hlow, hhigh, rfl⟩, ?_⟩
      rcases listed with hplain | hdfs
      · exact ⟨.ghz5, List.mem_map_of_mem (mem_ghz5Channels.mpr hplain)⟩
      · exact ⟨.ghz5Dfs, List.mem_map_of_mem (mem_ghz5DfsChannels.mpr hdfs)⟩

theorem numbers_of_grid (h : gridFrequency? c = some f) (hknown : isKnown f = true) :
    Numbers c f := by
  obtain ⟨b, hb⟩ := isKnown_iff.mp hknown
  rcases gridFrequency?_eq_some_iff.mp h with ⟨hlow, hhigh, rfl⟩ | ⟨hlow, hhigh, rfl⟩
  · exact .ghz24 (mem_numbers24.mpr ⟨hlow, hhigh⟩) (ghz24Frequency_toNat hhigh)
  · exact .ghz5 (listed_of_known hhigh hb) (ghz5Frequency_toNat hhigh)

/-- The plan knows a frequency as itself, and a number as that of its channel. -/
theorem frequency?_eq_some_iff :
    frequency? c = some f ↔ ((∃ b, c ∈ block b) ∧ f = c) ∨ Numbers c f := by
  rw [← isKnown_iff, frequency?]
  cases hknown : isKnown c with
  | true =>
      -- No number is a frequency, so a frequency is never looked up as a number.
      have hnumber : ¬ Numbers c f := by
        intro h
        obtain ⟨b, hb⟩ := isKnown_iff.mp hknown
        have hc := grid_lt_block hb
        rcases gridFrequency?_eq_some_iff.mp h.grid.1 with ⟨-, hhigh, -⟩ | ⟨-, hhigh, -⟩ <;> omega
      simp [hnumber, eq_comm]
  | false =>
      rw [if_neg Bool.false_ne_true, Option.filter_eq_some_iff]
      constructor
      · rintro ⟨hgrid, hf⟩
        exact .inr (numbers_of_grid hgrid hf)
      · rintro (⟨hc, -⟩ | h)
        · cases hc
        · exact h.grid

end Grid

end Plan

/-! ## Resolving with the standard table -/

namespace ChannelTable

/-- What the standard table answers is a frequency that it lists. -/
theorem standard_frequency?_listed {c f : UInt32} (h : standard.frequency? c = some f) :
    ∃ b, f ∈ standard.block b := by
  rcases Plan.frequency?_eq_some_iff.mp h with ⟨⟨b, hb⟩, rfl⟩ | hnumber
  · exact ⟨b, hb⟩
  · exact Plan.isKnown_iff.mp hnumber.grid.2

/-- A frequency that the standard table lists stands for itself. -/
theorem standard_frequency?_of_listed {f : UInt32} {b : SubBand} (h : f ∈ standard.block b) :
    standard.frequency? f = some f :=
  Plan.frequency?_eq_some_iff.mpr (.inl ⟨⟨b, h⟩, rfl⟩)

theorem standard_assigns_listed {t : Target} {f : UInt32} (h : standard.Assigns t f) :
    ∃ b, f ∈ standard.block b := by
  cases h with
  | block _ entry => exact ⟨_, entry⟩
  | channel _ entry => exact standard_frequency?_listed entry

section Resolve

variable {buckets : List Bucket} {fs : FrequencySet}

theorem standard_resolve_listed (h : standard.resolve buckets = .ok fs) {f : UInt32}
    (hf : f ∈ fs) : ∃ b, f ∈ standard.block b := by
  obtain ⟨b, -, hassigns⟩ := (mem_resolve_iff h f).mp hf
  exact standard_assigns_listed hassigns

/-- All bands together resolve to all frequencies that are listed. -/
theorem standard_resolve_all (period : UInt32) (flags : ReportFlags) :
    ∃ whole, standard.resolve [{ period, flags, target := .band .all }] = .ok whole ∧
      ∀ f, f ∈ whole ↔ ∃ b, f ∈ standard.block b := by
  obtain ⟨whole, hwhole⟩ : ∃ whole,
      standard.resolve [{ period, flags, target := .band .all }] = .ok whole :=
    exists_resolve_iff.mpr fun c hc => absurd hc List.not_mem_nil
  refine ⟨whole, hwhole, fun f => ?_⟩
  rw [mem_resolve_iff hwhole]
  constructor
  · rintro ⟨b, -, hassigns⟩
    exact standard_assigns_listed hassigns
  · rintro ⟨b, hf⟩
    exact ⟨_, List.mem_singleton_self _, .block b.mem_all hf⟩

/-- Listed frequencies that are named one by one resolve to the set of them. -/
theorem standard_resolve_channels {cs : List UInt32} (hcs : ∀ c ∈ cs, ∃ b, c ∈ standard.block b)
    (period : UInt32) (flags : ReportFlags) :
    standard.resolve [{ period, flags, target := .channels cs }] = .ok (.ofList cs) := by
  have hself : ∀ c ∈ cs, standard.frequency? c = some c := by
    intro c hc
    obtain ⟨b, hb⟩ := hcs c hc
    exact standard_frequency?_of_listed hb
  have hexplicit : explicitChannels [{ period, flags, target := .channels cs }] = cs :=
    List.flatMap_singleton _ _
  obtain ⟨again, hagain⟩ : ∃ again,
      standard.resolve [{ period, flags, target := .channels cs }] = .ok again :=
    exists_resolve_iff.mpr fun c hc => ⟨c, hself c (hexplicit ▸ hc)⟩
  rw [hagain]
  refine congrArg Except.ok (FrequencySet.ext_mem fun f => ?_)
  rw [mem_resolve_iff hagain, FrequencySet.mem_ofList]
  constructor
  · rintro ⟨b, hb, hassigns⟩
    rw [List.mem_singleton.mp hb] at hassigns
    cases hassigns with
    | channel named entry =>
        rw [hself _ named] at entry
        exact Option.some.inj entry ▸ named
  · intro hf
    exact ⟨_, List.mem_singleton_self _, .channel hf (hself f hf)⟩

end Resolve

/-- The standard table knows its frequencies as themselves and the numbers of its 2.4 and 5 GHz
channels as their centre frequencies, and nothing else. What it answers it also lists, and none of
its frequencies overflows. So whatever resolves stays within the frequencies of all bands, and the
result, named frequency by frequency in any order and with any repetitions, resolves to itself. -/
theorem standard_is_consistent :
    (∀ c f, standard.frequency? c = some f ↔
      ((∃ b, c ∈ standard.block b) ∧ f = c) ∨ Plan.Numbers c f) ∧
    (∀ c f, standard.frequency? c = some f → ∃ b, f ∈ standard.block b) ∧
    (∀ b, (standard.block b).map UInt32.toNat = Plan.centres b) ∧
    (∀ c f, Plan.gridFrequency? c = some f →
      f.toNat = if c.toNat ≤ 14 then Plan.centre24 c.toNat else Plan.centre5 c.toNat) ∧
    ∀ buckets fs, standard.resolve buckets = .ok fs → ∀ period flags,
      (∃ whole, standard.resolve [{ period, flags, target := .band .all }] = .ok whole ∧
        ∀ f ∈ fs, f ∈ whole) ∧
      ∀ cs : List UInt32, (∀ f, f ∈ cs ↔ f ∈ fs) →
        standard.resolve [{ period, flags, target := .channels cs }] = .ok fs := by
  refine ⟨fun c f => Plan.frequency?_eq_some_iff, fun c f => standard_frequency?_listed,
    Plan.block_toNat, fun c f => Plan.gridFrequency?_toNat, ?_⟩
  intro buckets fs hresolve period flags
  obtain ⟨whole, hwhole, hall⟩ := standard_resolve_all period flags
  refine ⟨⟨whole, hwhole, fun f hf => (hall f).mpr (standard_resolve_listed hresolve hf)⟩, ?_⟩
  intro cs hcs
  have hlisted : ∀ c ∈ cs, ∃ b, c ∈ standard.block b := fun c hc =>
    standard_resolve_listed hresolve ((hcs c).mp hc)
  rw [standard_resolve_channels hlisted]
  exact congrArg Except.ok (FrequencySet.ext_mem fun f => by rw [FrequencySet.mem_ofList, hcs])

end ChannelTable

namespace Sample

/-- A block of the plan, a channel of it by number and one of another block under both names. -/
def blend : List Bucket :=
  [{ target := .band .ghz24 }, { target := .channels [14, 5180, 36] }]

/-- The frequencies of these buckets, the last one first. -/
def blendFrequencies : List UInt32 :=
  5180 :: (Plan.block .ghz24).reverse

theorem blend_again :
    ChannelTable.standard.resolve blend = .ok (.ofList blendFrequencies) ∧
      ChannelTable.standard.resolve
        [{ target := .channels (blendFrequencies ++ blendFrequencies) }] =
          .ok (.ofList blendFrequencies) := by
  have hresolve : ChannelTable.standard.resolve blend = .ok (.ofList blendFrequencies) := rfl
  have hagain := (ChannelTable.standard_is_consistent.2.2.2.2 blend _ hresolve 0 ⟨0⟩).2
  exact ⟨hresolve, hagain (blendFrequencies ++ blendFrequencies) fun f => by simp⟩

end Sample

end WirelessScan
