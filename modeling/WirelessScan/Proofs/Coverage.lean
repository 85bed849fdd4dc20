import WirelessScan.Proofs.Resolution

/-!
# Which frequencies a list of buckets covers

The set that a list of buckets resolves to has no order and no repetitions, and neither matter in
the list: two lists with the same targets resolve to the same set or both fail. Only the error
depends on the order, because it names the first unknown channel.
-/

namespace WirelessScan

namespace FrequencySet

/-- The members of either set. -/
def union (s t : FrequencySet) : FrequencySet :=
  ofList (s.toList ++ t.toList)

theorem mem_union {s t : FrequencySet} {f : UInt32} : f ∈ s.union t ↔ f ∈ s ∨ f ∈ t := by
  rw [union, mem_ofList, List.mem_append, mem_def, mem_def]

theorem ofList_append (fs gs : List UInt32) :
    ofList (fs ++ gs) = (ofList fs).union (ofList gs) :=
  ext_mem fun f => by simp only [mem_ofList, mem_union, List.mem_append]

theorem nodup (s : FrequencySet) : s.toList.Nodup :=
  s.sorted.imp fun hlt => UInt32.ne_of_lt hlt

theorem isEmpty_iff_eq {s : FrequencySet} : s.isEmpty = true ↔ s = ∅ := by
  constructor
  · intro h
    refine ext_mem fun f => ⟨fun hf => ?_, fun hf => absurd hf (not_mem_empty f)⟩
    rw [mem_def, List.isEmpty_iff.mp h] at hf
    exact absurd hf List.not_mem_nil
  · rintro rfl
    rfl

end FrequencySet

/-! ## What a target names -/

namespace Target

/-- The channels that a target names one by one. -/
def explicit : Target → List UInt32
  | band _ => []
  | channels cs => cs

/-- The targets are the same band or name the same channels, in any order and any number of
times. -/
def Alike : Target → Target → Prop
  | band b, band c => b = c
  | channels cs, channels ds => (∀ c ∈ cs, c ∈ ds) ∧ ∀ c ∈ ds, c ∈ cs
  | band _, channels _ | channels _, band _ => False

instance : DecidableRel Alike
  | band b, band c => inferInstanceAs (Decidable (b = c))
  | channels cs, channels ds =>
      decidable_of_iff (cs.all ds.contains ∧ ds.all cs.contains) (by simp [Alike])
  | band _, channels _ | channels _, band _ => inferInstanceAs (Decidable False)

theorem Alike.symm {t u : Target} (h : t.Alike u) : u.Alike t := by
  match t, u, h with
  | band _, band _, heq => exact Eq.symm heq
  | channels _, channels _, hboth => exact And.symm hboth

theorem Alike.mem_explicit {t u : Target} (h : t.Alike u) {c : UInt32} (hc : c ∈ t.explicit) :
    c ∈ u.explicit := by
  match t, u, h with
  | channels _, channels _, hboth => exact hboth.1 c hc

end Target

/-- The channels that some buckets name one by one, in the order of the buckets and of their
lists. -/
def explicitChannels (buckets : List Bucket) : List UInt32 :=
  buckets.flatMap (·.target.explicit)

/-- Every bucket of either list has a target like one of the other. -/
structure SameTargets (buckets others : List Bucket) : Prop where
  left : ∀ b ∈ buckets, ∃ o ∈ others, b.target.Alike o.target
  right : ∀ o ∈ others, ∃ b ∈ buckets, o.target.Alike b.target

namespace SameTargets

variable {buckets others : List Bucket}

instance : Decidable (SameTargets buckets others) :=
  decidable_of_iff (_ ∧ _) ⟨fun h => ⟨h.1, h.2⟩, fun h => ⟨h.left, h.right⟩⟩

theorem symm (h : SameTargets buckets others) : SameTargets others buckets :=
  ⟨h.right, h.left⟩

theorem mem_explicitChannels (h : SameTargets buckets others) {c : UInt32}
    (hc : c ∈ explicitChannels buckets) : c ∈ explicitChannels others := by
  obtain ⟨b, hb, hcb⟩ := List.mem_flatMap.mp hc
  obtain ⟨o, ho, halike⟩ := h.left b hb
  exact List.mem_flatMap.mpr ⟨o, ho, halike.mem_explicit hcb⟩

end SameTargets

namespace ChannelTable

variable (table : ChannelTable)

/-- The table has the frequency for a target: in one of the blocks of the band, or for one of the
channels. -/
inductive Assigns : Target → UInt32 → Prop
  | block {band : Band} {sub : SubBand} {f : UInt32} (part : sub ∈ band.subBands)
      (entry : f ∈ table.block sub) : Assigns (.band band) f
  | channel {cs : List UInt32} {c f : UInt32} (named : c ∈ cs)
      (entry : table.frequency? c = some f) : Assigns (.channels cs) f

/-- The first channel that the table does not know. -/
def firstUnknown? (buckets : List Bucket) : Option UInt32 :=
  (explicitChannels buckets).find? fun c => (table.frequency? c).isNone

variable {table}

theorem Assigns.of_alike {t u : Target} (h : t.Alike u) {f : UInt32}
    (hf : table.Assigns t f) : table.Assigns u f := by
  match t, u, h with
  | .band _, .band _, heq => exact heq ▸ hf
  | .channels _, .channels _, hboth =>
      cases hf with
      | channel named entry => exact .channel (hboth.1 _ named) entry

theorem frequency_eq_ok {c f : UInt32} :
    table.frequency c = .ok f ↔ table.frequency? c = some f := by
  unfold frequency
  cases table.frequency? c with
  | none => simp
  | some g => simp

/-- The frequencies of a target are those that the table has for it. -/
theorem mem_targetFrequencies {t : Target} {l : List UInt32}
    (h : table.targetFrequencies t = .ok l) (f : UInt32) : f ∈ l ↔ table.Assigns t f := by
  cases t with
  | band b =>
      obtain rfl : b.subBands.flatMap table.block = l := Except.ok.inj h
      rw [List.mem_flatMap]
      constructor
      · rintro ⟨sub, hsub, hf⟩
        exact .block hsub hf
      · rintro (⟨hsub, hf⟩ | _)
        exact ⟨_, hsub, hf⟩
  | channels cs =>
      rw [mem_of_mapM_ok h]
      constructor
      · rintro ⟨c, hc, hf⟩
        exact .channel hc (frequency_eq_ok.mp hf)
      · rintro (_ | ⟨hc, hf⟩)
        exact ⟨_, hc, frequency_eq_ok.mpr hf⟩

theorem mem_resolve_iff {buckets : List Bucket} {fs : FrequencySet}
    (h : table.resolve buckets = .ok fs) (f : UInt32) :
    f ∈ fs ↔ ∃ b ∈ buckets, table.Assigns b.target f := by
  rw [mem_resolve h]
  constructor
  · rintro ⟨b, hb, l, hl, hf⟩
    exact ⟨b, hb, (mem_targetFrequencies hl f).mp hf⟩
  · rintro ⟨b, hb, hf⟩
    obtain ⟨l, hl⟩ := known_of_resolve h b hb
    exact ⟨b, hb, l, hl, (mem_targetFrequencies hl f).mpr hf⟩

/-! ## Success and failure -/

theorem unknowns_eq (table : ChannelTable) (buckets : List Bucket) : table.unknowns buckets =
    (explicitChannels buckets).filter fun c => (table.frequency? c).isNone := by
  rw [unknowns, explicitChannels, List.filter_flatMap]
  refine congrArg buckets.flatMap (funext fun b => ?_)
  cases b.target with
  | band _ => rfl
  | channels cs => rfl

theorem fault?_resolve_eq (table : ChannelTable) (buckets : List Bucket) :
    fault? (table.resolve buckets) = (table.firstUnknown? buckets).map .unknownChannel := by
  rw [fault?_resolve, unknowns_eq, List.head?_filter, firstUnknown?]

theorem resolve_eq_error_iff {buckets : List Bucket} {e : ScanError} :
    table.resolve buckets = .error e ↔
      ∃ c, table.firstUnknown? buckets = some c ∧ e = .unknownChannel c := by
  have hfault := fault?_resolve_eq table buckets
  cases hresolve : table.resolve buckets with
  | ok fs =>
      rw [hresolve, fault?, eq_comm, Option.map_eq_none_iff] at hfault
      simp [hfault]
  | error e' =>
      rw [hresolve, fault?, eq_comm, Option.map_eq_some_iff] at hfault
      obtain ⟨c, hc, rfl⟩ := hfault
      simp [hc, eq_comm]

theorem exists_resolve_iff {buckets : List Bucket} : (∃ fs, table.resolve buckets = .ok fs) ↔
    ∀ c ∈ explicitChannels buckets, ∃ f, table.frequency? c = some f := by
  have hfault := fault?_resolve_eq table buckets
  have hknown : (∀ c ∈ explicitChannels buckets, ∃ f, table.frequency? c = some f) ↔
      table.firstUnknown? buckets = none := by
    simp only [firstUnknown?, List.find?_eq_none, Option.isNone_iff_eq_none,
      Option.ne_none_iff_exists']
  rw [hknown]
  cases hresolve : table.resolve buckets with
  | ok fs =>
      rw [hresolve, fault?, eq_comm, Option.map_eq_none_iff] at hfault
      simp [hfault]
  | error e =>
      rw [hresolve, fault?, eq_comm, Option.map_eq_some_iff] at hfault
      obtain ⟨c, hc, rfl⟩ := hfault
      simp [hc]

/-! ## Lists put together and lists that are alike -/

theorem resolve_append (table : ChannelTable) (buckets more : List Bucket) :
    table.resolve (buckets ++ more) = do
      let fs ← table.resolve buckets
      let gs ← table.resolve more
      return fs.union gs := by
  simp only [resolve, List.mapM_append, bind_assoc, pure_bind, List.flatten_append,
    FrequencySet.ofList_append]

/-- Neither the order of buckets and channels nor their repetition matters for what they resolve
to. -/
theorem resolve_sameTargets {buckets others : List Bucket} (h : SameTargets buckets others) :
    (table.resolve buckets).toOption = (table.resolve others).toOption := by
  have hsuccess : (∃ fs, table.resolve buckets = .ok fs) ↔ ∃ gs, table.resolve others = .ok gs := by
    rw [exists_resolve_iff, exists_resolve_iff]
    exact ⟨fun hall c hc => hall c (h.symm.mem_explicitChannels hc),
      fun hall c hc => hall c (h.mem_explicitChannels hc)⟩
  cases hfs : table.resolve buckets with
  | error e =>
      cases hgs : table.resolve others with
      | error _ => rfl
      | ok gs => simpa [hfs] using hsuccess.mpr ⟨gs, hgs⟩
  | ok fs =>
      obtain ⟨gs, hgs⟩ := hsuccess.mp ⟨fs, hfs⟩
      have heq : fs = gs := by
        refine FrequencySet.ext_mem fun f => ?_
        rw [mem_resolve_iff hfs, mem_resolve_iff hgs]
        constructor
        · rintro ⟨b, hb, hf⟩
          obtain ⟨o, ho, halike⟩ := h.left b hb
          exact ⟨o, ho, hf.of_alike halike⟩
        · rintro ⟨o, ho, hf⟩
          obtain ⟨b, hb, halike⟩ := h.right o ho
          exact ⟨b, hb, hf.of_alike halike⟩
      rw [hgs, heq]

/-- A request has no channels if its buckets resolve to the empty set, and only then. -/
theorem resolve_eq_noChannels_iff {capacity : Nat} {settings : Settings} {buckets : List Bucket} :
    Request.resolve table capacity settings buckets = .error .noChannels ↔
      table.resolve buckets = .ok ∅ := by
  unfold Request.resolve
  cases hfs : table.resolve buckets with
  | error e =>
      obtain ⟨c, -, rfl⟩ := resolve_eq_error_iff.mp hfs
      simp [bind, Except.bind]
  | ok fs =>
      rw [Except.ok.injEq, ← FrequencySet.isEmpty_iff_eq]
      cases hempty : fs.isEmpty <;>
        simp [hempty, bind, Except.bind, throw, throwThe, MonadExceptOf.throw, pure, Except.pure]

/-- Resolution is exact. It succeeds if the table knows each channel that is named, with the set
of the frequencies that the table has for the targets. Otherwise the error names the first channel
that the table does not know. So a list that is put together resolves to the union of its parts,
or fails with the first of their errors, and lists with the same targets resolve to the same set or
both fail. A request fails for want of channels exactly if the set is empty. -/
theorem resolution_is_exact (table : ChannelTable) (buckets : List Bucket) :
    ((∃ fs, table.resolve buckets = .ok fs) ↔
      ∀ c ∈ explicitChannels buckets, ∃ f, table.frequency? c = some f) ∧
    (∀ fs, table.resolve buckets = .ok fs →
      fs.toList.Nodup ∧ ∀ f, f ∈ fs ↔ ∃ b ∈ buckets, table.Assigns b.target f) ∧
    (∀ e, table.resolve buckets = .error e ↔
      ∃ c, table.firstUnknown? buckets = some c ∧ e = .unknownChannel c) ∧
    (∀ more, table.resolve (buckets ++ more) = do
      let fs ← table.resolve buckets
      let gs ← table.resolve more
      return fs.union gs) ∧
    (∀ others, SameTargets buckets others →
      (table.resolve buckets).toOption = (table.resolve others).toOption) ∧
    ∀ capacity settings,
      Request.resolve table capacity settings buckets = .error .noChannels ↔
        table.resolve buckets = .ok ∅ :=
  ⟨exists_resolve_iff, fun fs h => ⟨fs.nodup, mem_resolve_iff h⟩, fun _ => resolve_eq_error_iff,
    resolve_append table buckets, fun _ => resolve_sameTargets,
    fun _ _ => resolve_eq_noChannels_iff⟩

end ChannelTable

namespace Sample

/-- A table with one block of two frequencies, one of which has two names. -/
def sparse : ChannelTable :=
  .ofEntries [(.ghz24, [2437, 2412])] [(1, 2412), (2412, 2412)]

/-- The block and one of its frequencies under both names. -/
def overlapping : List Bucket :=
  [{ target := .band .ghz24 }, { target := .channels [1, 2412] }]

/-- The same targets turned round, with repetitions. -/
def turned : List Bucket :=
  [{ target := .channels [2412, 1, 1] }, { target := .band .ghz24 }, { target := .band .ghz24 }]

theorem overlapping_turned : SameTargets overlapping turned ∧
    (sparse.resolve overlapping).toOption = some (.ofList [2412, 2437]) ∧
    (sparse.resolve overlapping).toOption = (sparse.resolve turned).toOption := by
  have hsame : SameTargets overlapping turned := by decide
  exact ⟨hsame, by decide +kernel,
    (sparse.resolution_is_exact overlapping).2.2.2.2.1 turned hsame⟩

end Sample

end WirelessScan
