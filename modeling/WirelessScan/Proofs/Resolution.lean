import WirelessScan.Scanner.Single

/-!
# What a resolved request covers

A list of buckets resolves to the union of the frequencies of its buckets, if every bucket
resolves on its own. A request comes of it if the union has a member. Otherwise the error names the
first unknown channel, or says that there is no channel at all.
-/

namespace WirelessScan

/-- A list that is mapped without an error has the images of its members, and no others. -/
theorem mem_of_mapM_ok {ε α β : Type} {f : α → Except ε β} {l : List α} {ys : List β}
    (h : l.mapM f = .ok ys) (y : β) : y ∈ ys ↔ ∃ x ∈ l, f x = .ok y := by
  induction l generalizing ys with
  | nil =>
      obtain rfl : [] = ys := by simpa [pure, Except.pure] using h
      simp
  | cons x rest ih =>
      rw [List.mapM_cons] at h
      cases hx : f x with
      | error e => simp [hx, bind, Except.bind] at h
      | ok z =>
          cases hrest : rest.mapM f with
          | error e => simp [hx, hrest, bind, Except.bind] at h
          | ok zs =>
              obtain rfl : z :: zs = ys := by
                simpa [hx, hrest, bind, Except.bind, pure, Except.pure] using h
              rw [List.mem_cons, ih hrest]
              simp [hx, eq_comm]

/-- A list is only mapped without an error if each of its members is. -/
theorem known_of_mapM_ok {ε α β : Type} {f : α → Except ε β} {l : List α} {ys : List β}
    (h : l.mapM f = .ok ys) : ∀ x ∈ l, ∃ y, f x = .ok y := by
  induction l generalizing ys with
  | nil => simp
  | cons x rest ih =>
      rw [List.mapM_cons] at h
      cases hx : f x with
      | error e => simp [hx, bind, Except.bind] at h
      | ok y =>
          cases hrest : rest.mapM f with
          | error e => simp [hx, hrest, bind, Except.bind] at h
          | ok zs => exact List.forall_mem_cons.mpr ⟨⟨y, hx⟩, ih hrest⟩

/-- The error of a computation that failed. -/
def fault? {ε α : Type} : Except ε α → Option ε
  | .error e => some e
  | .ok _ => none

/-- A list fails to be mapped with the first error of its members. -/
theorem fault?_mapM {ε α β : Type} (f : α → Except ε β) (l : List α) :
    fault? (l.mapM f) = l.findSome? fun x => fault? (f x) := by
  induction l with
  | nil => rfl
  | cons x rest ih =>
      rw [List.mapM_cons, List.findSome?_cons, ← ih]
      cases hx : f x with
      | error e => rfl
      | ok y => cases hrest : rest.mapM f <;> rfl

namespace ChannelTable

/-- The unknown channels of a target. -/
def unknown (table : ChannelTable) : Target → List UInt32
  | .band _ => []
  | .channels channels => channels.filter fun c => (table.frequency? c).isNone

/-- The unknown channels of some buckets, in the order of the buckets and of their lists. -/
def unknowns (table : ChannelTable) (buckets : List Bucket) : List UInt32 :=
  buckets.flatMap fun b => table.unknown b.target

section Faults

variable (table : ChannelTable)

theorem fault?_frequency (c : UInt32) : fault? (table.frequency c) =
    if (table.frequency? c).isNone then some (.unknownChannel c) else none := by
  unfold frequency
  cases table.frequency? c <;> rfl

theorem fault?_targetFrequencies (target : Target) : fault? (table.targetFrequencies target) =
    (table.unknown target).head?.map .unknownChannel := by
  cases target with
  | band band => rfl
  | channels channels =>
      simp only [targetFrequencies, unknown, fault?_mapM, fault?_frequency]
      induction channels with
      | nil => rfl
      | cons c rest ih =>
          rw [List.findSome?_cons, List.filter_cons]
          cases (table.frequency? c).isNone with
          | true => rfl
          | false => exact ih

/-- The error of a list of buckets names the first unknown channel. -/
theorem fault?_resolve (buckets : List Bucket) : fault? (table.resolve buckets) =
    (table.unknowns buckets).head?.map .unknownChannel := by
  have hmapM := fault?_mapM (fun b : Bucket => table.targetFrequencies b.target) buckets
  simp only [fault?_targetFrequencies] at hmapM
  have hresolve : fault? (table.resolve buckets) =
      fault? (buckets.mapM fun b => table.targetFrequencies b.target) := by
    unfold resolve
    cases buckets.mapM fun b => table.targetFrequencies b.target <;> rfl
  rw [hresolve, hmapM, unknowns, List.head?_flatMap]
  clear hmapM hresolve
  induction buckets with
  | nil => rfl
  | cons b rest ih =>
      rw [List.findSome?_cons, List.findSome?_cons]
      cases (table.unknown b.target).head? with
      | none => exact ih
      | some c => rfl

end Faults

/-- Every bucket of a list that resolves has frequencies of its own. -/
theorem known_of_resolve {table : ChannelTable} {buckets : List Bucket} {fs : FrequencySet}
    (h : table.resolve buckets = .ok fs) :
    ∀ b ∈ buckets, ∃ l, table.targetFrequencies b.target = .ok l := by
  unfold resolve at h
  cases hall : buckets.mapM fun b => table.targetFrequencies b.target with
  | error e => simp [hall, bind, Except.bind] at h
  | ok ls => exact known_of_mapM_ok hall

/-- The frequencies of a list of buckets are those of its members. -/
theorem mem_resolve {table : ChannelTable} {buckets : List Bucket} {fs : FrequencySet}
    (h : table.resolve buckets = .ok fs) (f : UInt32) :
    f ∈ fs ↔ ∃ b ∈ buckets, ∃ l, table.targetFrequencies b.target = .ok l ∧ f ∈ l := by
  unfold resolve at h
  cases hall : buckets.mapM fun b => table.targetFrequencies b.target with
  | error e => simp [hall, bind, Except.bind] at h
  | ok ls =>
      obtain rfl : FrequencySet.ofList ls.flatten = fs := by
        simpa [hall, bind, Except.bind, pure, Except.pure] using h
      rw [FrequencySet.mem_ofList, List.mem_flatten]
      constructor
      · rintro ⟨l, hl, hf⟩
        obtain ⟨b, hb, heq⟩ := (mem_of_mapM_ok hall l).mp hl
        exact ⟨b, hb, l, heq, hf⟩
      · rintro ⟨b, hb, l, heq, hf⟩
        exact ⟨l, (mem_of_mapM_ok hall l).mpr ⟨b, hb, heq⟩, hf⟩

end ChannelTable

namespace Setup

variable {setup : Setup} {settings : Settings} {buckets : List Bucket}

/-- A request holds what its buckets resolve to, which is not empty. -/
theorem resolve_ok {request : Request} (h : setup.resolve settings buckets = .ok request) :
    setup.table.resolve buckets = .ok request.frequencies ∧
      request.frequencies.isEmpty = false := by
  unfold resolve Request.resolve at h
  cases hfs : setup.table.resolve buckets with
  | error e => simp [hfs, bind, Except.bind] at h
  | ok fs =>
      cases hempty : fs.isEmpty with
      | true =>
          simp [hfs, hempty, bind, Except.bind, throw, throwThe, MonadExceptOf.throw] at h
      | false =>
          simp only [hfs, hempty, bind, Except.bind, Bool.false_eq_true, if_false, pure,
            Except.pure, Except.ok.injEq] at h
          rw [← h]
          exact ⟨rfl, hempty⟩

/-- Buckets have no frequency at all if each of them resolves to none. -/
theorem isEmpty_iff {fs : FrequencySet} (h : setup.table.resolve buckets = .ok fs) :
    fs.isEmpty = true ↔ ∀ b ∈ buckets, setup.table.targetFrequencies b.target = .ok [] := by
  have hmem := ChannelTable.mem_resolve h
  simp only [FrequencySet.isEmpty, List.isEmpty_iff, List.eq_nil_iff_forall_not_mem]
  constructor
  · intro hempty b hb
    obtain ⟨l, hl⟩ := ChannelTable.known_of_resolve h b hb
    have hnil : l = [] := List.eq_nil_iff_forall_not_mem.mpr fun f hf =>
      hempty f ((hmem f).mpr ⟨b, hb, l, hl, hf⟩)
    rw [hl, hnil]
  · intro hnone f hf
    obtain ⟨b, hb, l, hl, hfl⟩ := (hmem f).mp hf
    obtain rfl : [] = l := Except.ok.inj ((hnone b hb).symm.trans hl)
    cases hfl

/-- Settings cannot be resolved for two reasons: the first unknown channel, in the order of the
buckets and of their lists, or buckets without any frequency. -/
theorem resolve_eq_error_iff {error : ScanError} : setup.resolve settings buckets = .error error ↔
    (∃ c, (setup.table.unknowns buckets).head? = some c ∧ error = .unknownChannel c) ∨
    (∀ b ∈ buckets, setup.table.targetFrequencies b.target = .ok []) ∧ error = .noChannels := by
  have hfault := setup.table.fault?_resolve buckets
  unfold resolve Request.resolve
  cases hfs : setup.table.resolve buckets with
  | error e =>
      obtain ⟨c, hc, rfl⟩ : ∃ c, (setup.table.unknowns buckets).head? = some c ∧
          .unknownChannel c = e := Option.map_eq_some_iff.mp (by rw [← hfault, hfs]; rfl)
      have hsome : ¬ ∀ b ∈ buckets, setup.table.targetFrequencies b.target = .ok [] := by
        intro hnone
        obtain ⟨b, hb, hcb⟩ := List.mem_flatMap.mp (List.mem_of_head? hc)
        have hbucket := setup.table.fault?_targetFrequencies b.target
        rw [hnone b hb, eq_comm, fault?, Option.map_eq_none_iff, List.head?_eq_none_iff] at hbucket
        simp [hbucket] at hcb
      rw [hc]
      simp only [hsome, bind, Except.bind]
      simp [eq_comm]
  | ok fs =>
      have hnone : (setup.table.unknowns buckets).head? = none :=
        Option.map_eq_none_iff.mp (by rw [← hfault, hfs]; rfl)
      rw [← isEmpty_iff hfs, hnone]
      cases hempty : fs.isEmpty <;>
        simp [hempty, bind, Except.bind, throw, throwThe, MonadExceptOf.throw, pure, Except.pure,
          eq_comm]

/-- Buckets with some frequency make a request. -/
theorem exists_resolve {fs : FrequencySet} (h : setup.table.resolve buckets = .ok fs)
    (hsome : fs.isEmpty = false) : ∃ request, setup.resolve settings buckets = .ok request := by
  unfold resolve Request.resolve
  simp [h, hsome, bind, Except.bind, pure, Except.pure]

end Setup

end WirelessScan
