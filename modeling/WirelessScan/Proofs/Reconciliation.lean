import Mathlib.Algebra.Group.Nat.Defs
import Mathlib.Data.List.Sort
import WirelessScan.Detection

/-!
# What a result set keeps, and in which order

Reconciling drops the detections that do not belong to the scan and sorts the others by falling
signal. The sort is an insertion sort, so what the library knows of those applies: nothing is lost,
and detections of equal signal stay as the radio listed them. Together with the exact comparison of
times this leaves one list (`ResultSet.eq_reconcile_iff`).
-/

namespace WirelessScan

theorem toNat_ofNatClamp (n : Nat) : (UInt64.ofNatClamp n).toNat = min n (2 ^ 64 - 1) := by
  unfold UInt64.ofNatClamp
  split
  next hlt =>
    rw [UInt64.toNat_ofNatLT]
    exact (Nat.min_eq_left (Nat.le_sub_one_of_lt hlt)).symm
  next hge =>
    rw [UInt64.toNat_ofNatLT]
    exact (Nat.min_eq_right (by simp only [UInt64.size] at hge ⊢; omega)).symm

namespace Detection

/-! ## Detections that belong to a scan -/

/-- The detection was not made before `start`, and its frequency was asked for. The time in
nanoseconds is the exact product, which need not fit into 64 bits. -/
def Belongs (d : Detection) (start : UInt64) (frequencies : Option FrequencySet) : Prop :=
  start.toNat ≤ d.micros.toNat * 1000 ∧ ∀ fs ∈ frequencies, d.frequency ∈ fs

/-- A product that is cut to the largest stamp is not before any start, as the uncut one. -/
theorem isFresh_iff {d : Detection} {start : UInt64} :
    d.isFresh start = true ↔ start.toNat ≤ d.micros.toNat * 1000 := by
  have hstart := start.toNat_lt
  rw [isFresh, decide_eq_true_iff, UInt64.le_iff_toNat_le, nanos, toNat_ofNatClamp]
  omega

theorem isWanted_iff {d : Detection} {frequencies : Option FrequencySet} :
    d.isWanted frequencies = true ↔ ∀ fs ∈ frequencies, d.frequency ∈ fs := by
  cases frequencies with
  | none => simp [isWanted]
  | some fs => simp [isWanted]

theorem belongs_iff {d : Detection} {start : UInt64} {frequencies : Option FrequencySet} :
    (d.isFresh start && d.isWanted frequencies) = true ↔ d.Belongs start frequencies := by
  rw [Bool.and_eq_true, isFresh_iff, isWanted_iff, Belongs]

instance (d : Detection) (start : UInt64) (frequencies : Option FrequencySet) :
    Decidable (d.Belongs start frequencies) :=
  decidable_of_iff _ belongs_iff

/-! ## Order of signals -/

/-- The signal of `d` is at least as strong as that of `e`. -/
def AsStrong (d e : Detection) : Prop :=
  e.signal.toInt ≤ d.signal.toInt

instance : DecidableRel AsStrong := fun _ _ => inferInstanceAs (Decidable (_ ≤ _))

instance : Std.Total AsStrong := ⟨fun d e => Int.le_total e.signal.toInt d.signal.toInt⟩

instance : IsTrans Detection AsStrong := ⟨fun _ _ _ hde hef => Int.le_trans hef hde⟩

theorem insertBySignal_eq (d : Detection) (ds : List Detection) :
    d.insertBySignal ds = ds.orderedInsert AsStrong d := by
  induction ds with
  | nil => rfl
  | cons e rest ih =>
      rw [insertBySignal, List.orderedInsert_cons, ih]
      by_cases hlt : d.signal < e.signal
      · have hnot : ¬ d.AsStrong e := Int.not_le.mpr (Int32.lt_iff_toInt_lt.mp hlt)
        rw [if_pos hlt, if_neg hnot]
      · have has : d.AsStrong e := Int.not_lt.mp (mt Int32.lt_iff_toInt_lt.mpr hlt)
        rw [if_neg hlt, if_pos has]

theorem strongestFirst_eq (ds : List Detection) :
    strongestFirst ds = ds.insertionSort AsStrong := by
  induction ds with
  | nil => rfl
  | cons d rest ih =>
      have hcons : strongestFirst (d :: rest) = d.insertBySignal (strongestFirst rest) := rfl
      rw [hcons, insertBySignal_eq, ih, List.insertionSort_cons]

theorem strongestFirst_perm (ds : List Detection) : (strongestFirst ds).Perm ds := by
  rw [strongestFirst_eq]
  exact List.perm_insertionSort AsStrong ds

/-- Ordering detections loses none and adds none. -/
theorem mem_strongestFirst {e : Detection} {ds : List Detection} :
    e ∈ strongestFirst ds ↔ e ∈ ds :=
  (strongestFirst_perm ds).mem_iff

theorem pairwise_strongestFirst (ds : List Detection) :
    (strongestFirst ds).Pairwise AsStrong := by
  rw [strongestFirst_eq]
  exact List.pairwise_insertionSort AsStrong ds

/-- Detections of one strength are the same list before and after the sort. -/
theorem filter_strongestFirst (strength : Int32) (ds : List Detection) :
    (strongestFirst ds).filter (·.signal = strength) = ds.filter (·.signal = strength) := by
  have hequal : (ds.filter (·.signal = strength)).Pairwise AsStrong := by
    refine List.Pairwise.imp_of_mem ?_ (List.pairwise_of_forall fun _ _ => trivial)
    intro d e hd he _
    simp only [List.mem_filter, decide_eq_true_eq] at hd he
    rw [AsStrong, hd.2, he.2]
  have hsub : (ds.filter (·.signal = strength)).Sublist
      ((strongestFirst ds).filter (·.signal = strength)) := by
    have hkept := List.sublist_insertionSort hequal List.filter_sublist
    rw [← strongestFirst_eq] at hkept
    simpa only [List.filter_filter, Bool.and_self] using hkept.filter (·.signal = strength)
  have hperm := (strongestFirst_perm ds).filter (·.signal = strength)
  exact (hsub.eq_of_length hperm.length_eq.symm).symm

theorem mem_iff_of_filter_eq {ds es : List Detection}
    (heq : ∀ strength, ds.filter (·.signal = strength) = es.filter (·.signal = strength))
    (d : Detection) : d ∈ ds ↔ d ∈ es := by
  have hd := congrArg (d ∈ ·) (heq d.signal)
  simpa only [List.mem_filter, decide_true, and_true, eq_iff_iff] using hd

/-- An ordered list is determined by what it holds of each strength. -/
theorem eq_of_filter_eq {ds es : List Detection} (hds : ds.Pairwise AsStrong)
    (hes : es.Pairwise AsStrong)
    (heq : ∀ strength, ds.filter (·.signal = strength) = es.filter (·.signal = strength)) :
    ds = es := by
  have hmem := mem_iff_of_filter_eq heq
  induction ds generalizing es with
  | nil =>
      have hnone : ∀ e, e ∉ es := fun e he => List.not_mem_nil ((hmem e).mpr he)
      exact (List.eq_nil_iff_forall_not_mem.mpr hnone).symm
  | cons d ds ih =>
      cases es with
      | nil => exact absurd ((hmem d).mp List.mem_cons_self) List.not_mem_nil
      | cons e es =>
          obtain ⟨hd, hdrest⟩ := List.pairwise_cons.mp hds
          obtain ⟨he, herest⟩ := List.pairwise_cons.mp hes
          -- Either head is the strongest of its list, and the lists have the same members.
          have hde : d.AsStrong e := by
            rcases List.mem_cons.mp ((hmem e).mpr List.mem_cons_self) with rfl | hin
            · exact Int.le_refl _
            · exact hd e hin
          have hed : e.AsStrong d := by
            rcases List.mem_cons.mp ((hmem d).mp List.mem_cons_self) with rfl | hin
            · exact Int.le_refl _
            · exact he d hin
          have hsignal : e.signal = d.signal := Int32.toInt_inj.mp (Int.le_antisymm hde hed)
          have hhead := heq d.signal
          simp only [List.filter_cons, hsignal, decide_true, if_true, List.cons.injEq] at hhead
          obtain ⟨rfl, -⟩ := hhead
          have htail : ∀ strength,
              ds.filter (·.signal = strength) = es.filter (·.signal = strength) := by
            intro strength
            have hboth := heq strength
            simp only [List.filter_cons] at hboth
            split at hboth
            · exact (List.cons.inj hboth).2
            · exact hboth
          rw [ih hdrest herest htail (mem_iff_of_filter_eq htail)]

end Detection

/-! ## The list that reconciling gives -/

namespace ResultSet

/-- `ds` holds what belongs to the scan out of `raw`, in the order in which results are given. -/
structure Reconciles (ds raw : List Detection) (start : UInt64)
    (frequencies : Option FrequencySet) : Prop where
  /-- Each detection that belongs to the scan is there as often as in `raw`, no other is. -/
  count : ∀ d, ds.count d = if d.Belongs start frequencies then raw.count d else 0
  /-- No detection is in front of a stronger one. -/
  falling : ds.Pairwise fun d e => e.signal.toInt ≤ d.signal.toInt
  /-- Those of one strength are in the order of `raw`. -/
  stable : ∀ strength, (ds.filter (·.signal = strength)).Sublist raw

variable {ds raw : List Detection} {start : UInt64} {frequencies : Option FrequencySet}

theorem Reconciles.perm (h : Reconciles ds raw start frequencies) :
    ds.Perm (raw.filter (·.Belongs start frequencies)) := by
  refine List.perm_iff_count.mpr fun d => ?_
  rw [h.count]
  split
  next hin => exact (List.count_filter (by simpa using hin)).symm
  next hout => exact (List.count_eq_zero.mpr (by simp [hout])).symm

/-- A part of the raw list that loses none of a strength is all that there is of it. -/
theorem Reconciles.filter_eq (h : Reconciles ds raw start frequencies) (strength : Int32) :
    ds.filter (·.signal = strength) =
      (raw.filter (·.Belongs start frequencies)).filter (·.signal = strength) := by
  have hsub := (h.stable strength).filter (·.Belongs start frequencies)
  have hkept : (ds.filter (·.signal = strength)).filter (·.Belongs start frequencies) =
      ds.filter (·.signal = strength) := by
    refine List.filter_eq_self.mpr fun d hd => ?_
    exact (List.mem_filter.mp (h.perm.subset (List.mem_filter.mp hd).1)).2
  rw [hkept] at hsub
  have hsub' := hsub.filter (·.signal = strength)
  simp only [List.filter_filter, Bool.and_self] at hsub' ⊢
  refine hsub'.eq_of_length ?_
  have hlen := (h.perm.filter (·.signal = strength)).length_eq
  simpa only [List.filter_filter] using hlen

theorem reconcile_detections (raw : List Detection) (start : UInt64)
    (frequencies : Option FrequencySet) (buckets : UInt32) :
    (reconcile raw start frequencies buckets).detections =
      Detection.strongestFirst (raw.filter (·.Belongs start frequencies)) := by
  refine congrArg Detection.strongestFirst (List.filter_congr fun d _ => ?_)
  exact Bool.eq_iff_iff.mpr (Detection.belongs_iff.trans decide_eq_true_iff.symm)

theorem reconciles_reconcile (raw : List Detection) (start : UInt64)
    (frequencies : Option FrequencySet) (buckets : UInt32) :
    Reconciles (reconcile raw start frequencies buckets).detections raw start frequencies := by
  rw [reconcile_detections]
  refine ⟨fun d => ?_, Detection.pairwise_strongestFirst _, fun strength => ?_⟩
  · rw [(Detection.strongestFirst_perm _).count_eq]
    split
    next hin => exact List.count_filter (by simpa using hin)
    next hout => exact List.count_eq_zero.mpr (by simp [hout])
  · rw [Detection.filter_strongestFirst]
    exact List.filter_sublist.trans List.filter_sublist

theorem Reconciles.unique {es : List Detection} (hds : Reconciles ds raw start frequencies)
    (hes : Reconciles es raw start frequencies) : ds = es :=
  Detection.eq_of_filter_eq hds.falling hes.falling fun strength =>
    (hds.filter_eq strength).trans (hes.filter_eq strength).symm

/-- Reconciling keeps exactly what belongs to the scan, unchanged and as often as the radio
reported it, orders it by falling signal and leaves ties as reported. No other list does. -/
theorem eq_reconcile_iff (raw : List Detection) (start : UInt64)
    (frequencies : Option FrequencySet) (buckets : UInt32) (r : ResultSet) :
    r = reconcile raw start frequencies buckets ↔
      r.buckets = buckets ∧ Reconciles r.detections raw start frequencies := by
  constructor
  · rintro rfl
    exact ⟨rfl, reconciles_reconcile raw start frequencies buckets⟩
  · rintro ⟨hbuckets, hreconciles⟩
    have hds := hreconciles.unique (reconciles_reconcile raw start frequencies buckets)
    calc r = ⟨r.buckets, r.detections⟩ := rfl
      _ = ⟨buckets, (reconcile raw start frequencies buckets).detections⟩ := by rw [hbuckets, hds]
      _ = reconcile raw start frequencies buckets := rfl

end ResultSet

end WirelessScan
