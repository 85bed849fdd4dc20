import WirelessScan.Proofs.ReplayAccount

/-!
# Stamps of replayed networks

A replay radio computes its stamps on words of 64 bits: the reading of its clock is cut to
microseconds and taken as a number with a sign, the offset is scaled and added, each time with the
nearest word in place of a result that does not fit, and what is negative becomes zero. The
stamp is nevertheless the one that integers without a bound would give, clamped once at the end
(`toNat_stamp`). Clamping early does no harm because the reading is never negative and lies far
below the largest word: a scaled offset that was clamped is off the range by itself.
-/

namespace WirelessScan.Replay

/-! ## Words -/

/-- The word nearest to a sum. -/
def nearestSum (a b : Int64) : Int64 :=
  .ofIntClamp (a.toInt + b.toInt)

/-- The word nearest to a product. -/
def nearestProduct (a b : Int64) : Int64 :=
  .ofIntClamp (a.toInt * b.toInt)

/-- A word, or zero in place of a negative one. -/
def orZero (a : Int64) : Int64 :=
  if a < 0 then 0 else a

/-- A reading of the clock in microseconds, as a word with a sign. -/
def cut (start : UInt64) : Int64 :=
  (start / 1000).toInt64

/-- The stamp in microseconds, as a word with a sign. -/
def signedStamp (start : UInt64) (offset : Int64) : Int64 :=
  orZero (nearestSum (cut start) (nearestProduct offset 1000))

theorem toInt_ofIntClamp (n : Int) : (Int64.ofIntClamp n).toInt = clampStamp n := by
  have hmin : Int64.minValue.toInt = -2 ^ 63 := rfl
  have hmax : Int64.maxValue.toInt = 2 ^ 63 - 1 := rfl
  by_cases hlow : Int64.minValue.toInt ≤ n
  · by_cases hhigh : n ≤ Int64.maxValue.toInt
    · rw [Int64.toInt_ofIntClamp hlow hhigh, clampStamp, min_eq_left hhigh, max_eq_right hlow]
    · rw [Int64.ofIntClamp, dif_pos hlow, dif_neg hhigh, clampStamp]
      omega
  · rw [Int64.ofIntClamp, dif_neg hlow, clampStamp]
    omega

theorem toInt_orZero (a : Int64) : (orZero a).toInt = max 0 a.toInt := by
  have hzero : (0 : Int64).toInt = 0 := rfl
  unfold orZero
  split
  next hneg =>
    rw [Int64.lt_iff_toInt_lt, hzero] at hneg
    omega
  next hpos =>
    rw [Int64.lt_iff_toInt_lt, hzero] at hpos
    omega

/-- Taking a reading as a word with a sign does not change it: in microseconds it is small. -/
theorem toInt_cut (start : UInt64) : (cut start).toInt = (start.toNat / 1000 : Nat) := by
  have hstart := start.toNat_lt
  have hmicros : (start / 1000).toNat = start.toNat / 1000 := UInt64.toNat_div start 1000
  calc (cut start).toInt
      = (UInt64.ofNat (start / 1000).toNat).toInt64.toInt := by rw [UInt64.ofNat_toNat, cut]
    _ = (Int64.ofNat (start.toNat / 1000)).toInt := by rw [UInt64.toInt64_ofNat', hmicros]
    _ = (start.toNat / 1000 : Nat) := Int64.toInt_ofNat_of_lt (by omega)

theorem toInt_signedStamp (start : UInt64) (offset : Int64) :
    (signedStamp start offset).toInt =
      max 0 (clampStamp ((start.toNat / 1000 : Nat) + clampStamp (offset.toInt * 1000))) := by
  rw [signedStamp, toInt_orZero, nearestSum, toInt_ofIntClamp, toInt_cut, nearestProduct,
    toInt_ofIntClamp]
  rfl

/-- Giving up the sign of a stamp does not change it. -/
theorem toNat_signedStamp (start : UInt64) (offset : Int64) :
    ((signedStamp start offset).toUInt64.toNat : Int) = (signedStamp start offset).toInt := by
  have hsign : 0 ≤ (signedStamp start offset).toInt := by
    rw [toInt_signedStamp]
    exact le_max_left _ _
  rw [Int64.toNat_toUInt64_of_le (Int64.le_iff_toInt_le.mpr hsign)]
  exact Int.toNat_of_nonneg hsign

/-! ## One clamp -/

/-- The stamp that integers without a bound give, clamped once to the numbers below `2 ^ 63`. -/
def exactStamp (start : Nat) (offset : Int) : Int :=
  min (max (start / 1000 + 1000 * offset) 0) 9223372036854775807

theorem exactStamp_mono (start : Nat) {offset later : Int} (h : offset ≤ later) :
    exactStamp start offset ≤ exactStamp start later := by
  unfold exactStamp
  omega

theorem toNat_stamp (start : UInt64) (offset : Int64) :
    ((stamp start offset).toNat : Int) = exactStamp start.toNat offset.toInt := by
  have hstart := start.toNat_lt
  simp only [stamp, clampStamp, exactStamp, toNat_ofNatClamp, Int64.toInt_maxValue,
    Int64.toInt_minValue]
  omega

/-- The stamp is computed on words without any of them overflowing. -/
theorem stamp_eq_words (start : UInt64) (offset : Int64) :
    stamp start offset = (signedStamp start offset).toUInt64 := by
  have hexact := toNat_stamp start offset
  have hwords := toNat_signedStamp start offset
  have hstart := start.toNat_lt
  rw [toInt_signedStamp, clampStamp, clampStamp, Int64.toInt_maxValue,
    Int64.toInt_minValue] at hwords
  rw [exactStamp] at hexact
  rw [← UInt64.toNat_inj]
  omega

/-! ## What the radio holds -/

/-- A detection shows a network of a scan that started at `start`. -/
structure Network.Shown (start : UInt64) (n : Network) (d : Detection) : Prop where
  ssid : d.ssid = n.ssid
  bssid : d.bssid = n.bssid
  signal : d.signal = n.signal
  frequency : d.frequency = n.frequency
  elements : d.elements = n.elements
  micros : (d.micros.toNat : Int) = exactStamp start.toNat n.offset.toInt
  /-- The stamp is computed on words, and a word that changes its type keeps its value. -/
  words : d.micros = (signedStamp start n.offset).toUInt64 ∧
    (d.micros.toNat : Int) = (signedStamp start n.offset).toInt ∧
    (cut start).toInt = (start.toNat / 1000 : Nat)

theorem Network.shown_detect (start : UInt64) (n : Network) : n.Shown start (detect start n) where
  ssid := rfl
  bssid := rfl
  signal := rfl
  frequency := rfl
  elements := rfl
  micros := toNat_stamp start n.offset
  words := by
    have hwords : (detect start n).micros = _ := stamp_eq_words start n.offset
    refine ⟨hwords, ?_, toInt_cut start⟩
    rw [hwords, toNat_signedStamp]

theorem Network.Shown.micros_le {start : UInt64} {n m : Network} {d e : Detection}
    (hn : n.Shown start d) (hm : m.Shown start e) (h : n.offset ≤ m.offset) :
    d.micros ≤ e.micros := by
  have hexact := exactStamp_mono start.toNat (Int64.le_iff_toInt_le.mp h)
  rw [← hn.micros, ← hm.micros] at hexact
  exact UInt64.le_iff_toNat_le.mpr (Int.ofNat_le.mp hexact)

namespace Account

/-- The radio goes by the reading of the clock at the last admitted call. -/
theorem admitted_of_lastStart {networks : List Network} {options : Options} {clock : UInt64}
    {acts : List Act} {start : UInt64}
    (h : (acts.foldl act (fresh networks options clock)).world.radio.lastStart = some start) :
    (acts.foldl act (fresh networks options clock)).admitted.getLast?.map Query.clock = some start ∧
      (acts.foldl act (fresh networks options clock)).world.radio.networks = networks := by
  by_cases hreject : options.outcome = .reject
  · have hrefuses := refuses_foldl hreject (refuses_fresh networks options clock) acts
    rw [hrefuses.same] at h
    cases h
  · have hadmits := admits_foldl hreject (admits_fresh networks options clock) acts
    rw [hadmits.radio] at h ⊢
    rw [hadmits.admitted_eq]
    exact ⟨h, rfl⟩

/-- After any sequence of calls of which one was admitted, the radio holds every network of its
fixture in order and unchanged, with the exact time of detection relative to the reading of the
clock at the last admitted call, clamped to the range of stamps. So a later offset never
comes with an earlier stamp. -/
theorem stamps_are_exact (networks : List Network) (options : Options) (clock : UInt64)
    (acts : List Act) {start : UInt64}
    (hstart : (acts.foldl act (fresh networks options clock)).world.radio.lastStart = some start)
    (iface : String) :
    let a := acts.foldl act (fresh networks options clock)
    a.admitted.getLast?.map Query.clock = some start ∧
    List.Forall₂ (Network.Shown start) networks (Radio.detections a.world.radio iface) ∧
    ∀ p ∈ networks.zip (Radio.detections a.world.radio iface),
      ∀ q ∈ networks.zip (Radio.detections a.world.radio iface),
        p.1.offset ≤ q.1.offset → p.2.micros ≤ q.2.micros := by
  intro a
  obtain ⟨hadmitted, hnetworks⟩ := admitted_of_lastStart hstart
  have hheld : Radio.detections a.world.radio iface = networks.map (detect start) := by
    simp only [a, Radio.detections, Replay.detections, hstart, hnetworks]
  have hshown :
      List.Forall₂ (Network.Shown start) networks (Radio.detections a.world.radio iface) := by
    rw [hheld, List.forall₂_map_right_iff, List.forall₂_same]
    exact fun n _ => n.shown_detect start
  refine ⟨hadmitted, hshown, ?_⟩
  intro p hp q hq hle
  exact (List.forall₂_zip hshown hp).micros_le (List.forall₂_zip hshown hq) hle

end Account

end WirelessScan.Replay

namespace WirelessScan.Sample

open Replay (Account)

/-- Networks with the extreme offsets and one in between. -/
def scattered : List Replay.Network :=
  [{ ssid := "future", bssid := "00:00:00:00:00:01", signal := -50, frequency := 2412,
     offset := Int64.maxValue },
    { ssid := "ancient", bssid := "00:00:00:00:00:02", signal := -50, frequency := 2412,
      offset := Int64.minValue },
    { ssid := "near", bssid := "00:00:00:00:00:03", signal := -50, frequency := 2412,
      offset := -7 }]

/-- The latest reading of the clock. -/
def lateScan : Account :=
  [.scan "wlan0" narrow].foldl Account.act
    (.fresh scattered { outcome := .silent } 18446744073709551615)

theorem lateScan_stamps :
    lateScan.world.radio.lastStart = some 18446744073709551615 ∧
      List.Forall₂ (Replay.Network.Shown 18446744073709551615) scattered
        (Radio.detections lateScan.world.radio "wlan0") ∧
      (Radio.detections lateScan.world.radio "wlan0").map (·.micros) =
        [9223372036854775807, 0, 18446744073702551] := by
  have hstart : lateScan.world.radio.lastStart = some 18446744073709551615 := rfl
  exact ⟨hstart, (Account.stamps_are_exact scattered _ _ _ hstart "wlan0").2.1, by decide +kernel⟩

end WirelessScan.Sample
