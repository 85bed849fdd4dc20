import WirelessScan.Proofs.Reconciliation
import WirelessScan.Proofs.Snapshots
import WirelessScan.Replay

/-!
# Networks detected during a scan

A replay radio stamps its networks relative to its own reading of the clock, which it takes inside
the admission call and therefore not before the scanner took the start of the scan. The stamps are
in microseconds, though, and the start is in nanoseconds. So a network that appears with the scan
can have a stamp before the start: it is dropped as if it were a leftover. A network that appears
later in the scan always is among the results.
-/

namespace WirelessScan

/-- Adding to a reading of the clock never sets it back. -/
theorem le_satAdd (a b : UInt64) : a ≤ satAdd a b := by
  rw [UInt64.le_iff_toNat_le, satAdd, toNat_ofNatClamp]
  have ha := a.toNat_lt
  omega

theorem Waiting.mem_results {x : Waiting} {raw : List Detection} {d : Detection} :
    d ∈ (x.results raw).detections ↔
      d ∈ raw ∧ d.isFresh x.start = true ∧ d.frequency ∈ x.request.frequencies := by
  simp [results, ResultSet.reconcile, Detection.mem_strongestFirst, Detection.isWanted]

/-! ## Stamps -/

namespace Replay

/-- The stamp of a network that does not appear before its scan, in nanoseconds. -/
theorem toNat_detect_nanos (d : UInt64) {n : Network} (h : 0 ≤ n.offset.toInt) :
    (detect d n).nanos.toNat =
      min (min (d.toNat / 1000 + n.offset.toInt.toNat * 1000) (2 ^ 63 - 1) * 1000)
        (2 ^ 64 - 1) := by
  have hd := d.toNat_lt
  have hstamp : (stamp d n.offset).toNat =
      min (d.toNat / 1000 + n.offset.toInt.toNat * 1000) (2 ^ 63 - 1) := by
    simp only [stamp, clampStamp, toNat_ofNatClamp, Int64.toInt_maxValue, Int64.toInt_minValue]
    omega
  rw [Detection.nanos, toNat_ofNatClamp]
  simp only [detect, hstamp]

/-- A network that does not appear before its scan is taken for a leftover in one case: it appears
with the scan, and cutting the reading of the radio to microseconds puts it before the start. -/
theorem isFresh_detect {start d : UInt64} (hle : start ≤ d) {n : Network}
    (h : 0 ≤ n.offset.toInt) : (detect d n).isFresh start = true ↔
      0 < n.offset.toInt ∨ start.toNat ≤ d.toNat / 1000 * 1000 := by
  have hd := d.toNat_lt
  have hle' := UInt64.le_iff_toNat_le.mp hle
  rw [Detection.isFresh, decide_eq_true_iff, UInt64.le_iff_toNat_le, toNat_detect_nanos d h]
  -- The cut takes less than a microsecond, and the least later offset adds a thousand of them.
  omega

end Replay

/-! ## A radio that shares the clock -/

/-- A replay radio that reads the clock some nanoseconds after the scanner took the start. -/
structure LateReplay where
  replay : Replay
  lag : UInt64 := 0
deriving DecidableEq, Repr

instance : Radio LateReplay where
  issue r clock iface _ :=
    let a := r.replay.issue (satAdd clock r.lag) iface
    { status := a.status
      radio := { r with replay := a.radio }
      nanos := r.lag
      later := a.later }
  detections r _ := r.replay.detections

namespace Replay

/-- A refusal is not answered with success. -/
def IsHonest (r : Replay) : Prop :=
  r.options.outcome = .reject → r.options.reason ≠ .succeeded

theorem IsHonest.issue {r : Replay} (h : r.IsHonest) (clock : UInt64) (iface : String) :
    (r.issue clock iface).radio.IsHonest := by
  unfold Replay.issue
  split <;> exact h

theorem issue_succeeded {r : Replay} (hhonest : r.IsHonest) {clock : UInt64} {iface : String}
    (h : (r.issue clock iface).status = .succeeded) :
    (r.issue clock iface).radio.lastStart = some clock := by
  unfold issue at h ⊢
  split at h
  next hreject => exact (hhonest hreject h).elim
  next hadmit => rw [if_neg hadmit]

/-- The reading at the last admitted scan stays or becomes the present one. -/
theorem issue_lastStart (r : Replay) (clock : UInt64) (iface : String) :
    (r.issue clock iface).radio.lastStart = r.lastStart ∨
      (r.issue clock iface).radio.lastStart = some clock := by
  unfold issue
  split
  · exact .inl rfl
  · exact .inr rfl

end Replay

/-- Whether a move leaves the fixture alone and does not set the clock back. The lag of the radio
may change at any time. -/
def Station.Steady (now : Station LateReplay) : Move LateReplay → Prop
  | .outside (.radio radio) => radio.replay = now.world.radio.replay
  | .outside (.time _ nanos) => now.world.clock ≤ nanos
  | _ => True

/-- The radio is a replay radio throughout the run, and no reading of the clock is below an earlier
one. -/
def Run.Steady : Run LateReplay → Prop
  | begin _ radio _ => radio.replay.IsHonest
  | extend run move => run.Steady ∧ run.now.Steady move

namespace Contact

variable {c : Contact LateReplay} {start : UInt64}

/-- Neither the clock nor the last reading of the radio is before a start. -/
structure Follows (c : Contact LateReplay) (start : UInt64) : Prop where
  clock : start ≤ c.clock
  lastStart : ∃ d, c.radio.replay.lastStart = some d ∧ start ≤ d

/-- An admission call reads the clock later than all before it. -/
theorem Follows.asked (h : c.Follows start) (iface : String) (request : Request) :
    (c.asked iface request).Follows start := by
  have hlater : start ≤ satAdd c.clock c.radio.lag := UInt64.le_trans h.clock (le_satAdd _ _)
  refine ⟨hlater, ?_⟩
  obtain ⟨d, hd, hle⟩ := h.lastStart
  obtain hsame | hnew := c.radio.replay.issue_lastStart (satAdd c.clock c.radio.lag) iface
  · exact ⟨d, hsame.trans hd, hle⟩
  · exact ⟨_, hnew, hlater⟩

/-- An admitted scan is stamped after its start. -/
theorem follows_asked (hhonest : c.radio.replay.IsHonest) {iface : String} {request : Request}
    (hadmitted : (Radio.issue c.radio c.clock iface request).status = .succeeded) :
    (c.asked iface request).Follows c.clock :=
  ⟨le_satAdd _ _, _, Replay.issue_succeeded hhonest hadmitted, le_satAdd _ _⟩

end Contact

/-- No waiting request started after the radio last read the clock. -/
structure Station.Aligned (now : Station LateReplay) : Prop where
  honest : now.world.contact.radio.replay.IsHonest
  follows : ∀ place x, now.waiting? place = some x → now.world.contact.Follows x.start

section Aligned

variable {now next : Station LateReplay} {move : Move LateReplay}

theorem Station.Aligned.outside (h : now.Aligned) {happening : Happening LateReplay}
    (hsteady : now.Steady (.outside happening)) :
    Station.Aligned { now with world := now.world.happen happening } := by
  cases happening with
  | arrival n =>
      simp only [World.happen]
      split <;> exact ⟨h.honest, h.follows⟩
  | radio radio =>
      have hreplay : radio.replay = now.world.contact.radio.replay := hsteady
      refine ⟨hreplay ▸ h.honest, ?_⟩
      intro place x hx
      obtain ⟨hclock, d, hd, hle⟩ := h.follows place x hx
      exact ⟨hclock, d, (congrArg Replay.lastStart hreplay).trans hd, hle⟩
  | time millis nanos =>
      refine ⟨h.honest, ?_⟩
      intro place x hx
      obtain ⟨hclock, hlast⟩ := h.follows place x hx
      exact ⟨UInt64.le_trans hclock hsteady, hlast⟩
  | _ => exact ⟨h.honest, h.follows⟩

theorem Step.aligned (hstep : Step now move next) (h : now.Aligned) (hsteady : now.Steady move) :
    next.Aligned := by
  by_cases houtside : ∃ happening, move = .outside happening
  · obtain ⟨happening, rfl⟩ := houtside
    cases hstep with
    | outside => exact h.outside hsteady
  · have hcontact := hstep.contact fun happening hmove => houtside ⟨happening, hmove⟩
    refine ⟨?_, ?_⟩
    · obtain hsame | ⟨-, -, request, -, hasked⟩ := hcontact
      · rw [hsame]
        exact h.honest
      · rw [hasked]
        exact h.honest.issue _ _
    · intro place x hx
      -- A new request starts at the reading before the radio takes its own. One that still waits
      -- keeps its start, and neither the clock nor the radio goes back.
      cases hstep.visit place with
      | @begun x' hadmitted hafter hasked =>
          obtain rfl := Option.some.inj (hafter.symm.trans hx)
          obtain ⟨errand, -, hcall⟩ := Option.bind_eq_some_iff.mp hadmitted
          obtain ⟨-, hanswer, hstart, -⟩ := errand.admitted_eq_some hcall
          rw [hasked, hstart]
          exact Contact.follows_asked h.honest hanswer
      | still _ hafter =>
          have hfollows := h.follows place x (hafter x hx)
          obtain hsame | ⟨-, -, request, -, hasked⟩ := hcontact
          · rw [hsame]
            exact hfollows
          · rw [hasked]
            exact hfollows.asked _ _

theorem Run.aligned {run : Run LateReplay} (hsteady : run.Steady) : run.now.Aligned := by
  induction run with
  | begin setup radio clock =>
      refine ⟨hsteady, ?_⟩
      intro place x hx
      cases place <;> cases hx
  | extend run move ih =>
      exact (run.now.step_perform move).aligned (ih hsteady.1) hsteady.2

/-- When a request completes, its results hold every network of the fixture on its frequencies
that appears later than the last admitted scan began. A network that appears in the same
millisecond is held as well, unless cutting the reading `d` of the radio to microseconds puts it
before the start of the request. -/
theorem Run.results_hold_detected_networks (run : Run LateReplay) (hsteady : run.Steady)
    (place : Place) (hcompletes : run.now.completes .dispatch place = true) :
    ∃ x d r, run.admitted place = some x ∧
      run.now.world.radio.replay.lastStart = some d ∧ x.start ≤ d ∧
      (run.extend .dispatch).now.latest? place = some r ∧
      ∀ n ∈ run.now.world.radio.replay.networks, 0 ≤ n.offset.toInt →
        n.frequency ∈ x.request.frequencies →
        (Replay.detect d n ∈ r.detections ↔
          0 < n.offset.toInt ∨ x.start.toNat ≤ d.toNat / 1000 * 1000) := by
  obtain ⟨x, hwaiting, hadmitted, hlatest⟩ := run.latest_of_completes hcompletes
  obtain ⟨-, d, hd, hle⟩ := (Run.aligned hsteady).follows place x hwaiting
  refine ⟨x, d, _, hadmitted, hd, hle, hlatest, ?_⟩
  intro n hn hoffset hfrequency
  have hheld : Replay.detect d n ∈ Radio.detections run.now.world.radio run.now.iface := by
    have hlast : run.now.world.radio.replay.lastStart = some d := hd
    simp only [Radio.detections, Replay.detections, hlast]
    exact List.mem_map.mpr ⟨n, hn, rfl⟩
  rw [Waiting.mem_results, ← Replay.isFresh_detect hle hoffset]
  exact ⟨fun h => h.2.1, fun h => ⟨hheld, h, hfrequency⟩⟩

end Aligned

namespace Sample

/-- A single scan whose results have arrived. One network appears with the scan, the other one a
millisecond later; the clock stands just before a full microsecond. -/
def dawn : Run LateReplay :=
  let near : Replay.Network :=
    { ssid := "near", bssid := "00:00:00:00:00:01", signal := -40, frequency := 2412 }
  let far : Replay.Network :=
    { ssid := "far", bssid := "00:00:00:00:00:02", signal := -80, frequency := 2437, offset := 1 }
  [.single (some settings) (some (handler 1)), .outside (.time 300 300001999),
    .outside (.arrival ⟨300, 1, .resultsAvailable "wlan0"⟩)].foldl .extend
      (.begin setup { replay := { networks := [near, far] } } 1999)

theorem dawn_completes : dawn.now.completes .dispatch .single = true ∧
    ∃ x d r, dawn.admitted .single = some x ∧
      dawn.now.world.radio.replay.lastStart = some d ∧ x.start ≤ d ∧
      (dawn.extend .dispatch).now.latest? .single = some r ∧
      ∀ n ∈ dawn.now.world.radio.replay.networks, 0 ≤ n.offset.toInt →
        n.frequency ∈ x.request.frequencies →
        (Replay.detect d n ∈ r.detections ↔
          0 < n.offset.toInt ∨ x.start.toNat ≤ d.toNat / 1000 * 1000) := by
  have hclock : (1999 : UInt64) ≤ 300001999 := by decide
  have hsteady : dawn.Steady := by
    refine ⟨⟨⟨?_, trivial⟩, hclock⟩, trivial⟩
    intro hreject
    cases hreject
  have hcompletes : dawn.now.completes .dispatch .single = true := by decide +kernel
  exact ⟨hcompletes, dawn.results_hold_detected_networks hsteady .single hcompletes⟩

/-- The network that appears with the scan is lost. -/
theorem dawn_loses_network : ¬ ∀ x, dawn.admitted .single = some x →
    ∀ n ∈ dawn.now.world.radio.replay.networks, 0 ≤ n.offset.toInt →
      n.frequency ∈ x.request.frequencies →
      n.ssid ∈ (dawn.extend .dispatch).now.scanner.single.latest.ssids := by
  intro hheld
  have hssids : (dawn.extend .dispatch).now.scanner.single.latest.ssids = ["far"] := by
    decide +kernel
  have hadmitted : (dawn.admitted .single).any (fun x =>
      (2412 : UInt32) ∈ x.request.frequencies) = true := by
    decide +kernel
  obtain ⟨x, hx, hfrequency⟩ := (Option.any_eq_true _ _).mp hadmitted
  have hnear := hheld x hx
    { ssid := "near", bssid := "00:00:00:00:00:01", signal := -40, frequency := 2412 }
    (by decide +kernel) (by decide) (by simpa using hfrequency)
  rw [hssids] at hnear
  revert hnear
  decide

end Sample

end WirelessScan
