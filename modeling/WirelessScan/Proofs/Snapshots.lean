import WirelessScan.Proofs.Waiting

/-!
# Latest results

The results that a place shows are those of its latest completion: the results notice that was
dispatched while a request waited there. A completion is recorded with the request that was
admitted last for the place, as the admission call had it, and with what the radio held at that
time. A configuration begins without a completion, also if its id was in use before.
-/

namespace WirelessScan

variable {ρ : Type}

/-! ## Completions -/

/-- A completed request and everything the radio held when it had results. -/
structure Completion where
  waiting : Waiting
  raw : List Detection
deriving DecidableEq, Repr

/-- The results of a completed request. -/
def Completion.results (c : Completion) : ResultSet :=
  c.waiting.results c.raw

/-- The results of the last of some completions, none before the first. -/
def ResultSet.ofLast (cs : List Completion) : ResultSet :=
  cs.getLast?.elim {} Completion.results

/-- Whether a move stops the configuration of a place. -/
def Move.stops : Move ρ → Place → Bool
  | .stop id, .cycle other => decide (id = other)
  | _, _ => false

namespace Station

/-- Whether a move completes the request that waits at a place. -/
def completes (now : Station ρ) (move : Move ρ) (place : Place) : Bool :=
  now.turn? move = some (.resultsAvailable now.iface) && (now.waiting? place).isSome

/-- Whether a move activates the configuration of a place. -/
def begins [Radio ρ] (now : Station ρ) (move : Move ρ) : Place → Bool
  | .single => false
  | .cycle id => move.isCall && (now.cycleAt move id).isSome

variable {now : Station ρ} {move : Move ρ} {place : Place}

theorem completes_of_event {e : Event} {rest : List Event}
    (hqueue : now.world.queue.events = e :: rest) (he : e ≠ .resultsAvailable now.iface) :
    now.completes .dispatch place = false := by
  simp [completes, turn?, hqueue, he]

theorem completes_idle (hqueue : now.world.queue.events = []) :
    now.completes .dispatch place = false := by
  simp [completes, turn?, hqueue]

theorem completes_of_free (h : now.waiting? place = none) : now.completes move place = false := by
  simp [completes, h]

/-- Calls complete nothing, and turns make no new beginning. -/
theorem begins_of_completes [Radio ρ] (h : now.completes move place = true) :
    now.begins move place = false := by
  cases move with
  | dispatch => cases place <;> rfl
  | _ => simp [completes, turn?] at h

theorem completes_results {rest : List Event} {x : Waiting}
    (hqueue : now.world.queue.events = .resultsAvailable now.iface :: rest)
    (h : now.waiting? place = some x) : now.completes .dispatch place = true := by
  simp [completes, turn?, hqueue, h]

end Station

namespace Run

variable [Radio ρ]

/-- The request that was admitted last for a place. -/
def admitted (place : Place) : Run ρ → Option Waiting
  | begin .. => none
  | extend run move => (run.now.admits move place).or (run.admitted place)

/-- The completions of a place, in order, since its beginning. -/
def completions (place : Place) : Run ρ → List Completion
  | begin .. => []
  | extend run move =>
    if run.now.begins move place then []
    else if run.now.completes move place then
      run.completions place ++ ((run.admitted place).map fun waiting =>
        ⟨waiting, Radio.detections run.now.world.radio run.now.iface⟩).toList
    else run.completions place

end Run

/-! ## Steps -/

/-- What a move can do to the latest results of a place. -/
inductive Snapshot [Radio ρ] (now : Station ρ) (move : Move ρ) (place : Place) :
    Option ResultSet → Prop where
  | completed {x : Waiting} (hcompletes : now.completes move place = true)
      (hwaiting : now.waiting? place = some x) :
      Snapshot now move place
        (some (x.results (Radio.detections now.world.radio now.iface)))
  | begun (hbegins : now.begins move place = true) : Snapshot now move place (some {})
  | kept {after : Option ResultSet} (hcompletes : now.completes move place = false)
      (hbegins : now.begins move place = false)
      (hafter : after = if move.stops place then none else now.latest? place) :
      Snapshot now move place after

theorem Station.latest?_cycle {now : Station ρ} {id : ScanId} {p : Periodic}
    (h : now.config? id = some p) : now.latest? (.cycle id) = some p.latest :=
  congrArg (Option.map Periodic.latest) h

theorem Station.latest?_cycle_congr {now next : Station ρ} {id : ScanId}
    (h : next.config? id = now.config? id) : next.latest? (.cycle id) = now.latest? (.cycle id) :=
  congrArg (Option.map Periodic.latest) h

section Steps

variable [Radio ρ] {now next : Station ρ} {move : Move ρ}

namespace Snapshot

variable {place : Place} {after : Option ResultSet}

/-- A turn with another event than results completes nothing. -/
theorem of_event {e : Event} {rest : List Event} (hqueue : now.world.queue.events = e :: rest)
    (he : e ≠ .resultsAvailable now.iface)
    (hafter : after = now.latest? place) :
    Snapshot now .dispatch place after :=
  .kept (Station.completes_of_event hqueue he) (by cases place <;> rfl) hafter

theorem of_foreign {e : Event} {rest : List Event} (hqueue : now.world.queue.events = e :: rest)
    (hiface : e.iface? ≠ some now.iface)
    (hafter : after = now.latest? place) :
    Snapshot now .dispatch place after := by
  refine .of_event hqueue ?_ hafter
  intro heq
  exact hiface (by rw [heq]; rfl)

/-- A turn completes nothing where no request waits. -/
theorem of_free (hfree : now.waiting? place = none)
    (hafter : after = now.latest? place) :
    Snapshot now .dispatch place after :=
  .kept (Station.completes_of_free hfree) (by cases place <;> rfl) hafter

theorem of_same_config {id : ScanId} (hcompletes : now.completes move (.cycle id) = false)
    (hcycle : now.cycleAt move id = none) (hstops : move.stops (.cycle id) = false)
    (hconfig : next.config? id = now.config? id) :
    Snapshot now move (.cycle id) (next.latest? (.cycle id)) := by
  refine .kept hcompletes (by simp [Station.begins, hcycle]) ?_
  rw [Station.latest?_cycle_congr hconfig, hstops]
  rfl

/-- A configuration that was stopped has no results. -/
theorem of_stopped {id : ScanId} (hconfig : next.config? id = none) :
    Snapshot now (.stop id) (.cycle id) (next.latest? (.cycle id)) := by
  have hstops : (Move.stop id : Move ρ).stops (.cycle id) = true := decide_eq_true rfl
  refine .kept rfl rfl ?_
  rw [if_pos hstops]
  exact congrArg (Option.map Periodic.latest) hconfig

theorem of_activated {id : ScanId} {p : Periodic} (hbegins : now.begins move (.cycle id) = true)
    (hconfig : next.config? id = some p) (hlatest : p.latest = {}) :
    Snapshot now move (.cycle id) (next.latest? (.cycle id)) := by
  rw [Station.latest?_cycle hconfig, hlatest]
  exact .begun hbegins

/-- A turn that leaves the results of a configuration as they were. -/
theorem of_same_latest {id : ScanId} {e : Event} {rest : List Event}
    (hqueue : now.world.queue.events = e :: rest) (he : e ≠ .resultsAvailable now.iface)
    (hlatest : (next.config? id).map Periodic.latest = (now.config? id).map Periodic.latest) :
    Snapshot now .dispatch (.cycle id) (next.latest? (.cycle id)) :=
  .of_event hqueue he hlatest

theorem of_results {rest : List Event} {x : Waiting}
    (hqueue : now.world.queue.events = .resultsAvailable now.iface :: rest)
    (hwaiting : now.waiting? place = some x)
    (hafter : after = some (x.results (Radio.detections now.world.radio now.iface))) :
    Snapshot now .dispatch place after := by
  rw [hafter]
  exact .completed (Station.completes_results hqueue hwaiting) hwaiting

end Snapshot

namespace Step

theorem snapshot_single (hstep : Step now move next) :
    Snapshot now move .single (next.latest? .single) := by
  cases hstep with
  | single hstarted => cases hstarted <;> exact .kept rfl rfl rfl
  | idle hqueue => exact .kept (Station.completes_idle hqueue) rfl rfl
  | @finished e _ _ _ hqueue hraw hfinished =>
      cases e with
      | results raw =>
          obtain ⟨rfl, -⟩ := hraw raw rfl
          cases hfinished with
          | unarmed hslot => exact .of_free (Slot.waiting?_eq_none.mpr hslot) rfl
          | @armed scan hslot =>
              have hwaiting : now.waiting? .single = some scan.waiting := by
                simp [Station.waiting?, Slot.waiting?, hslot]
              exact .of_results hqueue hwaiting rfl
      | failure reason =>
          refine .of_event hqueue (by simp [Ending.event]) ?_
          cases hfinished <;> rfl
  | unwanted _ hidle => exact .of_free (Station.waiting?_of_not_isWaiting hidle _) rfl
  | singleTimeout hqueue hexpired =>
      refine .of_event hqueue (by simp) ?_
      cases hexpired <;> rfl
  | period hqueue => exact .of_event hqueue (by simp) rfl
  | cycleTimeout hqueue => exact .of_event hqueue (by simp) rfl
  | rejection hqueue => exact .of_event hqueue (by simp) rfl
  | cycleRejection hqueue => exact .of_event hqueue (by simp) rfl
  | foreign hqueue hiface => exact .of_foreign hqueue hiface rfl
  | _ => exact .kept rfl rfl rfl

theorem snapshot_background {settings : Option Settings} {handler : Option Handler}
    {answer : Option ScanId} {background : Background} {world : World ρ}
    (hstarted : Background.Started now.scanner.setup now.scanner.background now.world settings
      handler (answer, background, world))
    (hanswer : now.answersId (.background settings handler) = answer) (id : ScanId) :
    Snapshot now (.background settings handler) (.cycle id)
      (Station.latest? ⟨{ now.scanner with background }, world⟩ (.cycle id)) := by
  cases hstarted with
  | refused => exact .of_same_config rfl (Station.cycleAt_background (by simp [hanswer])) rfl rfl
  | unresolved _ hresolve =>
      exact .of_same_config rfl (Station.cycleAt_unresolved hresolve) rfl rfl
  | @activated settings carried _ _ p _ _ hresolve hran =>
      by_cases hid : id = now.scanner.background.nextId
      · subst hid
        refine .of_activated (p := p) ?_ (by simp [Station.config?]) hran.latest
        simp [Station.begins, Move.isCall, Station.cycleAt_activated hanswer hresolve]
      · have hcycle := Station.cycleAt_of_answer hanswer hid
        exact .of_same_config rfl hcycle rfl (by simp [Station.config?, hid])

theorem snapshot_finished {e : Ending} {rest : List Event} {single : Single} {world : World ρ}
    (hqueue : now.world.queue.events = e.event now.iface :: rest)
    (hraw : ∀ raw, e = .results raw → raw = Radio.detections now.world.radio now.iface ∧
      now.scanner.isWaiting = true) (id : ScanId) :
    Snapshot now .dispatch (.cycle id) (Station.latest?
      ⟨{ now.scanner with single, background := (now.scanner.background.finish e world).1 },
        (now.scanner.background.finish e world).2⟩ (.cycle id)) := by
  have hconfig : Station.config?
      ⟨{ now.scanner with single, background := (now.scanner.background.finish e world).1 },
        (now.scanner.background.finish e world).2⟩ id = (now.config? id).map fun p => p.ended e :=
    now.scanner.background.finish_find? e world id
  cases hnow : now.config? id with
  | none =>
      rw [hnow] at hconfig
      refine .of_free (by simp [Station.waiting?, hnow]) ?_
      exact Station.latest?_cycle_congr (hconfig.trans hnow.symm)
  | some p =>
      rw [hnow] at hconfig
      cases e with
      | failure reason =>
          refine .of_same_latest hqueue (by simp [Ending.event]) ?_
          rw [hconfig, hnow]
          rfl
      | results raw =>
          obtain ⟨rfl, -⟩ := hraw raw rfl
          cases hpending : p.pending with
          | none =>
              -- The notice was wanted at another place.
              rw [Option.map_some, Periodic.ended_of_idle hpending] at hconfig
              refine .of_free ?_ ?_
              · rw [Station.waiting?_cycle hnow, Periodic.waiting?, hpending, Option.map_none]
              · exact Station.latest?_cycle_congr (hconfig.trans hnow.symm)
          | some c =>
              have hwaiting : now.waiting? (.cycle id) = some c.waiting := by
                rw [Station.waiting?_cycle hnow, Periodic.waiting?, hpending, Option.map_some]
              refine .of_results hqueue hwaiting ?_
              rw [Station.latest?_cycle hconfig]
              simp only [Periodic.ended, Periodic.completed, hpending]
              rfl

theorem snapshot_cycle (hstep : Step now move next) (id : ScanId) :
    Snapshot now move (.cycle id) (next.latest? (.cycle id)) := by
  cases hstep with
  | background hstarted hanswer => exact snapshot_background hstarted hanswer id
  | @stopInactive other hfind =>
      by_cases hid : other = id
      · subst hid
        exact .of_stopped hfind
      · exact .of_same_config rfl rfl (decide_eq_false hid) rfl
  | @stopActive other =>
      by_cases hid : other = id
      · subst hid
        exact .of_stopped (by simp [Station.config?])
      · exact .of_same_config rfl rfl (decide_eq_false hid)
          (by simp [Station.config?, Ne.symm hid])
  | idle hqueue =>
      exact .of_same_config (Station.completes_idle hqueue) (Station.cycleAt_idle hqueue) rfl rfl
  | finished hqueue hraw => exact snapshot_finished hqueue hraw id
  | unwanted _ hidle => exact .of_free (Station.waiting?_of_not_isWaiting hidle _) rfl
  | singleTimeout hqueue => exact .of_event hqueue (by simp) rfl
  | @period tagged _ _ _ _ hqueue hticked =>
      cases hticked with
      | stale => exact .of_event hqueue (by simp) rfl
      | ticked hfind _ hran =>
          refine .of_same_latest hqueue (by simp) ?_
          by_cases hid : id = tagged
          · simp [Station.config?, hid, hfind, hran.latest]
          · simp [Station.config?, hid]
  | @cycleTimeout tagged _ _ _ _ hqueue hexpired =>
      cases hexpired with
      | stale => exact .of_event hqueue (by simp) rfl
      | own hfind =>
          refine .of_same_latest hqueue (by simp) ?_
          by_cases hid : id = tagged
          · simp [Station.config?, hid, hfind, Periodic.dropped]
          · simp [Station.config?, hid]
  | rejection hqueue => exact .of_event hqueue (by simp) rfl
  | cycleRejection hqueue => exact .of_event hqueue (by simp) rfl
  | foreign hqueue hiface => exact .of_foreign hqueue hiface rfl
  | _ => exact .kept rfl rfl rfl

/-- The latest results of a place change only when the place completes or begins. -/
theorem snapshot (hstep : Step now move next) (place : Place) :
    Snapshot now move place (next.latest? place) := by
  cases place with
  | single => exact hstep.snapshot_single
  | cycle id => exact hstep.snapshot_cycle id

end Step

/-! ## Every run -/

/-- How a request comes to wait at a place. -/
structure Station.Admits (now next : Station ρ) (move : Move ρ) (place : Place) (x : Waiting) :
    Prop where
  waits : next.waiting? place = some x
  /-- The start is read off the clock before the radio is asked. -/
  asked : next.world.contact.askings = now.world.contact.askings ++
    [.clockRead x.start, .admission now.iface x.request .succeeded]
  /-- The request covers the buckets that the move runs for the place, and no others. -/
  covers : ∃ errand, now.errand? move place = some errand ∧
    ∀ f, f ∈ x.request.frequencies ↔ ∃ b ∈ errand.buckets, ∃ fs,
      now.scanner.setup.table.targetFrequencies b.target = .ok fs ∧ f ∈ fs
  /-- The bits of the mask are the numbers of the due buckets; a single scan has none. -/
  mask : ∀ i, x.buckets.toNat.testBit i = true ↔
    ∃ id p b, place = .cycle id ∧ now.cycleAt move id = some p ∧ (b, i) ∈ p.due

theorem Station.testBit_errand_mask {place : Place} {errand : Errand}
    (h : now.errand? move place = some errand) (i : Nat) : errand.mask.toNat.testBit i = true ↔
      ∃ id p b, place = .cycle id ∧ now.cycleAt move id = some p ∧ (b, i) ∈ p.due := by
  cases place with
  | single =>
      have hmask : errand.mask = 0 := by
        simp only [errand?] at h
        split at h
        · split at h
          · rw [← Option.some.inj h]
          · cases h
        · cases h
      simp [hmask]
  | cycle id =>
      obtain ⟨p, hcycle, herrand⟩ := Option.bind_eq_some_iff.mp h
      have hmask : errand.mask = bucketMask (p.due.map Prod.snd) := by
        simp only [Periodic.errand?] at herrand
        split at herrand
        · rw [← Option.some.inj herrand]
        · cases herrand
      rw [hmask, Periodic.due, testBit_bucketMask Settings.dueBuckets_lt, decide_eq_true_iff,
        Settings.mem_dueNumbers]
      constructor
      · rintro ⟨b, hb⟩
        exact ⟨id, p, b, rfl, hcycle, hb⟩
      · rintro ⟨id', p', b, hplace, hcycle', hb⟩
        obtain rfl := Place.cycle.inj hplace
        obtain rfl := Option.some.inj (hcycle.symm.trans hcycle')
        exact ⟨b, hb⟩

theorem Step.admits {x : Waiting} {place : Place} (hstep : Step now move next)
    (h : now.admits move place = some x) : now.Admits next move place x := by
  obtain ⟨errand, herrand, hadmitted⟩ := Option.bind_eq_some_iff.mp h
  obtain ⟨hresolve, hanswer, hstart, hmask⟩ := errand.admitted_eq_some hadmitted
  cases hstep.visit place with
  | begun hadmitted' hafter hcontact =>
      obtain rfl := Option.some.inj (hadmitted'.symm.trans h)
      refine ⟨hafter, ?_, ⟨errand, herrand, ?_⟩, ?_⟩
      · rw [hcontact, hstart, ← hanswer]
        rfl
      · exact ChannelTable.mem_resolve (Setup.resolve_ok hresolve).1
      · rw [hmask]
        exact Station.testBit_errand_mask herrand
  | still hadmitted' => rw [h] at hadmitted'; cases hadmitted'

namespace Run

/-- What waits at a place is what was admitted last for it. -/
theorem waiting_admitted (run : Run ρ) {place : Place} {x : Waiting}
    (h : run.now.waiting? place = some x) : run.admitted place = some x := by
  induction run with
  | begin setup radio clock => cases place <;> cases h
  | extend run move ih =>
      rw [admitted]
      cases (run.now.step_perform move).visit place with
      | begun hadmitted hafter =>
          obtain rfl := Option.some.inj (hafter.symm.trans h)
          rw [hadmitted, Option.some_or]
      | still hadmitted hafter => rw [hadmitted, Option.none_or, ih (hafter x h)]

/-- A completion shows the results of the request that was admitted last. -/
theorem latest_of_completes (run : Run ρ) {move : Move ρ} {place : Place}
    (hcompletes : run.now.completes move place = true) :
    ∃ x, run.now.waiting? place = some x ∧ run.admitted place = some x ∧
      (run.extend move).now.latest? place =
        some (x.results (Radio.detections run.now.world.radio run.now.iface)) := by
  have hafter := (run.now.step_perform move).snapshot place
  generalize hlatest : (run.now.perform move).latest? place = after at hafter
  cases hafter with
  | completed _ hwaiting => exact ⟨_, hwaiting, run.waiting_admitted hwaiting, hlatest⟩
  | begun hbegins => rw [Station.begins_of_completes hcompletes] at hbegins; cases hbegins
  | kept hnot => rw [hcompletes] at hnot; cases hnot

/-- The results that a place shows are those of its latest completion. -/
theorem latest_ofLast (run : Run ρ) {place : Place} {r : ResultSet}
    (h : run.now.latest? place = some r) : r = .ofLast (run.completions place) := by
  -- What is shown changes along the run, so the statement is about whatever is shown at the end.
  induction run generalizing r with
  | begin setup radio clock =>
      cases place with
      | single => exact (Option.some.inj h).symm
      | cycle id => cases h
  | extend run move ih =>
      have hafter := (run.now.step_perform move).snapshot place
      rw [show (run.now.perform move).latest? place = some r from h] at hafter
      rw [completions]
      cases hafter with
      | @completed x hcompletes hwaiting =>
          simp only [Station.begins_of_completes hcompletes, hcompletes,
            run.waiting_admitted hwaiting, Bool.false_eq_true, if_false, if_true, Option.map_some,
            Option.toList_some, ResultSet.ofLast, List.getLast?_concat, Option.elim_some]
          rfl
      | begun hbegins =>
          rw [if_pos hbegins]
          rfl
      | kept hcompletes hbegins hkept =>
          rw [if_neg (by simp [hbegins]), if_neg (by simp [hcompletes])]
          refine ih ?_
          split at hkept
          · cases hkept
          · exact hkept.symm

/-- The results that can be fetched are those of the latest completion. A completion is that of
the request that was admitted last for the place, with the start that was read before its
admission call, the frequencies of its own buckets and their mask. Only completions and new
configurations change what can be fetched, until the configuration is stopped: no refusal, no
skipped cycle, no failure, no expiry, and nothing that happens at another place. -/
theorem snapshots_are_of_latest_completion (run : Run ρ) :
    run.now.scanner.single.latest = .ofLast (run.completions .single) ∧
    (∀ id r, run.now.scanner.background.latest? id = some r →
      r = .ofLast (run.completions (.cycle id))) ∧
    ∀ (move : Move ρ) (place : Place),
      (∀ x, run.now.admits move place = some x →
        run.now.Admits (run.extend move).now move place x) ∧
      (run.now.completes move place = true →
        ∃ x, run.admitted place = some x ∧ (run.extend move).now.latest? place =
          some (x.results (Radio.detections run.now.world.radio run.now.iface))) ∧
      (run.now.completes move place = false → run.now.begins move place = false →
        (run.extend move).now.latest? place =
          if move.stops place then none else run.now.latest? place) := by
  refine ⟨run.latest_ofLast rfl, fun id r h => run.latest_ofLast h, ?_⟩
  intro move place
  have hstep := run.now.step_perform move
  refine ⟨fun x hx => hstep.admits hx, ?_, ?_⟩
  · intro hcompletes
    obtain ⟨x, -, hadmitted, hlatest⟩ := run.latest_of_completes hcompletes
    exact ⟨x, hadmitted, hlatest⟩
  · intro hcompletes hbegins
    have hafter := hstep.snapshot place
    generalize hlatest : (run.now.perform move).latest? place = after at hafter
    cases hafter with
    | completed hcompletes' => rw [hcompletes] at hcompletes'; cases hcompletes'
    | begun hbegins' => rw [hbegins] at hbegins'; cases hbegins'
    | kept _ _ hkept => exact hlatest.trans hkept

end Run

end Steps

namespace Sample

/-- A radio with a network on each channel; the second one is a leftover. -/
def neighbourhood : Replay where
  networks :=
    [{ ssid := "near", bssid := "00:00:00:00:00:01", signal := -40, frequency := 2412 },
      { ssid := "far", bssid := "00:00:00:00:00:02", signal := -80, frequency := 2437
        offset := -60 }]

/-- Two single scans, the second one together with the first cycle of a configuration. -/
def twoScans : Run Replay :=
  [.single (some settings) (some (handler 1)), .outside (.results "wlan0"), .dispatch,
    .outside (.time 1 50000000), .background (some settings) (some (handler 2)),
    .single (some settings) (some (handler 3)), .outside (.results "wlan0"),
    .dispatch].foldl .extend (.begin setup neighbourhood 1000)

theorem twoScans_snapshots :
    (twoScans.completions .single).map (fun c => c.waiting.start) = [1000, 50000000] ∧
      twoScans.now.scanner.single.latest = .ofLast (twoScans.completions .single) ∧
      ∃ r, twoScans.now.scanner.background.latest? 1 = some r ∧ r.ssids = ["near"] ∧
        r = .ofLast (twoScans.completions (.cycle 1)) := by
  obtain ⟨hsingle, hcycle, -⟩ := twoScans.snapshots_are_of_latest_completion
  have hsome : (twoScans.now.scanner.background.latest? 1).isSome = true := by decide +kernel
  obtain ⟨r, hr⟩ := Option.isSome_iff_exists.mp hsome
  have hssids : (twoScans.now.scanner.background.latest? 1).map ResultSet.ssids =
      some ["near"] := by decide +kernel
  rw [hr] at hssids
  exact ⟨by decide +kernel, hsingle, r, hr, Option.some.inj hssids, hcycle 1 r hr⟩

end Sample

end WirelessScan
