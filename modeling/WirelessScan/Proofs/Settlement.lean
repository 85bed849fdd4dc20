import WirelessScan.Proofs.Sound

/-!
# What a notice settles

A notice of the radio settles everything that waits at its interface. The results are fetched once
for all requests together, and only if some request waits. Then every request that waits is ended:
its watchdog is cancelled and its handler hears of the end, the single scan first and after it the
configurations in increasing order of their ids. A request that does not wait is left alone.

The statement is about every scanner of a run and any world around it, so that nothing is assumed
about what the radio holds when the notice is dispatched.
-/

namespace WirelessScan

variable {ρ : Type}

/-! ## Requests that wait -/

/-- A request of a scanner waits for the radio, with its handler and its watchdog. -/
inductive Scanner.Waits (s : Scanner) : Handler → TimerHandle → Prop where
  | single {scan : InFlight} (hslot : s.single.slot = .armed scan) :
      Waits s scan.handler scan.timeout
  | cycle {id : ScanId} {p : Periodic} {c : Cycle}
      (hfind : s.background.scans.find? id = some p) (hpending : p.pending = some c) :
      Waits s p.handler c.timeout

namespace Scanner

variable {s : Scanner}

theorem hasPending_iff : s.background.hasPending = true ↔
    ∃ id p c, s.background.scans.find? id = some p ∧ p.pending = some c := by
  simp only [Background.hasPending, List.any_eq_true, SortedMap.mem_values,
    Option.isSome_iff_exists]
  constructor
  · rintro ⟨p, ⟨id, hfind⟩, c, hpending⟩
    exact ⟨id, p, c, hfind, hpending⟩
  · rintro ⟨id, p, c, hfind, hpending⟩
    exact ⟨p, ⟨id, hfind⟩, c, hpending⟩

/-- A scanner fetches results exactly if a request waits for them. -/
theorem isWaiting_iff (hsettled : s.single.slot ≠ .requested) :
    s.isWaiting = true ↔ ∃ handler watchdog, s.Waits handler watchdog := by
  rw [isWaiting, Bool.or_eq_true, Single.inFlight_iff, hasPending_iff]
  constructor
  · rintro (hslot | ⟨id, p, c, hfind, hpending⟩)
    · cases harmed : s.single.slot with
      | idle => exact absurd harmed hslot
      | requested => exact absurd harmed hsettled
      | armed scan => exact ⟨_, _, .single harmed⟩
    · exact ⟨_, _, .cycle hfind hpending⟩
  · rintro ⟨handler, watchdog, hwaits⟩
    cases hwaits with
    | single hslot => exact .inl (by simp [hslot])
    | cycle hfind hpending => exact .inr ⟨_, _, _, hfind, hpending⟩

theorem slot_idle_of_free (hsettled : s.single.slot ≠ .requested)
    (hfree : ∀ handler watchdog, ¬ s.Waits handler watchdog) : s.single.slot = .idle := by
  cases hslot : s.single.slot with
  | idle => rfl
  | requested => exact absurd hslot hsettled
  | armed scan => exact absurd (.single hslot) (hfree _ _)

theorem pending_none_of_free (hfree : ∀ handler watchdog, ¬ s.Waits handler watchdog)
    {id : ScanId} {p : Periodic} (hfind : s.background.scans.find? id = some p) :
    p.pending = none := by
  cases hpending : p.pending with
  | none => rfl
  | some c => exact absurd (.cycle hfind hpending) (hfree _ _)

end Scanner

/-! ## What an ending leaves in the log -/

/-- The end of a request: its watchdog is cancelled, then its handler hears of it. -/
def Entry.closing (watchdog : TimerHandle) (handler : Handler) (cs : List Callback) :
    List Entry :=
  .cancel watchdog :: cs.map (.callback handler)

/-- The end of the single scan, if it waits. -/
def Single.closing (e : Ending) (s : Single) : List Entry :=
  match s.slot with
  | .armed scan => Entry.closing scan.timeout scan.handler (e.records scan ++ [e.last])
  | _ => []

/-- The end of the pending cycle of a configuration, if there is one. -/
def Periodic.closing (e : Ending) (p : Periodic) : List Entry :=
  p.pending.elim [] fun c => Entry.closing c.timeout p.handler (e.report c)

/-- The ends of all requests of a scanner: the single scan, then the configurations in increasing
order of their ids. -/
def Scanner.closing (e : Ending) (s : Scanner) : List Entry :=
  s.single.closing e ++ s.background.scans.values.flatMap (Periodic.closing e)

/-- Results are fetched before the requests end. -/
def Ending.fetching (iface : String) : Ending → List Entry
  | results raw => [.fetch iface raw]
  | failure _ => []

@[simp] theorem World.log_notifyAll (w : World ρ) (handler : Handler) (cs : List Callback) :
    (w.notifyAll handler cs).log = w.log ++ cs.map (.callback handler) := by
  induction cs generalizing w with
  | nil => simp [notifyAll]
  | cons c cs ih => exact (ih (w.notify handler c)).trans (by simp [notify, record])

theorem World.log_closing (w : World ρ) (watchdog : TimerHandle) (handler : Handler)
    (cs : List Callback) : ((w.cancel watchdog).notifyAll handler cs).log =
      w.log ++ Entry.closing watchdog handler cs := by
  simp [cancel, Entry.closing]

theorem Ending.log_fetched [Radio ρ] {e : Ending} {iface : String} {w : World ρ}
    (hraw : ∀ raw, e = .results raw → raw = Radio.detections w.radio iface) :
    (e.fetched iface w).log = w.log ++ e.fetching iface := by
  cases e with
  | results raw =>
      rw [hraw raw rfl]
      rfl
  | failure reason => exact (List.append_nil _).symm

namespace Single.Finished

variable {e : Ending} {s s' : Single} {w w' : World ρ}

theorem log (h : Finished e s w (s', w')) : w'.log = w.log ++ s.closing e := by
  cases h with
  | unarmed hslot =>
      cases hidle : s.slot with
      | armed scan => exact absurd hidle (hslot scan)
      | _ => simp [closing, hidle]
  | armed hslot =>
      rw [World.log_closing]
      simp [closing, hslot]

theorem active (h : Finished e s w (s', w')) (a : Alarm) : a ∈ w'.timers.active ↔
    a ∈ w.timers.active ∧ ∀ scan, s.slot = .armed scan → a.handle ≠ scan.timeout := by
  cases h with
  | unarmed hslot =>
      exact ⟨fun ha => ⟨ha, fun scan harmed => absurd harmed (hslot scan)⟩, fun ha => ha.1⟩
  | armed hslot => simp [hslot]

theorem slot_idle (h : Finished e s w (s', w')) (hsettled : s.slot ≠ .requested) :
    s'.slot = .idle := by
  cases h with
  | unarmed hslot =>
      cases hidle : s.slot with
      | idle => rfl
      | requested => exact absurd hidle hsettled
      | armed scan => exact absurd hidle (hslot scan)
  | armed => rfl

theorem heard (h : Finished e s w (s', w')) {listener : Handler}
    (hother : ∀ scan, s.slot = .armed scan → scan.handler ≠ listener) :
    w'.heard listener = w.heard listener := by
  cases h with
  | unarmed => rfl
  | armed hslot =>
      rw [World.heard_notifyAll, if_neg (hother _ hslot), List.append_nil, World.heard_cancel]

end Single.Finished

namespace Periodic

variable (e : Ending) (p : Periodic) (w : World ρ)

theorem log_finish : (p.finish e w).2.log = w.log ++ p.closing e := by
  unfold finish closing
  cases p.pending with
  | none => exact (List.append_nil _).symm
  | some c => exact w.log_closing _ _ _

theorem active_finish (a : Alarm) : a ∈ (p.finish e w).2.timers.active ↔
    a ∈ w.timers.active ∧ ∀ c, p.pending = some c → a.handle ≠ c.timeout := by
  unfold finish
  cases p.pending <;> simp

end Periodic

namespace Background

variable (e : Ending) (b : Background) (w : World ρ)

theorem log_finish :
    (b.finish e w).2.log = w.log ++ b.scans.values.flatMap (Periodic.closing e) :=
  SortedMap.mapAccum_log World.log (fun _ p w => p.log_finish e w) b.scans w

theorem active_finish (a : Alarm) : a ∈ (b.finish e w).2.timers.active ↔
    a ∈ w.timers.active ∧
      ∀ id p, b.scans.find? id = some p → ∀ c, p.pending = some c → a.handle ≠ c.timeout :=
  SortedMap.mapAccum_iff (fun w : World ρ => a ∈ w.timers.active)
    (fun _ p w => p.active_finish e w a) b.scans w

variable {b} in
theorem heard_finish_of_other {listener : Handler}
    (hother : ∀ id p c, b.scans.find? id = some p → p.pending = some c → p.handler ≠ listener) :
    (b.finish e w).2.heard listener = w.heard listener := by
  have hheard := SortedMap.mapAccum_log (fun w : World ρ => w.heard listener)
    (fun _ p w => p.heard_finish e w listener) b.scans w
  have hnone : (b.scans.values.flatMap fun p =>
      if p.handler = listener then p.reports e else []) = [] := by
    apply List.flatMap_eq_nil_iff.mpr
    intro p hp
    obtain ⟨id, hfind⟩ := SortedMap.mem_values.mp hp
    split
    next howns =>
      cases hpending : p.pending with
      | none => simp [Periodic.reports, hpending]
      | some c => exact absurd howns (hother id p c hfind hpending)
    next => rfl
  rwa [hnone, List.append_nil] at hheard

end Background

/-! ## Handling a notice -/

def Single.ended (e : Ending) (s : Single) : Single :=
  match s.slot with
  | .armed scan => { slot := .idle, latest := e.latest scan s.latest }
  | _ => s

theorem Single.Finished.ended {e : Ending} {s s' : Single} {w w' : World ρ}
    (h : Finished e s w (s', w')) : s' = s.ended e := by
  cases h with
  | unarmed hslot =>
      cases hidle : s.slot with
      | armed scan => exact absurd hidle (hslot scan)
      | _ => simp [Single.ended, hidle]
  | armed hslot => simp [Single.ended, hslot]

/-- How a scanner and its world come out of a notice of the radio. -/
structure Settlement (s : Scanner) (e : Ending) (w : World ρ) (r : Scanner × World ρ) : Prop where
  single : r.1.single = s.single.ended e
  idle : r.1.single.slot = .idle
  pending : ∀ id p, r.1.background.scans.find? id = some p → p.pending = none
  /-- The same configurations are active, each with its cycle ended. -/
  configs : ∀ id, r.1.background.scans.find? id =
    (s.background.scans.find? id).map fun p => p.ended e
  /-- The watchdogs of the requests that waited are not active any more, and all others are. -/
  alarms : ∀ a, a ∈ r.2.timers.active ↔ a ∈ w.timers.active ∧
    ∀ handler watchdog, s.Waits handler watchdog → a.handle ≠ watchdog
  /-- If a request waits, there is one fetch at most, and all that follows are the ends of the
  requests in their order. -/
  log : (∃ handler watchdog, s.Waits handler watchdog) →
    r.2.log = w.log ++ (e.fetching s.iface ++ s.closing e)
  /-- If no request waits, nothing happens at all. -/
  unwanted : (∀ handler watchdog, ¬ s.Waits handler watchdog) → r = (s, w)
  /-- Who waits for nothing hears nothing. -/
  silent : ∀ listener, (∀ watchdog, ¬ s.Waits listener watchdog) →
    r.2.heard listener = w.heard listener

namespace Scanner

variable [Radio ρ] {s : Scanner} {e : Ending} {w : World ρ}

/-- A notice that is not ignored ends the single scan and then all cycles. -/
theorem handle_ending (hraw : ∀ raw, e = .results raw →
      raw = Radio.detections w.radio s.iface ∧ s.isWaiting = true) :
    ∃ single world, Single.Finished e s.single (e.fetched s.iface w) (single, world) ∧
      s.handle (e.event s.iface) w =
        ({ s with single, background := (s.background.finish e world).1 },
          (s.background.finish e world).2) := by
  cases e with
  | results raw =>
      obtain ⟨rfl, hwaiting⟩ := hraw raw rfl
      refine ⟨_, _, Single.complete_finished _ _ _, ?_⟩
      simp only [handle, Ending.event, Event.iface?, Option.all_some, decide_true, if_true,
        handleResults_eq, hwaiting, ← Background.complete_eq_finish]
      rfl
  | failure reason =>
      refine ⟨_, _, Single.fail_finished _ reason _, ?_⟩
      simp only [handle, Ending.event, Event.iface?, Option.all_some, decide_true, if_true,
        handleFailure, ← Background.fail_eq_finish]
      rfl

theorem handle_unwanted (hsettled : s.single.slot ≠ .requested)
    (hfree : ∀ handler watchdog, ¬ s.Waits handler watchdog) :
    s.handle (e.event s.iface) w = (s, w) := by
  cases e with
  | results raw =>
      have hwaiting : s.isWaiting = false := by
        rw [← Bool.not_eq_true, isWaiting_iff hsettled]
        rintro ⟨handler, watchdog, hwaits⟩
        exact hfree handler watchdog hwaits
      simp [handle, Ending.event, Event.iface?, handleResults_eq, hwaiting]
  | failure reason =>
      -- A failure is not ignored like results are, but it finds nothing to end.
      obtain ⟨single, world, hfinished, heq⟩ :=
        handle_ending (s := s) (e := .failure reason) (w := w) (by simp)
      rw [heq]
      cases hfinished with
      | unarmed =>
          rw [Background.finish_of_idle _ fun id p => pending_none_of_free hfree]
          rfl
      | armed hslot => exact absurd (.single hslot) (hfree _ _)

theorem handle_settles (hsettled : s.single.slot ≠ .requested)
    (hraw : ∀ raw, e = .results raw → raw = Radio.detections w.radio s.iface) :
    Settlement s e w (s.handle (e.event s.iface) w) := by
  by_cases hfree : ∀ handler watchdog, ¬ s.Waits handler watchdog
  · rw [handle_unwanted hsettled hfree]
    have hidle := slot_idle_of_free hsettled hfree
    refine ⟨by rw [Single.ended, hidle], hidle, fun id p => pending_none_of_free hfree, ?_, ?_, ?_,
      fun _ => rfl, fun _ _ => rfl⟩
    · intro id
      cases hfind : s.background.scans.find? id with
      | none => rfl
      | some p => rw [Option.map_some, Periodic.ended_of_idle (pending_none_of_free hfree hfind)]
    · exact fun a => ⟨fun ha => ⟨ha, fun _ _ hwaits => absurd hwaits (hfree _ _)⟩, fun ha => ha.1⟩
    · rintro ⟨handler, watchdog, hwaits⟩
      exact absurd hwaits (hfree handler watchdog)
  · have hwaits : ∃ handler watchdog, s.Waits handler watchdog := by simpa using hfree
    have hwaiting := (isWaiting_iff hsettled).mpr hwaits
    obtain ⟨single, world, hfinished, heq⟩ :=
      handle_ending fun raw h => ⟨hraw raw h, hwaiting⟩
    have hconfigs := s.background.finish_find? e world
    rw [heq]
    refine ⟨hfinished.ended, hfinished.slot_idle hsettled, ?_, hconfigs, ?_, ?_,
      fun h => absurd h hfree, ?_⟩
    · intro id q hq
      obtain ⟨p, -, rfl⟩ := Option.map_eq_some_iff.mp ((hconfigs id).symm.trans hq)
      exact p.ended_pending e
    · intro a
      have hfetched : (e.fetched s.iface w).timers = w.timers := by
        cases e <;> rfl
      rw [Background.active_finish, hfinished.active, hfetched, and_assoc]
      refine and_congr_right fun _ => ⟨?_, fun h => ⟨?_, ?_⟩⟩
      · rintro ⟨hslot, hscans⟩ handler watchdog hwaits
        cases hwaits with
        | single harmed => exact hslot _ harmed
        | cycle hfind hpending => exact hscans _ _ hfind _ hpending
      · exact fun scan harmed => h _ _ (.single harmed)
      · exact fun id p hfind c hpending => h _ _ (.cycle hfind hpending)
    · intro _
      rw [Background.log_finish, hfinished.log, Ending.log_fetched hraw]
      simp [closing]
    · intro listener hsilent
      rw [Background.heard_finish_of_other, hfinished.heard, Ending.heard_fetched]
      · intro scan harmed howns
        exact hsilent scan.timeout (howns ▸ Waits.single harmed)
      · intro id p c hfind hpending howns
        exact hsilent c.timeout (howns ▸ Waits.cycle hfind hpending)

end Scanner

/-! ## Every run -/

/-- A notice of the interface settles, in every state that a run can reach and whatever the radio
holds. The ids of the configurations, in whose order they are settled, increase. -/
theorem Run.notices_settle_what_waits [Radio ρ] (run : Run ρ) (w : World ρ) :
    Settlement run.now.scanner (.results (Radio.detections w.radio run.now.iface)) w
        (run.now.scanner.handle (.resultsAvailable run.now.iface) w) ∧
      (∀ reason, Settlement run.now.scanner (.failure reason) w
        (run.now.scanner.handle (.scanFailed run.now.iface reason) w)) ∧
      run.now.scanner.background.scans.keys.Pairwise (· < ·) := by
  refine ⟨?_, fun reason => ?_, ?_⟩
  · exact Scanner.handle_settles (e := .results _) run.settled fun raw h =>
      (Ending.results.inj h).symm
  · exact Scanner.handle_settles (e := .failure reason) run.settled (by simp)
  · exact List.pairwise_map.mpr run.now.scanner.background.scans.sorted

namespace Sample

/-- A single scan waits, and so does the second of two configurations: the first cycle of the first
one was refused. -/
def mixed : Run Replay :=
  run
    [.outside (.radio (radio .reject)), .background (some settings) (some (handler 1)),
      .outside (.radio (radio .silent)), .background (some settings) (some (handler 2)),
      .single (some settings) (some (handler 3))]

/-- One fetch serves both, and the alarm of the refused cycle's configuration stays. -/
example :
    let settled := mixed.now.scanner.handle (.resultsAvailable "wlan0") mixed.now.world
    settled.2.log.drop mixed.now.world.log.length =
      [.fetch "wlan0" [], .cancel 4, .callback (handler 3) .statusAvailable, .cancel 3,
        .callback (handler 2) .statusAvailable] ∧
    settled.2.timers.active.map (·.handle) = [1, 2] := by
  decide +kernel

end Sample

end WirelessScan
