import WirelessScan.Program
import WirelessScan.Proofs.Settlement
import WirelessScan.Proofs.Snapshots
import WirelessScan.Proofs.Stored

/-!
# A scanner that works for the program

The program starts one scan and lets events be handled. From the start on, whatever waits for the
radio waits at the place of that scan, for the handler of the program and with its settings. So a
turn of the dispatch loop tells the program one of two things: the results notice that completed
the scan, with the records and one final callback, or failures.

Nothing is assumed about the events, the radio or the timers.
-/

namespace WirelessScan

variable {ρ : Type}

/-! ## Completions of a turn -/

namespace Station

variable [Radio ρ]

/-- What the next turn of the dispatch loop completes at a place. -/
def completion? (now : Station ρ) (place : Place) : Option Completion :=
  if now.completes .dispatch place then
    (now.waiting? place).map (⟨·, Radio.detections now.world.radio now.iface⟩)
  else none

variable {now : Station ρ} {place : Place}

theorem completion?_of_free (h : now.waiting? place = none) : now.completion? place = none := by
  simp [completion?, h]

theorem completion?_of_event {e : Event} {rest : List Event}
    (hqueue : now.world.queue.events = e :: rest) (he : e ≠ .resultsAvailable now.iface) :
    now.completion? place = none := by
  simp [completion?, completes_of_event hqueue he]

theorem completion?_idle (hqueue : now.world.queue.events = []) :
    now.completion? place = none := by
  simp [completion?, completes_idle hqueue]

theorem completion?_eq_some {x : Completion} (h : now.completion? place = some x) :
    now.completes .dispatch place = true ∧
      (now.waiting? place).map (⟨·, Radio.detections now.world.radio now.iface⟩) = some x := by
  unfold completion? at h
  split at h
  next hcompletes => exact ⟨hcompletes, h⟩
  next => cases h

theorem completion?_results {rest : List Event} {x : Waiting}
    (hqueue : now.world.queue.events = .resultsAvailable now.iface :: rest)
    (h : now.waiting? place = some x) :
    now.completion? place = some ⟨x, Radio.detections now.world.radio now.iface⟩ := by
  simp [completion?, completes_results hqueue h, h]

end Station

section Steps

variable [Radio ρ] {now next : Station ρ}

/-- After a completion its place shows the results of this completion. -/
theorem Step.latest_of_completion {place : Place} {x : Completion}
    (hstep : Step now .dispatch next) (h : now.completion? place = some x) :
    next.latest? place = some x.results := by
  obtain ⟨hcompletes, h⟩ := Station.completion?_eq_some h
  have hafter := hstep.snapshot place
  generalize next.latest? place = after at hafter
  cases hafter with
  | completed _ hwaiting =>
      rw [hwaiting] at h
      obtain rfl := Option.some.inj h
      rfl
  | begun hbegins => rw [Station.begins_of_completes hcompletes] at hbegins; cases hbegins
  | kept hnot => rw [hcompletes] at hnot; cases hnot

/-- A turn arms no slot. -/
theorem Step.slot_of_dispatch (hstep : Step now .dispatch next) {scan : InFlight}
    (hslot : next.scanner.single.slot = .armed scan) : now.scanner.single.slot = .armed scan := by
  cases hstep with
  | finished _ _ hfinished =>
      cases hfinished with
      | unarmed => exact hslot
      | armed => cases hslot
  | singleTimeout _ hexpired =>
      cases hexpired with
      | stale => exact hslot
      | own => cases hslot
  | _ => exact hslot

end Steps

namespace Settings

/-- Whether the completion of every bucket is reported. -/
def isBatched (s : Settings) : Bool :=
  s.buckets.all (·.flags.isBatched)

theorem isBatched_of_due {s : Settings} (h : s.isBatched = true) {n : UInt64}
    (hdue : s.dueBuckets n ≠ []) :
    ((s.dueBuckets n).map Prod.fst).any (·.flags.isBatched) = true := by
  obtain ⟨⟨b, i⟩, hb⟩ := List.exists_mem_of_ne_nil _ hdue
  have hmem : b ∈ s.buckets := List.mem_of_getElem? (mem_dueBuckets.mp hb).1
  exact List.any_eq_true.mpr
    ⟨b, List.mem_map.mpr ⟨(b, i), hb, rfl⟩, List.all_eq_true.mp h b hmem⟩

end Settings

/-- Settings whose buckets all have their completion reported make cycles that report it. -/
theorem Periodic.Ran.reportStatus [Radio ρ] {setup : Setup} {id : ScanId} {p q : Periodic}
    {w w' : World ρ} {refusal : Option Reason} (hran : Ran setup id p w (refusal, q, w'))
    (hbatched : p.settings.isBatched = true)
    (hold : ∀ c, p.pending = some c → c.reportStatus = true) :
    ∀ c, q.pending = some c → c.reportStatus = true := by
  cases hran with
  | admitted _ hdue =>
      intro c hc
      obtain rfl := Option.some.inj hc
      exact Settings.isBatched_of_due hbatched hdue
  | _ => exact hold

namespace Program

/-! ## Employment -/

/-- A scanner that works for nobody but the program: what waits for the radio waits at one place,
for the program's handler and with its settings. -/
structure Employed (settings : Settings) (place : Place) (s : Scanner) : Prop where
  slot : ∀ scan, s.single.slot = .armed scan →
    place = .single ∧ scan.handler = handler ∧ scan.fullResults = settings.wantsFullResults
  config : ∀ id p, s.background.scans.find? id = some p →
    place = .cycle id ∧ p.handler = handler ∧ p.settings = settings ∧
      ∀ c, p.pending = some c → c.reportStatus = true

namespace Employed

variable {settings : Settings} {place : Place} {s : Scanner}

theorem of_new (settings : Settings) (place : Place) (setup : Setup) :
    Employed settings place { setup } where
  slot _ hslot := by cases hslot
  config _ _ hfind := by cases hfind

/-- A scanner that runs a single scan for the program has no configuration. -/
theorem no_config (h : Employed settings .single s) (id : ScanId) :
    s.background.scans.find? id = none := by
  cases hfind : s.background.scans.find? id with
  | none => rfl
  | some p => cases (h.config id p hfind).1

/-- A scanner that runs cycles for the program has no single scan. -/
theorem not_armed {id : ScanId} (h : Employed settings (.cycle id) s) (scan : InFlight) :
    s.single.slot ≠ .armed scan := by
  intro hslot
  cases (h.slot scan hslot).1

/-- A scanner that runs cycles for the program has no configuration but that of the program. -/
theorem no_other_config {id other : ScanId} (h : Employed settings (.cycle id) s)
    (hid : other ≠ id) : s.background.scans.find? other = none := by
  cases hfind : s.background.scans.find? other with
  | none => rfl
  | some p =>
      obtain rfl := Place.cycle.inj (h.config other p hfind).1
      exact absurd rfl hid

variable [Radio ρ] {now next : Station ρ}

/-- A turn does not change whom a scanner works for. -/
theorem dispatched (h : Employed settings place now.scanner) (hbatched : settings.isBatched = true)
    (hstep : Step now .dispatch next) : Employed settings place next.scanner where
  slot scan hslot := h.slot scan (hstep.slot_of_dispatch hslot)
  config id p hfind := by
    cases hstep.origin hfind with
    | begun hmove => cases hmove
    | @ticked _ q _ _ _ _ hnow _ hran =>
        obtain ⟨hplace, hhandler, hsettings, hstatus⟩ := h.config id q hnow
        refine ⟨hplace, hran.handler.trans hhandler, hran.settings.trans hsettings, ?_⟩
        exact hran.reportStatus ((congrArg Settings.isBatched hsettings).trans hbatched) hstatus
    | @ended q e _ hnow =>
        obtain ⟨hplace, hhandler, hsettings, -⟩ := h.config id q hnow
        refine ⟨hplace, (q.ended_handler e).trans hhandler,
          (q.ended_settings e).trans hsettings, ?_⟩
        intro c hc
        rw [q.ended_pending e] at hc
        cases hc
    | kept _ hnow => exact h.config id p hnow

end Employed

/-! ## What the program hears of a turn -/

/-- What a turn tells the program: a completion, with its records first, or failures. -/
inductive Told [Radio ρ] (settings : Settings) (place : Place) (now : Station ρ) :
    List Callback → Prop where
  | completed {x : Completion} {full : Bool} (hcompletion : now.completion? place = some x)
      (hfull : place = .single → full = settings.wantsFullResults) :
      Told settings place now (x.results.reports full ++ [.statusAvailable])
  | failed {said : List Callback} (hcompletion : now.completion? place = none)
      (hsaid : ∀ c ∈ said, ∃ reason, c = .requestFailed reason) : Told settings place now said

/-- What the end of what waits for the radio tells the program. -/
def lastWords (s : Scanner) (e : WirelessScan.Ending) : Place → List Callback
  | .single =>
    match s.single.slot with
    | .armed scan => e.records scan ++ [e.last]
    | _ => []
  | .cycle id => (s.background.scans.find? id).elim [] (Periodic.reports e)

section Turns

variable [Radio ρ] {settings : Settings} {place : Place} {now next : Station ρ}
  {e : WirelessScan.Ending}

omit [Radio ρ] in
/-- What is said at the end of a scan is all that the program hears. -/
theorem Employed.heard_finished {s : Scanner} (h : Employed settings place s) {single : Single}
    {w w' : World ρ} (hfinished : Single.Finished e s.single w (single, w')) :
    (s.background.finish e w').2.heard handler = w.heard handler ++ lastWords s e place := by
  cases place with
  | single =>
      have hidle : s.background.finish e w' = (s.background, w') :=
        Background.finish_of_idle e fun id p hfind => by rw [h.no_config id] at hfind; cases hfind
      rw [hidle]
      cases hfinished with
      | unarmed hslot =>
          have hnone : lastWords s e .single = [] := by
            rw [lastWords]
            split
            next scan harmed => exact absurd harmed (hslot scan)
            next => rfl
          rw [hnone, List.append_nil]
      | @armed scan hslot =>
          have hsaid : lastWords s e .single = e.records scan ++ [e.last] := by rw [lastWords, hslot]
          rw [World.heard_notifyAll, World.heard_cancel, if_pos (h.slot scan hslot).2.1, hsaid]
  | cycle id =>
      rw [lastWords]
      have hbefore : w'.heard handler = w.heard handler :=
        hfinished.heard fun scan hslot => absurd hslot (h.not_armed scan)
      cases hfind : s.background.scans.find? id with
      | none =>
          have hidle : s.background.finish e w' = (s.background, w') := by
            refine Background.finish_of_idle e fun other p hother => ?_
            obtain rfl := Place.cycle.inj (h.config other p hother).1
            rw [hfind] at hother
            cases hother
          rw [hidle, hbefore]
          exact (List.append_nil _).symm
      | some p =>
          have hhandler := (h.config id p hfind).2.1
          have hheard := Background.heard_finish hfind
            (fun other q hother _ => (Place.cycle.inj (h.config other q hother).1).symm) e w'
          rw [hhandler, hbefore] at hheard
          exact hheard

/-- A turn with another event than results tells the program of a failure at most. -/
theorem Told.of_failure {event : Event} {rest : List Event}
    (hqueue : now.world.queue.events = event :: rest) (hevent : event ≠ .resultsAvailable now.iface)
    (reason : Reason) (told : Prop) [Decidable told] :
    Told settings place now (if told then [.requestFailed reason] else []) := by
  refine .failed (Station.completion?_of_event hqueue hevent) fun c hc => ?_
  split at hc
  · exact ⟨reason, List.mem_singleton.mp hc⟩
  · cases hc

theorem Told.of_silence (h : now.completion? place = none) : Told settings place now [] :=
  .failed h fun c hc => by cases hc

/-- A turn without a callback tells the program nothing. -/
theorem Told.of_unheard (hheard : next.world.heard handler = now.world.heard handler)
    (h : now.completion? place = none) :
    ∃ said, next.world.heard handler = now.world.heard handler ++ said ∧
      Told settings place now said :=
  ⟨[], hheard.trans (List.append_nil _).symm, .of_silence h⟩

/-- The results notice completes the scan of the program, if it waits. -/
theorem Employed.told_results (h : Employed settings place now.scanner) {rest : List Event}
    (hqueue : now.world.queue.events = .resultsAvailable now.iface :: rest) :
    Told settings place now
      (lastWords now.scanner (.results (Radio.detections now.world.radio now.iface)) place) := by
  cases place with
  | single =>
      cases hslot : now.scanner.single.slot with
      | armed scan =>
          have hwaiting : now.waiting? .single = some scan.waiting := by
            simp [Station.waiting?, Slot.waiting?, hslot]
          rw [lastWords, hslot]
          exact .completed (Station.completion?_results hqueue hwaiting)
            fun _ => (h.slot scan hslot).2.2
      | _ =>
          rw [lastWords, hslot]
          exact .of_silence (Station.completion?_of_free (by simp [Station.waiting?, Slot.waiting?,
            hslot]))
  | cycle id =>
      rw [lastWords]
      cases hfind : now.scanner.background.scans.find? id with
      | none =>
          exact .of_silence (Station.completion?_of_free (by
            simp [Station.waiting?, Station.config?, hfind]))
      | some p =>
          have hwaiting : now.waiting? (.cycle id) = p.pending.map Cycle.waiting :=
            Station.waiting?_cycle hfind
          rw [Option.elim_some, Periodic.reports]
          cases hpending : p.pending with
          | none =>
              rw [hpending] at hwaiting
              exact .of_silence (Station.completion?_of_free hwaiting)
          | some c =>
              rw [hpending] at hwaiting
              have hstatus := (h.config id p hfind).2.2.2 c hpending
              rw [Option.elim_some, WirelessScan.Ending.report, Cycle.completion, if_pos hstatus]
              exact .completed (Station.completion?_results hqueue hwaiting) (by simp)

/-- A notice of failure tells the program of a failure at most. -/
theorem told_failure {reason : Reason} {rest : List Event}
    (hqueue : now.world.queue.events = .scanFailed now.iface reason :: rest) :
    Told settings place now (lastWords now.scanner (.failure reason) place) := by
  refine .failed (Station.completion?_of_event hqueue (by simp)) fun c hc => ⟨reason, ?_⟩
  cases place with
  | single =>
      rw [lastWords] at hc
      split at hc
      · exact List.mem_singleton.mp hc
      · cases hc
  | cycle id =>
      rw [lastWords] at hc
      cases hfind : now.scanner.background.scans.find? id with
      | none => rw [hfind] at hc; cases hc
      | some p =>
          rw [hfind, Option.elim_some, Periodic.reports] at hc
          cases hpending : p.pending with
          | none => rw [hpending] at hc; cases hc
          | some cycle => rw [hpending] at hc; exact List.mem_singleton.mp hc

/-- What a turn adds to what the program hears. -/
theorem Employed.told (h : Employed settings place now.scanner) (hstep : Step now .dispatch next) :
    ∃ said, next.world.heard handler = now.world.heard handler ++ said ∧
      Told settings place now said := by
  cases hstep with
  | idle hqueue => exact Told.of_unheard rfl (Station.completion?_idle hqueue)
  | @finished e _ _ _ hqueue hraw hfinished =>
      refine ⟨lastWords now.scanner e place, ?_, ?_⟩
      · rw [h.heard_finished hfinished, WirelessScan.Ending.heard_fetched]
        rfl
      · cases e with
        | results raw =>
            obtain ⟨rfl, -⟩ := hraw raw rfl
            exact h.told_results hqueue
        | failure reason => exact told_failure hqueue
  | unwanted _ hidle =>
      exact Told.of_unheard rfl
        (Station.completion?_of_free (Station.waiting?_of_not_isWaiting hidle _))
  | singleTimeout hqueue hexpired =>
      cases hexpired with
      | stale => exact Told.of_unheard rfl (Station.completion?_of_event hqueue (by simp))
      | own => exact ⟨_, World.heard_notify _ _ _ _, .of_failure hqueue (by simp) _ _⟩
  | period hqueue hticked =>
      cases hticked with
      | stale => exact Told.of_unheard rfl (Station.completion?_of_event hqueue (by simp))
      | @ticked _ q refusal w _ _ hran =>
          have hheard : w.heard handler = now.world.heard handler :=
            World.heard_congr (hran.callbacks.trans (World.schedule_callbacks _ _ _)) handler
          cases refusal with
          | none =>
              exact Told.of_unheard hheard (Station.completion?_of_event hqueue (by simp))
          | some reason =>
              refine ⟨_, ?_, .of_failure hqueue (by simp) reason (q.handler = handler)⟩
              rw [← hheard]
              exact World.heard_notify _ _ _ _
  | cycleTimeout hqueue hexpired =>
      cases hexpired with
      | stale => exact Told.of_unheard rfl (Station.completion?_of_event hqueue (by simp))
      | own => exact ⟨_, World.heard_notify _ _ _ _, .of_failure hqueue (by simp) _ _⟩
  | rejection hqueue =>
      exact ⟨_, World.heard_notify _ _ _ _, .of_failure hqueue (by simp) _ _⟩
  | cycleRejection hqueue =>
      exact ⟨_, Background.heard_rejectCycle _ _ _ _ _, .of_failure hqueue (by simp) _ _⟩
  | foreign hqueue hiface =>
      refine Told.of_unheard rfl (Station.completion?_of_event hqueue ?_)
      intro heq
      exact hiface (by rw [heq]; rfl)

end Turns

end Program

end WirelessScan
