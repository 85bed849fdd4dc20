import WirelessScan.Proofs.Effects
import WirelessScan.Proofs.Traversal
import WirelessScan.Scanner

/-!
# What an operation can come to

Each operation of the two halves of a scanner is described once, as a relation with a named case
for each way it can go: what held before, what it answers, and the state and the world it leaves.
Everything that is proved of scanners later is a case analysis over these relations.
-/

namespace WirelessScan

variable {ρ : Type}

/-! ## Callbacks of a completion -/

namespace World

/-- Makes several callbacks to a handler. -/
def notifyAll (w : World ρ) (handler : Handler) (cs : List Callback) : World ρ :=
  cs.foldl (fun w c => w.notify handler c) w

section

variable (w : World ρ) (handler : Handler) (cs : List Callback)

@[simp] theorem notifyAll_timers : (w.notifyAll handler cs).timers = w.timers := by
  induction cs generalizing w with
  | nil => rfl
  | cons c cs ih => exact ih (w.notify handler c)

@[simp] theorem notifyAll_queue : (w.notifyAll handler cs).queue = w.queue := by
  induction cs generalizing w with
  | nil => rfl
  | cons c cs ih => exact ih (w.notify handler c)

@[simp] theorem notifyAll_notices : (w.notifyAll handler cs).notices = w.notices := by
  induction cs generalizing w with
  | nil => rfl
  | cons c cs ih => exact ih (w.notify handler c)

theorem notifyAll_callbacks : (w.notifyAll handler cs).callbacks =
    w.callbacks ++ cs.map fun c => (handler, c) := by
  induction cs generalizing w with
  | nil => simp [notifyAll]
  | cons c cs ih =>
      have htail := ih (w.notify handler c)
      rw [notify_callbacks, List.append_assoc] at htail
      exact htail

@[simp] theorem notifyAll_issued : (w.notifyAll handler cs).issued = w.issued := by
  induction cs generalizing w with
  | nil => rfl
  | cons c cs ih => exact (ih (w.notify handler c)).trans (notify_issued w handler c)

@[simp] theorem notifyAll_scheduledFor (id : ScanId) :
    (w.notifyAll handler cs).scheduledFor id = w.scheduledFor id := by
  induction cs generalizing w with
  | nil => rfl
  | cons c cs ih => exact (ih (w.notify handler c)).trans (notify_scheduledFor w handler c id)

@[simp] theorem notifyAll_admissions : (w.notifyAll handler cs).admissions = w.admissions := by
  induction cs generalizing w with
  | nil => rfl
  | cons c cs ih => exact (ih (w.notify handler c)).trans (notify_admissions w handler c)

theorem heard_notifyAll (listener : Handler) : (w.notifyAll handler cs).heard listener =
    w.heard listener ++ if handler = listener then cs else [] := by
  by_cases h : handler = listener <;>
    simp [heard, notifyAll_callbacks, List.filter_map, Function.comp_def, h]

end

end World

/-- One callback for each record of a result set, if every record was asked for. -/
def ResultSet.reports (r : ResultSet) (full : Bool) : List Callback :=
  if full then r.detections.map fun d => .fullResult d r.buckets else []

theorem ResultSet.reports_isTerminal {r : ResultSet} {full : Bool} {c : Callback}
    (h : c ∈ r.reports full) : c.isTerminal = false := by
  unfold reports at h
  split at h
  · obtain ⟨d, _, rfl⟩ := List.mem_map.mp h
    rfl
  · cases h

theorem ResultSet.reports_eq (w : World ρ) (handler : Handler) (r shown : ResultSet)
    (full : Bool) :
    (if full then Single.reportRecords (World.call handler · shown) r w else w) =
      w.notifyAll handler (r.reports full) := by
  cases full with
  | false => rfl
  | true => simp [World.notifyAll, reports, Single.reportRecords, World.call, List.foldl_map]

/-- The results of a single scan out of everything the radio holds. -/
def InFlight.results (scan : InFlight) (raw : List Detection) : ResultSet :=
  .reconcile raw scan.start (some scan.request.frequencies) 0

/-- The results of a cycle out of everything the radio holds. -/
def Cycle.results (c : Cycle) (raw : List Detection) : ResultSet :=
  .reconcile raw c.start (some c.request.frequencies) c.buckets

/-- What the handler of a configuration hears when a cycle completes. -/
def Cycle.completion (c : Cycle) (raw : List Detection) : List Callback :=
  (c.results raw).reports c.fullResults ++ if c.reportStatus then [.statusAvailable] else []

/-! ## Endings -/

/-- How the radio ends what waits for it: it has results, or it gives up. -/
inductive Ending where
  | results (raw : List Detection)
  | failure (reason : Reason)

namespace Ending

/-- The event that brings an ending about. -/
def event (iface : String) : Ending → Event
  | results _ => .resultsAvailable iface
  | failure reason => .scanFailed iface reason

/-- What a single scan reports before its last callback. -/
def records (scan : InFlight) : Ending → List Callback
  | results raw => (scan.results raw).reports scan.fullResults
  | failure _ => []

/-- The last callback of a single scan. -/
def last : Ending → Callback
  | results _ => .statusAvailable
  | failure reason => .requestFailed reason

/-- The results that a single scan leaves behind. -/
def latest (scan : InFlight) (old : ResultSet) : Ending → ResultSet
  | results raw => scan.results raw
  | failure _ => old

/-- What the handler of a configuration hears of its cycle. -/
def report (c : Cycle) : Ending → List Callback
  | results raw => c.completion raw
  | failure reason => [.requestFailed reason]

/-- The world in which the scans end: results are fetched first. -/
def fetched [Radio ρ] (iface : String) (w : World ρ) : Ending → World ρ
  | results _ => (w.fetch iface).2
  | failure _ => w

theorem records_isTerminal {e : Ending} {scan : InFlight} {c : Callback}
    (h : c ∈ e.records scan) : c.isTerminal = false := by
  cases e with
  | results raw => exact ResultSet.reports_isTerminal h
  | failure reason => cases h

theorem last_isTerminal (e : Ending) : e.last.isTerminal = true := by
  cases e <;> rfl

@[simp] theorem heard_fetched [Radio ρ] (e : Ending) (iface : String) (w : World ρ)
    (listener : Handler) : (e.fetched iface w).heard listener = w.heard listener := by
  cases e with
  | results raw => exact w.heard_fetch iface listener
  | failure reason => rfl

end Ending

/-! ## The single scan -/

namespace Single

variable {s : Single} {w : World ρ}

/-- What starting a single scan can come to. -/
inductive Started [Radio ρ] (setup : Setup) (s : Single) (w : World ρ) :
    Option Settings → Option Handler → Bool × Single × World ρ → Prop where
  | refused {settings : Option Settings} {handler : Option Handler}
      (hrefused : settings = none ∨ handler = none ∨ s.slot ≠ .idle) :
      Started setup s w settings handler (false, s, w)
  | unresolved {settings : Settings} {handler : Handler} {error : ScanError}
      (hidle : s.slot = .idle)
      (hresolve : setup.resolve settings settings.buckets = .error error) :
      Started setup s w (some settings) (some handler)
        (true, s, w.post (.admissionRejected setup.iface handler error.reason))
  | rejected {settings : Settings} {handler : Handler} {request : Request}
      (hidle : s.slot = .idle)
      (hresolve : setup.resolve settings settings.buckets = .ok request)
      (hanswer : w.answer setup.iface request ≠ .succeeded) :
      Started setup s w (some settings) (some handler)
        (true, { s with slot := .idle },
          (w.asked setup.iface request).post
            (.admissionRejected setup.iface handler (w.answer setup.iface request)))
  | armed {settings : Settings} {handler : Handler} {request : Request}
      (hidle : s.slot = .idle)
      (hresolve : setup.resolve settings settings.buckets = .ok request)
      (hanswer : w.answer setup.iface request = .succeeded) :
      Started setup s w (some settings) (some handler)
        (true,
          { s with
            slot := .armed
              { handler, request, fullResults := settings.wantsFullResults, start := w.clock
                timeout := w.timers.next } },
          ((w.asked setup.iface request).schedule (.singleTimeout setup.iface) setup.timeout).2)

theorem inFlight_iff : s.inFlight = true ↔ s.slot ≠ .idle := by
  simp [inFlight]

theorem start_started [Radio ρ] (setup : Setup) (s : Single) (settings : Option Settings)
    (handler : Option Handler) (w : World ρ) :
    Started setup s w settings handler (s.start setup settings handler w) := by
  unfold start
  split
  next settings handler =>
    split
    next hflight => exact .refused (.inr (.inr (inFlight_iff.mp hflight)))
    next hflight =>
      have hidle : s.slot = .idle := by simpa [inFlight] using hflight
      split
      next hresolve => exact .unresolved hidle hresolve
      next request hresolve =>
        dsimp only
        split
        next hstatus => exact .armed hidle hresolve (Reason.isSuccess_iff.mp hstatus)
        next hstatus =>
          exact .rejected hidle hresolve fun h => hstatus (Reason.isSuccess_iff.mpr h)
  next hnot =>
    refine .refused ?_
    cases settings with
    | none => exact .inl rfl
    | some settings =>
        cases handler with
        | none => exact .inr (.inl rfl)
        | some handler => exact (hnot settings handler rfl rfl).elim

/-- What an ending can come to. -/
inductive Finished (e : Ending) (s : Single) (w : World ρ) : Single × World ρ → Prop where
  | unarmed (hslot : ∀ scan, s.slot ≠ .armed scan) : Finished e s w (s, w)
  | armed {scan : InFlight} (hslot : s.slot = .armed scan) :
      Finished e s w
        ({ slot := .idle, latest := e.latest scan s.latest },
          (w.cancel scan.timeout).notifyAll scan.handler (e.records scan ++ [e.last]))

theorem complete_finished (s : Single) (raw : List Detection) (w : World ρ) :
    Finished (.results raw) s w (s.complete raw w) := by
  cases hslot : s.slot with
  | armed scan =>
      have hcomplete : s.complete raw w =
          ({ slot := .idle, latest := scan.results raw },
            (w.cancel scan.timeout).notifyAll scan.handler
              ((scan.results raw).reports scan.fullResults ++ [.statusAvailable])) := by
        simp only [complete, completeBy, hslot, ResultSet.reports_eq]
        simp [World.notifyAll, World.call, InFlight.results, List.foldl_append]
      rw [hcomplete]
      exact .armed (e := .results raw) hslot
  | _ =>
      simp only [complete, completeBy, hslot]
      exact .unarmed (by simp [hslot])

theorem fail_finished (s : Single) (reason : Reason) (w : World ρ) :
    Finished (.failure reason) s w (s.fail reason w) := by
  cases hslot : s.slot with
  | armed scan =>
      simp only [fail, hslot]
      exact .armed (e := .failure reason) hslot
  | _ =>
      simp only [fail, hslot]
      exact .unarmed (by simp [hslot])

/-- What an expiry under the tag of the watchdog can come to. -/
inductive Expired (s : Single) (handle : TimerHandle) (w : World ρ) : Single × World ρ → Prop where
  | stale (hstale : ∀ scan, s.slot = .armed scan → scan.timeout ≠ handle) :
      Expired s handle w (s, w)
  | own {scan : InFlight} (hslot : s.slot = .armed scan) (hhandle : scan.timeout = handle) :
      Expired s handle w
        ({ s with slot := .idle }, w.notify scan.handler (.requestFailed .timeout))

theorem expire_expired (s : Single) (handle : TimerHandle) (w : World ρ) :
    Expired s handle w (s.expire handle w) := by
  unfold expire
  split
  next scan hslot =>
    split
    next hhandle => exact .own hslot hhandle
    next hhandle =>
      refine .stale ?_
      intro scan' hslot'
      obtain rfl := Slot.armed.inj (hslot.symm.trans hslot')
      exact hhandle
  next hslot => exact .stale fun scan hslot' => (hslot scan hslot').elim

end Single

/-! ## The cycles of a configuration -/

namespace Periodic

/-- A configuration whose current cycle is over or skipped. -/
def advanced (p : Periodic) : Periodic :=
  { p with cycle := p.cycle + 1 }

/-- The buckets that are due in the next cycle of a configuration. -/
def due (p : Periodic) : List (Bucket × Nat) :=
  p.settings.dueBuckets p.cycle

/-- The cycle that the next tick of a configuration begins if the radio admits it. -/
def nextCycle (p : Periodic) (request : Request) (start : UInt64) (timeout : TimerHandle) :
    Cycle where
  request
  buckets := bucketMask (p.due.map Prod.snd)
  fullResults := (ReportFlags.ofBuckets (p.due.map Prod.fst)).contains .fullScanResult
  reportStatus := (p.due.map Prod.fst).any (·.flags.isBatched)
  start
  timeout

/-- What running the next cycle of a configuration can come to. -/
inductive Ran [Radio ρ] (setup : Setup) (id : ScanId) (p : Periodic) (w : World ρ) :
    Option Reason × Periodic × World ρ → Prop where
  | skipped (hskip : p.pending.isSome ∨ p.due = []) : Ran setup id p w (none, p.advanced, w)
  | unresolved {error : ScanError} (hidle : p.pending = none) (hdue : p.due ≠ [])
      (hresolve : setup.resolve p.settings (p.due.map Prod.fst) = .error error) :
      Ran setup id p w (some error.reason, p.advanced, w)
  | rejected {request : Request} (hidle : p.pending = none) (hdue : p.due ≠ [])
      (hresolve : setup.resolve p.settings (p.due.map Prod.fst) = .ok request)
      (hanswer : w.answer setup.iface request ≠ .succeeded) :
      Ran setup id p w
        (some (w.answer setup.iface request), p.advanced, w.asked setup.iface request)
  | admitted {request : Request} (hidle : p.pending = none) (hdue : p.due ≠ [])
      (hresolve : setup.resolve p.settings (p.due.map Prod.fst) = .ok request)
      (hanswer : w.answer setup.iface request = .succeeded) :
      Ran setup id p w
        (none, { p.advanced with pending := some (p.nextCycle request w.clock w.timers.next) },
          ((w.asked setup.iface request).schedule (.cycleTimeout setup.iface id) setup.timeout).2)

theorem runCycle_ran [Radio ρ] (setup : Setup) (id : ScanId) (p : Periodic) (w : World ρ) :
    Ran setup id p w (p.runCycle setup id w) := by
  unfold runCycle
  dsimp only
  split
  next hskip => exact .skipped (by simpa [due] using hskip)
  next hrun =>
    have hrun' : p.pending = none ∧ p.due ≠ [] := by simpa [due] using hrun
    split
    next hresolve => exact .unresolved hrun'.1 hrun'.2 hresolve
    next request hresolve =>
      split
      next hstatus =>
        exact .admitted hrun'.1 hrun'.2 hresolve (Reason.isSuccess_iff.mp hstatus)
      next hstatus =>
        exact .rejected hrun'.1 hrun'.2 hresolve fun h => hstatus (Reason.isSuccess_iff.mpr h)

/-- A configuration whose waiting cycle, if there is one, is completed. -/
def completed (p : Periodic) (raw : List Detection) : Periodic :=
  match p.pending with
  | none => p
  | some c => { p with pending := none, latest := c.results raw }

/-- A configuration whose waiting cycle, if there is one, is given up. -/
def dropped (p : Periodic) : Periodic :=
  { p with pending := none }

/-- A configuration whose waiting cycle, if there is one, has ended. -/
def ended (e : Ending) (p : Periodic) : Periodic :=
  match e with
  | .results raw => p.completed raw
  | .failure _ => p.dropped

@[simp] theorem ended_settings (e : Ending) (p : Periodic) :
    (p.ended e).settings = p.settings := by
  unfold ended completed
  split <;> (try split) <;> rfl

@[simp] theorem ended_handler (e : Ending) (p : Periodic) : (p.ended e).handler = p.handler := by
  unfold ended completed
  split <;> (try split) <;> rfl

@[simp] theorem ended_cycle (e : Ending) (p : Periodic) : (p.ended e).cycle = p.cycle := by
  unfold ended completed
  split <;> (try split) <;> rfl

@[simp] theorem ended_periodTimer (e : Ending) (p : Periodic) :
    (p.ended e).periodTimer = p.periodTimer := by
  unfold ended completed
  split <;> (try split) <;> rfl

@[simp] theorem ended_pending (e : Ending) (p : Periodic) : (p.ended e).pending = none := by
  unfold ended completed
  split
  · split
    next hpending => exact hpending
    next => rfl
  · rfl

theorem ended_of_idle {p : Periodic} (h : p.pending = none) (e : Ending) : p.ended e = p := by
  cases e with
  | results raw => simp [ended, completed, h]
  | failure reason => cases p; simp_all [ended, dropped]

/-- The waiting cycle of a configuration ends. -/
def finish (e : Ending) (p : Periodic) (w : World ρ) : Periodic × World ρ :=
  (p.ended e,
    p.pending.elim w fun c => (w.cancel c.timeout).notifyAll p.handler (e.report c))

theorem finish_of_idle {p : Periodic} (e : Ending) (h : p.pending = none) (w : World ρ) :
    p.finish e w = (p, w) := by
  rw [finish, ended_of_idle h, h]
  rfl

theorem complete_eq_finish (p : Periodic) (raw : List Detection) (w : World ρ) :
    p.complete raw w = p.finish (.results raw) w := by
  unfold complete completeBy finish ended completed
  cases p.pending with
  | none => rfl
  | some c =>
      simp only [ResultSet.reports_eq]
      cases hstatus : c.reportStatus <;>
        simp [World.notifyAll, World.call, Ending.report, Cycle.completion, Cycle.results, hstatus,
          List.foldl_append]

theorem fail_eq_finish (p : Periodic) (reason : Reason) (w : World ρ) :
    p.fail reason w = p.finish (.failure reason) w := by
  unfold fail finish ended dropped
  cases hpending : p.pending with
  | none => cases p; simp_all
  | some c => rfl

/-- What the end of the waiting cycle, if there is one, says to the handler. -/
def reports (e : Ending) (p : Periodic) : List Callback :=
  p.pending.elim [] e.report

@[simp] theorem reports_ended (e : Ending) (p : Periodic) : (p.ended e).reports e = [] := by
  simp [reports]

theorem heard_finish (p : Periodic) (e : Ending) (w : World ρ) (listener : Handler) :
    (p.finish e w).2.heard listener =
      w.heard listener ++ if p.handler = listener then p.reports e else [] := by
  unfold finish reports
  cases p.pending with
  | none => simp
  | some c => simp [World.heard_notifyAll]

/-- Cancels the alarms of a configuration. -/
def disarm (p : Periodic) (w : World ρ) : World ρ :=
  p.pending.elim (w.cancel p.periodTimer) fun c => (w.cancel p.periodTimer).cancel c.timeout

end Periodic

/-! ## The periodic scans -/

namespace Background

variable {b : Background} {w : World ρ}

/-- What starting a configuration can come to. -/
inductive Started [Radio ρ] (setup : Setup) (b : Background) (w : World ρ) :
    Option Settings → Option Handler → Option ScanId × Background × World ρ → Prop where
  | refused {settings : Option Settings} {handler : Option Handler}
      (hrefused : settings = none ∨ handler = none ∨
        ∃ s, settings = some s ∧ s.isPeriodic = false) :
      Started setup b w settings handler (none, b, w)
  | unresolved {settings : Settings} {handler : Handler} {error : ScanError}
      (hperiodic : settings.isPeriodic = true)
      (hresolve : setup.resolve settings settings.buckets = .error error) :
      Started setup b w (some settings) (some handler)
        (some b.nextId, { b with nextId := b.nextId + 1 },
          w.post (.admissionRejected setup.iface handler error.reason))
  | activated {settings : Settings} {handler : Handler} {request : Request}
      {refusal : Option Reason} {p : Periodic} {w' : World ρ}
      (hperiodic : settings.isPeriodic = true)
      (hresolve : setup.resolve settings settings.buckets = .ok request)
      (hran : Periodic.Ran setup b.nextId
        { settings, handler, periodTimer := w.timers.next }
        (w.schedule (.period setup.iface b.nextId) settings.basePeriod.toUInt64).2
        (refusal, p, w')) :
      Started setup b w (some settings) (some handler)
        (some b.nextId, { nextId := b.nextId + 1, scans := b.scans.insert b.nextId p },
          refusal.elim w' fun reason => w'.post (.cycleRejected setup.iface b.nextId reason))

theorem start_started [Radio ρ] (setup : Setup) (b : Background) (settings : Option Settings)
    (handler : Option Handler) (w : World ρ) :
    Started setup b w settings handler (b.start setup settings handler w) := by
  unfold start
  split
  next settings handler =>
    split
    next hperiodic => exact .refused (.inr (.inr ⟨settings, rfl, by simpa using hperiodic⟩))
    next hperiodic =>
      have hperiodic' : settings.isPeriodic = true := by simpa using hperiodic
      dsimp only
      split
      next hresolve => exact .unresolved hperiodic' hresolve
      next request hresolve =>
        -- The alarm of the period and the cycle that runs with it are one unit for what follows.
        generalize hscheduled : w.schedule (.period setup.iface b.nextId)
          settings.basePeriod.toUInt64 = scheduled
        have hran := Periodic.runCycle_ran setup b.nextId
          { settings, handler, periodTimer := scheduled.1 } scheduled.2
        generalize Periodic.runCycle setup b.nextId
          { settings, handler, periodTimer := scheduled.1 } scheduled.2 = r at hran ⊢
        subst hscheduled
        obtain ⟨refusal, p, w'⟩ := r
        cases refusal with
        | none => exact .activated hperiodic' hresolve hran
        | some reason => exact .activated hperiodic' hresolve hran
  next hnot =>
    refine .refused ?_
    cases settings with
    | none => exact .inl rfl
    | some settings =>
        cases handler with
        | none => exact .inr (.inl rfl)
        | some handler => exact (hnot settings handler rfl rfl).elim

/-- What an expiry under the tag of a period timer can come to. -/
inductive Ticked [Radio ρ] (setup : Setup) (b : Background) (id : ScanId) (handle : TimerHandle)
    (w : World ρ) : Background × World ρ → Prop where
  | stale (hstale : ∀ p, b.scans.find? id = some p → p.periodTimer ≠ handle) :
      Ticked setup b id handle w (b, w)
  | ticked {p p' : Periodic} {refusal : Option Reason} {w' : World ρ}
      (hfind : b.scans.find? id = some p) (hhandle : p.periodTimer = handle)
      (hran : Periodic.Ran setup id { p with periodTimer := w.timers.next }
        (w.schedule (.period setup.iface id) p.settings.basePeriod.toUInt64).2
        (refusal, p', w')) :
      Ticked setup b id handle w
        ({ b with scans := b.scans.insert id p' },
          refusal.elim w' fun reason => w'.notify p'.handler (.requestFailed reason))

theorem tick_ticked [Radio ρ] (setup : Setup) (b : Background) (id : ScanId)
    (handle : TimerHandle) (w : World ρ) :
    Ticked setup b id handle w (b.tick setup id handle w) := by
  unfold tick
  split
  next hfind => exact .stale fun p hp => by simp [hfind] at hp
  next p hfind =>
    split
    next hhandle =>
      generalize hscheduled : w.schedule (.period setup.iface id)
        p.settings.basePeriod.toUInt64 = scheduled
      have hran := Periodic.runCycle_ran setup id { p with periodTimer := scheduled.1 } scheduled.2
      dsimp only
      generalize Periodic.runCycle setup id { p with periodTimer := scheduled.1 } scheduled.2 = r
        at hran ⊢
      subst hscheduled
      obtain ⟨refusal, p', w'⟩ := r
      cases refusal with
      | none => exact .ticked hfind hhandle hran
      | some reason => exact .ticked hfind hhandle hran
    next hhandle =>
      refine .stale ?_
      intro q hq
      obtain rfl := Option.some.inj (hfind.symm.trans hq)
      exact hhandle

theorem stop_inactive {id : ScanId} (h : b.scans.find? id = none) :
    b.stop id w = (false, b, w) := by
  unfold stop
  rw [h]

theorem stop_active {id : ScanId} {p : Periodic} (h : b.scans.find? id = some p) :
    b.stop id w = (true, { b with scans := b.scans.erase id }, p.disarm w) := by
  unfold stop Periodic.disarm
  rw [h]
  cases hpending : p.pending <;> simp [hpending]

/-- What an expiry under the tag of the watchdog of a cycle can come to. -/
inductive Expired (b : Background) (id : ScanId) (handle : TimerHandle) (w : World ρ) :
    Background × World ρ → Prop where
  | stale (hstale : ∀ p c, b.scans.find? id = some p → p.pending = some c → c.timeout ≠ handle) :
      Expired b id handle w (b, w)
  | own {p : Periodic} {c : Cycle} (hfind : b.scans.find? id = some p)
      (hpending : p.pending = some c) (hhandle : c.timeout = handle) :
      Expired b id handle w
        ({ b with scans := b.scans.insert id p.dropped },
          w.notify p.handler (.requestFailed .timeout))

theorem expire_expired (b : Background) (id : ScanId) (handle : TimerHandle) (w : World ρ) :
    Expired b id handle w (b.expire id handle w) := by
  unfold expire
  split
  next hfind => exact .stale fun p c hp => by simp [hfind] at hp
  next p hfind =>
    split
    next htimeout =>
      obtain ⟨c, hpending, hhandle⟩ := Option.map_eq_some_iff.mp htimeout
      exact .own hfind hpending hhandle
    next htimeout =>
      refine .stale ?_
      intro q c hq hpending hhandle
      apply htimeout
      obtain rfl := Option.some.inj (hfind.symm.trans hq)
      rw [hpending, Option.map_some, hhandle]

section Refusal

variable (b : Background) (id : ScanId) (reason : Reason) (w : World ρ)

@[simp] theorem rejectCycle_timers : (b.rejectCycle id reason w).timers = w.timers := by
  unfold rejectCycle
  split <;> rfl

/-- The refusal of a cycle is told to the handler of its configuration. -/
theorem heard_rejectCycle (listener : Handler) : (b.rejectCycle id reason w).heard listener =
    w.heard listener ++
      if (b.scans.find? id).any (·.handler = listener) then [.requestFailed reason] else [] := by
  unfold rejectCycle
  cases b.scans.find? id with
  | none => simp
  | some p => simp [World.heard_notify]

theorem heard_rejectCycle_of_ne {listener : Handler}
    (h : ∀ p, b.scans.find? id = some p → p.handler ≠ listener) :
    (b.rejectCycle id reason w).heard listener = w.heard listener := by
  rw [heard_rejectCycle, if_neg, List.append_nil]
  rw [Option.any_eq_true]
  rintro ⟨p, hfind, hown⟩
  exact h p hfind (of_decide_eq_true hown)

end Refusal

/-- The waiting cycles of all configurations end. -/
def finish (e : Ending) (b : Background) (w : World ρ) : Background × World ρ :=
  let r := b.scans.mapAccum (fun _ p w => p.finish e w) w
  ({ b with scans := r.1 }, r.2)

theorem complete_eq_finish (b : Background) (raw : List Detection) (w : World ρ) :
    b.complete raw w = b.finish (.results raw) w := by
  simp only [complete, completeBy, finish, ← Periodic.complete_eq_finish, Periodic.complete]

theorem fail_eq_finish (b : Background) (reason : Reason) (w : World ρ) :
    b.fail reason w = b.finish (.failure reason) w := by
  simp only [fail, finish, Periodic.fail_eq_finish]

/-- The cycles of all configurations end alike. -/
theorem finish_find? (e : Ending) (b : Background) (w : World ρ) (id : ScanId) :
    (b.finish e w).1.scans.find? id = (b.scans.find? id).map fun p => p.ended e :=
  SortedMap.find?_mapAccum (g := fun _ (p : Periodic) => p.ended e) (fun _ _ _ => rfl) b.scans w id

/-- An ending does nothing to configurations of which none waits. -/
theorem finish_of_idle {b : Background} {w : World ρ} (e : Ending)
    (hidle : ∀ id p, b.scans.find? id = some p → p.pending = none) : b.finish e w = (b, w) := by
  have hmap := SortedMap.mapAccum_eq_self (f := fun _ (p : Periodic) (w : World ρ) => p.finish e w)
    (m := b.scans) (s := w) fun id p hfind => Periodic.finish_of_idle e (hidle id p hfind) w
  rw [finish, hmap]

end Background

/-! ## Events of the own interface -/

namespace Scanner

variable [Radio ρ] {s : Scanner} {w : World ρ}

theorem handleResults_eq (s : Scanner) (w : World ρ) : s.handleResults w =
    if s.isWaiting then
      let (raw, w) := w.fetch s.iface
      let (single, w) := s.single.complete raw w
      let (background, w) := s.background.complete raw w
      ({ s with single, background }, w)
    else (s, w) := rfl

theorem handle_timerFired {tag : TimerTag} (hiface : tag.iface = s.iface) (handle : TimerHandle) :
    s.handle (.timerFired tag handle) w = s.handleTimer tag handle w := by
  simp [Scanner.handle, Event.iface?, hiface]

/-- A rejection reaches its handler and changes no scanner. -/
theorem handle_admissionRejected (handler : Handler) (reason : Reason) :
    s.handle (.admissionRejected s.iface handler reason) w =
      (s, w.notify handler (.requestFailed reason)) := by
  simp [Scanner.handle, Event.iface?]

/-- The rejection of a cycle changes no scanner. -/
theorem handle_cycleRejected (id : ScanId) (reason : Reason) :
    s.handle (.cycleRejected s.iface id reason) w = (s, s.background.rejectCycle id reason w) := by
  simp [Scanner.handle, Event.iface?]

end Scanner

end WirelessScan
