import WirelessScan.Proofs.Cycles
import WirelessScan.Proofs.Resolution

/-!
# What waits for the radio

A request waits at a place: in the slot of the single scan or at a configuration. What matters of
it later is the reading of the clock before its admission call, the request itself and its bucket
mask. `Station.admits` reads off a move which request it lets wait, and `Step.visit` says that no
request waits in any other way.

The radio and the clock change with admission calls only; `World.contact` collects what an
admission call reads and leaves.
-/

namespace WirelessScan

variable {ρ : Type}

/-! ## Contact with the radio -/

/-- Whether an entry belongs to an admission call: the reading of the clock or the call itself. -/
def Entry.isAsking : Entry → Bool
  | clockRead _ => true
  | admission .. => true
  | _ => false

/-- The radio and the clock, and the admission calls so far with the readings before them. -/
structure Contact (ρ : Type) where
  radio : ρ
  clock : UInt64
  askings : List Entry

/-- The contact after the clock was read and the radio was asked to admit a request. -/
def Contact.asked [Radio ρ] (c : Contact ρ) (iface : String) (request : Request) : Contact ρ :=
  let a := Radio.issue c.radio c.clock iface request
  { radio := a.radio
    clock := satAdd c.clock a.nanos
    askings := c.askings ++ [.clockRead c.clock, .admission iface request a.status] }

namespace World

/-- What admission calls read and leave. -/
def contact (w : World ρ) : Contact ρ where
  radio := w.radio
  clock := w.clock
  askings := w.log.filter Entry.isAsking

section

variable (w : World ρ) (handler : Handler)

@[simp] theorem contact_withEvents (events : List Event) :
    (w.withEvents events).contact = w.contact := rfl

@[simp] theorem contact_post (e : Event) : (w.post e).contact = w.contact := rfl

@[simp] theorem contact_schedule (tag : TimerTag) (millis : UInt64) :
    (w.schedule tag millis).2.contact = w.contact := by
  simp [contact, schedule, Entry.isAsking]

@[simp] theorem contact_cancel (handle : TimerHandle) :
    (w.cancel handle).contact = w.contact := by
  simp [contact, cancel, Entry.isAsking]

@[simp] theorem contact_notify (c : Callback) : (w.notify handler c).contact = w.contact := by
  simp [contact, notify, record, Entry.isAsking]

@[simp] theorem contact_notifyAll (cs : List Callback) :
    (w.notifyAll handler cs).contact = w.contact := by
  induction cs generalizing w with
  | nil => rfl
  | cons c cs ih => exact (ih (w.notify handler c)).trans (contact_notify w handler c)

variable [Radio ρ] (iface : String) (request : Request)

@[simp] theorem contact_fetch : (w.fetch iface).2.contact = w.contact := by
  simp [contact, fetch, record, Entry.isAsking]

@[simp] theorem contact_asked :
    (w.asked iface request).contact = w.contact.asked iface request := by
  simp only [contact, asked_log, List.filter_append]
  rfl

end

/-- The answer of the radio depends on the contact alone. -/
theorem answer_congr [Radio ρ] {w w' : World ρ} (h : w'.contact = w.contact) (iface : String)
    (request : Request) : w'.answer iface request = w.answer iface request := by
  obtain ⟨hradio, hclock, -⟩ := Contact.mk.inj h
  rw [answer, answer, hradio, hclock]

end World

/-! ## Operations without an admission call -/

theorem Ending.contact_fetched [Radio ρ] (e : Ending) (iface : String) (w : World ρ) :
    (e.fetched iface w).contact = w.contact := by
  cases e with
  | results raw => exact w.contact_fetch iface
  | failure reason => rfl

namespace Single

variable {s s' : Single} {w w' : World ρ}

theorem Finished.contact {e : Ending} (h : Finished e s w (s', w')) : w'.contact = w.contact := by
  cases h with
  | unarmed => rfl
  | armed => simp

theorem Expired.contact {handle : TimerHandle} (h : Expired s handle w (s', w')) :
    w'.contact = w.contact := by
  cases h with
  | stale => rfl
  | own => simp

end Single

namespace Periodic

variable (p : Periodic) (w : World ρ)

theorem contact_finish (e : Ending) : (p.finish e w).2.contact = w.contact := by
  unfold finish
  cases p.pending with
  | none => rfl
  | some c => simp

theorem contact_disarm : (p.disarm w).contact = w.contact := by
  unfold disarm
  cases p.pending with
  | none => simp
  | some c => simp

end Periodic

namespace Background

variable (b : Background) (w : World ρ)

theorem contact_finish (e : Ending) : (b.finish e w).2.contact = w.contact :=
  SortedMap.mapAccum_induction (fun _ w' => w'.contact = w.contact)
    (fun _ w' _ p _ h => (p.contact_finish w' e).trans h) b.scans w rfl

theorem Expired.contact {b b' : Background} {w w' : World ρ} {id : ScanId} {handle : TimerHandle}
    (h : Expired b id handle w (b', w')) : w'.contact = w.contact := by
  cases h with
  | stale => rfl
  | own => simp

theorem contact_rejectCycle (id : ScanId) (reason : Reason) :
    (b.rejectCycle id reason w).contact = w.contact := by
  unfold rejectCycle
  split
  · rfl
  · simp

end Background

/-! ## Places -/

/-- Where a request of a scanner can wait. -/
inductive Place where
  | single
  | cycle (id : ScanId)
deriving DecidableEq, Repr

/-- A request that waits for the radio. -/
structure Waiting where
  /-- The reading of the clock before the admission call. -/
  start : UInt64
  request : Request
  /-- The bucket mask of a cycle; 0 for a single scan. -/
  buckets : UInt32
deriving DecidableEq, Repr

/-- The results of a waiting request out of everything the radio holds. -/
def Waiting.results (x : Waiting) (raw : List Detection) : ResultSet :=
  .reconcile raw x.start (some x.request.frequencies) x.buckets

def InFlight.waiting (scan : InFlight) : Waiting where
  start := scan.start
  request := scan.request
  buckets := 0

def Cycle.waiting (c : Cycle) : Waiting where
  start := c.start
  request := c.request
  buckets := c.buckets

/-- The request that waits in the slot of the single scan. -/
def Slot.waiting? : Slot → Option Waiting
  | armed scan => some scan.waiting
  | _ => none

theorem Slot.waiting?_eq_none {slot : Slot} :
    slot.waiting? = none ↔ ∀ scan, slot ≠ .armed scan := by
  cases slot <;> simp [waiting?]

/-- The request that waits at a configuration. -/
def Periodic.waiting? (p : Periodic) : Option Waiting :=
  p.pending.map Cycle.waiting

theorem Periodic.waiting?_eq_none {p : Periodic} : p.waiting? = none ↔ p.pending = none := by
  simp [waiting?]

namespace Station

/-- The request that waits at a place. -/
def waiting? (now : Station ρ) : Place → Option Waiting
  | .single => now.scanner.single.slot.waiting?
  | .cycle id => (now.config? id).bind Periodic.waiting?

theorem waiting?_cycle {now : Station ρ} {id : ScanId} {p : Periodic}
    (h : now.config? id = some p) : now.waiting? (.cycle id) = p.waiting? := by
  simp [waiting?, h]

theorem waiting?_cycle_congr {now next : Station ρ} {id : ScanId}
    (h : next.config? id = now.config? id) : next.waiting? (.cycle id) = now.waiting? (.cycle id) :=
  congrArg (Option.bind · Periodic.waiting?) h

/-- Where a scanner does not wait, no request waits at any place. -/
theorem waiting?_of_not_isWaiting {now : Station ρ} (h : now.scanner.isWaiting = false)
    (place : Place) : now.waiting? place = none := by
  obtain ⟨hslot, hpending⟩ := Bool.or_eq_false_iff.mp h
  cases place with
  | single =>
      have hidle : now.scanner.single.slot = .idle := by simpa [Single.inFlight] using hslot
      simp [waiting?, Slot.waiting?, hidle]
  | cycle id =>
      refine Option.bind_eq_none_iff.mpr fun p hfind => Periodic.waiting?_eq_none.mpr ?_
      have hmem : p ∈ now.scanner.background.scans.values :=
        List.mem_map.mpr ⟨(id, p), SortedMap.mem_of_findEntry hfind, rfl⟩
      simpa using List.any_eq_false.mp hpending p hmem

/-- After an ending no request waits at any place. -/
theorem waiting?_finished [Radio ρ] {now : Station ρ} {e : Ending} {single : Single}
    {w world : World ρ} (hfinished : Single.Finished e now.scanner.single w (single, world))
    (place : Place) :
    waiting?
      ⟨{ now.scanner with single, background := (now.scanner.background.finish e world).1 },
        (now.scanner.background.finish e world).2⟩ place = none := by
  cases place with
  | single =>
      cases hfinished with
      | unarmed hslot => exact Slot.waiting?_eq_none.mpr hslot
      | armed => rfl
  | cycle id =>
      refine Option.bind_eq_none_iff.mpr fun p hp => ?_
      obtain ⟨q, -, rfl⟩ := Option.map_eq_some_iff.mp
        ((now.scanner.background.finish_find? e world id).symm.trans hp)
      simp [Periodic.waiting?]

/-- The latest results of a place. A configuration that is not active has none. -/
def latest? (now : Station ρ) : Place → Option ResultSet
  | .single => some now.scanner.single.latest
  | .cycle id => now.scanner.background.latest? id

end Station

/-! ## Errands -/

/-- A request to be made: some buckets of the settings, and their mask. -/
structure Errand where
  settings : Settings
  buckets : List Bucket
  mask : UInt32

/-- The request that comes of an errand, if its buckets can be resolved and the radio admits it. -/
def Errand.admitted [Radio ρ] (errand : Errand) (setup : Setup) (w : World ρ) : Option Waiting :=
  match setup.resolve errand.settings errand.buckets with
  | .error _ => none
  | .ok request =>
    if w.answer setup.iface request = .succeeded then
      some { start := w.clock, request, buckets := errand.mask }
    else none

/-- The errand of the next cycle of a configuration, unless a cycle still waits. -/
def Periodic.errand? (p : Periodic) : Option Errand :=
  if p.pending = none then
    some
      { settings := p.settings
        buckets := p.due.map Prod.fst
        mask := bucketMask (p.due.map Prod.snd) }
  else none

theorem Periodic.errand?_of_idle {p : Periodic} (h : p.pending = none) : p.errand? =
    some
      { settings := p.settings
        buckets := p.due.map Prod.fst
        mask := bucketMask (p.due.map Prod.snd) } :=
  if_pos h

theorem Errand.admitted_congr [Radio ρ] {w w' : World ρ} (h : w'.contact = w.contact)
    (errand : Errand) (setup : Setup) : errand.admitted setup w' = errand.admitted setup w := by
  simp only [admitted, World.answer_congr h, (Contact.mk.inj h).2.1]

theorem Errand.admitted_eq_some [Radio ρ] {errand : Errand} {setup : Setup} {w : World ρ}
    {x : Waiting} (h : errand.admitted setup w = some x) :
    setup.resolve errand.settings errand.buckets = .ok x.request ∧
      w.answer setup.iface x.request = .succeeded ∧ x.start = w.clock ∧
      x.buckets = errand.mask := by
  unfold admitted at h
  split at h
  · cases h
  next request hresolve =>
    split at h
    next hanswer =>
      obtain rfl := Option.some.inj h
      exact ⟨hresolve, hanswer, rfl, rfl⟩
    next => cases h

/-- Without buckets there is no request. -/
theorem Setup.resolve_nil {setup : Setup} {settings : Settings} {request : Request} :
    setup.resolve settings [] ≠ .ok request := by
  intro h
  obtain ⟨hfrequencies, hsome⟩ := resolve_ok h
  obtain ⟨f, hf⟩ := List.exists_mem_of_ne_nil request.frequencies.toList
    (by simpa [FrequencySet.isEmpty] using hsome)
  obtain ⟨b, hb, -⟩ := (ChannelTable.mem_resolve hfrequencies f).mp hf
  cases hb

namespace Periodic.Ran

variable [Radio ρ] {setup : Setup} {id : ScanId} {p p' : Periodic} {w w' : World ρ}
  {refusal : Option Reason}

theorem latest (h : Ran setup id p w (refusal, p', w')) : p'.latest = p.latest := by
  cases h <;> rfl

/-- Running a cycle makes at most one admission call, for the errand of the cycle. -/
theorem contact (h : Ran setup id p w (refusal, p', w')) : w'.contact = w.contact ∨
    ∃ errand request, p.errand? = some errand ∧
      setup.resolve errand.settings errand.buckets = .ok request ∧
      w'.contact = w.contact.asked setup.iface request := by
  cases h with
  | skipped => exact .inl rfl
  | unresolved => exact .inl rfl
  | @rejected request hidle _ hresolve =>
      exact .inr ⟨_, request, errand?_of_idle hidle, hresolve, by simp⟩
  | @admitted request hidle _ hresolve =>
      exact .inr ⟨_, request, errand?_of_idle hidle, hresolve, by simp⟩

end Periodic.Ran

/-! ## Visits -/

/-- What can happen at a place: the request that is admitted comes to wait there, or none is
admitted and none comes to wait. -/
inductive Visit [Radio ρ] (iface : String) (admitted before after : Option Waiting)
    (w w' : World ρ) : Prop where
  | begun {x : Waiting} (hadmitted : admitted = some x) (hafter : after = some x)
      (hcontact : w'.contact = w.contact.asked iface x.request)
  | still (hadmitted : admitted = none) (hafter : ∀ x, after = some x → before = some x)

section Visits

variable [Radio ρ]

namespace Visit

variable {iface : String} {admitted before after : Option Waiting} {w w' v v' : World ρ}

theorem of_same (hadmitted : admitted = none) (hsame : after = before) :
    Visit iface admitted before after w w' :=
  .still hadmitted fun _ h => hsame ▸ h

theorem of_free (hadmitted : admitted = none) (hfree : after = none) :
    Visit iface admitted before after w w' :=
  .still hadmitted fun x hx => by rw [hfree] at hx; cases hx

/-- What waited before does not matter if nothing did. -/
theorem of_none (h : Visit iface admitted none after w w') :
    Visit iface admitted before after w w' := by
  cases h with
  | begun hadmitted hafter hcontact => exact .begun hadmitted hafter hcontact
  | still hadmitted hafter => exact .still hadmitted fun x hx => nomatch hafter x hx

theorem at_config {next : Station ρ} {id : ScanId} {p : Periodic}
    (hconfig : next.config? id = some p) (h : Visit iface admitted before p.waiting? w w') :
    Visit iface admitted before (next.waiting? (.cycle id)) w w' :=
  (Station.waiting?_cycle hconfig).symm ▸ h

theorem congr (h : Visit iface admitted before after w w') (hw : v.contact = w.contact)
    (hw' : v'.contact = w'.contact) : Visit iface admitted before after v v' := by
  cases h with
  | begun hadmitted hafter hcontact =>
      exact .begun hadmitted hafter (by rw [hw', hw, hcontact])
  | still hadmitted hafter => exact .still hadmitted hafter

end Visit

namespace Errand

variable {errand : Errand} {setup : Setup} {w w' : World ρ} {before after : Option Waiting}

/-- What an admission call for an errand does to the place of the errand. -/
theorem visit {request : Request}
    (hresolve : setup.resolve errand.settings errand.buckets = .ok request)
    (hcontact : w'.contact = w.contact.asked setup.iface request)
    (hafter : after = if w.answer setup.iface request = .succeeded then
      some { start := w.clock, request, buckets := errand.mask } else before) :
    Visit setup.iface (errand.admitted setup w) before after w w' := by
  by_cases hanswer : w.answer setup.iface request = .succeeded
  · rw [if_pos hanswer] at hafter
    refine .begun ?_ hafter hcontact
    simp [admitted, hresolve, hanswer]
  · rw [if_neg hanswer] at hafter
    refine .of_same ?_ hafter
    simp [admitted, hresolve, hanswer]

theorem admitted_error {error : ScanError}
    (hresolve : setup.resolve errand.settings errand.buckets = .error error) :
    errand.admitted setup w = none := by
  simp [admitted, hresolve]

end Errand

/-- What running a cycle does to the place of its configuration. -/
theorem Periodic.Ran.visit {setup : Setup} {id : ScanId} {p p' : Periodic} {w w' : World ρ}
    {refusal : Option Reason} (h : Ran setup id p w (refusal, p', w')) :
    Visit setup.iface (p.errand?.bind fun errand => errand.admitted setup w) p.waiting?
      p'.waiting? w w' := by
  cases h with
  | skipped hskip =>
      refine .of_same ?_ rfl
      cases hpending : p.pending with
      | some c => simp [errand?, hpending]
      | none =>
          -- If nothing is due, there is an errand, but no request could come of it.
          have hdue : p.due = [] := by simpa [hpending] using hskip
          simp only [errand?_of_idle hpending, hdue, Option.bind_some, Errand.admitted,
            List.map_nil]
          split
          next => rfl
          next hresolve => exact (Setup.resolve_nil hresolve).elim
  | unresolved hidle _ hresolve =>
      refine .of_same ?_ rfl
      rw [errand?_of_idle hidle]
      exact Errand.admitted_error hresolve
  | rejected hidle _ hresolve hanswer =>
      rw [errand?_of_idle hidle]
      exact Errand.visit hresolve (by simp) (by rw [if_neg hanswer]; rfl)
  | admitted hidle _ hresolve hanswer =>
      rw [errand?_of_idle hidle]
      exact Errand.visit hresolve (by simp) (by rw [if_pos hanswer]; rfl)

namespace Station

/-- The errand that a move runs for a place. -/
def errand? (now : Station ρ) (move : Move ρ) : Place → Option Errand
  | .single =>
    match move with
    | .single (some settings) (some _) =>
      if now.scanner.single.slot = .idle then
        some { settings, buckets := settings.buckets, mask := 0 }
      else none
    | _ => none
  | .cycle id => (now.cycleAt move id).bind Periodic.errand?

/-- A move hands a request to the radio, for the errand that it runs for a place. -/
structure Asks (now : Station ρ) (move : Move ρ) (place : Place) (errand : Errand)
    (request : Request) : Prop where
  runs : now.errand? move place = some errand
  resolves : now.scanner.setup.resolve errand.settings errand.buckets = .ok request

/-- The request that a move lets wait at a place. -/
def admits (now : Station ρ) (move : Move ρ) (place : Place) : Option Waiting :=
  (now.errand? move place).bind fun errand => errand.admitted now.scanner.setup now.world

variable {now : Station ρ} {move : Move ρ}

theorem admits_refused {settings : Option Settings} {handler : Option Handler}
    (h : settings = none ∨ handler = none ∨ now.scanner.single.slot ≠ .idle) :
    now.admits (.single settings handler) .single = none := by
  obtain rfl | rfl | hslot := h
  · rfl
  · cases settings <;> rfl
  · cases settings <;> cases handler <;> simp [admits, errand?, hslot]

theorem admits_single {settings : Settings} {handler : Handler}
    (hidle : now.scanner.single.slot = .idle) :
    now.admits (.single (some settings) (some handler)) .single =
      Errand.admitted { settings, buckets := settings.buckets, mask := 0 } now.scanner.setup
        now.world := by
  simp [admits, errand?, hidle]

theorem asks_single {settings : Settings} {handler : Handler} {request : Request}
    (hidle : now.scanner.single.slot = .idle)
    (hresolve : now.scanner.setup.resolve settings settings.buckets = .ok request) :
    now.Asks (.single (some settings) (some handler)) .single
      { settings, buckets := settings.buckets, mask := 0 } request :=
  ⟨by simp [errand?, hidle], hresolve⟩

theorem admits_cycle_of_none {id : ScanId} (h : now.cycleAt move id = none) :
    now.admits move (.cycle id) = none := by
  simp [admits, errand?, h]

theorem admits_cycle {id : ScanId} {p : Periodic} {w : World ρ}
    (h : now.cycleAt move id = some p) (hw : w.contact = now.world.contact) :
    now.admits move (.cycle id) =
      p.errand?.bind fun errand => errand.admitted now.scanner.setup w := by
  simp [admits, errand?, h, Errand.admitted_congr hw]

end Station

namespace Step

variable {now next : Station ρ} {move : Move ρ}

theorem visit_single (hstep : Step now move next) :
    Visit now.iface (now.admits move .single) (now.waiting? .single) (next.waiting? .single)
      now.world next.world := by
  cases hstep with
  | single hstarted =>
      cases hstarted with
      | refused hrefused => exact .of_same (Station.admits_refused hrefused) rfl
      | unresolved hidle hresolve =>
          refine .of_same ?_ rfl
          rw [Station.admits_single hidle]
          exact Errand.admitted_error hresolve
      | rejected hidle hresolve hanswer =>
          rw [Station.admits_single hidle]
          refine Errand.visit hresolve (by simp) ?_
          rw [if_neg hanswer, Station.waiting?, Station.waiting?, hidle]
      | armed hidle hresolve hanswer =>
          rw [Station.admits_single hidle]
          refine Errand.visit hresolve (by simp) ?_
          rw [if_pos hanswer]
          rfl
  | finished _ _ hfinished => exact .of_free rfl (Station.waiting?_finished hfinished .single)
  | singleTimeout _ hexpired =>
      cases hexpired with
      | stale => exact .of_same rfl rfl
      | own => exact .of_free rfl rfl
  | _ => exact .of_same rfl rfl

theorem visit_background {settings : Option Settings} {handler : Option Handler}
    {answer : Option ScanId} {background : Background} {world : World ρ}
    (hstarted : Background.Started now.scanner.setup now.scanner.background now.world settings
      handler (answer, background, world))
    (hanswer : now.answersId (.background settings handler) = answer) (id : ScanId) :
    Visit now.iface (now.admits (.background settings handler) (.cycle id))
      (now.waiting? (.cycle id))
      (Station.waiting? ⟨{ now.scanner with background }, world⟩ (.cycle id)) now.world world := by
  cases hstarted with
  | refused =>
      refine .of_same (Station.admits_cycle_of_none ?_) rfl
      exact Station.cycleAt_background (by simp [hanswer])
  | unresolved _ hresolve =>
      exact .of_same (Station.admits_cycle_of_none (Station.cycleAt_unresolved hresolve)) rfl
  | @activated settings carried request refusal p w _ hresolve hran =>
      by_cases hid : id = now.scanner.background.nextId
      · subst hid
        have hscheduled := now.world.contact_schedule
          (.period now.iface now.scanner.background.nextId) settings.basePeriod.toUInt64
        rw [Station.admits_cycle (Station.cycleAt_activated hanswer hresolve) hscheduled]
        refine .at_config (p := p) (by simp [Station.config?]) ?_
        -- The new configuration takes the place of whatever had the id before.
        refine hran.visit.of_none.congr hscheduled.symm ?_
        cases refusal <;> simp
      · refine .of_same (Station.admits_cycle_of_none (Station.cycleAt_of_answer hanswer hid)) ?_
        exact Station.waiting?_cycle_congr (by simp [Station.config?, hid])

theorem visit_period {tagged : ScanId} {handle : TimerHandle} {rest : List Event}
    {background : Background} {world : World ρ}
    (hqueue : now.world.queue.events = .timerFired (.period now.iface tagged) handle :: rest)
    (hticked : Background.Ticked now.scanner.setup now.scanner.background tagged handle
      (now.world.withEvents rest) (background, world)) (id : ScanId) :
    Visit now.iface (now.admits .dispatch (.cycle id)) (now.waiting? (.cycle id))
      (Station.waiting? ⟨{ now.scanner with background }, world⟩ (.cycle id)) now.world world := by
  by_cases hid : id = tagged
  · subst hid
    cases hticked with
    | stale hstale =>
        refine .of_same (Station.admits_cycle_of_none ?_) rfl
        rw [Station.cycleAt_period hqueue]
        simpa [Option.filter_eq_none_iff, Station.config?] using hstale
    | @ticked p q refusal w hfind hhandle hran =>
        have hnow : now.config? id = some p := hfind
        have hcycle := Station.cycleAt_tick hqueue hnow hhandle
        have hscheduled := (now.world.withEvents rest).contact_schedule (.period now.iface id)
          p.settings.basePeriod.toUInt64
        rw [Station.admits_cycle hcycle hscheduled, Station.waiting?_cycle hnow]
        refine .at_config (p := q) (by simp [Station.config?]) ?_
        refine hran.visit.congr hscheduled.symm ?_
        cases refusal <;> simp
  · have hcycle : now.cycleAt .dispatch id = none :=
      Station.cycleAt_other hqueue fun handle' heq => hid (by simp_all)
    refine .of_same (Station.admits_cycle_of_none hcycle) ?_
    cases hticked with
    | stale => rfl
    | ticked => exact Station.waiting?_cycle_congr (by simp [Station.config?, hid])

theorem visit_cycle (hstep : Step now move next) (id : ScanId) :
    Visit now.iface (now.admits move (.cycle id)) (now.waiting? (.cycle id))
      (next.waiting? (.cycle id)) now.world next.world := by
  cases hstep with
  | single => exact .of_same rfl rfl
  | background hstarted hanswer => exact visit_background hstarted hanswer id
  | stopInactive => exact .of_same rfl rfl
  | @stopActive other =>
      by_cases hid : id = other
      · exact .of_free rfl (by simp [Station.waiting?, Station.config?, hid])
      · exact .of_same rfl (Station.waiting?_cycle_congr (by simp [Station.config?, hid]))
  | fireInactive => exact .of_same rfl rfl
  | fire => exact .of_same rfl rfl
  | outside => exact .of_same rfl rfl
  | idle hqueue => exact .of_same (Station.admits_cycle_of_none (Station.cycleAt_idle hqueue)) rfl
  | period hqueue hticked => exact visit_period hqueue hticked id
  | @finished e _ _ _ hqueue _ hfinished =>
      refine .of_free (Station.admits_cycle_of_none (Station.cycleAt_other hqueue ?_))
        (Station.waiting?_finished hfinished (.cycle id))
      cases e <;> simp [Ending.event]
  | unwanted hqueue =>
      exact .of_same (Station.admits_cycle_of_none (Station.cycleAt_other hqueue (by simp))) rfl
  | singleTimeout hqueue =>
      exact .of_same (Station.admits_cycle_of_none (Station.cycleAt_other hqueue (by simp))) rfl
  | @cycleTimeout tagged _ _ _ _ hqueue hexpired =>
      have hnone : now.admits .dispatch (.cycle id) = none :=
        Station.admits_cycle_of_none (Station.cycleAt_other hqueue (by simp))
      cases hexpired with
      | stale => exact .of_same hnone rfl
      | own =>
          by_cases hid : id = tagged
          · refine .of_free hnone ?_
            simp [Station.waiting?, Station.config?, hid, Periodic.waiting?, Periodic.dropped]
          · exact .of_same hnone (Station.waiting?_cycle_congr (by simp [Station.config?, hid]))
  | rejection hqueue =>
      exact .of_same (Station.admits_cycle_of_none (Station.cycleAt_other hqueue (by simp))) rfl
  | cycleRejection hqueue =>
      exact .of_same (Station.admits_cycle_of_none (Station.cycleAt_other hqueue (by simp))) rfl
  | foreign hqueue hiface =>
      refine .of_same (Station.admits_cycle_of_none (Station.cycleAt_other hqueue ?_)) rfl
      intro handle heq
      exact hiface (by rw [heq]; rfl)

/-- A move that does not come from outside makes one admission call at most, for an errand. -/
theorem contact (hstep : Step now move next)
    (hmove : ∀ happening, move ≠ .outside happening) :
    next.world.contact = now.world.contact ∨
      ∃ place errand request, now.Asks move place errand request ∧
        next.world.contact = now.world.contact.asked now.iface request := by
  cases hstep with
  | single hstarted =>
      cases hstarted with
      | refused => exact .inl rfl
      | unresolved => exact .inl rfl
      | rejected hidle hresolve =>
          exact .inr ⟨.single, _, _, Station.asks_single hidle hresolve, World.contact_asked _ _ _⟩
      | armed hidle hresolve =>
          exact .inr ⟨.single, _, _, Station.asks_single hidle hresolve,
            (World.contact_schedule _ _ _).trans (World.contact_asked _ _ _)⟩
  | background hstarted hanswer =>
      cases hstarted with
      | refused => exact .inl rfl
      | unresolved => exact .inl rfl
      | @activated _ _ _ refusal _ _ _ hresolve hran =>
          have hran' := hran.contact
          simp only [World.contact_schedule] at hran'
          rcases hran' with hsame | ⟨errand, request, herrand, hok, hasked⟩
          · left
            cases refusal <;> exact hsame
          · refine .inr ⟨.cycle now.scanner.background.nextId, errand, request, ⟨?_, hok⟩, ?_⟩
            · rw [Station.errand?, Station.cycleAt_activated hanswer hresolve]
              exact herrand
            · cases refusal <;> exact hasked
  | stopInactive => exact .inl rfl
  | stopActive => exact .inl (Periodic.contact_disarm _ _)
  | fireInactive => exact .inl rfl
  | fire => exact .inl rfl
  | outside => exact (hmove _ rfl).elim
  | idle => exact .inl rfl
  | finished _ _ hfinished =>
      refine .inl ((Background.contact_finish _ _ _).trans (hfinished.contact.trans ?_))
      exact Ending.contact_fetched _ _ _
  | unwanted => exact .inl rfl
  | singleTimeout _ hexpired => exact .inl hexpired.contact
  | @period id _ rest _ _ hqueue hticked =>
      cases hticked with
      | stale => exact .inl rfl
      | @ticked p q refusal w hfind hhandle hran =>
          have hnow : now.config? id = some p := hfind
          have hcycle := Station.cycleAt_tick hqueue hnow hhandle
          have hnotified : (refusal.elim w fun reason =>
              w.notify q.handler (.requestFailed reason)).contact = w.contact := by
            cases refusal <;> simp
          rw [hnotified]
          have hran' := hran.contact
          simp only [World.contact_schedule] at hran'
          rcases hran' with hsame | ⟨errand, request, herrand, hok, hasked⟩
          · exact .inl hsame
          · refine .inr ⟨.cycle id, errand, request, ⟨?_, hok⟩, hasked⟩
            rw [Station.errand?, hcycle]
            exact herrand
  | cycleTimeout _ hexpired => exact .inl hexpired.contact
  | rejection => exact .inl (World.contact_notify _ _ _)
  | cycleRejection => exact .inl (Background.contact_rejectCycle _ _ _ _)
  | foreign => exact .inl rfl

/-- No request comes to wait at a place but the one that is admitted for it. -/
theorem visit (hstep : Step now move next) (place : Place) :
    Visit now.iface (now.admits move place) (now.waiting? place) (next.waiting? place)
      now.world next.world := by
  cases place with
  | single => exact hstep.visit_single
  | cycle id => exact hstep.visit_cycle id

end Step

end Visits

end WirelessScan
