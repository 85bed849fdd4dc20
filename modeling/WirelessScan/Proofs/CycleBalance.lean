import WirelessScan.Proofs.Cycles

/-!
# One outcome for each cycle

Every cycle of a configuration that the radio admits ends once: with results, with a failure or
with its timeout, unless it still waits. The cycles are counted by what can be seen of a run: the
admission calls and their answers, the events that are dispatched, and whether the configuration
waits before and after. The calls to its handler are counted in the log.

The ids do not wrap, so whatever is counted under the id of an active configuration happened since
its start.
-/

namespace WirelessScan

variable {ρ : Type}

/-! ## Counting cycles -/

/-- What has become of the cycles of a configuration. -/
@[ext] structure Tally where
  admitted : Nat := 0
  /-- Refused at admission, or not resolved. -/
  refused : Nat := 0
  completed : Nat := 0
  failed : Nat := 0
  expired : Nat := 0
  /-- Completed, and some bucket of the cycle has completion reported. -/
  reported : Nat := 0
deriving DecidableEq, Repr

instance : Add Tally where
  add a b :=
    { admitted := a.admitted + b.admitted
      refused := a.refused + b.refused
      completed := a.completed + b.completed
      failed := a.failed + b.failed
      expired := a.expired + b.expired
      reported := a.reported + b.reported }

namespace Tally

variable (a b : Tally)

@[simp] theorem add_admitted : (a + b).admitted = a.admitted + b.admitted := rfl
@[simp] theorem add_refused : (a + b).refused = a.refused + b.refused := rfl
@[simp] theorem add_completed : (a + b).completed = a.completed + b.completed := rfl
@[simp] theorem add_failed : (a + b).failed = a.failed + b.failed := rfl
@[simp] theorem add_expired : (a + b).expired = a.expired + b.expired := rfl
@[simp] theorem add_reported : (a + b).reported = a.reported + b.reported := rfl

theorem empty_add : {} + a = a := by
  ext <;> simp

end Tally

namespace Event

/-- Whether an event says that the radio has results. -/
def isResults : Event → Bool
  | resultsAvailable _ => true
  | _ => false

/-- Whether an event says that the radio gave up. -/
def isFailure : Event → Bool
  | scanFailed .. => true
  | _ => false

/-- Whether an event is the expiry of the watchdog of a cycle. -/
def isCycleTimeout : Event → Bool
  | timerFired (.cycleTimeout ..) _ => true
  | _ => false

end Event

namespace Callback

/-- Whether a callback reports completion. -/
def isCompletion : Callback → Bool
  | statusAvailable => true
  | _ => false

/-- Whether a callback reports a refusal or a failure. -/
def isFailure : Callback → Bool
  | requestFailed _ => true
  | _ => false

end Callback

/-- How many cycles of a configuration wait for the radio. -/
def Periodic.waiting (p : Periodic) : Nat :=
  if p.pending.isSome then 1 else 0

/-- The next cycle of a configuration is to be run but its channels cannot be resolved. -/
def Setup.failsToResolve (setup : Setup) (p : Periodic) : Bool :=
  p.pending.isNone && !p.due.isEmpty && !(setup.resolve p.settings (p.due.map Prod.fst)).isOk

namespace Station

/-- Whether a move dispatches an event of some kind and a configuration waits before but not
after. -/
def ends (now : Station ρ) (move : Move ρ) (next : Station ρ) (id : ScanId)
    (kind : Event → Bool) : Bool :=
  (now.turn? move).any kind && (now.config? id).any (·.pending.isSome) &&
    (next.config? id).any (·.pending.isNone)

variable [Radio ρ]

/-- What a move that leads to `next` adds to the tally of a configuration. -/
def tally (now : Station ρ) (move : Move ρ) (next : Station ρ) (id : ScanId) : Tally where
  admitted :=
    if (now.cycleAt move id).isSome then (now.calls next).countP (·.2.isSuccess) else 0
  refused :=
    (if (now.cycleAt move id).isSome then (now.calls next).countP (!·.2.isSuccess) else 0) +
      if (now.cycleAt move id).any now.scanner.setup.failsToResolve then 1 else 0
  completed := if now.ends move next id Event.isResults then 1 else 0
  failed := if now.ends move next id Event.isFailure then 1 else 0
  expired := if now.ends move next id Event.isCycleTimeout then 1 else 0
  reported :=
    if now.ends move next id Event.isResults &&
        (now.config? id).any fun p => p.pending.any p.settings.reports then 1
    else 0

end Station

/-- What has become of the cycles under an id. -/
def Run.tally [Radio ρ] (id : ScanId) : Run ρ → Tally
  | begin .. => {}
  | extend run move => run.tally id + run.now.tally move (run.now.perform move) id

/-! ## The tally of a step -/

namespace Station

variable [Radio ρ] {now next : Station ρ} {move : Move ρ} {id : ScanId} {p q : Periodic}

/-- A move that runs no cycle and ends none counts for nothing. -/
theorem tally_quiet (hcycle : now.cycleAt move id = none)
    (hends : ∀ p q, now.config? id = some p → next.config? id = some q →
      q.pending = p.pending) : now.tally move next id = {} := by
  have hends' : ∀ kind, now.ends move next id kind = false := by
    intro kind
    unfold ends
    cases hnow : now.config? id with
    | none => simp
    | some p =>
        cases hnext : next.config? id with
        | none => simp
        | some q =>
            have hpending := hends p q hnow hnext
            cases hp : p.pending <;> simp [hpending, hp]
  simp [tally, hcycle, hends']

/-- A move that ends the cycle of a configuration, by the kind of the event. -/
theorem tally_ended {e : Event} {c : Cycle} (hevent : now.turn? move = some e)
    (hcycle : now.cycleAt move id = none) (hnow : now.config? id = some p)
    (hpending : p.pending = some c) (hnext : next.config? id = some q) (hover : q.pending = none) :
    now.tally move next id =
      { completed := if e.isResults then 1 else 0
        failed := if e.isFailure then 1 else 0
        expired := if e.isCycleTimeout then 1 else 0
        reported := if e.isResults && p.settings.reports c then 1 else 0 } := by
  simp [tally, ends, hcycle, hevent, hnow, hnext, hpending, hover]

/-- A move that runs a cycle of a configuration: an admitted cycle waits afterwards, and a refused
one is counted. -/
theorem tally_ran {w w' : World ρ} {refusal : Option Reason} {p' : Periodic}
    (hran : Periodic.Ran now.scanner.setup id p' w (refusal, q, w'))
    (hcycle : now.cycleAt move id = some p) (hpending : p'.pending = p.pending)
    (hdue : p'.due = p.due) (hsettings : p'.settings = p.settings)
    (hnow : ∀ p₀, now.config? id = some p₀ → p₀.pending = p.pending)
    (hconfig : next.config? id = some q) (hcalls : w.admissions = now.world.admissions)
    (hcalls' : next.world.admissions = w'.admissions) :
    ∃ admitted, admitted + p.waiting = q.waiting ∧ now.tally move next id =
      { admitted, refused := refusal.toList.length } := by
  -- Running a cycle ends none: a cycle that waits before still waits after.
  have hends : ∀ kind, q.pending = p.pending ∨ p.pending = none →
      now.ends move next id kind = false := by
    intro kind h
    unfold ends
    cases hbefore : now.config? id with
    | none => simp
    | some p₀ =>
        have hp₀ := hnow p₀ hbefore
        cases hp : p.pending with
        | none => simp [hp₀, hp]
        | some c =>
            have hq : q.pending = some c := by simpa [hp] using h
            simp [hconfig, hq]
  have hcalls'' : now.calls next = w'.admissions.drop w.admissions.length := by
    rw [calls, hcalls', hcalls]
  cases hran with
  | skipped hskip =>
      refine ⟨0, by simp [Periodic.waiting, Periodic.advanced, hpending], ?_⟩
      have hresolvable : now.scanner.setup.failsToResolve p = false := by
        rw [hpending, hdue] at hskip
        rcases hskip with hwaits | hnothing
        · cases hp : p.pending with
          | none => simp [hp] at hwaits
          | some c => simp [Setup.failsToResolve, hp]
        · simp [Setup.failsToResolve, hnothing]
      simp [tally, hends _ (.inl hpending), hcycle, hcalls'', hresolvable]
  | unresolved hidle hwork hresolve =>
      rw [hpending] at hidle
      refine ⟨0, by simp [Periodic.waiting, Periodic.advanced, hpending], ?_⟩
      have hunresolvable : now.scanner.setup.failsToResolve p = true := by
        rw [hdue] at hwork hresolve
        rw [hsettings] at hresolve
        simp [Setup.failsToResolve, hidle, hwork, hresolve, Except.isOk, Except.toBool]
      simp [tally, hends _ (.inr hidle), hcycle, hcalls'', hunresolvable]
  | rejected hidle hwork hresolve hanswer =>
      rw [hpending] at hidle
      refine ⟨0, by simp [Periodic.waiting, Periodic.advanced, hpending], ?_⟩
      have hresolvable : now.scanner.setup.failsToResolve p = false := by
        rw [hdue, hsettings] at hresolve
        simp [Setup.failsToResolve, hresolve, Except.isOk, Except.toBool]
      have hrefused : (w.answer now.scanner.setup.iface _).isSuccess = false :=
        Bool.eq_false_iff.mpr fun h => hanswer (Reason.isSuccess_iff.mp h)
      simp [tally, hends _ (.inr hidle), hcycle, hcalls'', hresolvable, hrefused]
  | admitted hidle hwork hresolve hanswer =>
      rw [hpending] at hidle
      refine ⟨1, by simp [Periodic.waiting, hidle], ?_⟩
      have hresolvable : now.scanner.setup.failsToResolve p = false := by
        rw [hdue, hsettings] at hresolve
        simp [Setup.failsToResolve, hresolve, Except.isOk, Except.toBool]
      simp [tally, hends _ (.inr hidle), hcycle, hcalls'', hresolvable, hanswer,
        Reason.isSuccess_iff]

end Station

/-! ## The handler of a configuration -/

section Handlers

variable [Radio ρ] {now next : Station ρ} {move : Move ρ} {id : ScanId} {handler : Handler}

/-- A configuration has the handler that the call handed over. -/
theorem Turn.handler_of {q : Periodic} (h : Turn id now move next)
    (hnext : next.config? id = some q) :
    (∃ p, now.config? id = some p ∧ p.handler = q.handler) ∨
      id = now.scanner.background.nextId ∧ move.handler? = some q.handler ∧
        next.slotHolds q.handler = now.slotHolds q.handler ∧
        next.rejections q.handler = now.rejections q.handler := by
  cases h with
  | @started _ _ _ q' _ _ hmove hid _ _ _ _ hran hconfig _ _ _ hslot hrejections =>
      obtain rfl : q' = q := Option.some.inj (hconfig.symm.trans hnext)
      refine .inr ⟨hid, ?_, hslot _, hrejections _⟩
      rw [hmove, hran.handler]
      rfl
  | @ticked _ _ p q' _ _ _ _ hnow _ hran hconfig =>
      obtain rfl : q' = q := Option.some.inj (hconfig.symm.trans hnext)
      exact .inl ⟨p, hnow, hran.handler.symm⟩
  | @changed p q' _ hnow hconfig hchange =>
      obtain rfl : q' = q := Option.some.inj (hconfig.symm.trans hnext)
      refine .inl ⟨p, hnow, ?_⟩
      cases hchange with
      | ended => exact (Periodic.ended_handler _ _).symm
      | _ => rfl
  | inactive _ hconfig => rw [hconfig] at hnext; cases hnext

variable [NoticeRadio ρ]

/-- Only a call that hands over a handler brings it into the slot or into a rejection. -/
theorem Step.places (hstep : Step now move next) (hsound : now.Sound)
    (hmove : move.handler? ≠ some handler) :
    (next.slotHolds handler = true → now.slotHolds handler = true) ∧
      next.rejections handler ≤ now.rejections handler := by
  have hpopped : ∀ {e : Event} {rest : List Event} {w : World ρ},
      now.world.queue.events = e :: rest → (now.world.withEvents rest).Settles w →
      w.queue.countOf (Event.rejects handler) ≤ now.rejections handler := by
    intro e rest w hqueue hw
    rw [hw.countOf, Station.rejections, World.countOf_withEvents hqueue]
    exact Nat.le_add_right _ _
  have hslot : ∀ {slot slot' : Slot} {w w' : World ρ}, Slot.Passage handler slot slot' w w' →
      slot'.holds handler = true → slot.holds handler = true := by
    intro slot slot' w w' h hholds
    cases h with
    | kept hsame _ => exact hsame ▸ hholds
    | ended _ _ hbefore _ _ => exact hbefore
  have hopen := hsound.world.isOpen
  cases hstep with
  | single hstarted =>
      cases passage_single hsound hstarted hmove with
      | kept hsame _ hqueued => exact ⟨fun h => hsame ▸ h, Nat.le_of_eq hqueued⟩
      | ended _ _ hbefore _ _ hqueued => exact ⟨fun _ => hbefore, Nat.le_of_eq hqueued⟩
      | told _ hsame _ hqueued => exact ⟨fun h => hsame ▸ h, by omega⟩
  | background hstarted =>
      refine ⟨fun h => h, ?_⟩
      cases hstarted with
      | refused => exact Nat.le_refl _
      | @unresolved _ carried =>
          have hne : carried ≠ handler := fun h => hmove (congrArg some h)
          simp [Station.rejections, World.post_countOf _ _ hopen, Event.rejects, hne]
      | @activated _ _ _ refusal _ w _ _ hran =>
          have hcount : w.queue.countOf (Event.rejects handler) = now.rejections handler :=
            hran.countOf hopen Event.rejects_notice
          cases refusal with
          | none => exact Nat.le_of_eq hcount
          | some reason =>
              have hopen' := ((hsound.world.schedule _ _).ran hran).isOpen
              simp only [Station.rejections, Option.elim, World.post_countOf _ _ hopen']
              exact Nat.le_of_eq hcount
  | stopActive =>
      exact ⟨fun h => h, Nat.le_of_eq ((Periodic.disarm_settles _ _).countOf _)⟩
  | fire =>
      refine ⟨fun h => h, ?_⟩
      simp only [Station.rejections, Queue.countOf_post hopen]
      exact Nat.le_refl _
  | outside =>
      exact ⟨fun h => h,
        Nat.le_of_eq (World.happen_countOf _ hsound.world Event.rejects_notice)⟩
  | finished hqueue _ hfinished =>
      exact ⟨hslot hfinished.passage, hpopped hqueue
        (Background.finish_settles_fetched _ hfinished)⟩
  | unwanted hqueue => exact ⟨fun h => h, hpopped hqueue (.refl _)⟩
  | singleTimeout hqueue hexpired =>
      exact ⟨hslot hexpired.passage, hpopped hqueue hexpired.settles⟩
  | period hqueue hticked =>
      refine ⟨fun h => h, ?_⟩
      have hrest := hpopped hqueue (.refl _)
      cases hticked with
      | stale => exact hrest
      | @ticked _ _ refusal w _ _ hran =>
          have hcount : w.queue.countOf (Event.rejects handler) ≤ now.rejections handler :=
            Nat.le_trans (Nat.le_of_eq (hran.countOf hopen Event.rejects_notice)) hrest
          cases refusal with
          | none => exact hcount
          | some reason => exact hcount
  | cycleTimeout hqueue hexpired => exact ⟨fun h => h, hpopped hqueue hexpired.settles⟩
  | rejection hqueue => exact ⟨fun h => h, hpopped hqueue (.notify _ _ _)⟩
  | cycleRejection hqueue =>
      exact ⟨fun h => h, hpopped hqueue (Background.rejectCycle_settles _ _ _ _)⟩
  | foreign hqueue => exact ⟨fun h => h, hpopped hqueue (.refl _)⟩
  | _ => exact ⟨fun h => h, Nat.le_refl _⟩

/-- A handler stays with its configuration until it is handed over again. -/
theorem Step.sole (hstep : Step now move next) (hsound : now.Sound) (hsole : now.Sole id handler)
    (hmove : move.handler? ≠ some handler) : next.Sole id handler := by
  obtain ⟨hslot, hrejections⟩ := hstep.places hsound hmove
  refine ⟨?_, ?_, ?_⟩
  · intro id' q hnext hhandler
    rcases (hstep.turn hsound id').handler_of hnext with ⟨p, hnow, heq⟩ | ⟨-, hgiven, -⟩
    · exact hsole.config id' p hnow (heq.trans hhandler)
    · rw [hhandler] at hgiven
      exact absurd hgiven hmove
  · cases hholds : next.slotHolds handler with
    | false => rfl
    | true => rw [hsole.slot] at hslot; cases hslot hholds
  · rw [hsole.rejections] at hrejections
    exact Nat.le_zero.mp hrejections

/-- A handler that was handed over once is known to its configuration and to nobody else. -/
theorem Run.sole (run : Run ρ) {p : Periodic} (hactive : run.now.config? id = some p) :
    p.handler ∈ run.handlers ∧
      (run.handlers.count p.handler = 1 → run.now.Sole id p.handler) := by
  induction run generalizing p with
  | begin => cases hactive
  | extend run move ih =>
      have hstep := run.now.step_perform move
      rcases (hstep.turn run.sound id).handler_of hactive with
        ⟨p', hnow, heq⟩ | ⟨hid, hgiven, hslot, hrejections⟩
      · obtain ⟨hmem, hsole⟩ := ih hnow
        rw [heq] at hmem hsole
        refine ⟨List.mem_append_left _ hmem, fun hcount => ?_⟩
        obtain ⟨honce, hkept⟩ := count_of_mem hmem hcount
        exact hstep.sole run.sound (hsole honce) hkept
      · refine ⟨by simp [handlers_extend, hgiven], fun hcount => ?_⟩
        -- Nobody had the handler before, so it belongs to the new configuration.
        have habsent := (run.custody p.handler).unused (not_mem_of_given hgiven hcount)
        refine ⟨?_, hslot.trans habsent.slot, hrejections.trans habsent.rejections⟩
        intro id' q hq hown
        rcases (hstep.turn run.sound id').handler_of hq with ⟨p', hp', heq⟩ | ⟨hid', -⟩
        · exact absurd (heq.trans hown) (habsent.spares id' p' hp')
        · exact hid'.trans hid.symm

end Handlers

/-! ## The balance of a step -/

/-- The pending cycle of a configuration, if there is one, was made for its due buckets. -/
def Periodic.Faithful (p : Periodic) : Prop :=
  ∀ c, p.pending = some c → c.Faithful p.settings

theorem Periodic.Faithful.of_none {p : Periodic} (h : p.pending = none) : p.Faithful := by
  intro c hc
  rw [h] at hc
  cases hc

theorem ResultSet.countP_reports {results : ResultSet} {full : Bool} {kind : Callback → Bool}
    (hkind : ∀ c, c.isTerminal = false → kind c = false) :
    (results.reports full).countP kind = 0 :=
  List.countP_eq_zero.mpr fun c hc => by simp [hkind c (reports_isTerminal hc)]

theorem Cycle.countP_completion_failure (c : Cycle) (raw : List Detection) :
    (c.completion raw).countP Callback.isFailure = 0 := by
  have hreports : ∀ full, ((c.results raw).reports full).countP Callback.isFailure = 0 := fun _ =>
    ResultSet.countP_reports fun c hc => by cases c <;> first | rfl | cases hc
  rw [completion, List.countP_append, hreports]
  split <;> rfl

theorem Cycle.countP_completion (c : Cycle) (raw : List Detection) :
    (c.completion raw).countP Callback.isCompletion = if c.reportStatus then 1 else 0 := by
  have hreports : ∀ full, ((c.results raw).reports full).countP Callback.isCompletion = 0 :=
    fun _ => ResultSet.countP_reports fun c hc => by cases c <;> first | rfl | cases hc
  rw [completion, List.countP_append, hreports, Nat.zero_add]
  split <;> rfl

/-- The entries of a step in the books of a configuration that is active before and after: what
its handler heard, what was counted, and the rejections that left the queue. -/
structure Effect (now next : Station ρ) (id : ScanId) (p q : Periodic) (t : Tally)
    (said : List Callback) : Prop where
  handler : q.handler = p.handler
  faithful : q.Faithful
  waiting : t.admitted + p.waiting = t.completed + t.failed + t.expired + q.waiting
  heard : now.Sole id p.handler →
    next.world.heard p.handler = now.world.heard p.handler ++ said
  failures : said.countP Callback.isFailure + next.refusals id =
    now.refusals id + (t.failed + t.expired + t.refused)
  completions : said.countP Callback.isCompletion = t.reported
  refusals : next.refusals id ≤ now.refusals id

section Effects

variable [Radio ρ] {now next : Station ρ} {move : Move ρ} {id : ScanId} {p q : Periodic}

/-- The cycle that a run of a cycle leaves pending was made for the due buckets. -/
theorem Periodic.Ran.faithful {setup : Setup} {w w' : World ρ} {refusal : Option Reason}
    (hran : Periodic.Ran setup id p w (refusal, q, w')) (h : p.Faithful) : q.Faithful := by
  cases hran with
  | skipped => exact h
  | unresolved => exact h
  | rejected => exact h
  | admitted =>
      intro c hc
      obtain rfl := Option.some.inj hc
      exact ⟨p.cycle, rfl, rfl⟩

theorem Change.effect (h : Change id now move next p q) (hcycle : now.cycleAt move id = none)
    (hnow : now.config? id = some p) (hnext : next.config? id = some q)
    (hfaithful : p.Faithful) :
    ∃ said, Effect now next id p q (now.tally move next id) said := by
  cases h with
  | @ended c e hevent hpending hheard hrefusals =>
      have hover : (p.ended e).pending = none := Periodic.ended_pending e p
      rw [Station.tally_ended hevent hcycle hnow hpending hnext hover]
      refine ⟨e.report c, Periodic.ended_handler e p, .of_none hover, ?_, hheard, ?_, ?_,
        Nat.le_of_eq hrefusals⟩
      · cases e <;> simp [Periodic.waiting, hpending, Ending.event, Event.isResults,
          Event.isFailure, Event.isCycleTimeout]
      · cases e with
        | results raw =>
            simp [Ending.report, Cycle.countP_completion_failure, hrefusals, Ending.event,
              Event.isFailure, Event.isCycleTimeout]
        | failure reason =>
            simp [Ending.report, hrefusals, Ending.event, Event.isFailure, Event.isCycleTimeout,
              Callback.isFailure, Nat.add_comm]
      · cases e with
        | results raw =>
            simp [Ending.report, Cycle.countP_completion, (hfaithful c hpending).reportStatus_eq,
              Ending.event, Event.isResults]
        | failure reason => rfl
  | expired hevent hpending hheard hrefusals =>
      rw [Station.tally_ended hevent hcycle hnow hpending hnext rfl]
      refine ⟨[.requestFailed .timeout], rfl, .of_none rfl, ?_, fun _ => hheard, ?_, rfl,
        Nat.le_of_eq hrefusals⟩
      · simp [Periodic.waiting, Periodic.dropped, hpending, Event.isResults, Event.isFailure,
          Event.isCycleTimeout]
      · simp [hrefusals, Event.isFailure, Event.isCycleTimeout, Callback.isFailure, Nat.add_comm]
  | @told reason hheard hrefusals =>
      rw [Station.tally_quiet hcycle fun p₁ p₂ h₁ h₂ => by simp_all]
      refine ⟨[.requestFailed reason], rfl, hfaithful, by simp, fun _ => hheard, ?_, rfl, ?_⟩
      · simp [hrefusals, Callback.isFailure, Nat.add_comm]
      · omega
  | kept hheard hrefusals =>
      rw [Station.tally_quiet hcycle fun p₁ p₂ h₁ h₂ => by simp_all]
      exact ⟨[], rfl, hfaithful, by simp, fun hsole => by simp [hheard hsole],
        by simp [hrefusals], rfl, Nat.le_of_eq hrefusals⟩

theorem Turn.effect (h : Turn id now move next) (hnow : now.config? id = some p)
    (hnext : next.config? id = some q)
    (hunused : now.config? now.scanner.background.nextId = none) (hfaithful : p.Faithful) :
    ∃ said, Effect now next id p q (now.tally move next id) said := by
  cases h with
  -- A start takes an id that is not in use.
  | started _ hid => rw [hid, hunused] at hnow; cases hnow
  | @ticked _ _ p' q' refusal _ _ _ hnow' hcycle hran hconfig hadmissions hheard hrefusals =>
      obtain rfl : p' = p := Option.some.inj (hnow'.symm.trans hnow)
      obtain rfl : q' = q := Option.some.inj (hconfig.symm.trans hnext)
      obtain ⟨admitted, hwaiting, htally⟩ := Station.tally_ran hran hcycle rfl rfl rfl
        (fun p₀ hp₀ => by rw [hnow'] at hp₀; rw [Option.some.inj hp₀]) hconfig
        (World.schedule_admissions _ _ _) hadmissions
      rw [htally]
      refine ⟨refusal.toList.map .requestFailed, hran.handler, hran.faithful hfaithful, ?_,
        fun _ => hheard, ?_, ?_, Nat.le_of_eq hrefusals⟩
      · simpa using hwaiting
      · rw [hrefusals]
        cases refusal <;> simp [Callback.isFailure, Nat.add_comm]
      · cases refusal <;> simp [Callback.isCompletion]
  | @changed p' q' hcycle hnow' hconfig hchange =>
      obtain rfl : p' = p := Option.some.inj (hnow'.symm.trans hnow)
      obtain rfl : q' = q := Option.some.inj (hconfig.symm.trans hnext)
      exact hchange.effect hcycle hnow hnext hfaithful
  | inactive _ hconfig => rw [hconfig] at hnext; cases hnext

end Effects

/-! ## The books of a configuration -/

namespace Station

/-- The cycles of an active configuration balance. -/
structure Ledger (now : Station ρ) (id : ScanId) (p : Periodic) (t : Tally) : Prop where
  faithful : p.Faithful
  balance : t.admitted = t.completed + t.failed + t.expired + p.waiting
  refusals : now.refusals id ≤ 1

/-- The calls to the handler of a configuration balance with its cycles. -/
structure Account (now : Station ρ) (id : ScanId) (handler : Handler) (t : Tally) : Prop where
  sole : now.Sole id handler
  failures : (now.world.heard handler).countP Callback.isFailure + now.refusals id =
    t.failed + t.expired + t.refused
  completions : (now.world.heard handler).countP Callback.isCompletion = t.reported

end Station

namespace Effect

variable {now next : Station ρ} {id : ScanId} {p q : Periodic} {t t' : Tally}
  {said : List Callback}

theorem ledger (h : Effect now next id p q t' said) (hledger : now.Ledger id p t) :
    next.Ledger id q (t + t') := by
  have hwaiting := h.waiting
  have hbalance := hledger.balance
  refine ⟨h.faithful, ?_, Nat.le_trans h.refusals hledger.refusals⟩
  simp only [Tally.add_admitted, Tally.add_completed, Tally.add_failed, Tally.add_expired]
  omega

theorem account (h : Effect now next id p q t' said) (haccount : now.Account id p.handler t)
    (hsole : next.Sole id p.handler) : next.Account id q.handler (t + t') := by
  have hfailures := h.failures
  have hbefore := haccount.failures
  rw [h.handler]
  refine ⟨hsole, ?_, ?_⟩
  · simp only [h.heard haccount.sole, List.countP_append, Tally.add_failed, Tally.add_expired,
      Tally.add_refused]
    omega
  · rw [h.heard haccount.sole, List.countP_append, haccount.completions, h.completions]
    rfl

end Effect

section Books

variable [Radio ρ] {now next : Station ρ} {move : Move ρ} {id : ScanId} {q : Periodic}

/-- A configuration that comes into being was begun by this very move. -/
theorem Turn.started_of_none (h : Turn id now move next) (hnow : now.config? id = none)
    (hnext : next.config? id = some q) :
    id = now.scanner.background.nextId ∧ move.handler? = some q.handler ∧ q.Faithful ∧
      ∃ refusals ≤ 1, ∃ admitted, admitted = q.waiting ∧
        now.tally move next id = { admitted, refused := refusals } ∧
        next.refusals id = now.refusals id + refusals ∧
        ∀ handler, next.world.heard handler = now.world.heard handler := by
  cases h with
  | @started settings carried _ q' refusal _ hmove hid _ hcycle _ _ hran hconfig hadmissions
      hheard hrefusals =>
      obtain rfl : q' = q := Option.some.inj (hconfig.symm.trans hnext)
      obtain ⟨admitted, hwaiting, htally⟩ := Station.tally_ran hran hcycle rfl rfl rfl
        (fun p₀ hp₀ => by rw [hnow] at hp₀; cases hp₀) hconfig
        (World.schedule_admissions _ _ _) hadmissions
      refine ⟨hid, ?_, hran.faithful ?_, refusal.toList.length, ?_, admitted,
        hwaiting, htally, hrefusals, hheard⟩
      · rw [hmove, hran.handler]
        rfl
      · intro c hc
        cases hc
      · cases refusal <;> simp
  | ticked _ _ hnow' => rw [hnow] at hnow'; cases hnow'
  | changed _ hnow' => rw [hnow] at hnow'; cases hnow'
  | inactive _ hconfig => rw [hconfig] at hnext; cases hnext

/-- Under an id without a configuration nothing is counted. -/
theorem Turn.quiet_of_none (h : Turn id now move next) (hnow : now.config? id = none)
    (hnext : next.config? id = none) :
    next.refusals id ≤ now.refusals id ∧ now.tally move next id = {} := by
  cases h with
  | inactive hcycle _ hrefusals =>
      exact ⟨hrefusals, Station.tally_quiet hcycle fun p q hp => by rw [hnow] at hp; cases hp⟩
  | started _ _ _ _ _ _ _ hconfig => rw [hconfig] at hnext; cases hnext
  | ticked _ _ hnow' => rw [hnow] at hnow'; cases hnow'
  | changed _ hnow' => rw [hnow] at hnow'; cases hnow'

end Books

/-! ## Every run -/

namespace Run

variable [Radio ρ] [NoticeRadio ρ]

/-- The books of an id: empty before the id is handed out, balanced while its configuration is
active. -/
structure Books (run : Run ρ) (id : ScanId) : Prop where
  unused : run.ids.length < id.toNat → run.now.refusals id = 0 ∧ run.tally id = {}
  ledger : ∀ p, run.now.config? id = some p → run.now.Ledger id p (run.tally id)
  account : ∀ p, run.now.config? id = some p → p.handler ∈ run.handlers ∧
    (run.handlers.count p.handler = 1 → run.now.Account id p.handler (run.tally id))

omit [NoticeRadio ρ] in
theorem ids_length_le (run : Run ρ) (move : Move ρ) :
    run.ids.length ≤ (run.extend move).ids.length := by
  simp [ids, collect]

/-- The books of a configuration that the last move began. -/
theorem Books.open {run : Run ρ} {move : Move ρ} {id : ScanId} {q : Periodic}
    (h : run.Books id) (hids : run.ids.length < 2 ^ 32 - 1) (hnow : run.now.config? id = none)
    (hnext : (run.extend move).now.config? id = some q) :
    (run.extend move).now.Ledger id q ((run.extend move).tally id) ∧
      q.handler ∈ (run.extend move).handlers ∧
      ((run.extend move).handlers.count q.handler = 1 →
        (run.extend move).now.Account id q.handler ((run.extend move).tally id)) := by
  have hstep := run.now.step_perform move
  obtain ⟨hid, hmove, hfaithful, refusals, hle, admitted, hwaiting, htally, hrefusals, hheard⟩ :=
    (hstep.turn run.sound id).started_of_none hnow hnext
  have hnew : run.ids.length < id.toNat := by
    rw [hid, (run.numbered hids).nextId_toNat (by omega)]
    exact Nat.lt_succ_self _
  obtain ⟨hnone, hempty⟩ := h.unused hnew
  have htally' : (run.extend move).tally id = { admitted, refused := refusals } := by
    rw [tally, hempty, htally, Tally.empty_add]
  rw [hnone, Nat.zero_add] at hrefusals
  rw [htally']
  refine ⟨⟨hfaithful, by simpa using hwaiting, ?_⟩, ?_, ?_⟩
  · rw [now, hrefusals]
    exact hle
  · exact ((run.extend move).sole hnext).1
  · intro hcount
    have habsent := (run.custody q.handler).unused (not_mem_of_given hmove hcount)
    have hsilent : (run.extend move).now.world.heard q.handler = [] :=
      (hheard q.handler).trans habsent.heard
    refine ⟨((run.extend move).sole hnext).2 hcount, ?_, ?_⟩
    · rw [hsilent, now, hrefusals]
      simp
    · rw [hsilent]
      rfl

theorem books (run : Run ρ) (hids : run.ids.length < 2 ^ 32 - 1) (id : ScanId) :
    run.Books id := by
  induction run with
  | begin setup radio clock =>
      have hnone : ∀ p, (begin setup radio clock : Run ρ).now.config? id ≠ some p :=
        fun p hp => by cases hp
      exact ⟨fun _ => ⟨rfl, rfl⟩, fun p hp => absurd hp (hnone p),
        fun p hp => absurd hp (hnone p)⟩
  | extend run move ih =>
      have hle := run.ids_length_le move
      have hids' : run.ids.length < 2 ^ 32 - 1 := by omega
      have hbooks := ih hids'
      have hstep := run.now.step_perform move
      have hturn := hstep.turn run.sound id
      have hunused := (run.numbered hids').nextId_unused (by omega)
      refine ⟨?_, ?_, ?_⟩
      · intro hnew
        obtain ⟨hnone, hempty⟩ := hbooks.unused (by omega)
        -- An id beyond those handed out has no configuration, before the move and after it.
        have hinactive : ∀ run : Run ρ, run.ids.length < 2 ^ 32 - 1 →
            run.ids.length < id.toNat → run.now.config? id = none := by
          intro run hids hnew
          cases hconfig : run.now.config? id with
          | none => rfl
          | some p => exact absurd ((run.numbered hids).ids id p hconfig) (by omega)
        obtain ⟨hrefusals, htally⟩ := hturn.quiet_of_none (hinactive run hids' (by omega))
          (hinactive (run.extend move) hids hnew)
        refine ⟨?_, ?_⟩
        · rw [hnone] at hrefusals
          exact Nat.le_zero.mp hrefusals
        · rw [tally, hempty, htally, Tally.empty_add]
      · intro q hq
        cases hnow : run.now.config? id with
        | none => exact (hbooks.open hids' hnow hq).1
        | some p =>
            have hledger := hbooks.ledger p hnow
            obtain ⟨said, heffect⟩ := hturn.effect hnow hq hunused hledger.faithful
            exact heffect.ledger hledger
      · intro q hq
        cases hnow : run.now.config? id with
        | none => exact (hbooks.open hids' hnow hq).2
        | some p =>
            obtain ⟨said, heffect⟩ :=
              hturn.effect hnow hq hunused (hbooks.ledger p hnow).faithful
            obtain ⟨hmem, haccount⟩ := hbooks.account p hnow
            obtain ⟨hmem', hsole⟩ := (run.extend move).sole hq
            refine ⟨hmem', fun hcount => ?_⟩
            rw [heffect.handler] at hcount hsole
            exact heffect.account (haccount (count_of_mem hmem hcount).1) (hsole hcount)

/-- Every cycle has one outcome, for every configuration that is active at the end of a run, as long
as the ids do not wrap. The cycles that the radio admitted are those that results, a failure or
their timeout ended, and one more if a cycle is pending; there is never a second one. The failures
and completions that the handler heard are those of the cycles, but for the rejection of the first
cycle while it is still queued. The calls to a handler are those of the configuration if no second
call handed the handler over. -/
theorem every_cycle_has_one_outcome (run : Run ρ) (hids : run.ids.length < 2 ^ 32 - 1)
    (id : ScanId) (p : Periodic) (hactive : run.now.config? id = some p) :
    (run.tally id).admitted =
        (run.tally id).completed + (run.tally id).failed + (run.tally id).expired +
          (if p.pending.isSome then 1 else 0) ∧
      (run.tally id).admitted ≤
        (run.tally id).completed + (run.tally id).failed + (run.tally id).expired + 1 ∧
      run.now.refusals id ≤ 1 ∧
      (run.handlers.count p.handler = 1 →
        (run.now.world.heard p.handler).countP Callback.isFailure + run.now.refusals id =
            (run.tally id).failed + (run.tally id).expired + (run.tally id).refused ∧
          (run.now.world.heard p.handler).countP Callback.isCompletion =
            (run.tally id).reported) := by
  have hbooks := run.books hids id
  have hledger := hbooks.ledger p hactive
  have hbalance := hledger.balance
  have hone : p.waiting ≤ 1 := by
    unfold Periodic.waiting
    split <;> omega
  refine ⟨hbalance, by omega, hledger.refusals, ?_⟩
  intro hfresh
  have haccount := (hbooks.account p hactive).2 hfresh
  exact ⟨haccount.failures, haccount.completions⟩

end Run

namespace Sample

/-- Four cycles of a configuration: one that times out, one that is refused, one that completes,
and one that waits. -/
def fourCycles : Run Replay :=
  run
    [.background (some settings) (some (handler 1)), .fire 2, .dispatch,
      .outside (.radio (radio .reject)), .fire 1, .dispatch,
      .outside (.radio (radio .silent)), .fire 3, .dispatch, .outside (.results "wlan0"),
      .dispatch, .fire 4, .dispatch]

theorem fourCycles_outcomes :
    fourCycles.tally 1 =
        { admitted := 3, refused := 1, completed := 1, failed := 0, expired := 1, reported := 1 } ∧
      (fourCycles.now.world.heard (handler 1)).countP Callback.isFailure +
          fourCycles.now.refusals 1 = 0 + 1 + 1 ∧
      (fourCycles.now.world.heard (handler 1)).countP Callback.isCompletion = 1 := by
  have htally : fourCycles.tally 1 = ⟨3, 1, 1, 0, 1, 1⟩ := by decide +kernel
  have hids : fourCycles.ids.length < 2 ^ 32 - 1 := by decide +kernel
  have hfresh : fourCycles.handlers.count (handler 1) = 1 := by decide +kernel
  have hactive : (fourCycles.now.config? 1).map (·.handler) = some (handler 1) := by
    decide +kernel
  obtain ⟨p, hp, hhandler⟩ := Option.map_eq_some_iff.mp hactive
  obtain ⟨-, -, -, hcalls⟩ := fourCycles.every_cycle_has_one_outcome hids 1 p hp
  rw [hhandler, htally] at hcalls
  exact ⟨htally, hcalls hfresh⟩

end Sample

end WirelessScan
