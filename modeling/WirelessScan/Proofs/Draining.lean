import WirelessScan.Proofs.CycleBalance
import WirelessScan.Proofs.Deferral
import WirelessScan.Proofs.Faithfulness
import WirelessScan.Proofs.Settlement

/-!
# Draining the queue

A failure that was deferred is an event on the queue. As long as no request of its handler waits for
the radio, nothing else can be said to the handler: what it has heard and what is queued for it add
up to the same after every move that leaves the handler alone (`Step.rests`).

Turns of the dispatch loop empty the queue. A turn takes one event out and puts new ones in only if
the event is a tick, and then these are notices of the radio, of which nothing further comes
(`Run.exists_drained`).
-/

namespace WirelessScan

variable {ρ : Type}

/-! ## Handlers at rest -/

/-- Whether an event is the expiry of a period timer. -/
def Event.isTick : Event → Bool
  | timerFired (.period ..) _ => true
  | _ => false

theorem Event.isTick_notice {e : Event} (he : e.isNotice = true) : e.isTick = false := by
  cases e with
  | timerFired => cases he
  | _ => rfl

namespace Station

/-- What a queued event has in store for a handler: it is a rejection that carries the handler, or
the refusal of the first cycle of a configuration that has it. -/
def tidings? (now : Station ρ) (handler : Handler) : Event → Option Callback
  | .admissionRejected _ carried reason =>
    if carried = handler then some (.requestFailed reason) else none
  | .cycleRejected iface id reason =>
    if iface = now.iface ∧ (now.config? id).any (·.handler = handler) then
      some (.requestFailed reason)
    else none
  | _ => none

/-- What is queued for a handler, in order. -/
def ahead (now : Station ρ) (handler : Handler) : List Callback :=
  now.world.queue.events.filterMap (now.tidings? handler)

/-- No request of a handler waits for the radio. -/
structure Rests (now : Station ρ) (handler : Handler) : Prop where
  slot : now.slotHolds handler = false
  configs : ∀ id p, now.config? id = some p → p.handler = handler → p.pending = none

/-- A move does not hand a handler over, and it neither stops a configuration of the handler nor
runs a cycle of one. -/
structure LeavesAlone [Radio ρ] (now : Station ρ) (handler : Handler) (move : Move ρ) : Prop where
  given : move.handler? ≠ some handler
  configs : ∀ id p, now.config? id = some p → p.handler = handler →
    move ≠ .stop id ∧ now.cycleAt move id = none

/-- How a move comes to put an event on the queue. -/
inductive Posts [Radio ρ] (now : Station ρ) : Move ρ → Event → Prop where
  /-- A notice comes from outside, or the radio gave it when it was asked: in a call, or in a turn
  that runs a cycle. -/
  | notice {move : Move ρ} {e : Event} (he : e.isNotice = true)
      (hturn : move = .dispatch → ∃ tick, now.turn? move = some tick ∧ tick.isTick = true) :
      Posts now move e
  | expiry {a : Alarm} (hactive : a ∈ now.world.timers.active) :
      Posts now (.fire a.handle) (.timerFired a.tag a.handle)
  | rejection {move : Move ρ} {iface : String} {handler : Handler} {reason : Reason}
      (hmove : move.handler? = some handler) :
      Posts now move (.admissionRejected iface handler reason)
  | refusal {settings : Option Settings} {handler : Option Handler} {id : ScanId} {reason : Reason}
      (hcycle : now.cycleAt (.background settings handler) id ≠ none) :
      Posts now (.background settings handler) (.cycleRejected now.iface id reason)

variable {now : Station ρ} {handler : Handler}

theorem tidings?_notice {e : Event} (he : e.isNotice = true) : now.tidings? handler e = none := by
  cases e with
  | admissionRejected => cases he
  | cycleRejected => cases he
  | _ => rfl

/-- What is queued for a handler is what the next turn says and what stays queued. -/
theorem ahead_eq (move : Move ρ) : now.ahead handler =
    ((now.turn? move).bind (now.tidings? handler)).toList ++
      (now.remaining move).filterMap (now.tidings? handler) := by
  cases move with
  | dispatch =>
      simp only [ahead, turn?, remaining]
      cases now.world.queue.events with
      | nil => rfl
      | cons e rest => cases he : now.tidings? handler e <;> simp [he]
  | _ => rfl

theorem remaining_subset (now : Station ρ) (move : Move ρ) :
    now.remaining move ⊆ now.world.queue.events := by
  cases move with
  | dispatch => exact fun _ => List.mem_of_mem_tail
  | _ => exact List.Subset.refl _

variable [Radio ρ] {move : Move ρ}

/-- What a move puts on the queue is not for a handler that it leaves alone. -/
theorem Posts.tidings?_eq_none {e : Event} (h : now.Posts move e)
    (hmove : now.LeavesAlone handler move) : now.tidings? handler e = none := by
  cases h with
  | notice he => exact tidings?_notice he
  | expiry => rfl
  | rejection hgiven =>
      refine if_neg ?_
      rintro rfl
      exact hmove.given hgiven
  | refusal hcycle =>
      refine if_neg ?_
      rintro ⟨-, hany⟩
      obtain ⟨p, hnow, hown⟩ := (Option.any_eq_true _ _).mp hany
      exact hcycle (hmove.configs _ p hnow (of_decide_eq_true hown)).2

end Station

/-! ## Posted events -/

/-- Some events are appended to a queue, each of which satisfies a condition. -/
def Appends (kind : Event → Prop) (before after : List Event) : Prop :=
  ∃ posted, after = before ++ posted ∧ ∀ e ∈ posted, kind e

namespace Appends

variable {kind kind' : Event → Prop} {before after : List Event}

theorem refl (events : List Event) : Appends kind events events :=
  ⟨[], (List.append_nil _).symm, by simp⟩

theorem mono (h : Appends kind before after) (hkind : ∀ e, kind e → kind' e) :
    Appends kind' before after := by
  obtain ⟨posted, heq, hposted⟩ := h
  exact ⟨posted, heq, fun e he => hkind e (hposted e he)⟩

theorem post {w : World ρ} (h : Appends kind before w.queue.events)
    (hopen : w.queue.isOpen = true) {e : Event} (he : kind e) :
    Appends kind before (w.post e).queue.events := by
  obtain ⟨posted, heq, hposted⟩ := h
  refine ⟨posted ++ [e], by rw [World.post_events _ _ hopen, heq, List.append_assoc], ?_⟩
  simpa [or_imp, forall_and] using ⟨hposted, he⟩

end Appends

theorem World.appends_happen {w : World ρ} (hw : w.Sound) (happening : Happening ρ) :
    Appends (·.isNotice = true) w.queue.events (w.happen happening).queue.events := by
  have hrefl : Appends (·.isNotice = true) w.queue.events w.queue.events := .refl _
  cases happening with
  | results iface => exact hrefl.post hw.isOpen rfl
  | failure iface reason => exact hrefl.post hw.isOpen rfl
  | arrival n =>
      simp only [happen]
      split
      next hn => exact hrefl.post hw.isOpen (hw.notices n hn)
      next => exact hrefl
  | radio radio => exact hrefl
  | time millis nanos => exact hrefl

section Posting

variable [Radio ρ] [NoticeRadio ρ] {now next : Station ρ} {move : Move ρ}

theorem World.appends_asked {w : World ρ} (hopen : w.queue.isOpen = true) (iface : String)
    (request : Request) :
    Appends (·.isNotice = true) w.queue.events (w.asked iface request).queue.events :=
  ⟨_, asked_events hopen iface request, NoticeRadio.posted w.radio w.clock iface request⟩

/-- Running a cycle after its period timer was armed puts nothing but notices on the queue. -/
theorem Periodic.Ran.appends {setup : Setup} {id : ScanId} {p p' : Periodic}
    {refusal : Option Reason} {w w' : World ρ} {tag : TimerTag} {millis : UInt64}
    (hran : Ran setup id p (w.schedule tag millis).2 (refusal, p', w'))
    (hopen : w.queue.isOpen = true) :
    Appends (·.isNotice = true) w.queue.events w'.queue.events := by
  cases hran with
  | skipped => exact .refl _
  | unresolved => exact .refl _
  | rejected => exact World.appends_asked (w := (w.schedule tag millis).2) hopen _ _
  | admitted => exact World.appends_asked (w := (w.schedule tag millis).2) hopen _ _

namespace Step

/-- A turn appends notices, and none unless it dispatches a tick. -/
theorem appends_dispatch (hstep : Step now .dispatch next) (hsound : now.Sound) :
    Appends (fun e => e.isNotice = true ∧
        ∃ tick, now.turn? .dispatch = some tick ∧ tick.isTick = true)
      now.world.queue.events.tail next.world.queue.events := by
  have htail {kind : Event → Prop} {e : Event} {rest : List Event} {w : World ρ}
      (hqueue : now.world.queue.events = e :: rest)
      (hw : (now.world.withEvents rest).Settles w) :
      Appends kind now.world.queue.events.tail w.queue.events := by
    rw [hqueue, hw.queue]
    exact .refl rest
  cases hstep with
  | idle hqueue =>
      rw [hqueue]
      exact .refl []
  | finished hqueue _ hfinished =>
      exact htail hqueue (Background.finish_settles_fetched _ hfinished)
  | unwanted hqueue => exact htail hqueue (.refl _)
  | singleTimeout hqueue hexpired => exact htail hqueue hexpired.settles
  | @period _ _ rest _ _ hqueue hticked =>
      cases hticked with
      | stale => exact htail hqueue (.refl _)
      | @ticked _ _ refusal w _ _ hran =>
          have hnotices := hran.appends (w := now.world.withEvents rest) hsound.world.isOpen
          have htick := (congrArg List.head? hqueue).trans List.head?_cons
          rw [hqueue]
          cases refusal with
          | none => exact hnotices.mono fun e he => ⟨he, _, htick, rfl⟩
          | some reason => exact hnotices.mono fun e he => ⟨he, _, htick, rfl⟩
  | cycleTimeout hqueue hexpired => exact htail hqueue hexpired.settles
  | rejection hqueue => exact htail hqueue (.notify _ _ _)
  | cycleRejection hqueue => exact htail hqueue (Background.rejectCycle_settles _ _ _ _)
  | foreign hqueue => exact htail hqueue (.refl _)

/-- A turn takes a tick from the queue, or it leaves a shorter queue with as many ticks. -/
theorem shortens (hstep : Step now .dispatch next) (hsound : now.Sound) {e : Event}
    {rest : List Event} (hqueue : now.world.queue.events = e :: rest) :
    next.world.queue.countOf Event.isTick < now.world.queue.countOf Event.isTick ∨
      next.world.queue.countOf Event.isTick = now.world.queue.countOf Event.isTick ∧
        next.world.queue.events.length < now.world.queue.events.length := by
  obtain ⟨posted, hevents, hposted⟩ := hstep.appends_dispatch hsound
  have hticks : posted.countP Event.isTick = 0 :=
    List.countP_eq_zero.mpr fun e' he' => by simp [Event.isTick_notice (hposted e' he').1]
  simp only [Queue.countOf, hevents, hqueue, List.tail_cons, List.countP_append, hticks,
    List.countP_cons, Nat.add_zero]
  cases he : e.isTick with
  | true => exact .inl (by simp)
  | false =>
      have hnone : posted = [] := by
        refine List.eq_nil_iff_forall_not_mem.mpr fun e' he' => ?_
        obtain ⟨-, tick, hturn, htick⟩ := hposted e' he'
        obtain rfl : e = tick := by simpa [Station.turn?, hqueue] using hturn
        simp [he] at htick
      exact .inr (by simp [hnone])

theorem appends (hstep : Step now move next) (hsound : now.Sound) :
    Appends (now.Posts move) (now.remaining move) next.world.queue.events := by
  have hopen := hsound.world.isOpen
  cases move with
  | dispatch =>
      exact (hstep.appends_dispatch hsound).mono fun e he => .notice he.1 fun _ => he.2
  | single settings handler =>
      have hasked (request : Request) :
          Appends (now.Posts (.single settings handler)) now.world.queue.events
            (now.world.asked now.scanner.setup.iface request).queue.events :=
        (World.appends_asked hopen _ _).mono fun e he => .notice he (by simp)
      cases hstep with
      | single hstarted =>
          cases hstarted with
          | refused => exact .refl _
          | unresolved => exact Appends.post (.refl _) hopen (.rejection rfl)
          | rejected =>
              exact (hasked _).post ((World.asked_isOpen _ _ _).trans hopen) (.rejection rfl)
          | armed => exact hasked _
  | background settings handler =>
      cases hstep with
      | background hstarted hanswer =>
          cases hstarted with
          | refused => exact .refl _
          | unresolved => exact Appends.post (.refl _) hopen (.rejection rfl)
          | @activated settings handler _ refusal _ w _ hresolve hran =>
              have hnotices :
                  Appends (now.Posts (.background (some settings) (some handler)))
                    now.world.queue.events w.queue.events :=
                (hran.appends hopen).mono fun e he => .notice he (by simp)
              cases refusal with
              | none => exact hnotices
              | some reason =>
                  refine hnotices.post ((hsound.world.schedule _ _).ran hran).isOpen ?_
                  refine .refusal ?_
                  simp [Station.cycleAt_activated hanswer hresolve]
  | stop id =>
      cases hstep with
      | stopInactive => exact .refl _
      | stopActive =>
          rw [(Periodic.disarm_settles _ _).queue]
          exact .refl _
  | fire handle =>
      cases hstep with
      | fireInactive => exact .refl _
      | fire hactive => exact Appends.post (w := now.world) (.refl _) hopen (.expiry hactive)
  | outside happening =>
      cases hstep with
      | outside =>
          exact (World.appends_happen hsound.world happening).mono fun e he =>
            .notice he (by simp)

end Step

end Posting

/-! ## Alarms of a configuration -/

/-- The alarms of a world are those of another one and alarms under an id. -/
def World.Arms (w w' : World ρ) (id : ScanId) : Prop :=
  ∀ a ∈ w'.timers.active, a ∈ w.timers.active ∨ a.tag.config? = some id

theorem Periodic.Ran.arms [Radio ρ] {setup : Setup} {id : ScanId} {p p' : Periodic} {iface : String}
    {refusal : Option Reason} {w w' : World ρ} {millis : UInt64}
    (hran : Ran setup id p (w.schedule (.period iface id) millis).2 (refusal, p', w')) :
    w.Arms w' id := by
  have hperiod (a : Alarm) (ha : a ∈ (w.schedule (.period iface id) millis).2.timers.active) :
      a ∈ w.timers.active ∨ a.tag.config? = some id := by
    rw [World.mem_schedule_active] at ha
    refine ha.imp_right ?_
    rintro rfl
    rfl
  intro a ha
  cases hran with
  | skipped => exact hperiod a ha
  | unresolved => exact hperiod a ha
  | rejected => exact hperiod a ha
  | admitted =>
      rw [World.mem_schedule_active] at ha
      rcases ha with hold | rfl
      · exact hperiod a hold
      · exact .inr rfl

/-- A move arms an alarm of a configuration only if the configuration is active afterwards. -/
theorem Step.active_origin [Radio ρ] {now next : Station ρ} {move : Move ρ}
    (hstep : Step now move next) {a : Alarm} (ha : a ∈ next.world.timers.active) :
    a ∈ now.world.timers.active ∨
      ∀ id, a.tag.config? = some id → ∃ p, next.config? id = some p := by
  cases hstep with
  | single hstarted =>
      cases hstarted with
      | refused => exact .inl ha
      | unresolved => exact .inl ha
      | rejected => exact .inl ha
      | armed =>
          rw [World.mem_schedule_active] at ha
          refine ha.imp_right ?_
          rintro rfl id hid
          cases hid
  | background hstarted =>
      cases hstarted with
      | refused => exact .inl ha
      | unresolved => exact .inl ha
      | @activated _ _ _ refusal p w _ _ hran =>
          have ha' : a ∈ w.timers.active := by cases refusal <;> exact ha
          refine (hran.arms a ha').imp_right fun htag id hid => ⟨p, ?_⟩
          obtain rfl := Option.some.inj (htag.symm.trans hid)
          simp [Station.config?]
  | stopActive => exact .inl ((Periodic.mem_disarm_active _ _).mp ha).1
  | fire => exact .inl (List.mem_filter.mp ha).1
  | outside =>
      rw [World.happen_timers] at ha
      exact .inl ha
  | @finished e _ _ _ _ _ hfinished =>
      have ha' := ((Background.active_finish _ _ _ _).mp ha).1
      have hfetched := ((hfinished.active a).mp ha').1
      cases e <;> exact .inl hfetched
  | singleTimeout _ hexpired => cases hexpired <;> exact .inl ha
  | period _ hticked =>
      cases hticked with
      | stale => exact .inl ha
      | @ticked _ q refusal w _ _ hran =>
          have ha' : a ∈ w.timers.active := by cases refusal <;> exact ha
          refine (hran.arms a ha').imp_right fun htag id hid => ⟨q, ?_⟩
          obtain rfl := Option.some.inj (htag.symm.trans hid)
          simp [Station.config?]
  | cycleTimeout _ hexpired => cases hexpired <;> exact .inl ha
  | cycleRejection =>
      rw [Background.rejectCycle_timers] at ha
      exact .inl ha
  | _ => exact .inl ha

/-! ## What a handler at rest hears -/

namespace Station

variable {now : Station ρ} {handler : Handler} {id : ScanId} {handle : TimerHandle}
  {background : Background} {w w' : World ρ}

theorem Rests.not_pending (h : now.Rests handler) {p : Periodic} {c : Cycle}
    (hnow : now.config? id = some p) (hpending : p.pending = some c) : p.handler ≠ handler := by
  intro hown
  rw [h.configs id p hnow hown] at hpending
  cases hpending

theorem Rests.heard_finish (h : now.Rests handler) (e : Ending) (w : World ρ) :
    (now.scanner.background.finish e w).2.heard handler = w.heard handler :=
  Background.heard_finish_of_other e w fun _ _ _ => h.not_pending

theorem Rests.heard_expired (h : now.Rests handler)
    (hexpired : Background.Expired now.scanner.background id handle w (background, w')) :
    w'.heard handler = w.heard handler := by
  cases hexpired with
  | stale => rfl
  | own hfind hpending => exact World.heard_notify_of_ne _ _ _ (h.not_pending hfind hpending)

/-- A tick that runs no cycle of a handler is told to another one. -/
theorem LeavesAlone.heard_ticked [Radio ρ] (h : now.LeavesAlone handler .dispatch)
    {rest : List Event}
    (hqueue : now.world.queue.events = .timerFired (.period now.iface id) handle :: rest)
    (hticked : Background.Ticked now.scanner.setup now.scanner.background id handle
      (now.world.withEvents rest) (background, w')) :
    w'.heard handler = now.world.heard handler := by
  cases hticked with
  | stale => rfl
  | @ticked p q refusal w hfind hhandle hran =>
      have hne : q.handler ≠ handler := by
        intro hown
        have hcycle := (h.configs _ p hfind (hran.handler.symm.trans hown)).2
        rw [cycleAt_tick hqueue hfind hhandle] at hcycle
        cases hcycle
      have hheard : w.heard handler = now.world.heard handler :=
        World.heard_congr (hran.callbacks.trans (World.schedule_callbacks _ _ _)) handler
      cases refusal with
      | none => exact hheard
      | some reason => exact (World.heard_notify_of_ne _ _ _ hne).trans hheard

end Station

namespace Step

variable [Radio ρ] {now next : Station ρ} {move : Move ρ} {handler : Handler}

/-- Only stopping a configuration takes it away. -/
theorem config_stays (hstep : Step now move next) {id : ScanId} {p : Periodic}
    (hnow : now.config? id = some p) (hmove : move ≠ .stop id) :
    ∃ q, next.config? id = some q := by
  have hinsert (other : ScanId) (q : Periodic) :
      ∃ q', (now.scanner.background.scans.insert other q).find? id = some q' := by
    by_cases hid : id = other
    · exact ⟨q, by simp [hid]⟩
    · exact ⟨p, by rw [SortedMap.find?_insert, if_neg hid]; exact hnow⟩
  cases hstep with
  | background hstarted =>
      cases hstarted with
      | refused => exact ⟨p, hnow⟩
      | unresolved => exact ⟨p, hnow⟩
      | activated => exact hinsert _ _
  | @stopActive other =>
      have hid : id ≠ other := fun h => hmove (by rw [h])
      exact ⟨p, by simpa [Station.config?, hid] using hnow⟩
  | @finished e _ _ world =>
      refine ⟨p.ended e, ?_⟩
      exact (now.scanner.background.finish_find? e world id).trans (congrArg _ hnow)
  | period _ hticked =>
      cases hticked with
      | stale => exact ⟨p, hnow⟩
      | ticked => exact hinsert _ _
  | cycleTimeout _ hexpired =>
      cases hexpired with
      | stale => exact ⟨p, hnow⟩
      | own => exact hinsert _ _
  | _ => exact ⟨p, hnow⟩

/-- A configuration was there before a move and is unchanged, if the move leaves the handler of the
configuration alone and nothing waits for it. -/
theorem config_before (hstep : Step now move next) (hrests : now.Rests handler)
    (hmove : now.LeavesAlone handler move) {id : ScanId} {q : Periodic}
    (hnext : next.config? id = some q) (hown : q.handler = handler) :
    now.config? id = some q := by
  cases hstep.origin hnext with
  | begun hbackground _ hran =>
      refine absurd ?_ hmove.given
      rw [hbackground, ← hown, hran.handler]
      rfl
  | ticked _ hnow hcycle hran =>
      rw [(hmove.configs _ _ hnow (hran.handler.symm.trans hown)).2] at hcycle
      cases hcycle
  | @ended p e _ hnow =>
      have hidle := hrests.configs _ _ hnow ((p.ended_handler e).symm.trans hown)
      rwa [Periodic.ended_of_idle hidle]
  | kept _ hnow => exact hnow

theorem config_iff (hstep : Step now move next) (hrests : now.Rests handler)
    (hmove : now.LeavesAlone handler move) {id : ScanId} {p : Periodic}
    (hown : p.handler = handler) : next.config? id = some p ↔ now.config? id = some p := by
  refine ⟨fun hnext => hstep.config_before hrests hmove hnext hown, fun hnow => ?_⟩
  obtain ⟨q, hq⟩ := hstep.config_stays hnow (hmove.configs id p hnow hown).1
  cases hstep.origin hq with
  | begun hbackground hcycle =>
      rw [(hmove.configs id p hnow hown).2] at hcycle
      cases hcycle
  | ticked _ _ hcycle =>
      rw [(hmove.configs id p hnow hown).2] at hcycle
      cases hcycle
  | @ended p' e _ hnow' =>
      obtain rfl := Option.some.inj (hnow.symm.trans hnow')
      rwa [Periodic.ended_of_idle (hrests.configs id p hnow hown)] at hq
  | kept _ hnow' =>
      obtain rfl := Option.some.inj (hnow.symm.trans hnow')
      exact hq

theorem tidings?_eq (hstep : Step now move next) (hrests : now.Rests handler)
    (hmove : now.LeavesAlone handler move) : next.tidings? handler = now.tidings? handler := by
  have hiface : next.iface = now.iface := congrArg Setup.iface hstep.setup
  have hany (id : ScanId) : (next.config? id).any (·.handler = handler) =
      (now.config? id).any (·.handler = handler) := by
    rw [Bool.eq_iff_iff, Option.any_eq_true, Option.any_eq_true]
    refine exists_congr fun p => and_congr_left fun hown => ?_
    exact hstep.config_iff hrests hmove (of_decide_eq_true hown)
  funext e
  cases e with
  | cycleRejected iface id reason => simp only [Station.tidings?, hiface, hany]
  | _ => rfl

/-- A handler at rest hears what the turn has in store for it, and nothing else. -/
theorem heard_at_rest (hstep : Step now move next) (hrests : now.Rests handler)
    (hmove : now.LeavesAlone handler move) : next.world.heard handler =
      now.world.heard handler ++ ((now.turn? move).bind (now.tidings? handler)).toList := by
  have hsilent (htidings : (now.turn? move).bind (now.tidings? handler) = none)
      (hheard : next.world.heard handler = now.world.heard handler) :
      next.world.heard handler = now.world.heard handler ++
        ((now.turn? move).bind (now.tidings? handler)).toList := by
    rw [htidings, hheard]
    exact (List.append_nil _).symm
  have hhead {e : Event} {rest : List Event} (hqueue : now.world.queue.events = e :: rest) :
      (now.turn? .dispatch).bind (now.tidings? handler) = now.tidings? handler e := by
    simp [Station.turn?, hqueue]
  have hcall (hcall : move.isCall = true) : next.world.heard handler = now.world.heard handler :=
    World.heard_congr (hstep.callbacks_of_isCall hcall) handler
  cases hstep with
  | single => exact hsilent rfl (hcall rfl)
  | background => exact hsilent rfl (hcall rfl)
  | stopInactive => exact hsilent rfl rfl
  | stopActive => exact hsilent rfl (hcall rfl)
  | fireInactive => exact hsilent rfl rfl
  | fire => exact hsilent rfl rfl
  | outside =>
      refine hsilent rfl (World.heard_congr ?_ handler)
      rw [World.callbacks, World.happen_log]
      rfl
  | idle hqueue => exact hsilent (by simp [Station.turn?, hqueue]) rfl
  | @finished e _ _ _ hqueue _ hfinished =>
      refine hsilent ((hhead hqueue).trans (by cases e <;> rfl)) ?_
      rw [hrests.heard_finish, hfinished.passage.heard_of_not_held hrests.slot]
      exact Ending.heard_fetched e _ _ handler
  | unwanted hqueue => exact hsilent (hhead hqueue) rfl
  | singleTimeout hqueue hexpired =>
      exact hsilent (hhead hqueue) (hexpired.passage.heard_of_not_held hrests.slot)
  | period hqueue hticked => exact hsilent (hhead hqueue) (hmove.heard_ticked hqueue hticked)
  | cycleTimeout hqueue hexpired =>
      have hheard := hrests.heard_expired hexpired
      exact hsilent (hhead hqueue) hheard
  | @rejection _ carried _ _ hqueue =>
      rw [hhead hqueue]
      refine (World.heard_notify _ _ _ _).trans (congrArg _ ?_)
      by_cases hown : carried = handler <;> simp [Station.tidings?, hown]
  | @cycleRejection id reason _ hqueue =>
      rw [hhead hqueue]
      refine (Background.heard_rejectCycle _ _ _ _ _).trans (congrArg _ ?_)
      simp only [Station.tidings?, Station.config?, true_and]
      split <;> rfl
  | @foreign e _ hqueue hiface hother =>
      refine hsilent ((hhead hqueue).trans ?_) rfl
      cases e with
      | admissionRejected iface carried reason => exact absurd rfl (hother iface carried reason)
      | cycleRejected iface id reason =>
          refine if_neg fun h => hiface ?_
          rw [h.1]
          rfl
      | _ => rfl

/-- A handler that is left alone stays at rest, and what it has heard and what is queued for it stay
the same together. -/
theorem rests [NoticeRadio ρ] (hstep : Step now move next) (hsound : now.Sound)
    (hrests : now.Rests handler) (hmove : now.LeavesAlone handler move) :
    next.Rests handler ∧
      next.world.heard handler ++ next.ahead handler =
        now.world.heard handler ++ now.ahead handler := by
  refine ⟨⟨?_, ?_⟩, ?_⟩
  · obtain ⟨hslot, -⟩ := hstep.places hsound hmove.given
    rw [Bool.eq_false_iff]
    exact fun hholds => Bool.eq_false_iff.mp hrests.slot (hslot hholds)
  · intro id p hnext hown
    exact hrests.configs id p (hstep.config_before hrests hmove hnext hown) hown
  · obtain ⟨posted, hevents, hposted⟩ := hstep.appends hsound
    have hnone : posted.filterMap (now.tidings? handler) = [] :=
      List.filterMap_eq_nil_iff.mpr fun e he => (hposted e he).tidings?_eq_none hmove
    rw [Station.ahead, hstep.tidings?_eq hrests hmove, hevents, List.filterMap_append, hnone,
      List.append_nil, hstep.heard_at_rest hrests hmove, now.ahead_eq move, List.append_assoc]

end Step

/-! ## Every run -/

/-- No tick of a configuration of the handler is queued. -/
def Station.Untimed (now : Station ρ) (handler : Handler) : Prop :=
  ∀ id p, now.config? id = some p → p.handler = handler →
    .timerFired (.period now.iface id) p.periodTimer ∉ now.world.queue.events

/-- Without such a tick a turn leaves the handler alone. -/
theorem Station.Untimed.leavesAlone [Radio ρ] {now : Station ρ} {handler : Handler}
    (h : now.Untimed handler) : now.LeavesAlone handler .dispatch where
  given := by simp [Move.handler?]
  configs id p hnow hown := by
    refine ⟨by simp, Option.eq_none_iff_forall_ne_some.mpr fun q hcycle => ?_⟩
    rcases cycleAt_eq_some hcycle with ⟨_, _, _, hmove, -⟩ | ⟨hturn, hfind⟩
    · cases hmove
    · obtain rfl := Option.some.inj (hnow.symm.trans hfind)
      exact h id p hnow hown (List.mem_of_mem_head? hturn)

namespace Run

variable [Radio ρ]

/-- An alarm of a configuration, active or expired, is under an id that was handed out. -/
theorem alarm_ids [NoticeRadio ρ] (run : Run ρ) (hids : run.ids.length < 2 ^ 32 - 1) :
    (∀ a ∈ run.now.world.timers.active, ∀ id, a.tag.config? = some id →
      id.toNat ≤ run.ids.length) ∧
    (∀ tag handle, .timerFired tag handle ∈ run.now.world.queue.events →
      ∀ id, tag.config? = some id → id.toNat ≤ run.ids.length) := by
  induction run with
  | begin setup radio clock =>
      exact ⟨fun _ ha => (List.not_mem_nil ha).elim, fun _ _ he => (List.not_mem_nil he).elim⟩
  | extend run move ih =>
      have hgrown := run.ids_length_le move
      obtain ⟨hactive, hqueued⟩ := ih (by omega)
      have hstep := run.now.step_perform move
      refine ⟨?_, ?_⟩
      · intro a ha id hid
        rcases hstep.active_origin ha with hold | hnew
        · exact Nat.le_trans (hactive a hold id hid) hgrown
        · obtain ⟨p, hp⟩ := hnew id hid
          exact ((run.extend move).numbered hids).ids id p hp
      · intro tag handle hmem id hid
        refine Nat.le_trans ?_ hgrown
        obtain ⟨posted, hevents, hposted⟩ := hstep.appends run.sound
        rw [now, hevents, List.mem_append] at hmem
        rcases hmem with hold | hnew
        · exact hqueued tag handle (run.now.remaining_subset move hold) id hid
        · cases hposted _ hnew with
          | notice he => cases he
          | expiry ha => exact hactive _ ha id hid

/-- Each of some moves leaves a handler alone. -/
def LeavesAlone (handler : Handler) : Run ρ → List (Move ρ) → Prop
  | _, [] => True
  | run, move :: rest =>
    run.now.LeavesAlone handler move ∧ LeavesAlone handler (run.extend move) rest

variable [NoticeRadio ρ] {handler : Handler}

theorem rests_after (run : Run ρ) (moves : List (Move ρ)) (hrests : run.now.Rests handler)
    (hmoves : run.LeavesAlone handler moves) :
    (moves.foldl extend run).now.world.heard handler ++
        (moves.foldl extend run).now.ahead handler =
      run.now.world.heard handler ++ run.now.ahead handler := by
  induction moves generalizing run with
  | nil => rfl
  | cons move rest ih =>
      obtain ⟨hrests', hsame⟩ :=
        (run.now.step_perform move).rests run.sound hrests hmoves.1
      exact (ih (run.extend move) hrests' hmoves.2).trans hsame

/-- Turns leave a handler at rest alone if no tick of its configurations is queued. -/
theorem leavesAlone_turns (n : Nat) (run : Run ρ) (hrests : run.now.Rests handler)
    (huntimed : run.now.Untimed handler) :
    run.LeavesAlone handler (List.replicate n .dispatch) := by
  induction n generalizing run with
  | zero => trivial
  | succ n ih =>
      have hstep := run.now.step_perform .dispatch
      have hmove := huntimed.leavesAlone
      refine ⟨hmove, ih (run.extend .dispatch) (hstep.rests run.sound hrests hmove).1 ?_⟩
      intro id p hnext hown hmem
      have hiface : (run.extend .dispatch).now.iface = run.now.iface :=
        congrArg Setup.iface hstep.setup
      obtain ⟨posted, hevents, hposted⟩ := hstep.appends_dispatch run.sound
      rw [hiface, now, hevents, List.mem_append] at hmem
      rcases hmem with hold | hnew
      · exact huntimed id p (hstep.config_before hrests hmove hnext hown) hown
          (List.mem_of_mem_tail hold)
      · cases (hposted _ hnew).1

/-- Enough turns empty the queue. -/
theorem exists_drained (run : Run ρ) :
    ∃ n, ((List.replicate n .dispatch).foldl extend run).now.world.queue.events = [] := by
  cases hqueue : run.now.world.queue.events with
  | nil => exact ⟨0, hqueue⟩
  | cons e rest =>
      have hshorter := (run.now.step_perform .dispatch).shortens run.sound hqueue
      obtain ⟨n, hdrained⟩ := (run.extend .dispatch).exists_drained
      exact ⟨n + 1, hdrained⟩
termination_by (run.now.world.queue.countOf Event.isTick, run.now.world.queue.events.length)
decreasing_by
  rcases hshorter with hticks | ⟨hticks, hlength⟩
  · exact .left _ _ hticks
  · exact hticks ▸ .right _ hlength

end Run

end WirelessScan
