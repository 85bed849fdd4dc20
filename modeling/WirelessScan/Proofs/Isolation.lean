import WirelessScan.Proofs.Refusal
import WirelessScan.Proofs.Staleness
import WirelessScan.Proofs.Waiting

/-!
# Requests leave each other alone

Except for the notices of the radio, everything that reaches a scanner is addressed to one request:
a start to the request that it makes, a stop to a configuration, an expiry or a rejection to the
request that it was made for. Whatever comes of it, the other requests stay exactly as they were.

All requests share the radio, the clock, the timers and the queue. What matters for the others is
that alarms are added and none is cancelled, and that callbacks go to one handler; `World.Serves`
says so. Only a stop cancels alarms. Those are the alarms of its configuration, since no handle is
stored twice.
-/

namespace WirelessScan

variable {ρ : Type}

/-! ## Operations -/

/-- The place of the request that an alarm is for. -/
def TimerTag.place : TimerTag → Place
  | singleTimeout _ => .single
  | period _ id => .cycle id
  | cycleTimeout _ id => .cycle id

/-- The handler of an armed slot. -/
def Slot.handler? : Slot → Option Handler
  | armed scan => some scan.handler
  | _ => none

/-- What reaches a scanner and is addressed to one request. -/
inductive Operation where
  | single (settings : Option Settings) (handler : Option Handler)
  | background (settings : Option Settings) (handler : Option Handler)
  | stop (id : ScanId)
  | expiry (tag : TimerTag) (handle : TimerHandle)
  | cycleRejection (iface : String) (id : ScanId) (reason : Reason)
  | rejection (iface : String) (handler : Handler) (reason : Reason)

namespace Scanner

/-- What an operation makes of a scanner and the world. -/
def operate [Radio ρ] (s : Scanner) (w : World ρ) : Operation → Scanner × World ρ
  | .single settings handler => (s.startSingle settings handler w).2
  | .background settings handler => (s.startBackground settings handler w).2
  | .stop id => (s.stopBackground id w).2
  | .expiry tag handle => s.handle (.timerFired tag handle) w
  | .cycleRejection iface id reason => s.handle (.cycleRejected iface id reason) w
  | .rejection iface handler reason => s.handle (.admissionRejected iface handler reason) w

/-- The active configuration of an id. -/
def config? (s : Scanner) (id : ScanId) : Option Periodic :=
  s.background.scans.find? id

/-- The handler of the request at a place. -/
def handlerAt (s : Scanner) : Place → Option Handler
  | .single => s.single.slot.handler?
  | .cycle id => (s.config? id).map (·.handler)

end Scanner

namespace Operation

/-- The place of the request that an operation is addressed to. A start is addressed to the request
that it makes, if there is room for it. An expiry is addressed to the request that still stores its
handle, and the request of a rejection never came to a place. -/
def place? (s : Scanner) : Operation → Option Place
  | single .. => if s.single.slot = .idle then some .single else none
  | background .. => some (.cycle s.background.nextId)
  | stop id => some (.cycle id)
  | expiry tag handle => if s.stored tag = some handle then some tag.place else none
  | cycleRejection iface id _ => if iface = s.iface then some (.cycle id) else none
  | rejection .. => none

/-- The handler that an operation may call. Nobody is called back from inside a call. -/
def listener? (s : Scanner) : Operation → Option Handler
  | single .. => none
  | background .. => none
  | stop _ => none
  | expiry tag handle => if s.stored tag = some handle then s.handlerAt tag.place else none
  | cycleRejection iface id _ => if iface = s.iface then s.handlerAt (.cycle id) else none
  | rejection iface handler _ => if iface = s.iface then some handler else none

/-- An operation leaves everything alone that does not belong to the request it is addressed to. -/
structure Confined (op : Operation) (s : Scanner) (w : World ρ) (after : Scanner × World ρ) :
    Prop where
  configs : ∀ id, op.place? s ≠ some (.cycle id) → after.1.config? id = s.config? id
  single : op.place? s ≠ some .single → after.1.single = s.single
  /-- The alarms of the other requests, provided that no handle was handed out twice. -/
  alarms : w.issued.Nodup → ∀ tag handle, s.Stores tag handle → op.place? s ≠ some tag.place →
    ∀ a ∈ w.timers.active, a.handle = handle → a ∈ after.2.timers.active
  callbacks : ∃ said, after.2.callbacks = w.callbacks ++ said ∧
    ∀ c ∈ said, op.listener? s = some c.1

end Operation

/-! ## Effects on the other requests -/

namespace World

/-- No alarm is cancelled, and there are callbacks to one handler at most. -/
structure Serves (w : World ρ) (listener : Option Handler) (w' : World ρ) : Prop where
  alarms : w.timers.active ⊆ w'.timers.active
  callbacks : ∃ said, w'.callbacks = w.callbacks ++ said ∧ ∀ c ∈ said, listener = some c.1

namespace Serves

variable {w w' w'' : World ρ} {listener : Option Handler}

theorem of_silent (halarms : w.timers.active ⊆ w'.timers.active)
    (hcallbacks : w'.callbacks = w.callbacks) : w.Serves listener w' :=
  ⟨halarms, [], by simp [hcallbacks], by simp⟩

theorem refl (w : World ρ) : w.Serves listener w :=
  .of_silent (List.Subset.refl _) rfl

theorem trans (h : w.Serves listener w') (h' : w'.Serves listener w'') :
    w.Serves listener w'' := by
  obtain ⟨said, heq, hsaid⟩ := h.callbacks
  obtain ⟨more, heq', hmore⟩ := h'.callbacks
  refine ⟨fun _ ha => h'.alarms (h.alarms ha), said ++ more, ?_, ?_⟩
  · rw [heq', heq, List.append_assoc]
  intro c hc
  obtain hc | hc := List.mem_append.mp hc
  · exact hsaid c hc
  · exact hmore c hc

theorem schedule (w : World ρ) (tag : TimerTag) (millis : UInt64) :
    w.Serves listener (w.schedule tag millis).2 :=
  .of_silent (by simp) (schedule_callbacks w tag millis)

theorem asked [Radio ρ] (w : World ρ) (iface : String) (request : Request) :
    w.Serves listener (w.asked iface request) :=
  .of_silent (List.Subset.refl _) (asked_callbacks w iface request)

theorem post (w : World ρ) (e : Event) : w.Serves listener (w.post e) :=
  .of_silent (List.Subset.refl _) (post_callbacks w e)

theorem notify (w : World ρ) (handler : Handler) (c : Callback) :
    w.Serves (some handler) (w.notify handler c) :=
  ⟨List.Subset.refl _, [(handler, c)], notify_callbacks w handler c, by simp⟩

end Serves

end World

section Effects

variable {w w' : World ρ} {listener : Option Handler} {setup : Setup} {id : ScanId}
  {handle : TimerHandle}

namespace Single

variable {s s' : Single}

theorem Started.serves [Radio ρ] {settings : Option Settings} {handler : Option Handler}
    {accepted : Bool} (h : Started setup s w settings handler (accepted, s', w')) :
    w.Serves listener w' := by
  cases h with
  | refused => exact .refl w
  | unresolved => exact .post _ _
  | rejected => exact (World.Serves.asked _ _ _).trans (.post _ _)
  | armed => exact (World.Serves.asked _ _ _).trans (.schedule _ _ _)

/-- A start leaves a slot alone that is taken. -/
theorem Started.eq_of_taken [Radio ρ] {settings : Option Settings} {handler : Option Handler}
    {accepted : Bool} (h : Started setup s w settings handler (accepted, s', w'))
    (htaken : s.slot ≠ .idle) : s' = s := by
  cases h with
  | refused => rfl
  | unresolved hidle => exact (htaken hidle).elim
  | rejected hidle => exact (htaken hidle).elim
  | armed hidle => exact (htaken hidle).elim

theorem Expired.serves (h : Expired s handle w (s', w')) :
    w.Serves s.slot.handler? w' := by
  cases h with
  | stale => exact .refl w
  | own hslot =>
      rw [hslot]
      exact .notify _ _ _

end Single

namespace Periodic

variable {p p' : Periodic} {refusal : Option Reason}

theorem Ran.serves [Radio ρ] (h : Ran setup id p w (refusal, p', w')) : w.Serves listener w' := by
  cases h with
  | skipped => exact .refl w
  | unresolved => exact .refl w
  | rejected => exact .asked _ _ _
  | admitted => exact (World.Serves.asked _ _ _).trans (.schedule _ _ _)

end Periodic

namespace Background

variable {b b' : Background}

theorem Started.serves [Radio ρ] {settings : Option Settings} {handler : Option Handler}
    {answer : Option ScanId} (h : Started setup b w settings handler (answer, b', w')) :
    w.Serves listener w' := by
  cases h with
  | refused => exact .refl w
  | unresolved => exact .post _ _
  | @activated _ _ _ refusal _ _ _ _ hran =>
      have hran' : w.Serves listener _ := (World.Serves.schedule w _ _).trans hran.serves
      cases refusal with
      | none => exact hran'
      | some reason => exact hran'.trans (.post _ _)

/-- A start adds no configuration but its own. -/
theorem Started.find?_of_ne [Radio ρ] {settings : Option Settings} {handler : Option Handler}
    {answer : Option ScanId} (h : Started setup b w settings handler (answer, b', w'))
    (hid : id ≠ b.nextId) : b'.scans.find? id = b.scans.find? id := by
  cases h with
  | activated => simp [hid]
  | _ => rfl

theorem Ticked.serves [Radio ρ] (h : Ticked setup b id handle w (b', w')) :
    w.Serves ((b.scans.find? id).map (·.handler)) w' := by
  cases h with
  | stale => exact .refl w
  | @ticked p _ refusal _ hfind _ hran =>
      have hran' : w.Serves (some p.handler) _ :=
        (World.Serves.schedule w _ _).trans hran.serves
      rw [hfind]
      cases refusal with
      | none => exact hran'
      | some reason => exact hran'.trans (hran.handler ▸ .notify _ _ _)

theorem Ticked.find?_of_ne [Radio ρ] {other : ScanId} (h : Ticked setup b id handle w (b', w'))
    (hother : other ≠ id) : b'.scans.find? other = b.scans.find? other := by
  cases h with
  | stale => rfl
  | ticked => simp [hother]

theorem Expired.serves (h : Expired b id handle w (b', w')) :
    w.Serves ((b.scans.find? id).map (·.handler)) w' := by
  cases h with
  | stale => exact .refl w
  | own hfind =>
      rw [hfind]
      exact .notify _ _ _

theorem Expired.find?_of_ne {other : ScanId} (h : Expired b id handle w (b', w'))
    (hother : other ≠ id) : b'.scans.find? other = b.scans.find? other := by
  cases h with
  | stale => rfl
  | own => simp [hother]

theorem rejectCycle_serves (b : Background) (id : ScanId) (reason : Reason) (w : World ρ) :
    w.Serves ((b.scans.find? id).map (·.handler)) (b.rejectCycle id reason w) := by
  unfold rejectCycle
  cases b.scans.find? id with
  | none => exact .refl w
  | some p => exact .notify _ _ _

end Background

end Effects

/-! ## One operation -/

namespace Operation

variable {s s' : Scanner} {w w' : World ρ} {op : Operation}

/-- Whatever cancels no alarm is confined if the states of the other requests are untouched. -/
theorem Confined.of_serves
    (hconfigs : ∀ id, op.place? s ≠ some (.cycle id) → s'.config? id = s.config? id)
    (hsingle : op.place? s ≠ some .single → s'.single = s.single)
    (hserves : w.Serves (op.listener? s) w') : op.Confined s w (s', w') where
  configs := hconfigs
  single := hsingle
  alarms _ _ _ _ _ _ ha _ := hserves.alarms ha
  callbacks := hserves.callbacks

theorem Confined.unchanged : op.Confined s w (s, w) :=
  .of_serves (fun _ _ => rfl) (fun _ => rfl) (.refl w)

/-- A stop cancels the alarms of its configuration, and of no other request. -/
theorem confined_stop {id : ScanId}
    (hdistinct : w.issued.Nodup → ∀ tag tag' handle, s.Stores tag handle →
      s.Stores tag' handle → tag = tag') :
    (stop id).Confined s w (s.stopBackground id w).2 := by
  cases hfind : s.background.scans.find? id with
  | none =>
      rw [Scanner.stopBackground, Background.stop_inactive hfind]
      exact .unchanged
  | some p =>
      rw [Scanner.stopBackground, Background.stop_active hfind]
      refine ⟨?_, fun _ => rfl, ?_, [], ?_, by simp⟩
      · intro other hother
        have hne : other ≠ id := fun heq => hother (by rw [heq]; rfl)
        simp [Scanner.config?, hne]
      · intro hfresh tag handle hstores hplace a ha hhandle
        -- What is cancelled is stored by the configuration, and then by no other request.
        have hforeign : ∀ tag', tag'.place = .cycle id → ¬ s.Stores tag' handle := by
          intro tag' htag' hstores'
          rw [hdistinct hfresh tag tag' handle hstores hstores', htag'] at hplace
          exact hplace rfl
        refine (p.mem_disarm_active w).mpr ⟨ha, ?_, ?_⟩
        · intro hperiod
          exact hforeign (.period s.iface id) rfl (hhandle ▸ hperiod ▸ .period hfind)
        · intro c hpending hcycle
          exact hforeign (.cycleTimeout s.iface id) rfl
            (hhandle ▸ hcycle ▸ .cycle hfind hpending)
      · unfold Periodic.disarm
        cases p.pending <;> simp

variable [Radio ρ]

theorem confined_single (settings : Option Settings) (handler : Option Handler) :
    (single settings handler).Confined s w (s.startSingle settings handler w).2 := by
  obtain ⟨accepted, single, w', hstarted, heq⟩ := s.startSingle_started w settings handler
  rw [heq]
  refine .of_serves (fun _ _ => rfl) ?_ hstarted.serves
  intro hplace
  exact hstarted.eq_of_taken fun hidle => hplace (if_pos hidle)

theorem confined_background (settings : Option Settings) (handler : Option Handler) :
    (background settings handler).Confined s w (s.startBackground settings handler w).2 := by
  obtain ⟨id, background, w', hstarted, heq⟩ := s.startBackground_started w settings handler
  rw [heq]
  refine .of_serves ?_ (fun _ => rfl) hstarted.serves
  intro id hplace
  exact hstarted.find?_of_ne fun heq => hplace (by rw [heq]; rfl)

theorem confined_expiry (tag : TimerTag) (handle : TimerHandle) :
    (expiry tag handle).Confined s w (s.handle (.timerFired tag handle) w) := by
  by_cases hstored : s.stored tag = some handle
  case neg =>
    rw [Scanner.handle_late hstored]
    exact .unchanged
  have hplace : (expiry tag handle).place? s = some tag.place := if_pos hstored
  have hlistener : (expiry tag handle).listener? s = s.handlerAt tag.place := if_pos hstored
  have hstores := Scanner.stores_iff.mpr hstored
  rw [Scanner.handle_timerFired hstores.iface_eq]
  cases tag with
  | singleTimeout =>
      have hexpired := Single.expire_expired s.single handle w
      refine .of_serves (fun _ _ => rfl) (fun hne => (hne hplace).elim) ?_
      rw [hlistener]
      exact hexpired.serves
  | period _ id =>
      have hticked := Background.tick_ticked s.setup s.background id handle w
      refine .of_serves ?_ (fun _ => rfl) ?_
      · intro other hother
        exact hticked.find?_of_ne fun heq => hother (heq ▸ hplace)
      · rw [hlistener]
        exact hticked.serves
  | cycleTimeout _ id =>
      have hexpired := Background.expire_expired s.background id handle w
      refine .of_serves ?_ (fun _ => rfl) ?_
      · intro other hother
        exact hexpired.find?_of_ne fun heq => hother (heq ▸ hplace)
      · rw [hlistener]
        exact hexpired.serves

theorem confined_cycleRejection (iface : String) (id : ScanId) (reason : Reason) :
    (cycleRejection iface id reason).Confined s w
      (s.handle (.cycleRejected iface id reason) w) := by
  by_cases hiface : iface = s.iface
  case neg =>
    rw [Scanner.handle_foreign rfl hiface]
    exact .unchanged
  subst hiface
  have hlistener : (cycleRejection s.iface id reason).listener? s = s.handlerAt (.cycle id) :=
    if_pos rfl
  rw [Scanner.handle_cycleRejected]
  refine .of_serves (fun _ _ => rfl) (fun _ => rfl) ?_
  rw [hlistener]
  exact s.background.rejectCycle_serves id reason w

theorem confined_rejection (iface : String) (handler : Handler) (reason : Reason) :
    (rejection iface handler reason).Confined s w
      (s.handle (.admissionRejected iface handler reason) w) := by
  by_cases hiface : iface = s.iface
  case neg =>
    rw [Scanner.handle_foreign rfl hiface]
    exact .unchanged
  subst hiface
  have hlistener : (rejection s.iface handler reason).listener? s = some handler := if_pos rfl
  rw [Scanner.handle_admissionRejected]
  refine .of_serves (fun _ _ => rfl) (fun _ => rfl) ?_
  rw [hlistener]
  exact .notify w handler _

end Operation

/-! ## Every run -/

/-- Requests do not interfere. In every reachable state in which the ids have not wrapped, and
whatever waits in the queue, an operation that is addressed to one request leaves the others exactly
as they were: every other configuration, the single slot and its results, and the alarms of both.
Nobody else is called back. A start takes an id that no configuration has. -/
theorem Run.requests_do_not_interfere [Radio ρ] [NoticeRadio ρ] (run : Run ρ)
    (hids : run.ids.length < 2 ^ 32 - 1) (op : Operation) (events : List Event) :
    let s := run.now.scanner
    let w := run.now.world.withEvents events
    s.config? s.background.nextId = none ∧ op.Confined s w (s.operate w op) := by
  intro s w
  refine ⟨(run.numbered hids).nextId_unused (by omega), ?_⟩
  cases op with
  | single settings handler => exact Operation.confined_single settings handler
  | background settings handler => exact Operation.confined_background settings handler
  | stop id =>
      refine Operation.confined_stop fun hfresh tag tag' handle hstores hstores' => ?_
      have hkeeps := run.keeps hfresh hids
      exact hkeeps.inj (Scanner.stores_iff.mp hstores') (Scanner.stores_iff.mp hstores)
  | expiry tag handle => exact Operation.confined_expiry tag handle
  | cycleRejection iface id reason => exact Operation.confined_cycleRejection iface id reason
  | rejection iface handler reason => exact Operation.confined_rejection iface handler reason

namespace Sample

/-- A single scan and two configurations that wait for the radio. -/
def crowd : Run Replay :=
  run
    [.single (some settings) (some (handler 1)), .background (some settings) (some (handler 2)),
      .background (some settings) (some (handler 3))]

/-- One configuration is stopped, or its cycle runs out of time. -/
theorem crowd_undisturbed :
    let s := crowd.now.scanner
    let w := crowd.now.world.withEvents []
    let stopped := s.operate w (.stop 1)
    let expired := s.operate w (.expiry (.cycleTimeout "wlan0" 1) 3)
    s.single.phase = .armed ∧ stopped.1.single = s.single ∧ expired.1.single = s.single ∧
    (s.config? 2).isSome ∧ stopped.1.config? 2 = s.config? 2 ∧
    expired.1.config? 2 = s.config? 2 ∧
    s.Stores (.cycleTimeout "wlan0" 2) 5 ∧
    (∀ a ∈ w.timers.active, a.handle = 5 → a ∈ stopped.2.timers.active) ∧
    expired.2.callbacks = [(handler 2, .requestFailed .timeout)] := by
  intro s w stopped expired
  have hids : crowd.ids.length < 2 ^ 32 - 1 := by decide +kernel
  obtain ⟨-, hstop⟩ := crowd.requests_do_not_interfere hids (.stop 1) []
  obtain ⟨-, hexpiry⟩ :=
    crowd.requests_do_not_interfere hids (.expiry (.cycleTimeout "wlan0" 1) 3) []
  have hstores : s.Stores (.cycleTimeout "wlan0" 2) 5 :=
    Scanner.stores_iff.mpr (by decide +kernel)
  refine ⟨by decide +kernel, hstop.single (by decide +kernel), hexpiry.single (by decide +kernel),
    by decide +kernel, hstop.configs 2 (by decide +kernel), hexpiry.configs 2 (by decide +kernel),
    hstores, hstop.alarms (by decide +kernel) _ _ hstores (by decide +kernel),
    by decide +kernel⟩

end Sample

end WirelessScan
