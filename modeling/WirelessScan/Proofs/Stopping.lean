import WirelessScan.Proofs.CycleBalance
import WirelessScan.Proofs.Stored

/-!
# Stopping is final

A configuration that was stopped never comes back. Its id is below those that are still to be
handed out, so no start takes it again, and without a configuration under the id nothing is
scheduled for it. No request has its handler any more, and such a handler hears nothing.

What is still queued for the configuration does not matter: expiries, the rejection of its first
cycle and the answer of the radio all look the id up first.
-/

namespace WirelessScan

variable {ρ : Type}

/-! ## Handlers that were let go -/

/-- No request has the handler. -/
structure Station.Released (now : Station ρ) (handler : Handler) : Prop where
  spares : now.Spares handler
  slot : now.slotHolds handler = false
  rejections : now.rejections handler = 0

section Steps

variable [Radio ρ] {now next : Station ρ} {move : Move ρ} {id : ScanId} {handler : Handler}

/-- Nothing is said to a handler that was let go, until it is handed over again. -/
theorem Step.released [NoticeRadio ρ] (hstep : Step now move next) (hsound : now.Sound)
    (h : now.Released handler) (hmove : move.handler? ≠ some handler) :
    next.Released handler ∧ next.world.heard handler = now.world.heard handler := by
  obtain ⟨hspares, hpassage⟩ := hstep.passage hsound h.spares hmove
  cases hpassage with
  | kept hslot hheard hqueued =>
      exact ⟨⟨hspares, hslot.trans h.slot, hqueued.trans h.rejections⟩, hheard⟩
  | ended _ _ hbefore =>
      rw [h.slot] at hbefore
      cases hbefore
  | told _ _ _ hqueued =>
      rw [h.rejections] at hqueued
      cases hqueued

/-- Stopping lets go of the handler of a configuration, if no other request has it. -/
theorem Station.Sole.released {p : Periodic} (hsole : now.Sole id p.handler)
    (hactive : now.config? id = some p) : (now.perform (.stop id)).Released p.handler := by
  have hstep := now.step_perform (.stop id)
  generalize now.perform (.stop id) = next at hstep ⊢
  cases hstep with
  | stopInactive hnone =>
      rw [hnone] at hactive
      cases hactive
  | @stopActive _ q hfind =>
      refine ⟨?_, hsole.slot, ?_⟩
      · intro other p' hp' hhandler
        simp only [SortedMap.find?_erase] at hp'
        split at hp'
        · cases hp'
        next hne => exact hne (hsole.config other p' hp' hhandler)
      · exact ((q.disarm_settles now.world).countOf _).trans hsole.rejections

/-! ## Alarms of an inactive id -/

/-- Running a cycle of another configuration, after its period timer was armed. -/
theorem Periodic.Ran.scheduledFor {setup : Setup} {other : ScanId} {p q : Periodic}
    {iface : String} {millis : UInt64} {w w' : World ρ} {refusal : Option Reason}
    (h : Ran setup other p (w.schedule (.period iface other) millis).2 (refusal, q, w'))
    (hid : other ≠ id) : w'.scheduledFor id = w.scheduledFor id := by
  have hperiod : (w.schedule (.period iface other) millis).2.scheduledFor id =
      w.scheduledFor id :=
    World.schedule_scheduledFor _ _ _ _ (by simpa [TimerTag.config?] using hid)
  rw [← hperiod]
  cases h with
  | skipped => rfl
  | unresolved => rfl
  | rejected => exact World.asked_scheduledFor _ _ _ _
  | admitted =>
      have htag : TimerTag.config? (.cycleTimeout setup.iface other) ≠ some id := by
        simpa [TimerTag.config?] using hid
      rw [World.schedule_scheduledFor _ _ _ _ htag, World.asked_scheduledFor]

/-- An alarm is scheduled only for a configuration that is active afterwards. -/
theorem Step.scheduledFor (hstep : Step now move next) (hnone : next.config? id = none) :
    next.world.scheduledFor id = now.world.scheduledFor id := by
  cases hstep with
  | single hstarted =>
      cases hstarted with
      | refused => rfl
      | unresolved => rfl
      | rejected => exact World.asked_scheduledFor _ _ _ _
      | armed =>
          rw [World.schedule_scheduledFor _ _ _ _ (by simp [TimerTag.config?]),
            World.asked_scheduledFor]
  | background hstarted =>
      cases hstarted with
      | refused => rfl
      | unresolved => rfl
      | @activated _ _ _ refusal p w _ _ hran =>
          have hid : now.scanner.background.nextId ≠ id := by
            rintro rfl
            simp [Station.config?] at hnone
          have hran' := hran.scheduledFor hid
          cases refusal with
          | none => exact hran'
          | some reason => exact hran'
  | stopInactive => rfl
  | stopActive => exact (Periodic.disarm_settles _ _).scheduledFor id
  | fireInactive => rfl
  | fire => rfl
  | outside => rw [World.scheduledFor, World.happen_log, World.scheduledFor]
  | idle => rfl
  | finished _ _ hfinished =>
      exact (Background.finish_settles_fetched _ hfinished).scheduledFor id
  | unwanted => rfl
  | singleTimeout _ hexpired => exact hexpired.settles.scheduledFor id
  | @period tagged _ _ _ _ _ hticked =>
      cases hticked with
      | stale => rfl
      | @ticked _ q refusal w _ _ hran =>
          have hid : tagged ≠ id := by
            rintro rfl
            simp [Station.config?] at hnone
          have hran' := hran.scheduledFor hid
          cases refusal with
          | none => exact hran'
          | some reason => exact (World.notify_scheduledFor _ _ _ _).trans hran'
  | cycleTimeout _ hexpired => exact hexpired.settles.scheduledFor id
  | rejection => exact World.notify_scheduledFor _ _ _ _
  | cycleRejection => exact (Background.rejectCycle_settles _ _ _ _).scheduledFor id
  | foreign => rfl

/-- No handle is stored under the tags of an inactive id. -/
theorem Scanner.stored_of_inactive {s : Scanner} {tag : TimerTag}
    (hnone : s.background.scans.find? id = none) (htag : tag.config? = some id) :
    s.stored tag = none := by
  rw [Option.eq_none_iff_forall_ne_some]
  intro handle hstored
  cases Scanner.stores_iff.mpr hstored with
  | single => cases htag
  | period hfind =>
      obtain rfl := Option.some.inj htag
      rw [hnone] at hfind
      cases hfind
  | cycle hfind =>
      obtain rfl := Option.some.inj htag
      rw [hnone] at hfind
      cases hfind

end Steps

/-! ## Every run -/

namespace Run

variable [Radio ρ]

theorem ids_length_after (run : Run ρ) (moves : List (Move ρ)) :
    run.ids.length ≤ (moves.foldl extend run).ids.length := by
  induction moves generalizing run with
  | nil => exact Nat.le_refl _
  | cons move rest ih => exact Nat.le_trans (run.ids_length_le move) (ih (run.extend move))

theorem handlers_after (run : Run ρ) (moves : List (Move ρ)) :
    (moves.foldl extend run).handlers = run.handlers ++ moves.filterMap Move.handler? := by
  induction moves generalizing run with
  | nil => simp
  | cons move rest ih =>
      rw [List.foldl_cons, ih, handlers_extend, List.append_assoc]
      cases hmove : move.handler? <;> simp [hmove]

variable [NoticeRadio ρ]

/-- An id that was handed out and is inactive stays so, and nothing is scheduled for it. -/
theorem inactive_after (run : Run ρ) (moves : List (Move ρ)) {id : ScanId}
    (hids : (moves.foldl extend run).ids.length < 2 ^ 32 - 1)
    (hold : id.toNat ≤ run.ids.length) (hnone : run.now.config? id = none) :
    (moves.foldl extend run).now.config? id = none ∧
      (moves.foldl extend run).now.world.scheduledFor id = run.now.world.scheduledFor id := by
  induction moves generalizing run with
  | nil => exact ⟨hnone, rfl⟩
  | cons move rest ih =>
      have hstep := run.now.step_perform move
      have hle := run.ids_length_le move
      have hlater := (run.extend move).ids_length_after rest
      rw [List.foldl_cons] at hids
      have hnone' : (run.extend move).now.config? id = none := by
        rw [Option.eq_none_iff_forall_ne_some]
        intro p hp
        -- Only a start could have activated the id, and a start takes an id of its own.
        obtain ⟨hid, -⟩ := (hstep.turn run.sound id).started_of_none hnone hp
        have hnext := (run.numbered (by omega)).nextId_toNat (by omega)
        rw [← hid] at hnext
        omega
      obtain ⟨hinactive, hscheduled⟩ := ih (run.extend move) hids (Nat.le_trans hold hle) hnone'
      exact ⟨hinactive, hscheduled.trans (hstep.scheduledFor hnone')⟩

/-- A handler that was let go hears nothing, unless it is handed over again. -/
theorem released_after (run : Run ρ) (moves : List (Move ρ)) {handler : Handler}
    (h : run.now.Released handler) (hmoves : handler ∉ moves.filterMap Move.handler?) :
    (moves.foldl extend run).now.world.heard handler = run.now.world.heard handler := by
  induction moves generalizing run with
  | nil => rfl
  | cons move rest ih =>
      have hmove : move.handler? ≠ some handler := by
        intro hmove
        simp [hmove] at hmoves
      have hrest : handler ∉ rest.filterMap Move.handler? := by
        intro hmem
        obtain ⟨later, hlater, hhandler⟩ := List.mem_filterMap.mp hmem
        exact hmoves (List.mem_filterMap.mpr ⟨later, List.mem_cons_of_mem _ hlater, hhandler⟩)
      obtain ⟨hreleased, hheard⟩ :=
        (run.now.step_perform move).released run.sound h hmove
      exact (ih (run.extend move) hreleased hrest).trans hheard

/-- Stopping an active configuration is answered with `true` and is final, whatever is queued and
whatever happens later, as long as the ids do not wrap. Its id stays inactive, has no results and
cannot be stopped again. No alarm is scheduled under the id, and none is active, provided that no
timer handle was handed out twice. Its handler hears nothing any more, provided that no other call
hands the handler over. -/
theorem stop_is_final (run : Run ρ) {id : ScanId} {p : Periodic}
    (hactive : run.now.config? id = some p) (moves : List (Move ρ))
    (hids : (moves.foldl extend (run.extend (.stop id))).ids.length < 2 ^ 32 - 1) :
    let later := moves.foldl extend (run.extend (.stop id))
    (run.now.scanner.stopBackground id run.now.world).1 = true ∧
    later.now.config? id = none ∧
    later.now.scanner.background.latest? id = none ∧
    (∀ w : World ρ, later.now.scanner.stopBackground id w = (false, later.now.scanner, w)) ∧
    later.now.world.scheduledFor id = run.now.world.scheduledFor id ∧
    (later.now.world.issued.Nodup →
      ∀ a ∈ later.now.world.timers.active, a.tag.config? ≠ some id) ∧
    (later.handlers.count p.handler = 1 →
      later.now.world.heard p.handler = run.now.world.heard p.handler) := by
  intro later
  have hfind : run.now.scanner.background.scans.find? id = some p := hactive
  have hstop : run.now.scanner.stopBackground id run.now.world =
      (true, { run.now.scanner with
        background := { run.now.scanner.background with
          scans := run.now.scanner.background.scans.erase id } }, p.disarm run.now.world) := by
    rw [Scanner.stopBackground, Background.stop_active hfind]
  have hgrown := (run.extend (.stop id)).ids_length_after moves
  have hrun : run.ids.length < 2 ^ 32 - 1 := by
    have hle := run.ids_length_le (.stop id)
    omega
  have hold : id.toNat ≤ (run.extend (.stop id)).ids.length :=
    Nat.le_trans ((run.numbered hrun).ids id p hfind) (run.ids_length_le _)
  have hnext : (run.extend (.stop id)).now =
      ⟨(run.now.scanner.stopBackground id run.now.world).2.1, p.disarm run.now.world⟩ := by
    simp only [now, Station.perform, hstop]
  have hnone : (run.extend (.stop id)).now.config? id = none := by
    simp [hnext, hstop, Station.config?]
  obtain ⟨hinactive, hscheduled⟩ := (run.extend (.stop id)).inactive_after moves hids hold hnone
  have hinactive' : later.now.scanner.background.scans.find? id = none := hinactive
  refine ⟨congrArg Prod.fst hstop, hinactive, ?_, ?_, ?_, ?_, ?_⟩
  · simp [Background.latest?, hinactive']
  · intro w
    rw [Scanner.stopBackground, Background.stop_inactive hinactive']
  · rw [hscheduled, hnext]
    exact (p.disarm_settles run.now.world).scheduledFor id
  · intro hfresh a ha htag
    have howned := (later.keeps hfresh hids).owned (a.tag, a.handle)
      (List.mem_map.mpr ⟨a, ha, rfl⟩)
    rw [Scanner.stored_of_inactive hinactive' htag] at howned
    cases howned
  · intro hcount
    obtain ⟨hmem, haccount⟩ := (run.books hrun id).account p hactive
    -- The one call that hands the handler over is the start of the configuration.
    have hpos := List.count_pos_iff.mpr hmem
    rw [handlers_after, handlers_extend, List.count_append, List.count_append] at hcount
    have hmoves : p.handler ∉ moves.filterMap Move.handler? := by
      rw [← List.count_eq_zero]
      omega
    have hreleased : (run.extend (.stop id)).now.Released p.handler :=
      (haccount (by omega)).sole.released hactive
    rw [(run.extend (.stop id)).released_after moves hreleased hmoves, hnext]
    exact p.heard_disarm p.handler run.now.world

end Run

namespace Sample

/-- The first cycle of a configuration waits. The expiries of both its alarms are queued, and the
answer of the radio behind them. -/
def beforeStop : Run Replay :=
  run
    [.background (some settings) (some (handler 1)), .fire 1, .fire 2,
      .outside (.results "wlan0")]

/-- What is queued is dispatched after the stop, and another configuration starts meanwhile. -/
def afterStop : List (Move Replay) :=
  [.dispatch, .background (some settings) (some (handler 2)), .dispatch, .dispatch]

theorem beforeStop_last_words :
    let later := afterStop.foldl .extend (beforeStop.extend (.stop 1))
    beforeStop.now.world.queue.events.length = 3 ∧ later.now.world.queue.events = [] ∧
    later.now.config? 1 = none ∧
    (∀ a ∈ later.now.world.timers.active, a.tag.config? ≠ some 1) ∧
    later.now.world.heard (handler 1) = [] ∧
    later.now.world.heard (handler 2) = [.statusAvailable] := by
  intro later
  have hactive : (beforeStop.now.config? 1).map (·.handler) = some (handler 1) := by
    decide +kernel
  obtain ⟨p, hp, hhandler⟩ := Option.map_eq_some_iff.mp hactive
  have hids : later.ids.length < 2 ^ 32 - 1 := by decide +kernel
  obtain ⟨-, hinactive, -, -, -, halarms, hheard⟩ := beforeStop.stop_is_final hp afterStop hids
  rw [hhandler] at hheard
  have hfresh : later.now.world.issued.Nodup := by decide +kernel
  have honce : later.handlers.count (handler 1) = 1 := by decide +kernel
  have hsilent : beforeStop.now.world.heard (handler 1) = [] := by decide +kernel
  exact ⟨by decide +kernel, by decide +kernel, hinactive, halarms hfresh,
    (hheard honce).trans hsilent, by decide +kernel⟩

end Sample

end WirelessScan
