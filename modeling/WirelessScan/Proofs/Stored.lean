import WirelessScan.Proofs.Alarms
import WirelessScan.Proofs.Cycles

/-!
# Where stored handles come from

A scanner compares the handle of an expiry with those it stores. It stores a handle right after the
timers handed it out, and from then on it can only forget it. So a handle that was handed out and
is not stored any more is never stored again, and its expiry does nothing.

What a move can newly store is read off the two kinds of holders: the scan in the slot
(`Step.slot_origin`) and the configurations with their cycles (`Step.origin`).
-/

namespace WirelessScan

variable {ρ : Type}

/-! ## New handles -/

/-- A handle is one of those that were handed out between two worlds. -/
def World.HandsOut (w w' : World ρ) (handle : TimerHandle) : Prop :=
  ∃ new, w'.issued = w.issued ++ new ∧ handle ∈ new

namespace World.HandsOut

variable {w w' w'' : World ρ} {handle : TimerHandle}

theorem schedule (w : World ρ) (tag : TimerTag) (millis : UInt64) :
    w.HandsOut (w.schedule tag millis).2 w.timers.next :=
  ⟨[w.timers.next], schedule_issued w tag millis, List.mem_singleton.mpr rfl⟩

theorem before (h : w.HandsOut w' handle) (hlater : w'.issued <+: w''.issued) :
    w.HandsOut w'' handle := by
  obtain ⟨new, hissued, hmem⟩ := h
  obtain ⟨more, hmore⟩ := hlater
  refine ⟨new ++ more, ?_, List.mem_append_left _ hmem⟩
  rw [← hmore, hissued, List.append_assoc]

theorem after (h : w'.HandsOut w'' handle) (hearlier : w.issued <+: w'.issued) :
    w.HandsOut w'' handle := by
  obtain ⟨new, hissued, hmem⟩ := h
  obtain ⟨first, hfirst⟩ := hearlier
  refine ⟨first ++ new, ?_, List.mem_append_right _ hmem⟩
  rw [hissued, ← hfirst, List.append_assoc]

/-- The watchdog of an admitted scan is new. -/
theorem asked_schedule [Radio ρ] (w : World ρ) (iface : String) (request : Request) (tag : TimerTag)
    (millis : UInt64) : w.HandsOut ((w.asked iface request).schedule tag millis).2 w.timers.next :=
  (schedule (w.asked iface request) tag millis).after (by simp)

theorem mem_issued (h : w.HandsOut w' handle) : handle ∈ w'.issued := by
  obtain ⟨new, hissued, hmem⟩ := h
  rw [hissued]
  exact List.mem_append_right _ hmem

/-- If no handle is handed out twice, a new one was not handed out before. -/
theorem not_issued (h : w.HandsOut w' handle) (hfresh : w'.issued.Nodup) :
    handle ∉ w.issued := by
  obtain ⟨new, hissued, hmem⟩ := h
  rw [hissued, List.nodup_append] at hfresh
  intro hold
  exact hfresh.2.2 handle hold handle hmem rfl

end World.HandsOut

/-! ## Origins -/

/-- How a configuration that is active after a move came about. -/
inductive Origin [Radio ρ] (id : ScanId) (now : Station ρ) (move : Move ρ) (next : Station ρ) :
    Periodic → Prop where
  | begun {settings : Settings} {handler : Handler} {p : Periodic} {refusal : Option Reason}
      {w : World ρ} (hmove : move = .background (some settings) (some handler))
      (hcycle : now.cycleAt move id =
        some { settings, handler, periodTimer := now.world.timers.next })
      (hran : Periodic.Ran now.scanner.setup id
        { settings, handler, periodTimer := now.world.timers.next }
        (now.world.schedule (.period now.iface id) settings.basePeriod.toUInt64).2
        (refusal, p, w))
      (hissued : next.world.issued = w.issued) : Origin id now move next p
  | ticked {rest : List Event} {p q : Periodic} {refusal : Option Reason} {w : World ρ}
      (hmove : move = .dispatch) (hnow : now.config? id = some p)
      (hcycle : now.cycleAt move id = some p)
      (hran : Periodic.Ran now.scanner.setup id
        { p with periodTimer := now.world.timers.next }
        ((now.world.withEvents rest).schedule (.period now.iface id)
          p.settings.basePeriod.toUInt64).2
        (refusal, q, w))
      (hissued : next.world.issued = w.issued) : Origin id now move next q
  | ended {p : Periodic} {e : Ending} (hmove : move = .dispatch) (hnow : now.config? id = some p) :
      Origin id now move next (p.ended e)
  | kept {p : Periodic} (hcall : move.isCall = true → now.cycleAt move id = none)
      (hnow : now.config? id = some p) : Origin id now move next p

theorem Step.origin [Radio ρ] {now next : Station ρ} {move : Move ρ} (hstep : Step now move next)
    {id : ScanId} {p : Periodic} (hfind : next.config? id = some p) :
    Origin id now move next p := by
  cases hstep with
  | single => exact .kept (fun _ => rfl) hfind
  | background hstarted hanswer =>
      cases hstarted with
      | refused => exact .kept (fun _ => Station.cycleAt_background (by simp [hanswer])) hfind
      | unresolved _ hresolve => exact .kept (fun _ => Station.cycleAt_unresolved hresolve) hfind
      | @activated settings handler _ refusal q w _ hresolve hran =>
          by_cases hid : id = now.scanner.background.nextId
          · subst hid
            obtain rfl : q = p := by simpa [Station.config?] using hfind
            refine .begun rfl (Station.cycleAt_activated hanswer hresolve) hran ?_
            cases refusal <;> rfl
          · refine .kept (fun _ => Station.cycleAt_of_answer hanswer hid) ?_
            simpa [Station.config?, hid] using hfind
  | stopInactive => exact .kept (fun _ => rfl) hfind
  | @stopActive other =>
      have hid : id ≠ other := by
        rintro rfl
        simp [Station.config?] at hfind
      exact .kept (fun _ => rfl) (by simpa [Station.config?, hid] using hfind)
  | finished =>
      simp only [Station.config?, Background.finish_find?, Option.map_eq_some_iff] at hfind
      rcases hfind with ⟨q, hnow, rfl⟩
      exact .ended rfl hnow
  | @period tagged _ _ _ _ hqueue hticked =>
      cases hticked with
      | stale => exact .kept (by simp [Move.isCall]) hfind
      | @ticked _ q refusal w hnow hhandle hran =>
          by_cases hid : id = tagged
          · subst hid
            obtain rfl : q = p := by simpa [Station.config?] using hfind
            refine .ticked rfl hnow (Station.cycleAt_tick hqueue hnow hhandle) hran ?_
            cases refusal <;> simp
          · exact .kept (by simp [Move.isCall]) (by simpa [Station.config?, hid] using hfind)
  | @cycleTimeout tagged _ _ _ _ _ hexpired =>
      cases hexpired with
      | stale => exact .kept (by simp [Move.isCall]) hfind
      | @own q _ hnow =>
          by_cases hid : id = tagged
          · subst hid
            obtain rfl : q.dropped = p := by simpa [Station.config?] using hfind
            exact .ended (e := .failure .timeout) rfl hnow
          · exact .kept (by simp [Move.isCall]) (by simpa [Station.config?, hid] using hfind)
  | _ => exact .kept (by simp [Move.isCall]) hfind

/-! ## Holders -/

/-- What a configuration stores was stored by an earlier one or is new. -/
structure Periodic.Inherits (old : Option Periodic) (new : TimerHandle → Prop) (p : Periodic) :
    Prop where
  periodTimer : (∃ q, old = some q ∧ q.periodTimer = p.periodTimer) ∨ new p.periodTimer
  pending : ∀ c, p.pending = some c → (∃ q, old = some q ∧ q.pending = some c) ∨ new c.timeout

namespace Periodic

variable {old : Option Periodic} {new : TimerHandle → Prop} {p : Periodic}

theorem Inherits.of_some (h : old = some p) : Inherits old new p where
  periodTimer := .inl ⟨p, h, rfl⟩
  pending _ hpending := .inl ⟨p, h, hpending⟩

theorem Inherits.mono {new' : TimerHandle → Prop} (h : Inherits old new p)
    (hnew : ∀ handle, new handle → new' handle) : Inherits old new' p where
  periodTimer := h.periodTimer.imp_right (hnew _)
  pending c hpending := (h.pending c hpending).imp_right (hnew _)

theorem Inherits.of_forgot {q : Periodic} (h : old = some q)
    (htimer : p.periodTimer = q.periodTimer) (hpending : p.pending = none) :
    Inherits old new p where
  periodTimer := .inl ⟨q, h, htimer.symm⟩
  pending c hc := by simp [hpending] at hc

variable [Radio ρ] {setup : Setup} {id : ScanId} {p' : Periodic} {w w' : World ρ}
  {refusal : Option Reason}

theorem Ran.periodTimer (h : Ran setup id p w (refusal, p', w')) :
    p'.periodTimer = p.periodTimer := by
  cases h <;> rfl

/-- Running a cycle keeps the one that waits or begins one with a new watchdog. -/
theorem Ran.pending_origin (h : Ran setup id p w (refusal, p', w')) {c : Cycle}
    (hpending : p'.pending = some c) : p.pending = some c ∨ w.HandsOut w' c.timeout := by
  cases h with
  | @admitted request =>
      obtain rfl := Option.some.inj hpending
      exact .inr (.asked_schedule _ _ _ _ _)
  | _ => exact .inl hpending

theorem Ran.inherits {tag : TimerTag} {millis : UInt64}
    (h : Ran setup id p (w.schedule tag millis).2 (refusal, p', w'))
    (htimer : p.periodTimer = w.timers.next)
    (hold : ∀ c, p.pending = some c → ∃ q, old = some q ∧ q.pending = some c) :
    Inherits old (w.HandsOut w') p' where
  periodTimer := by
    rw [h.periodTimer, htimer]
    exact .inr ((World.HandsOut.schedule w tag millis).before h.issued_prefix)
  pending c hc := by
    obtain hkept | hnew := h.pending_origin hc
    · exact .inl (hold c hkept)
    · exact .inr (hnew.after (w.issued_prefix_schedule tag millis))

end Periodic

namespace Step

variable [Radio ρ] {now next : Station ρ} {move : Move ρ}

theorem setup (hstep : Step now move next) : next.scanner.setup = now.scanner.setup := by
  cases hstep <;> rfl

/-- An armed scan was armed before or has a new watchdog. -/
theorem slot_origin (hstep : Step now move next) {scan : InFlight}
    (hslot : next.scanner.single.slot = .armed scan) :
    now.scanner.single.slot = .armed scan ∨ now.world.HandsOut next.world scan.timeout := by
  cases hstep with
  | single hstarted =>
      cases hstarted with
      | refused => exact .inl hslot
      | unresolved => exact .inl hslot
      | rejected => cases hslot
      | armed =>
          obtain rfl := Slot.armed.inj hslot
          exact .inr (.asked_schedule _ _ _ _ _)
  | finished _ _ hfinished =>
      cases hfinished with
      | unarmed => exact .inl hslot
      | armed => cases hslot
  | singleTimeout _ hexpired =>
      cases hexpired with
      | stale => exact .inl hslot
      | own => cases hslot
  | _ => exact .inl hslot

/-- What an active configuration stores was stored before under its id or is new. -/
theorem config_origin (hstep : Step now move next) {id : ScanId} {p : Periodic}
    (hfind : next.config? id = some p) :
    Periodic.Inherits (now.config? id) (now.world.HandsOut next.world) p := by
  cases hstep.origin hfind with
  | begun _ _ hran hissued =>
      have hinherits : Periodic.Inherits (now.config? id) _ p := hran.inherits rfl (by simp)
      exact hinherits.mono fun _ hnew => hnew.before (hissued ▸ List.prefix_refl _)
  | @ticked _ q _ _ _ _ hnow _ hran hissued =>
      have hinherits := hran.inherits rfl fun c hc => ⟨q, hnow, hc⟩
      exact hinherits.mono fun _ hnew =>
        World.HandsOut.before hnew (hissued ▸ List.prefix_refl _)
  | @ended q e _ hnow => exact .of_forgot hnow (q.ended_periodTimer e) (q.ended_pending e)
  | kept _ hnow => exact .of_some hnow

/-! ## Stored handles -/

/-- A stored handle was stored before under the same tag or is new. -/
theorem stored_origin (hstep : Step now move next) {tag : TimerTag} {handle : TimerHandle}
    (hstored : next.scanner.stored tag = some handle) :
    now.scanner.stored tag = some handle ∨ now.world.HandsOut next.world handle := by
  -- The interface is part of a tag, so it has to be the same before and after.
  have hiface : next.scanner.iface = now.scanner.iface := congrArg Setup.iface hstep.setup
  cases Scanner.stores_iff.mpr hstored with
  | single hslot =>
      refine (hstep.slot_origin hslot).imp_left fun hkept => ?_
      exact hiface ▸ Scanner.stores_iff.mp (.single hkept)
  | period hfind =>
      refine (hstep.config_origin hfind).periodTimer.imp_left fun ⟨p, hp, htimer⟩ => ?_
      exact hiface ▸ htimer ▸ Scanner.stores_iff.mp (.period hp)
  | cycle hfind hpending =>
      refine ((hstep.config_origin hfind).pending _ hpending).imp_left fun ⟨p, hp, hc⟩ => ?_
      exact hiface ▸ Scanner.stores_iff.mp (.cycle hp hc)

/-- A handle that was handed out and is not stored stays so. -/
theorem unstored (hstep : Step now move next) {tag : TimerTag} {handle : TimerHandle}
    (hissued : handle ∈ now.world.issued) (hunstored : now.scanner.stored tag ≠ some handle)
    (hfresh : next.world.issued.Nodup) : next.scanner.stored tag ≠ some handle := by
  intro hstored
  obtain hkept | hnew := hstep.stored_origin hstored
  · exact hunstored hkept
  · exact hnew.not_issued hfresh hissued

end Step

namespace Run

variable [Radio ρ]

theorem stored_issued (run : Run ρ) {tag : TimerTag} {handle : TimerHandle}
    (hstored : run.now.scanner.stored tag = some handle) : handle ∈ run.now.world.issued := by
  induction run with
  | begin setup radio clock =>
      cases Scanner.stores_iff.mpr hstored with
      | single hslot => cases hslot
      | period hfind => cases hfind
      | cycle hfind => cases hfind
  | extend run move ih =>
      have hstep := run.now.step_perform move
      obtain hkept | hnew := hstep.stored_origin hstored
      · exact hstep.issued_prefix.subset (ih hkept)
      · exact hnew.mem_issued

theorem issued_prefix_after (run : Run ρ) (moves : List (Move ρ)) :
    run.now.world.issued <+: (moves.foldl extend run).now.world.issued := by
  induction moves generalizing run with
  | nil => exact List.prefix_refl _
  | cons move rest ih =>
      have hstep := run.now.step_perform move
      exact hstep.issued_prefix.trans (ih (run.extend move))

/-- Whatever happens later, a handle that was handed out and is not stored stays so. -/
theorem unstored_after (run : Run ρ) (moves : List (Move ρ)) {tag : TimerTag}
    {handle : TimerHandle} (hissued : handle ∈ run.now.world.issued)
    (hunstored : run.now.scanner.stored tag ≠ some handle)
    (hfresh : (moves.foldl extend run).now.world.issued.Nodup) :
    (moves.foldl extend run).now.scanner.stored tag ≠ some handle := by
  induction moves generalizing run with
  | nil => exact hunstored
  | cons move rest ih =>
      have hstep := run.now.step_perform move
      have hafter := (run.extend move).issued_prefix_after rest
      refine ih (run.extend move) (hstep.issued_prefix.subset hissued) ?_ hfresh
      exact hstep.unstored hissued hunstored (hafter.sublist.nodup hfresh)

end Run

/-! ## Expiries -/

namespace Scanner

variable [Radio ρ] {s : Scanner} {w : World ρ} {tag : TimerTag} {handle : TimerHandle}

/-- An expiry whose handle is not stored does nothing. -/
theorem handle_unstored (hiface : tag.iface = s.iface)
    (h : s.stored tag ≠ some handle) : s.handle (.timerFired tag handle) w = (s, w) := by
  have hnot : ¬ s.Stores tag handle := fun hstores => h (stores_iff.mp hstores)
  rw [handle_timerFired hiface]
  cases tag with
  | singleTimeout i =>
      obtain rfl := hiface
      have hexpired := Single.expire_expired s.single handle w
      simp only [handleTimer]
      generalize s.single.expire handle w = r at hexpired ⊢
      cases hexpired with
      | stale => rfl
      | own hslot hhandle => exact (hnot (hhandle ▸ .single hslot)).elim
  | period i id =>
      obtain rfl := hiface
      have hticked := Background.tick_ticked s.setup s.background id handle w
      simp only [handleTimer]
      generalize s.background.tick s.setup id handle w = r at hticked ⊢
      cases hticked with
      | stale => rfl
      | ticked hfind hhandle => exact (hnot (hhandle ▸ .period hfind)).elim
  | cycleTimeout i id =>
      obtain rfl := hiface
      have hexpired := Background.expire_expired s.background id handle w
      simp only [handleTimer]
      generalize s.background.expire id handle w = r at hexpired ⊢
      cases hexpired with
      | stale => rfl
      | own hfind hpending hhandle => exact (hnot (hhandle ▸ .cycle hfind hpending)).elim

theorem handle_foreign {e : Event} {iface : String} (he : e.iface? = some iface)
    (hiface : iface ≠ s.iface) : s.handle e w = (s, w) := by
  simp [Scanner.handle, he, hiface]

/-- Handling an event of the interface is a turn of the station of the scanner. -/
theorem step_handle {e : Event} {rest : List Event} (hqueue : w.queue.events = e :: rest)
    (hiface : e.iface? = some s.iface) :
    Step { scanner := s, world := w } .dispatch
      { scanner := (s.handle e (w.withEvents rest)).1
        world := (s.handle e (w.withEvents rest)).2 } := by
  have hserve : Station.serve { scanner := s, world := w } =
      { scanner := (s.handle e (w.withEvents rest)).1
        world := (s.handle e (w.withEvents rest)).2 } := Station.serve_own hqueue hiface
  rw [← hserve]
  exact Station.step_serve _

theorem handle_setup (e : Event) : (s.handle e w).1.setup = s.setup := by
  cases hiface : e.iface? with
  | none =>
      cases e with
      | shutdown => simp [Scanner.handle]
      | _ => cases hiface
  | some iface =>
      by_cases heq : iface = s.iface
      · exact (step_handle (w := w.withEvents (e :: w.queue.events)) rfl
          (hiface.trans (congrArg some heq))).setup
      · rw [handle_foreign hiface heq]

end Scanner

end WirelessScan
