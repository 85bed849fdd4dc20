import WirelessScan.Proofs.Stored

/-!
# Scanners that take the place of others

A new scanner can take the place of the one that is registered for its interface, while alarms of
the old one are active and events meant for it are queued. The alarms are harmless: a scanner
compares the handle of an expiry with those it stores, and no stored handle was handed out before
the scanner was registered. The deferred rejection of a first cycle only carries an id, and every
scanner numbers its configurations from 1: it changes no scanner, but if the id is in use again,
the handler of the new configuration hears of a refusal that was not its own.
-/

namespace WirelessScan

variable {ρ : Type}

/-! ## Handles of earlier scanners -/

/-- None of some handles is stored. -/
def Avoids (before : List TimerHandle) (stored : TimerTag → Option TimerHandle) : Prop :=
  ∀ tag handle, stored tag = some handle → handle ∉ before

/-- A new scanner stores no handle. -/
theorem Avoids.of_new {before : List TimerHandle} {setup : Setup} :
    Avoids before (Scanner.stored { setup }) := by
  intro tag handle hstored
  cases Scanner.stores_iff.mpr hstored with
  | single hslot => cases hslot
  | period hfind => cases hfind
  | cycle hfind => cases hfind

/-- The handles that a scanner stores were handed out after some earlier ones. -/
structure Station.Apart (now : Station ρ) (before : List TimerHandle) : Prop where
  issued : before ⊆ now.world.issued
  stored : Avoids before now.scanner.stored

section Steps

variable [Radio ρ] {now next : Station ρ} {move : Move ρ} {before : List TimerHandle}

/-- What a scanner newly stores was not handed out before. -/
theorem Step.apart (hstep : Step now move next) (h : now.Apart before)
    (hfresh : next.world.issued.Nodup) : next.Apart before := by
  refine ⟨List.Subset.trans h.issued hstep.issued_prefix.subset, ?_⟩
  intro tag handle hstored
  obtain hkept | hnew := hstep.stored_origin hstored
  · exact h.stored tag handle hkept
  · exact fun hbefore => hnew.not_issued hfresh (h.issued hbefore)

namespace Scanner

variable {s : Scanner} {w : World ρ}

/-- What handlers hear of an event that was meant for an earlier scanner: the rejection of a cycle
reaches the configuration that has the id now. -/
def overhears (s : Scanner) : Event → List (Handler × Callback)
  | .cycleRejected _ id reason =>
    ((s.background.scans.find? id).map fun p => (p.handler, .requestFailed reason)).toList
  | _ => []

omit [Radio ρ] in
theorem callbacks_rejectCycle (iface : String) (id : ScanId) (reason : Reason) :
    (s.background.rejectCycle id reason w).callbacks =
      w.callbacks ++ s.overhears (.cycleRejected iface id reason) := by
  unfold Background.rejectCycle
  split
  next hfind => simp [overhears, hfind]
  next p hfind => simp [overhears, hfind]

end Scanner

end Steps

/-- What happens elsewhere only adds to the handles that were handed out. -/
theorem Station.Apart.elsewhere {s : Scanner} {w w' : World ρ} {before : List TimerHandle}
    (h : Station.Apart ⟨s, w⟩ before) (hissued : w.issued <+: w'.issued) :
    Station.Apart ⟨s, w'⟩ before :=
  ⟨List.Subset.trans h.issued hissued.subset, h.stored⟩

/-! ## Hosts -/

/-- A call of a scanner. -/
inductive Call where
  | single (settings : Option Settings) (handler : Option Handler)
  | background (settings : Option Settings) (handler : Option Handler)
  | stop (id : ScanId)

/-- A call as a move of the station of the scanner. -/
def Call.move : Call → Move ρ
  | single settings handler => .single settings handler
  | background settings handler => .background settings handler
  | stop id => .stop id

/-- A registry and the world that its scanners share. -/
structure Host (ρ : Type) where
  registry : Registry
  world : World ρ

namespace Host

/-- A move of a host. -/
inductive Move (ρ : Type) where
  /-- A new scanner is registered, in place of the one of its interface if there is one. -/
  | register (setup : Setup)
  | remove (iface : String)
  /-- The scanner of an interface is called, if there is one. -/
  | call (iface : String) (call : Call)
  | fire (handle : TimerHandle)
  | dispatch
  | outside (happening : Happening ρ)

/-- Whether a move registers a new scanner for an interface. -/
def Move.registers (iface : String) : Move ρ → Bool
  | register setup => setup.iface = iface
  | _ => false

/-- The scanner of an interface. -/
def scanner? (now : Host ρ) (iface : String) : Option Scanner :=
  SortedMap.find? now.registry iface

variable [Radio ρ]

/-- The host after a move. -/
def perform (now : Host ρ) : Move ρ → Host ρ
  | .register setup => { now with registry := now.registry.register { setup } }
  | .remove iface => { now with registry := now.registry.erase iface }
  | .call iface call =>
    match now.scanner? iface with
    | none => now
    | some scanner =>
      let next := Station.perform { scanner, world := now.world } call.move
      { registry := now.registry.register next.scanner, world := next.world }
  | .fire handle => { now with world := now.world.expire handle }
  | .dispatch =>
    match now.registry.dispatchNext? now.world with
    | none => now
    | some (_, registry, world) => { registry, world }
  | .outside happening => { now with world := now.world.happen happening }

/-- What has happened to a host since it had no scanner, the latest move last. -/
inductive Run (ρ : Type) where
  | begin (radio : ρ) (clock : UInt64)
  | extend (run : Run ρ) (move : Move ρ)

namespace Run

/-- The host at the end of a run. -/
def now : Run ρ → Host ρ
  | begin radio clock => { registry := ∅, world := { radio, clock } }
  | extend run move => run.now.perform move

/-- The handles that had been handed out when the scanner of an interface was registered. -/
def before : Run ρ → String → List TimerHandle
  | begin .., _ => []
  | extend run move, iface =>
    if move.registers iface then run.now.world.issued else run.before iface

/-- How many events at the head of the queue were there when the scanner of an interface was
registered. -/
def backlog : Run ρ → String → Nat
  | begin .., _ => 0
  | extend run move, iface =>
    if move.registers iface then run.now.world.queue.events.length
    else
      match move with
      | .dispatch => run.backlog iface - 1
      | _ => run.backlog iface

/-- Whether the event at the head of the queue stems from an earlier scanner of an interface: the
expiry of an alarm that was scheduled, or a rejection that was queued, before the present one was
registered. -/
def Inherits (run : Run ρ) (iface : String) : Event → Prop
  | .timerFired tag handle => tag.iface = iface ∧ handle ∈ run.before iface
  | .cycleRejected other _ _ => other = iface ∧ 0 < run.backlog iface
  | _ => False

end Run

/-! ## Dispatch -/

/-- No scanner stores a handle that was handed out before a time of its own. -/
def Apart (now : Host ρ) (before : String → List TimerHandle) : Prop :=
  ∀ iface s, now.scanner? iface = some s →
    Station.Apart { scanner := s, world := now.world } (before iface)

/-- Every scanner is registered under its own interface. -/
def Keyed (now : Host ρ) : Prop :=
  ∀ iface s, now.scanner? iface = some s → s.iface = iface

variable {now : Host ρ} {iface : String} {s : Scanner} {e : Event} {rest : List Event}

theorem perform_idle (hqueue : now.world.queue.events = []) : now.perform .dispatch = now := by
  simp [perform, Registry.dispatchNext?, Queue.pop?, hqueue]

theorem perform_dispatch (hqueue : now.world.queue.events = e :: rest) :
    now.perform .dispatch =
      { registry := (now.registry.dispatch e (now.world.withEvents rest)).1
        world := (now.registry.dispatch e (now.world.withEvents rest)).2 } := by
  simp [perform, Registry.dispatchNext?, Queue.pop?, hqueue, World.withEvents]

/-- The scanner of its interface handles an event. -/
theorem perform_registered (hqueue : now.world.queue.events = e :: rest)
    (hiface : e.iface? = some iface) (hfind : now.scanner? iface = some s) :
    now.perform .dispatch =
      { registry := now.registry.insert iface (s.handle e (now.world.withEvents rest)).1
        world := (s.handle e (now.world.withEvents rest)).2 } := by
  have hfind' : SortedMap.find? now.registry iface = some s := hfind
  rw [perform_dispatch hqueue]
  simp [Registry.dispatch, hiface, hfind', Surroundings.world, Surroundings.setWorld]

/-- An event without a scanner changes no scanner and hands out no handle. -/
theorem perform_unregistered (hqueue : now.world.queue.events = e :: rest)
    (hnone : ∀ iface, e.iface? = some iface → now.scanner? iface = none) :
    (now.perform .dispatch).registry = now.registry ∧
      (now.perform .dispatch).world.issued = now.world.issued := by
  rw [perform_dispatch hqueue]
  unfold Registry.dispatch
  split
  · exact ⟨rfl, rfl⟩
  next iface hiface =>
    have hfind : SortedMap.find? now.registry iface = none := hnone iface hiface
    simp only [hfind]
    split
    · exact ⟨rfl, World.notify_issued _ _ _⟩
    · exact ⟨rfl, rfl⟩

/-! ## Steps -/

/-- What a move can do to the scanners of a host. -/
inductive Changed (now : Host ρ) : Move ρ → Host ρ → Prop where
  | registered {setup : Setup} :
      Changed now (.register setup)
        { now with registry := now.registry.insert setup.iface { setup } }
  | removed {iface : String} :
      Changed now (.remove iface) { now with registry := now.registry.erase iface }
  | unchanged {move : Move ρ} {next : Host ρ} (hmove : ∀ iface, move.registers iface = false)
      (hregistry : next.registry = now.registry)
      (hissued : next.world.issued = now.world.issued) : Changed now move next
  /-- One scanner makes a move, and no other scanner changes. -/
  | moved {move : Move ρ} {next : Host ρ} {iface : String} {s s' : Scanner}
      {m : WirelessScan.Move ρ} (hmove : ∀ iface, move.registers iface = false)
      (hfind : now.scanner? iface = some s)
      (hregistry : next.registry = now.registry.insert iface s')
      (hstep : Step { scanner := s, world := now.world } m
        { scanner := s', world := next.world }) : Changed now move next

theorem perform_changed (hkeyed : now.Keyed) (move : Move ρ) :
    Changed now move (now.perform move) := by
  cases move with
  | register setup => exact .registered
  | remove iface => exact .removed
  | call iface call =>
      simp only [perform]
      split
      · exact .unchanged (fun _ => rfl) rfl rfl
      next s hfind =>
        have hstep := Station.step_perform { scanner := s, world := now.world } call.move
        refine .moved (fun _ => rfl) hfind ?_ hstep
        have hiface := congrArg Setup.iface hstep.setup
        rw [Registry.register, Scanner.iface, hiface, ← hkeyed iface s hfind]
        rfl
  | fire handle =>
      refine .unchanged (fun _ => rfl) rfl ?_
      simp only [perform, World.expire]
      split <;> rfl
  | dispatch =>
      cases hqueue : now.world.queue.events with
      | nil =>
          rw [perform_idle hqueue]
          exact .unchanged (fun _ => rfl) rfl rfl
      | cons e rest =>
          by_cases hfound : ∃ iface s, e.iface? = some iface ∧ now.scanner? iface = some s
          · obtain ⟨iface, s, hiface, hfind⟩ := hfound
            obtain rfl := hkeyed iface s hfind
            rw [perform_registered hqueue hiface hfind]
            exact .moved (fun _ => rfl) hfind rfl (Scanner.step_handle hqueue hiface)
          · -- Without a scanner, only the rejection of a single scan still reaches its handler.
            have hnone : ∀ iface, e.iface? = some iface → now.scanner? iface = none :=
              fun iface hiface => Option.eq_none_iff_forall_ne_some.mpr fun s hfind =>
                hfound ⟨iface, s, hiface, hfind⟩
            obtain ⟨hregistry, hissued⟩ := perform_unregistered hqueue hnone
            exact .unchanged (fun _ => rfl) hregistry hissued
  | outside happening =>
      refine .unchanged (fun _ => rfl) rfl ?_
      simp only [perform, World.issued, World.happen_log]

namespace Changed

variable {next : Host ρ} {move : Move ρ}

theorem keyed (h : Changed now move next) (hkeyed : now.Keyed) : next.Keyed := by
  intro iface s hfind
  cases h with
  | registered =>
      simp only [scanner?, SortedMap.find?_insert] at hfind
      split at hfind
      next hiface =>
        rw [← Option.some.inj hfind]
        exact hiface.symm
      next => exact hkeyed iface s hfind
  | removed =>
      simp only [scanner?, SortedMap.find?_erase] at hfind
      split at hfind
      · cases hfind
      · exact hkeyed iface s hfind
  | unchanged _ hregistry =>
      rw [scanner?, hregistry] at hfind
      exact hkeyed iface s hfind
  | moved _ hbefore hregistry hstep =>
      rw [scanner?, hregistry, SortedMap.find?_insert] at hfind
      split at hfind
      next hiface =>
        rw [← Option.some.inj hfind, hiface, ← hkeyed _ _ hbefore]
        exact congrArg Setup.iface hstep.setup
      next => exact hkeyed iface s hfind

/-- Handles are only added to those that were handed out. -/
theorem issued_prefix (h : Changed now move next) : now.world.issued <+: next.world.issued := by
  cases h with
  | registered => exact List.prefix_refl _
  | removed => exact List.prefix_refl _
  | unchanged _ _ hissued => exact hissued ▸ List.prefix_refl _
  | moved _ _ _ hstep => exact hstep.issued_prefix

/-- Scanners stay apart from what was handed out before they were registered. -/
theorem apart (h : Changed now move next) {before : String → List TimerHandle}
    (hbefore : now.Apart before) (hfresh : next.world.issued.Nodup) :
    next.Apart fun iface => if move.registers iface then now.world.issued else before iface := by
  intro iface s hfind
  have helsewhere (hmove : move.registers iface = false) (hfind : now.scanner? iface = some s) :
      Station.Apart { scanner := s, world := next.world }
        (if move.registers iface then now.world.issued else before iface) := by
    rw [hmove]
    exact (hbefore iface s hfind).elsewhere h.issued_prefix
  cases h with
  | @registered setup =>
      simp only [scanner?, SortedMap.find?_insert] at hfind
      split at hfind
      next hiface =>
        obtain rfl := Option.some.inj hfind
        simp only [Move.registers, hiface, decide_true, if_true]
        exact ⟨List.Subset.refl _, Avoids.of_new⟩
      next hiface => exact helsewhere (decide_eq_false fun heq => hiface heq.symm) hfind
  | removed =>
      simp only [scanner?, SortedMap.find?_erase] at hfind
      split at hfind
      · cases hfind
      · exact helsewhere rfl hfind
  | unchanged hmove hregistry =>
      rw [scanner?, hregistry] at hfind
      exact helsewhere (hmove iface) hfind
  | moved hmove hbefore' hregistry hstep =>
      rw [scanner?, hregistry, SortedMap.find?_insert] at hfind
      split at hfind
      next hiface =>
        obtain rfl := Option.some.inj hfind
        subst hiface
        simp only [hmove, Bool.false_eq_true, if_false]
        exact hstep.apart (hbefore _ _ hbefore') hfresh
      next => exact helsewhere (hmove iface) hfind

end Changed

namespace Run

theorem keyed (run : Run ρ) : run.now.Keyed := by
  induction run with
  | begin radio clock =>
      intro iface s hfind
      cases hfind
  | extend run move ih => exact (perform_changed ih move).keyed ih

/-- No registered scanner stores a handle that was handed out before it was registered. -/
theorem apart (run : Run ρ) (hfresh : run.now.world.issued.Nodup) :
    run.now.Apart run.before := by
  induction run with
  | begin radio clock =>
      intro iface s hfind
      cases hfind
  | extend run move ih =>
      have hchanged := perform_changed run.keyed move
      -- Handles that differ at the end differ at every earlier moment.
      exact hchanged.apart (ih (hchanged.issued_prefix.sublist.nodup hfresh)) hfresh

/-- An event that stems from an earlier scanner of its interface leaves every registered scanner
and all alarms as they are. If it is an expiry, no handler hears of it. If it is the rejection of a
first cycle, the handler of the configuration that has the id now hears of it, if there is one, and
no other handler does. -/
theorem inherited_events_change_no_scanner (run : Run ρ) (hfresh : run.now.world.issued.Nodup)
    {iface : String} {s : Scanner} {e : Event} {rest : List Event}
    (hfind : run.now.scanner? iface = some s) (hqueue : run.now.world.queue.events = e :: rest)
    (hinherits : run.Inherits iface e) :
    (∀ other, (run.extend .dispatch).now.scanner? other = run.now.scanner? other) ∧
    (run.extend .dispatch).now.world.timers = run.now.world.timers ∧
    (run.extend .dispatch).now.world.callbacks = run.now.world.callbacks ++ s.overhears e := by
  obtain rfl := run.keyed iface s hfind
  have hapart := run.apart hfresh s.iface s hfind
  have hhandled : e.iface? = some s.iface ∧
      (s.handle e (run.now.world.withEvents rest)).1 = s ∧
      (s.handle e (run.now.world.withEvents rest)).2.timers = run.now.world.timers ∧
      (s.handle e (run.now.world.withEvents rest)).2.callbacks =
        run.now.world.callbacks ++ s.overhears e := by
    cases e with
    | timerFired tag handle =>
        obtain ⟨hiface, hbefore⟩ := hinherits
        have hunstored : s.stored tag ≠ some handle :=
          fun hstored => hapart.stored tag handle hstored hbefore
        rw [Scanner.handle_unstored hiface hunstored]
        exact ⟨congrArg some hiface, rfl, rfl, (List.append_nil _).symm⟩
    | cycleRejected other id reason =>
        obtain ⟨rfl, -⟩ := hinherits
        rw [Scanner.handle_cycleRejected]
        exact ⟨rfl, rfl, Background.rejectCycle_timers _ _ _ _,
          Scanner.callbacks_rejectCycle _ _ _⟩
    | _ => cases hinherits
  obtain ⟨hiface, hsame, htimers, hcallbacks⟩ := hhandled
  rw [now, perform_registered hqueue hiface hfind]
  refine ⟨?_, htimers, hcallbacks⟩
  intro other
  rw [scanner?, SortedMap.find?_insert, hsame]
  split
  next hother => rw [hother, hfind]
  next => rfl

end Run

end Host

namespace Sample

/-- A scanner whose first cycle was refused is replaced. The first cycle of its successor is
admitted, before the rejection of the old one is delivered. -/
def succession : Host.Run Replay :=
  [.register setup, .call "wlan0" (.background (some settings) (some (handler 1))),
    .register setup, .outside (.radio (radio .results)),
    .call "wlan0" (.background (some settings) (some (handler 2)))].foldl .extend
      (.begin { radio .reject with options := { outcome := .reject, reason := .busy } } 0)

/-- The alarm of the old scanner expires behind its rejection. -/
def lateTick : Host.Run Replay :=
  (succession.extend (.fire 1)).extend .dispatch

theorem lateTick_changes_nothing :
    lateTick.Inherits "wlan0" (.timerFired (.period "wlan0" 1) 1) ∧
      (∀ other, (lateTick.extend .dispatch).now.scanner? other = lateTick.now.scanner? other) ∧
      (lateTick.extend .dispatch).now.world.timers.active.length = 2 ∧
      (lateTick.extend .dispatch).now.world.callbacks = lateTick.now.world.callbacks := by
  have hfresh : lateTick.now.world.issued.Nodup := by decide +kernel
  have hsome : (lateTick.now.scanner? "wlan0").isSome = true := by decide +kernel
  obtain ⟨s, hs⟩ := Option.isSome_iff_exists.mp hsome
  have hqueue : lateTick.now.world.queue.events = [.timerFired (.period "wlan0" 1) 1] := by
    decide +kernel
  have hinherits : lateTick.Inherits "wlan0" (.timerFired (.period "wlan0" 1) 1) :=
    ⟨rfl, by decide +kernel⟩
  obtain ⟨hscanners, htimers, hcallbacks⟩ :=
    lateTick.inherited_events_change_no_scanner hfresh hs hqueue hinherits
  refine ⟨hinherits, hscanners, ?_, by simpa [Scanner.overhears] using hcallbacks⟩
  rw [htimers]
  decide +kernel

/-- The handler of the new configuration hears of the refusal of the old one. -/
theorem succession_misleads_handler :
    ¬ ∀ e rest, succession.now.world.queue.events = e :: rest → succession.Inherits "wlan0" e →
      ∀ listener, (succession.extend .dispatch).now.world.heard listener =
        succession.now.world.heard listener := by
  intro hunheard
  have hqueue : succession.now.world.queue.events = [.cycleRejected "wlan0" 1 .busy] := by
    decide +kernel
  have hinherits : succession.Inherits "wlan0" (.cycleRejected "wlan0" 1 .busy) :=
    ⟨rfl, by decide +kernel⟩
  have hsame := hunheard _ _ hqueue hinherits (handler 2)
  have hheard : (succession.extend .dispatch).now.world.heard (handler 2) =
      [.requestFailed .busy] := by decide +kernel
  have hbefore : succession.now.world.heard (handler 2) = [] := by decide +kernel
  rw [hheard, hbefore] at hsame
  cases hsame

end Sample

end WirelessScan
