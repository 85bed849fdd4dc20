import WirelessScan.Proofs.Succession

/-!
# Scanners of different interfaces

Every scanner of a registry is registered under its own interface. As long as the scanners have
radios, timers and clocks of their own, none of them notices the others: through the registry each
one handles the events of its interface as it would alone, in their order, and the order of events
of different interfaces does not matter.

The scanners may still share one queue. A scanner posts to the queue but never reads it, so worlds
that differ in their queues are alike to it.
-/

namespace WirelessScan

variable {ρ : Type}

/-! ## Worlds that differ in their queues -/

namespace World

/-- The world with another queue. -/
def withQueue (w : World ρ) (queue : Queue) : World ρ :=
  { w with queue }

/-- All but the queue is the same. -/
def Alike (w w' : World ρ) : Prop :=
  ∃ queue, w' = w.withQueue queue

theorem notifyAll_withQueue (w : World ρ) (queue : Queue) (handler : Handler)
    (cs : List Callback) :
    (w.withQueue queue).notifyAll handler cs = (w.notifyAll handler cs).withQueue queue := by
  induction cs generalizing w with
  | nil => rfl
  | cons c rest ih => exact ih (w.notify handler c)

namespace Alike

variable {w w' w'' : World ρ}

theorem refl (w : World ρ) : w.Alike w := ⟨w.queue, rfl⟩

theorem symm (h : w.Alike w') : w'.Alike w := by
  obtain ⟨queue, rfl⟩ := h
  exact ⟨w.queue, rfl⟩

theorem trans (h : w.Alike w') (h' : w'.Alike w'') : w.Alike w'' := by
  obtain ⟨queue, rfl⟩ := h
  obtain ⟨queue', rfl⟩ := h'
  exact ⟨queue', rfl⟩

end Alike

end World

section Queues

variable {w : World ρ} {queue : Queue}

theorem Single.Finished.withQueue {e : Ending} {s : Single} {r r' : Single × World ρ}
    (h : Finished e s w r) (h' : Finished e s (w.withQueue queue) r') :
    r' = (r.1, r.2.withQueue queue) := by
  cases h with
  | unarmed hslot =>
      cases h' with
      | unarmed => rfl
      | armed hslot' => exact absurd hslot' (hslot _)
  | armed hslot =>
      cases h' with
      | unarmed hslot' => exact absurd hslot (hslot' _)
      | armed hslot' =>
          obtain rfl := Slot.armed.inj (hslot.symm.trans hslot')
          exact congrArg (Prod.mk _) (World.notifyAll_withQueue (w.cancel _) queue _ _)

theorem Single.complete_withQueue (s : Single) (raw : List Detection) :
    s.complete raw (w.withQueue queue) =
      ((s.complete raw w).1, (s.complete raw w).2.withQueue queue) :=
  (s.complete_finished raw w).withQueue (s.complete_finished raw _)

theorem Single.fail_withQueue (s : Single) (reason : Reason) :
    s.fail reason (w.withQueue queue) =
      ((s.fail reason w).1, (s.fail reason w).2.withQueue queue) :=
  (s.fail_finished reason w).withQueue (s.fail_finished reason _)

theorem Single.expire_withQueue (s : Single) (handle : TimerHandle) :
    s.expire handle (w.withQueue queue) =
      ((s.expire handle w).1, (s.expire handle w).2.withQueue queue) := by
  unfold expire
  cases s.slot with
  | armed scan =>
      dsimp only
      split <;> rfl
  | _ => rfl

theorem Periodic.finish_withQueue (e : Ending) (p : Periodic) :
    p.finish e (w.withQueue queue) = ((p.finish e w).1, (p.finish e w).2.withQueue queue) := by
  unfold finish
  cases p.pending with
  | none => rfl
  | some c =>
      exact congrArg (Prod.mk _)
        (World.notifyAll_withQueue (w.cancel c.timeout) queue p.handler (e.report c))

theorem Background.finish_withQueue (e : Ending) (b : Background) :
    b.finish e (w.withQueue queue) = ((b.finish e w).1, (b.finish e w).2.withQueue queue) := by
  have hall := SortedMap.mapAccum_comm (f := fun _ (p : Periodic) w => p.finish e w)
    (fun w : World ρ => w.withQueue queue) (fun _ p _ => p.finish_withQueue e) b.scans w
  simp only [finish, hall]

theorem Background.expire_withQueue (b : Background) (id : ScanId) (handle : TimerHandle) :
    b.expire id handle (w.withQueue queue) =
      ((b.expire id handle w).1, (b.expire id handle w).2.withQueue queue) := by
  unfold expire
  cases b.scans.find? id with
  | none => rfl
  | some p =>
      dsimp only
      split <;> rfl

theorem Background.rejectCycle_withQueue (b : Background) (id : ScanId) (reason : Reason) :
    b.rejectCycle id reason (w.withQueue queue) =
      (b.rejectCycle id reason w).withQueue queue := by
  unfold rejectCycle
  split <;> rfl

variable [Radio ρ]

variable (w) in
/-- The radio posts to the queue of the world in which it is asked. -/
theorem Periodic.runCycle_withQueue (setup : Setup) (id : ScanId) (p : Periodic) :
    ∃ posted : List Event, ∀ queue, p.runCycle setup id (w.withQueue queue) =
      ((p.runCycle setup id w).1, (p.runCycle setup id w).2.1,
        (p.runCycle setup id w).2.2.withQueue (posted.foldl Queue.post queue)) := by
  unfold runCycle
  dsimp only
  by_cases hskip : (p.pending.isSome || (p.settings.dueBuckets p.cycle).isEmpty) = true
  · refine ⟨[], fun queue => ?_⟩
    rw [if_pos hskip, if_pos hskip]
    rfl
  · cases setup.resolve p.settings ((p.settings.dueBuckets p.cycle).map Prod.fst) with
    | error error =>
        refine ⟨[], fun queue => ?_⟩
        rw [if_neg hskip, if_neg hskip]
        rfl
    | ok request =>
        refine ⟨(Radio.issue w.radio w.clock setup.iface request).posted, fun queue => ?_⟩
        have hanswer : (((w.withQueue queue).readClock).2.issue setup.iface request).1 =
            (w.readClock.2.issue setup.iface request).1 := rfl
        rw [if_neg hskip, if_neg hskip]
        dsimp only
        rw [hanswer]
        split
        · rfl
        · rfl

variable (w) in
theorem Background.tick_withQueue (setup : Setup) (b : Background) (id : ScanId)
    (handle : TimerHandle) :
    ∃ posted : List Event, ∀ queue, b.tick setup id handle (w.withQueue queue) =
      ((b.tick setup id handle w).1,
        (b.tick setup id handle w).2.withQueue (posted.foldl Queue.post queue)) := by
  unfold tick
  cases b.scans.find? id with
  | none => exact ⟨[], fun _ => rfl⟩
  | some p =>
      dsimp only
      split
      · generalize hscheduled : w.schedule (.period setup.iface id) p.settings.basePeriod.toUInt64 =
          scheduled
        have hscheduled' (queue : Queue) : (w.withQueue queue).schedule (.period setup.iface id)
            p.settings.basePeriod.toUInt64 = (scheduled.1, scheduled.2.withQueue queue) := by
          rw [← hscheduled]
          rfl
        obtain ⟨posted, hran⟩ := Periodic.runCycle_withQueue scheduled.2 setup id
          { p with periodTimer := scheduled.1 }
        refine ⟨posted, fun queue => ?_⟩
        rw [hscheduled']
        dsimp only
        rw [hran]
        generalize Periodic.runCycle setup id { p with periodTimer := scheduled.1 } scheduled.2 = r
        obtain ⟨refusal, p', w'⟩ := r
        cases refusal <;> rfl
      · exact ⟨[], fun _ => rfl⟩

namespace Scanner

variable {s : Scanner} {w' : World ρ}

variable (w) in
/-- A scanner never reads the queue: whatever is queued, an event has the same effects and puts the
same events at the end. -/
theorem handle_withQueue (s : Scanner) (e : Event) :
    ∃ posted : List Event, ∀ queue, s.handle e (w.withQueue queue) =
      ((s.handle e w).1, (s.handle e w).2.withQueue (posted.foldl Queue.post queue)) := by
  unfold handle
  split
  · cases e with
    | resultsAvailable iface =>
        refine ⟨[], fun queue => ?_⟩
        dsimp only
        rw [handleResults_eq, handleResults_eq]
        split
        · -- Both halves work on the detections that were fetched, which do not depend on the queue.
          have hfetch : (w.withQueue queue).fetch s.iface =
              ((w.fetch s.iface).1, (w.fetch s.iface).2.withQueue queue) := rfl
          rw [hfetch]
          dsimp only
          rw [Single.complete_withQueue]
          dsimp only
          rw [Background.complete_eq_finish, Background.complete_eq_finish,
            Background.finish_withQueue]
          rfl
        · rfl
    | scanFailed iface reason =>
        refine ⟨[], fun queue => ?_⟩
        dsimp only [handleFailure]
        rw [Single.fail_withQueue]
        dsimp only
        rw [Background.fail_eq_finish, Background.fail_eq_finish, Background.finish_withQueue]
        rfl
    | timerFired tag handle =>
        cases tag with
        | singleTimeout iface =>
            refine ⟨[], fun queue => ?_⟩
            dsimp only [handleTimer]
            rw [Single.expire_withQueue]
            rfl
        | period iface id =>
            obtain ⟨posted, htick⟩ := s.background.tick_withQueue w s.setup id handle
            refine ⟨posted, fun queue => ?_⟩
            dsimp only [handleTimer]
            rw [htick]
        | cycleTimeout iface id =>
            refine ⟨[], fun queue => ?_⟩
            dsimp only [handleTimer]
            rw [Background.expire_withQueue]
            rfl
    | admissionRejected iface handler reason => exact ⟨[], fun _ => rfl⟩
    | cycleRejected iface id reason =>
        exact ⟨[], fun _ => congrArg (Prod.mk s) (s.background.rejectCycle_withQueue id reason)⟩
    | shutdown => exact ⟨[], fun _ => rfl⟩
  · exact ⟨[], fun _ => rfl⟩

/-- A scanner does the same in worlds that differ in their queues. -/
theorem handle_alike (s : Scanner) (e : Event) (h : w.Alike w') :
    (s.handle e w').1 = (s.handle e w).1 ∧ (s.handle e w).2.Alike (s.handle e w').2 := by
  obtain ⟨queue, rfl⟩ := h
  obtain ⟨posted, hhandle⟩ := handle_withQueue w s e
  rw [hhandle]
  exact ⟨rfl, _, rfl⟩

end Scanner

end Queues

/-! ## Surroundings of their own -/

/-- No interface has a share in the surroundings of another one, except for the queue. -/
class Surroundings.Apart (Ω : Type) {ρ : Type} [Surroundings Ω ρ] : Prop where
  own : ∀ (ω : Ω) (iface : String) (w : World ρ),
    w.Alike (Surroundings.world (Surroundings.setWorld ω iface w) iface)
  other : ∀ (ω : Ω) (iface : String) (w : World ρ) (other : String), other ≠ iface →
    (Surroundings.world ω other).Alike
      (Surroundings.world (Surroundings.setWorld ω iface w) other)

instance : Surroundings.Apart (String → World ρ) where
  own ω iface w := by
    simp only [Surroundings.world, Surroundings.setWorld, if_true]
    exact .refl w
  other ω iface w other hother := by
    simp only [Surroundings.world, Surroundings.setWorld, hother, if_false]
    exact .refl _

/-- A world for each interface, and one queue for all of them. -/
structure Pooled (ρ : Type) where
  worlds : String → World ρ
  queue : Queue

instance Surroundings.pooled : Surroundings (Pooled ρ) ρ where
  world ω iface := (ω.worlds iface).withQueue ω.queue
  setWorld ω iface w :=
    { worlds := fun i => if i = iface then w else ω.worlds i, queue := w.queue }

instance : Surroundings.Apart (Pooled ρ) where
  own ω iface w := ⟨w.queue, by simp [Surroundings.world, Surroundings.setWorld]⟩
  other ω iface w other hother :=
    ⟨w.queue, by
      simp only [Surroundings.world, Surroundings.setWorld, hother, if_false]
      rfl⟩

/-! ## Registries -/

/-- A scanner handles some events in order. -/
def Scanner.handleAll [Radio ρ] (s : Scanner) (events : List Event) (w : World ρ) :
    Scanner × World ρ :=
  events.foldl (fun state e => state.1.handle e state.2) (s, w)

namespace Registry

variable [Radio ρ] {Ω : Type} [Surroundings Ω ρ]

/-- Some events are dispatched in order. -/
def dispatchAll (r : Registry) (events : List Event) (ω : Ω) : Registry × Ω :=
  events.foldl (fun state e => state.1.dispatch e state.2) (r, ω)

/-- The events of an interface. -/
def ofInterface (iface : String) (events : List Event) : List Event :=
  events.filter fun e => e.iface? = some iface

/-- A registry that can come about. Scanners are inserted and removed, the scanner that is found
under an interface is called or handed an event, and events are dispatched, in any surroundings. -/
inductive Reachable (ρ : Type) [Radio ρ] : Registry → Prop where
  | empty : Reachable ρ ∅
  | insert {r : Registry} (hr : Reachable ρ r) (s : Scanner) : Reachable ρ (r.register s)
  | remove {r : Registry} (hr : Reachable ρ r) (iface : String) :
      Reachable ρ (SortedMap.erase r iface)
  | call {r : Registry} (hr : Reachable ρ r) {iface : String} {s : Scanner}
      (hfind : SortedMap.find? r iface = some s) (call : Call) (w : World ρ) :
      Reachable ρ (SortedMap.insert r iface (Station.perform ⟨s, w⟩ call.move).scanner)
  | hand {r : Registry} (hr : Reachable ρ r) {iface : String} {s : Scanner}
      (hfind : SortedMap.find? r iface = some s) (e : Event) (w : World ρ) :
      Reachable ρ (SortedMap.insert r iface (s.handle e w).1)
  | dispatch {r : Registry} (hr : Reachable ρ r) {Ω : Type} [Surroundings Ω ρ] (e : Event)
      (ω : Ω) : Reachable ρ (r.dispatch e ω).1

/-- Every scanner is registered under its own interface. -/
def Keyed (r : Registry) : Prop :=
  ∀ iface s, SortedMap.find? r iface = some s → s.iface = iface

theorem Keyed.insert {r : Registry} (h : r.Keyed) {iface : String} {s : Scanner}
    (hs : s.iface = iface) : Keyed (SortedMap.insert r iface s) := by
  intro other t hfind
  rw [SortedMap.find?_insert] at hfind
  split at hfind
  next hother => rw [← Option.some.inj hfind, hs, hother]
  next => exact h other t hfind

/-- An event changes at most the scanner of its interface, which handles it. -/
theorem dispatch_cases (r : Registry) (e : Event) (ω : Ω) :
    (∃ iface s, e.iface? = some iface ∧ SortedMap.find? r iface = some s ∧
      r.dispatch e ω =
        (SortedMap.insert r iface (s.handle e (Surroundings.world ω iface)).1,
          Surroundings.setWorld ω iface (s.handle e (Surroundings.world ω iface)).2)) ∨
    ((∀ iface, e.iface? = some iface → SortedMap.find? r iface = none) ∧
      (r.dispatch e ω).1 = r ∧
      ((r.dispatch e ω).2 = ω ∨
        ∃ iface w, e.iface? = some iface ∧
          (r.dispatch e ω).2 = Surroundings.setWorld ω iface w)) := by
  unfold dispatch
  cases hiface : e.iface? with
  | none => exact .inr ⟨by simp, rfl, .inl rfl⟩
  | some iface =>
      cases hfind : SortedMap.find? r iface with
      | some s =>
          simp only [hfind]
          exact .inl ⟨iface, s, rfl, hfind, rfl⟩
      | none =>
          simp only [hfind]
          refine .inr ⟨?_, ?_⟩
          · intro other hother
            rw [← Option.some.inj hother, hfind]
          · split
            · exact ⟨rfl, .inr ⟨iface, _, rfl, rfl⟩⟩
            · exact ⟨rfl, .inl rfl⟩

theorem Reachable.keyed {r : Registry} (h : r.Reachable ρ) : r.Keyed := by
  induction h with
  | empty =>
      intro iface s hfind
      cases hfind
  | insert _ s ih => exact ih.insert rfl
  | remove _ iface ih =>
      intro other s hfind
      rw [SortedMap.find?_erase] at hfind
      split at hfind
      · cases hfind
      · exact ih other s hfind
  | @call _ _ _ s hfind call w ih =>
      have hsetup := (Station.step_perform ⟨s, w⟩ call.move).setup
      exact ih.insert ((congrArg Setup.iface hsetup).trans (ih _ _ hfind))
  | hand _ hfind e w ih =>
      exact ih.insert ((congrArg Setup.iface (Scanner.handle_setup e)).trans (ih _ _ hfind))
  | @dispatch r _ Ω _ e ω ih =>
      rcases r.dispatch_cases e ω with ⟨iface, s, -, hfind, heq⟩ | ⟨-, heq, -⟩
      · rw [heq]
        exact ih.insert ((congrArg Setup.iface (Scanner.handle_setup e)).trans (ih _ _ hfind))
      · rw [heq]
        exact ih

section Interfaces

variable [Surroundings.Apart Ω] {r : Registry} {e : Event} {ω : Ω} {iface : String} {s : Scanner}

variable (ω) in
theorem dispatch_own (hiface : e.iface? = some iface)
    (hfind : SortedMap.find? r iface = some s) :
    SortedMap.find? (r.dispatch e ω).1 iface =
        some (s.handle e (Surroundings.world ω iface)).1 ∧
      (s.handle e (Surroundings.world ω iface)).2.Alike
        (Surroundings.world (r.dispatch e ω).2 iface) := by
  rcases r.dispatch_cases e ω with ⟨iface', s', hiface', hfind', heq⟩ | ⟨hnone, -, -⟩
  · obtain rfl := Option.some.inj (hiface.symm.trans hiface')
    obtain rfl := Option.some.inj (hfind.symm.trans hfind')
    rw [heq]
    exact ⟨by simp, Surroundings.Apart.own ω iface _⟩
  · rw [hnone iface hiface] at hfind
    cases hfind

variable (r ω) in
theorem dispatch_other (hiface : e.iface? ≠ some iface) :
    SortedMap.find? (r.dispatch e ω).1 iface = SortedMap.find? r iface ∧
      (Surroundings.world ω iface).Alike (Surroundings.world (r.dispatch e ω).2 iface) := by
  have helsewhere {other : String} (hother : e.iface? = some other) : iface ≠ other := by
    rintro rfl
    exact hiface hother
  rcases r.dispatch_cases e ω with ⟨other, s', hother, -, heq⟩ | ⟨-, hsame, heq⟩
  · rw [heq]
    refine ⟨?_, Surroundings.Apart.other ω other _ iface (helsewhere hother)⟩
    rw [SortedMap.find?_insert, if_neg (helsewhere hother)]
  · rw [hsame]
    refine ⟨rfl, ?_⟩
    rcases heq with heq | ⟨other, w, hother, heq⟩
    · rw [heq]
      exact .refl _
    · rw [heq]
      exact Surroundings.Apart.other ω other w iface (helsewhere hother)

/-- A scanner of the registry handles the events of its interface as it would alone. -/
theorem dispatchAll_alone (events : List Event) {w : World ρ}
    (hfind : SortedMap.find? r iface = some s) (hw : w.Alike (Surroundings.world ω iface)) :
    SortedMap.find? (r.dispatchAll events ω).1 iface =
        some (s.handleAll (ofInterface iface events) w).1 ∧
      (s.handleAll (ofInterface iface events) w).2.Alike
        (Surroundings.world (r.dispatchAll events ω).2 iface) := by
  induction events generalizing r ω s w with
  | nil => exact ⟨hfind, hw⟩
  | cons e rest ih =>
      by_cases hiface : e.iface? = some iface
      · obtain ⟨hsame, halike⟩ := s.handle_alike e hw
        obtain ⟨hfind', hworld⟩ := dispatch_own ω hiface hfind
        rw [hsame] at hfind'
        have halone := ih hfind' (halike.trans hworld)
        simpa [dispatchAll, Scanner.handleAll, ofInterface, hiface] using halone
      · obtain ⟨hfind', hworld⟩ := r.dispatch_other ω hiface
        have halone := ih (hfind'.trans hfind) (hw.trans hworld)
        simpa [dispatchAll, Scanner.handleAll, ofInterface, hiface] using halone

omit [Surroundings.Apart Ω] in
theorem dispatchAll_unregistered (events : List Event)
    (hfind : SortedMap.find? r iface = none) :
    SortedMap.find? (r.dispatchAll events ω).1 iface = none := by
  induction events generalizing r ω with
  | nil => exact hfind
  | cons e rest ih =>
      have hnext : SortedMap.find? (r.dispatch e ω).1 iface = none := by
        rcases r.dispatch_cases e ω with ⟨other, s', -, hother, heq⟩ | ⟨-, heq, -⟩
        · have hne : iface ≠ other := by
            rintro rfl
            rw [hfind] at hother
            cases hother
          rw [heq, SortedMap.find?_insert, if_neg hne, hfind]
        · rw [heq, hfind]
      exact ih hnext

/-- Interfaces do not interfere. Every scanner of a registry that can come about is registered under
its own interface. When events are dispatched through any registry over surroundings that the
interfaces do not share, each scanner ends in the state, and its radio, timers, clock and log end as
they would if it handled the events of its interface alone, and an interface without a scanner gets
none. So two sequences of events that agree on every interface leave the same registry and the same
surroundings. An event of another interface that is handed to a scanner does nothing. -/
theorem interfaces_do_not_interfere (r : Registry) (ω : Ω) (events : List Event) :
    (r.Reachable ρ → ∀ iface s, SortedMap.find? r iface = some s → s.iface = iface) ∧
    (∀ iface s, SortedMap.find? r iface = some s →
      let alone := s.handleAll (ofInterface iface events) (Surroundings.world ω iface)
      SortedMap.find? (r.dispatchAll events ω).1 iface = some alone.1 ∧
      alone.2.Alike (Surroundings.world (r.dispatchAll events ω).2 iface)) ∧
    (∀ iface, SortedMap.find? r iface = none →
      SortedMap.find? (r.dispatchAll events ω).1 iface = none) ∧
    (∀ others, (∀ iface, ofInterface iface others = ofInterface iface events) →
      (r.dispatchAll others ω).1 = (r.dispatchAll events ω).1 ∧
      ∀ iface s, SortedMap.find? r iface = some s →
        (Surroundings.world (r.dispatchAll others ω).2 iface).Alike
          (Surroundings.world (r.dispatchAll events ω).2 iface)) ∧
    (∀ (s : Scanner) (e : Event) (w : World ρ) iface, e.iface? = some iface →
      iface ≠ s.iface → s.handle e w = (s, w)) := by
  have halone (iface : String) (s : Scanner) (hfind : SortedMap.find? r iface = some s)
      (events : List Event) :=
    dispatchAll_alone events hfind (World.Alike.refl (Surroundings.world ω iface))
  refine ⟨Reachable.keyed, fun iface s hfind => halone iface s hfind events,
    fun iface => dispatchAll_unregistered events, ?_, ?_⟩
  · intro others hothers
    refine ⟨?_, ?_⟩
    · apply SortedMap.ext_find?
      intro iface
      cases hfind : SortedMap.find? r iface with
      | none =>
          rw [dispatchAll_unregistered others hfind, dispatchAll_unregistered events hfind]
      | some s =>
          rw [(halone iface s hfind others).1, (halone iface s hfind events).1, hothers iface]
    · intro iface s hfind
      have hleft := (halone iface s hfind others).2
      rw [hothers iface] at hleft
      exact hleft.symm.trans (halone iface s hfind events).2
  · intro s e w iface he hiface
    exact Scanner.handle_foreign he hiface

end Interfaces

end Registry

namespace Sample

/-- A scanner whose single scan waits for a radio of its own. -/
def started (iface : String) (scan : Handler) : Station Replay :=
  Station.perform ⟨{ setup := { setup with iface } }, { radio := radio .silent }⟩
    (.single (some settings) (some scan))

/-- Two such scanners. -/
def pair : Registry :=
  (Registry.register ∅ (started "wlan0" (handler 1)).scanner).register
    (started "wlan1" (handler 2)).scanner

/-- Their surroundings, in which they share the queue. -/
def pairWorlds : Pooled Replay where
  worlds iface :=
    (started iface (if iface = "wlan0" then handler 1 else handler 2)).world
  queue := {}

/-- The first scan completes, the second one fails, and the watchdog of the first one is late. -/
def pairEvents : List Event :=
  [.resultsAvailable "wlan0", .scanFailed "wlan1" .busy,
    .timerFired (.singleTimeout "wlan0") 1]

/-- The same events of each interface in another order. -/
def pairOthers : List Event :=
  [.scanFailed "wlan1" .busy, .resultsAvailable "wlan0",
    .timerFired (.singleTimeout "wlan0") 1]

theorem pair_in_any_order :
    (∀ iface s, SortedMap.find? pair iface = some s → s.iface = iface) ∧
    (pair.dispatchAll pairOthers pairWorlds).1 = (pair.dispatchAll pairEvents pairWorlds).1 ∧
    (Surroundings.world (pair.dispatchAll pairEvents pairWorlds).2 "wlan0").heard (handler 1) =
      [.statusAvailable] ∧
    (Surroundings.world (pair.dispatchAll pairEvents pairWorlds).2 "wlan1").heard (handler 2) =
      [.requestFailed .busy] := by
  obtain ⟨hkeyed, -, -, horder, -⟩ := pair.interfaces_do_not_interfere pairWorlds pairEvents
  have hreachable : pair.Reachable Replay := .insert (.insert .empty _) _
  have hsame : ∀ iface, Registry.ofInterface iface pairOthers =
      Registry.ofInterface iface pairEvents := by
    intro iface
    by_cases hfirst : "wlan0" = iface
    · subst hfirst
      decide
    · simp [Registry.ofInterface, pairOthers, pairEvents, List.filter_cons, Event.iface?,
        TimerTag.iface, hfirst]
  exact ⟨hkeyed hreachable, (horder pairOthers hsame).1, by decide +kernel, by decide +kernel⟩

end Sample

end WirelessScan
