import WirelessScan.Bench.Script
import WirelessScan.Proofs.Interleaving

/-!
# The two dispatch loops

Both loops hand the event at the front of the queue to the registry, again and again. One stops
when the queue is empty, the other one at a shutdown. The radio may put more events on the queue
while one is handed over, so the queue at the beginning does not say what a loop will handle.

Scanners never read the queue, though. The events that a loop hands over have the effects that
they have over an empty queue, and the queue afterwards holds what was behind them and what these
effects put there. The two loops are compared through the sequence of events that are handed over.
-/

namespace WirelessScan

variable {ρ : Type}

theorem Queue.foldl_post_eq (q : Queue) (es : List Event) :
    es.foldl Queue.post q = { q with events := q.events ++ if q.isOpen then es else [] } := by
  by_cases hopen : q.isOpen = true
  · simp only [Queue.foldl_post hopen, if_pos hopen]
  · have hlost (e : Event) : q.post e = q := if_neg hopen
    have hall : es.foldl Queue.post q = q := by
      induction es with
      | nil => rfl
      | cons e rest ih => rw [List.foldl_cons, hlost, ih]
    rw [hall, if_neg hopen, List.append_nil]

namespace World

@[simp] theorem withEvents_withEvents (w : World ρ) (es es' : List Event) :
    (w.withEvents es).withEvents es' = w.withEvents es' := rfl

@[simp] theorem withEvents_events (w : World ρ) (es : List Event) :
    (w.withEvents es).queue.events = es := rfl

@[simp] theorem withEvents_self (w : World ρ) : w.withEvents w.queue.events = w := rfl

end World

namespace Registry

variable [Radio ρ] {r r' : Registry} {w w' : World ρ} {e : Event} {es all : List Event}

/-! ## Events and the queue -/

variable (r w e) in
theorem dispatch_withQueue :
    ∃ posted : List Event, ∀ queue, r.dispatch e (w.withQueue queue) =
      ((r.dispatch e w).1, (r.dispatch e w).2.withQueue (posted.foldl Queue.post queue)) := by
  unfold dispatch
  cases e.iface? with
  | none => exact ⟨[], fun _ => rfl⟩
  | some iface =>
      dsimp only
      cases SortedMap.find? r iface with
      | some s =>
          obtain ⟨posted, hhandle⟩ := Scanner.handle_withQueue w s e
          refine ⟨posted, fun queue => ?_⟩
          simp only [Surroundings.world, Surroundings.setWorld, hhandle]
      | none =>
          refine ⟨[], fun queue => ?_⟩
          cases e <;> rfl

variable (r w es) in
theorem dispatchAll_withQueue :
    ∃ posted : List Event, ∀ queue, r.dispatchAll es (w.withQueue queue) =
      ((r.dispatchAll es w).1,
        (r.dispatchAll es w).2.withQueue (posted.foldl Queue.post queue)) := by
  induction es generalizing r w with
  | nil => exact ⟨[], fun _ => rfl⟩
  | cons e rest ih =>
      obtain ⟨first, hfirst⟩ := r.dispatch_withQueue w e
      obtain ⟨more, hmore⟩ := ih (r.dispatch e w).1 (r.dispatch e w).2
      refine ⟨first ++ more, fun queue => ?_⟩
      have hstep : r.dispatchAll (e :: rest) (w.withQueue queue) =
          (r.dispatch e (w.withQueue queue)).1.dispatchAll rest
            (r.dispatch e (w.withQueue queue)).2 := rfl
      rw [hstep, hfirst, hmore, List.foldl_append]
      rfl

/-- What is queued ahead stays ahead, and changes nothing else. -/
theorem dispatchAll_ahead (r : Registry) (es ahead : List Event) (w : World ρ) :
    r.dispatchAll es (w.withEvents (ahead ++ w.queue.events)) =
      ((r.dispatchAll es w).1,
        (r.dispatchAll es w).2.withEvents (ahead ++ (r.dispatchAll es w).2.queue.events)) := by
  obtain ⟨posted, hposted⟩ := r.dispatchAll_withQueue w es
  have hqueue : (r.dispatchAll es w).2.queue = posted.foldl Queue.post w.queue :=
    congrArg (fun state => state.2.queue) (hposted w.queue)
  have hahead := hposted { w.queue with events := ahead ++ w.queue.events }
  rw [Queue.foldl_post_eq] at hqueue hahead
  refine hahead.trans (congrArg (Prod.mk _) ?_)
  simp only [World.withQueue, World.withEvents, hqueue, List.append_assoc]

/-- The queue only grows, and at its end. -/
theorem exists_appended (r : Registry) (es : List Event) (w : World ρ) :
    ∃ appended, (r.dispatchAll es w).2.queue.events = w.queue.events ++ appended := by
  obtain ⟨posted, hposted⟩ := r.dispatchAll_withQueue w es
  have hqueue := congrArg (fun state => state.2.queue.events) (hposted w.queue)
  rw [Queue.foldl_post_eq] at hqueue
  exact ⟨_, hqueue⟩

/-! ## Handing over -/

/-- Some events are handed over one after the other, each when it stands first in the queue. -/
inductive Hands : Registry → World ρ → List Event → Registry → World ρ → Prop where
  | none {r : Registry} {w : World ρ} : Hands r w [] r w
  | next {r r' : Registry} {w w' : World ρ} {e : Event} {rest es : List Event}
      (hqueue : w.queue.events = e :: rest)
      (hrest : Hands (r.dispatch e (w.withEvents rest)).1 (r.dispatch e (w.withEvents rest)).2 es
        r' w') : Hands r w (e :: es) r' w'

/-- Events that are handed over have the effects that they have when nothing is taken from the
queue. -/
theorem Hands.dispatchAll_eq (h : Hands r w es r' w') :
    r.dispatchAll es w = (r', w'.withEvents (es ++ w'.queue.events)) := by
  induction h with
  | none => rfl
  | @next r r' w w' e rest es hqueue hrest ih =>
      have hahead := dispatchAll_ahead r (e :: es) [e] (w.withEvents rest)
      rw [World.withEvents_withEvents, World.withEvents_events, List.singleton_append, ← hqueue,
        World.withEvents_self] at hahead
      have hstep : r.dispatchAll (e :: es) (w.withEvents rest) =
          (r', w'.withEvents (es ++ w'.queue.events)) := ih
      rw [hahead, hstep]
      rfl

/-- The sequence of events determines the end, and what is still queued. -/
theorem Hands.eq (h : Hands r w es r' w') :
    r' = (r.dispatchAll es (w.withEvents [])).1 ∧
      w' = (r.dispatchAll es (w.withEvents [])).2.withEvents w'.queue.events ∧
      es ++ w'.queue.events =
        w.queue.events ++ (r.dispatchAll es (w.withEvents [])).2.queue.events := by
  have hahead := dispatchAll_ahead r es w.queue.events (w.withEvents [])
  rw [World.withEvents_withEvents, World.withEvents_events, List.append_nil,
    World.withEvents_self, h.dispatchAll_eq] at hahead
  obtain ⟨hregistry, hworld⟩ := Prod.mk.inj hahead
  have hevents := congrArg (fun w : World ρ => w.queue.events) hworld
  have hpopped := congrArg (fun w : World ρ => w.withEvents w'.queue.events) hworld
  exact ⟨hregistry, hpopped, hevents⟩

/-- Whatever stands at the front of the queue can be handed over. -/
theorem exists_hands {before after : List Event} (hqueue : w.queue.events = before ++ after) :
    ∃ r' w' appended, Hands r w before r' w' ∧ w'.queue.events = after ++ appended := by
  induction before generalizing r w after with
  | nil => exact ⟨r, w, [], .none, by simpa using hqueue⟩
  | cons e rest ih =>
      obtain ⟨first, hfirst⟩ := r.exists_appended [e] (w.withEvents (rest ++ after))
      rw [World.withEvents_events, List.append_assoc] at hfirst
      obtain ⟨r', w', appended, hrest, hevents⟩ := ih hfirst
      exact ⟨r', w', first ++ appended, .next hqueue hrest, by rw [hevents, List.append_assoc]⟩

/-- A sequence after which the queue is empty continues every other one. -/
theorem Hands.continues {r₁ : Registry} {w₁ : World ρ} (h : Hands r w es r₁ w₁)
    (hall : Hands r w all r' w') (hempty : w'.queue.events = []) :
    ∃ more, all = es ++ more ∧ Hands r₁ w₁ more r' w' := by
  induction h generalizing all with
  | none => exact ⟨all, rfl, hall⟩
  | @next r r₁ w w₁ e rest es hqueue hrest ih =>
      cases hall with
      | none =>
          rw [hqueue] at hempty
          cases hempty
      | next hqueue' hrest' =>
          obtain ⟨rfl, rfl⟩ := List.cons.inj (hqueue.symm.trans hqueue')
          obtain ⟨more, rfl, hmore⟩ := ih hrest'
          exact ⟨more, rfl, hmore⟩

/-! ## Finitely many events -/

/-- No more than `bound` events are or become queued. -/
def Bounded (r : Registry) (w : World ρ) (bound : Nat) : Prop :=
  ∀ es r' w', Hands r w es r' w' → es.length + w'.queue.events.length ≤ bound

/-- Finitely many events are handed over until the queue is empty. -/
theorem Bounded.exists_drained {bound : Nat} (h : Bounded r w bound) :
    ∃ all r' w', Hands r w all r' w' ∧ w'.queue.events = [] ∧ all.length ≤ bound := by
  induction bound generalizing r w with
  | zero =>
      have hlength := h [] r w .none
      exact ⟨[], r, w, .none, List.eq_nil_of_length_eq_zero (by omega), Nat.le_refl _⟩
  | succ bound ih =>
      cases hqueue : w.queue.events with
      | nil => exact ⟨[], r, w, .none, hqueue, Nat.zero_le _⟩
      | cons e rest =>
          have hnext : Bounded (r.dispatch e (w.withEvents rest)).1
              (r.dispatch e (w.withEvents rest)).2 bound := by
            intro es r' w' hands
            have hlength := h (e :: es) r' w' (.next hqueue hands)
            rw [List.length_cons] at hlength
            omega
          obtain ⟨all, r', w', hands, hempty, hlength⟩ := ih hnext
          exact ⟨e :: all, r', w', .next hqueue hands, hempty, Nat.succ_le_succ hlength⟩

/-- Once the queue was empty, there are no more events than were handed over. -/
theorem Hands.bounded (hall : Hands r w all r' w') (hempty : w'.queue.events = []) :
    Bounded r w all.length := by
  intro es r₁ w₁ h
  obtain ⟨more, rfl, hmore⟩ := h.continues hall hempty
  have hlength := congrArg List.length hmore.eq.2.2
  simp only [hempty, List.length_append, List.length_nil] at hlength ⊢
  omega

/-! ## The loops -/

theorem dispatchPending_next {limit : Nat} {rest : List Event}
    (hqueue : w.queue.events = e :: rest) :
    r.dispatchPending (limit + 1) w =
      ((Registry.dispatchPending limit (r.dispatch e (w.withEvents rest)).1
          (r.dispatch e (w.withEvents rest)).2).1 + 1,
        (Registry.dispatchPending limit (r.dispatch e (w.withEvents rest)).1
          (r.dispatch e (w.withEvents rest)).2).2) := by
  simp only [dispatchPending, dispatchNext?, Queue.pop?, hqueue]
  rfl

theorem run_next {limit : Nat} {rest : List Event} (hqueue : w.queue.events = e :: rest)
    (he : e ≠ .shutdown) :
    Registry.run (limit + 1) r w =
      Registry.run limit (r.dispatch e (w.withEvents rest)).1
        (r.dispatch e (w.withEvents rest)).2 := by
  simp only [Registry.run, Queue.pop?, hqueue, if_neg he]
  rfl

theorem run_shutdown {limit : Nat} {rest : List Event}
    (hqueue : w.queue.events = .shutdown :: rest) :
    Registry.run (limit + 1) r w = (r, w.withEvents rest) := by
  simp only [Registry.run, Queue.pop?, hqueue, if_true]
  rfl

theorem Hands.dispatchPending_eq {limit : Nat} (h : Hands r w es r' w')
    (hempty : w'.queue.events = []) (hlimit : es.length ≤ limit) :
    r.dispatchPending limit w = (es.length, r', w') := by
  induction h generalizing limit with
  | @none r w =>
      cases limit with
      | zero => rfl
      | succ limit =>
          simp only [dispatchPending, dispatchNext?, Queue.pop?, hempty, List.length_nil]
  | next hqueue hrest ih =>
      obtain ⟨limit, rfl⟩ := Nat.exists_eq_add_of_lt hlimit
      rw [dispatchPending_next hqueue, ih hempty (by omega)]
      rfl

theorem Hands.run_eq {limit : Nat} {rest : List Event} (h : Hands r w es r' w')
    (hshutdown : w'.queue.events = .shutdown :: rest) (hbefore : .shutdown ∉ es)
    (hlimit : es.length < limit) : Registry.run limit r w = (r', w'.withEvents rest) := by
  induction h generalizing limit with
  | none =>
      obtain ⟨limit, rfl⟩ := Nat.exists_eq_add_of_lt hlimit
      exact run_shutdown hshutdown
  | next hqueue hrest ih =>
      obtain ⟨limit, rfl⟩ := Nat.exists_eq_add_of_lt hlimit
      rw [List.mem_cons, not_or] at hbefore
      rw [run_next hqueue (Ne.symm hbefore.1)]
      exact ih hshutdown hbefore.2 (by simp; omega)

/-- The queue is served until the first shutdown as long as it holds one, and then until it is
empty. -/
inductive ServesOut (limit : Nat) : Registry → World ρ → Registry → World ρ → Prop where
  | last {r : Registry} {w : World ρ} (hnone : .shutdown ∉ w.queue.events) :
      ServesOut limit r w (r.dispatchPending limit w).2.1 (r.dispatchPending limit w).2.2
  | more {r r' : Registry} {w w' : World ρ} (hqueued : .shutdown ∈ w.queue.events)
      (hrest : ServesOut limit (Registry.run limit r w).1 (Registry.run limit r w).2 r' w') :
      ServesOut limit r w r' w'

/-- Stopping at every shutdown on the way makes no difference. -/
theorem Hands.servesOut_iff {limit : Nat} {r₁ : Registry} {w₁ : World ρ}
    (hall : Hands r w all r₁ w₁) (hempty : w₁.queue.events = []) (hlimit : all.length ≤ limit) :
    ServesOut limit r w r' w' ↔ r' = r₁ ∧ w' = w₁ := by
  induction hn : all.length using Nat.strongRecOn generalizing r w all with
  | ind n ih =>
  subst hn
  by_cases hqueued : .shutdown ∈ w.queue.events
  · obtain ⟨before, after, hevents, hbefore⟩ := List.eq_append_cons_of_mem hqueued
    obtain ⟨r₂, w₂, appended, hands, hafter⟩ := exists_hands (r := r) hevents
    obtain ⟨more, rfl, hmore⟩ := hands.continues hall hempty
    rw [List.cons_append] at hafter
    cases hmore with
    | none =>
        rw [hafter] at hempty
        cases hempty
    | @next _ _ _ _ e rest more hqueue hrest =>
        obtain ⟨rfl, rfl⟩ := List.cons.inj (hafter.symm.trans hqueue)
        rw [List.length_append, List.length_cons] at hlimit ih
        have hrun : Registry.run limit r w = _ := hands.run_eq hafter hbefore (by omega)
        have htail := ih more.length (by omega) hrest (by omega) rfl
        constructor
        · intro h
          cases h with
          | last hnone => exact absurd hqueued hnone
          | more _ hserved =>
              rw [hrun] at hserved
              exact htail.mp hserved
        · intro h
          refine .more hqueued ?_
          rw [hrun]
          exact htail.mpr h
  · have hpending := hall.dispatchPending_eq hempty hlimit
    constructor
    · intro h
      cases h with
      | last =>
          rw [hpending]
          exact ⟨rfl, rfl⟩
      | more hqueued' => exact absurd hqueued' hqueued
    · rintro ⟨rfl, rfl⟩
      have hlast : ServesOut limit r w _ _ := .last hqueued
      rwa [hpending] at hlast

/-- A loop that stops below its limit has come to an empty queue. -/
theorem bounded_of_lt {limit : Nat} (h : (r.dispatchPending limit w).1 < limit) :
    Bounded r w (r.dispatchPending limit w).1 := by
  suffices hdrained : ∃ all r' w', Hands r w all r' w' ∧ w'.queue.events = [] ∧
      all.length = (r.dispatchPending limit w).1 by
    obtain ⟨all, r', w', hands, hempty, hlength⟩ := hdrained
    exact hlength ▸ hands.bounded hempty
  induction limit generalizing r w with
  | zero => cases h
  | succ limit ih =>
      cases hqueue : w.queue.events with
      | nil =>
          have hnone : Hands r w [] r w := .none
          have hpending := hnone.dispatchPending_eq hqueue (Nat.zero_le (limit + 1))
          exact ⟨[], r, w, hnone, hqueue, (congrArg Prod.fst hpending).symm⟩
      | cons e rest =>
          rw [dispatchPending_next hqueue] at h ⊢
          obtain ⟨all, r', w', hands, hempty, hlength⟩ := ih (Nat.lt_of_succ_lt_succ h)
          exact ⟨e :: all, r', w', .next hqueue hands, hempty, congrArg (· + 1) hlength⟩

/-- The two loops agree, whatever the registry and the queue are and whatever is put on the queue
meanwhile. The loop that stops at a shutdown hands over the events before the first one, consumes
it, and leaves what was behind it and then what was added. If finitely many events are or become
queued, the other loop hands over each of them once and in order, those without a scanner and the
shutdowns included, answers their number and leaves the queue empty. To serve until the first
shutdown as long as there is one, and then whatever is left, ends in the same registry and the same
world. -/
theorem dispatch_loops_agree (r : Registry) (w : World ρ) :
    (∀ before after limit, w.queue.events = before ++ .shutdown :: after →
      .shutdown ∉ before → before.length < limit →
        let effects := r.dispatchAll before (w.withEvents [])
        Hands r w before effects.1
            (effects.2.withEvents (.shutdown :: after ++ effects.2.queue.events)) ∧
          Registry.run limit r w =
            (effects.1, effects.2.withEvents (after ++ effects.2.queue.events))) ∧
    (∀ bound, Bounded r w bound → ∃ all, all.length ≤ bound ∧
      let effects := r.dispatchAll all (w.withEvents [])
      Hands r w all effects.1 (effects.2.withEvents []) ∧
        all = w.queue.events ++ effects.2.queue.events ∧
        ∀ limit, all.length ≤ limit →
          r.dispatchPending limit w = (all.length, effects.1, effects.2.withEvents []) ∧
          ∀ r' w', ServesOut limit r w r' w' ↔ (r', w') = (r.dispatchPending limit w).2) := by
  refine ⟨fun before after limit hqueue hbefore hlimit => ?_, fun bound hbound => ?_⟩
  · obtain ⟨r', w', appended, hands, hafter⟩ := exists_hands (r := r) hqueue
    obtain ⟨hregistry, hworld, hevents⟩ := hands.eq
    rw [hqueue, List.append_assoc, List.append_right_inj] at hevents
    rw [hevents] at hworld
    have hrun := hands.run_eq hevents hbefore hlimit
    dsimp only
    rw [← hregistry]
    refine ⟨hworld ▸ hands, ?_⟩
    rw [hrun, hworld]
    rfl
  · obtain ⟨all, r', w', hands, hempty, hlength⟩ := hbound.exists_drained
    obtain ⟨hregistry, hworld, hevents⟩ := hands.eq
    rw [hempty] at hworld hevents
    rw [List.append_nil] at hevents
    refine ⟨all, hlength, ?_⟩
    dsimp only
    rw [← hregistry, ← hworld]
    refine ⟨hands, hevents, fun limit hlimit => ?_⟩
    have hpending := hands.dispatchPending_eq hempty hlimit
    refine ⟨hpending, fun r₁ w₁ => ?_⟩
    rw [hpending, hands.servesOut_iff hempty hlimit, Prod.mk.injEq]

end Registry

namespace Sample

/-- A station with a configuration whose ticks make the radio report at once and shut down. Results,
a shutdown and a tick are queued, and after them results of an interface without a scanner. -/
def lively : Station Bench.Script :=
  let radio := Bench.Script.modify {} "wlan0" fun cue =>
    { cue with posted := [.resultsAvailable "wlan0", .shutdown] }
  [.background (some settings) (some (handler 1)), .fire 1, .outside (.results "wlan1")].foldl
    Station.perform ⟨{ setup }, { radio }⟩

/-- The registry of its scanner. -/
def livelyRegistry : Registry :=
  Registry.register ∅ lively.scanner

theorem lively_loops_agree :
    lively.world.queue.events =
        [.resultsAvailable "wlan0"] ++ .shutdown ::
          [.timerFired (.period "wlan0" 1) 1, .resultsAvailable "wlan1"] ∧
      (Registry.run 6 livelyRegistry lively.world).2.queue.events =
        [.timerFired (.period "wlan0" 1) 1, .resultsAvailable "wlan1"] ∧
      ∃ all, livelyRegistry.Hands lively.world all
          (livelyRegistry.dispatchPending 7 lively.world).2.1
          (livelyRegistry.dispatchPending 7 lively.world).2.2 ∧ all.length = 6 ∧
        ∀ r' w', Registry.ServesOut 7 livelyRegistry lively.world r' w' ↔
          (r', w') = (livelyRegistry.dispatchPending 7 lively.world).2 := by
  have hqueue : lively.world.queue.events =
      [.resultsAvailable "wlan0"] ++ .shutdown ::
        [.timerFired (.period "wlan0" 1) 1, .resultsAvailable "wlan1"] := by decide +kernel
  have hcount : (livelyRegistry.dispatchPending 7 lively.world).1 = 6 := by decide +kernel
  obtain ⟨hrun, hpending⟩ := livelyRegistry.dispatch_loops_agree lively.world
  refine ⟨hqueue, ?_, ?_⟩
  · rw [(hrun _ _ 6 hqueue (by decide) (by decide)).2]
    decide +kernel
  · have hbounded : livelyRegistry.Bounded lively.world 6 :=
      hcount ▸ Registry.bounded_of_lt (by rw [hcount]; decide)
    obtain ⟨all, hlength, hands, -, hloops⟩ := hpending 6 hbounded
    obtain ⟨heq, hserves⟩ := hloops 7 (by omega)
    rw [heq] at hcount ⊢
    exact ⟨all, hands, hcount, heq ▸ hserves⟩

end Sample

end WirelessScan
