import WirelessScan.Proofs.Deferral
import WirelessScan.Proofs.Succession

/-!
# Deferred failures reach their handlers

A fleet is a host with further scanners that are not registered at the moment. All of them share the
queue. Scanners come and go: a new one is built on its own, it can be called before it is inserted
into the registry, and one that was replaced or taken out can be called and inserted again. Each may
have a radio, timers and a clock of its own.

A scan that was accepted and failed before it was active is owed one report, and whichever scanners
are registered when its rejection is dispatched, its handler hears this report and nothing else.
-/

namespace WirelessScan

variable {ρ : Type}

/-- A host and the scanners that share its queue without being registered. -/
structure Fleet (ρ : Type) where
  host : Host ρ
  loose : List Scanner

namespace Fleet

/-! ## Moves -/

/-- A move of a fleet. A loose scanner is named by its position. -/
inductive Move (ρ : Type) where
  /-- A scanner that is replaced or removed becomes loose. -/
  | host (move : Host.Move ρ)
  | build (setup : Setup)
  /-- A loose scanner is registered, in place of the one of its interface if there is one. -/
  | insert (index : Nat)
  | callLoose (index : Nat) (call : Call)
  /-- Somebody else puts an event on the queue. Rejections come from scanners only. -/
  | post (e : Event) (hpost : e.rejection? = none)
  /-- Whoever acts next has another radio, other timers and another clock. -/
  | switch (radio : ρ) (timers : Timers) (clock : UInt64)

/-- The handler that a call hands over. -/
def Move.handler? : Move ρ → Option Handler
  | host (.call _ call) => (call.move : WirelessScan.Move ρ).handler?
  | callLoose _ call => (call.move : WirelessScan.Move ρ).handler?
  | _ => none

/-- The world that all scanners share. -/
def world (now : Fleet ρ) : World ρ := now.host.world

/-- A scanner is part of the fleet, registered or loose. -/
def Has (now : Fleet ρ) (s : Scanner) : Prop :=
  (∃ iface, now.host.scanner? iface = some s) ∨ s ∈ now.loose

/-- The scanner that a move of the host takes out of the registry. -/
def displaces (now : Fleet ρ) : Host.Move ρ → Option Scanner
  | .register setup => now.host.scanner? setup.iface
  | .remove iface => now.host.scanner? iface
  | _ => none

/-- The scanner that a move calls, and the call. -/
def calls (now : Fleet ρ) : Move ρ → Option (Scanner × Call)
  | .host (.call iface call) => (now.host.scanner? iface).map (·, call)
  | .callLoose index call => now.loose[index]?.map (·, call)
  | _ => none

/-- The failure that a move reports. -/
def tells (now : Fleet ρ) : Move ρ → Option Failure
  | .host .dispatch => now.world.queue.events.head?.bind Event.rejection?
  | _ => none

/-- The events that stay in the queue during a move. -/
def remaining (now : Fleet ρ) : Move ρ → List Event
  | .host .dispatch => now.world.queue.events.tail
  | _ => now.world.queue.events

variable [Radio ρ]

/-- The failure of a scan that a move starts and that is over before it is active. -/
def fails (now : Fleet ρ) (move : Move ρ) : Option Failure :=
  (now.calls move).bind fun c => Station.fails ⟨c.1, now.world⟩ c.2.move

/-- The fleet after a move. -/
def perform (now : Fleet ρ) : Move ρ → Fleet ρ
  | .host move =>
    { host := now.host.perform move, loose := now.loose ++ (now.displaces move).toList }
  | .build setup => { now with loose := now.loose ++ [{ setup }] }
  | .insert index =>
    match now.loose[index]? with
    | none => now
    | some s =>
      { host := { now.host with registry := now.host.registry.register s }
        loose := now.loose.eraseIdx index ++ (now.host.scanner? s.iface).toList }
  | .callLoose index call =>
    match now.loose[index]? with
    | none => now
    | some s =>
      let next := Station.perform { scanner := s, world := now.world } call.move
      { host := { now.host with world := next.world }
        loose := now.loose.set index next.scanner }
  | .post e _ => { now with host := { now.host with world := now.world.post e } }
  | .switch radio timers clock =>
    { now with host := { now.host with world := { now.world with radio, timers, clock } } }

/-- What has happened to a fleet since its beginning, the latest move last. -/
inductive Run (ρ : Type) where
  /-- An empty registry over any radio and any reading of the clock. -/
  | begin (radio : ρ) (clock : UInt64)
  | extend (run : Run ρ) (move : Move ρ)

namespace Run

/-- The fleet at the end of a run. -/
def now : Run ρ → Fleet ρ
  | begin radio clock => { host := { registry := ∅, world := { radio, clock } }, loose := [] }
  | extend run move => run.now.perform move

/-- The handlers that calls have handed over so far. -/
def handlers : Run ρ → List Handler
  | begin .. => []
  | extend run move => run.handlers ++ move.handler?.toList

/-- The failures of scans that were over before they were active, in the order of the starts. -/
def failures : Run ρ → List Failure
  | begin .. => []
  | extend run move => run.failures ++ (run.now.fails move).toList

/-- The failures that were reported, in the order of the reports. -/
def told : Run ρ → List Failure
  | begin .. => []
  | extend run move => run.told ++ (run.now.tells move).toList

end Run

end Fleet

/-! ## Dispatch -/

namespace Host

variable [Radio ρ] {now : Host ρ} {iface : String} {s : Scanner} {e : Event} {rest : List Event}

/-- A scanner that is registered under its interface handles an event as if it were alone. -/
theorem perform_alone (hqueue : now.world.queue.events = e :: rest) (hiface : e.iface? = some iface)
    (hfind : now.scanner? iface = some s) (hkeyed : s.iface = iface) :
    let next := Station.perform ⟨s, now.world⟩ .dispatch
    now.perform .dispatch = ⟨now.registry.insert iface next.scanner, next.world⟩ := by
  intro next
  have hown : e.iface? = some (Station.iface ⟨s, now.world⟩) := by
    rw [hiface, ← hkeyed]
    rfl
  have hserve : next = _ := Station.serve_own hqueue hown
  rw [perform_registered hqueue hiface hfind, hserve]

/-- A rejection reaches its handler and changes nothing else, whatever is registered for its
interface. -/
theorem perform_rejection (hkeyed : now.Keyed) {handler : Handler} {reason : Reason}
    (hqueue : now.world.queue.events = .admissionRejected iface handler reason :: rest) :
    now.perform .dispatch =
      { now with
        world := (now.world.withEvents rest).notify handler (.requestFailed reason) } := by
  cases hfind : now.scanner? iface with
  | some s =>
      have hself : SortedMap.insert now.registry iface s = now.registry :=
        SortedMap.insert_of_find? hfind
      obtain rfl := hkeyed iface s hfind
      rw [perform_registered hqueue rfl hfind, Scanner.handle_admissionRejected, hself]
  | none =>
      have hfind' : SortedMap.find? now.registry iface = none := hfind
      rw [perform_dispatch hqueue]
      simp [Registry.dispatch, Event.iface?, hfind', Surroundings.world, Surroundings.setWorld]

/-- Without a scanner any other event is lost. -/
theorem perform_lost (hqueue : now.world.queue.events = e :: rest)
    (hnone : ∀ iface, e.iface? = some iface → now.scanner? iface = none)
    (he : e.rejection? = none) :
    now.perform .dispatch = { now with world := now.world.withEvents rest } := by
  rw [perform_dispatch hqueue]
  cases e with
  | admissionRejected => cases he
  | shutdown => rfl
  | _ =>
      have hfind := hnone _ rfl
      simp only [scanner?] at hfind
      simp [Registry.dispatch, Event.iface?, hfind]

end Host

namespace Fleet

variable [Radio ρ]

/-! ## What a move can do -/

/-- What a move does to the scanners of a fleet and to the world. -/
inductive Changed (now : Fleet ρ) (move : Move ρ) (next : Fleet ρ) : Prop where
  /-- One scanner makes a move of its own. -/
  | acted {s : Scanner} {m : WirelessScan.Move ρ} (hs : now.Has s)
      (hhandler : m.handler? = move.handler?)
      (htells : now.tells move = Station.tells ⟨s, now.world⟩ m)
      (hfails : now.fails move = Station.fails ⟨s, now.world⟩ m)
      (hremaining : now.remaining move = Station.remaining ⟨s, now.world⟩ m)
      (hworld : next.world = (Station.perform ⟨s, now.world⟩ m).world)
      (hscanners : ∀ t, next.Has t →
        now.Has t ∨ t = (Station.perform ⟨s, now.world⟩ m).scanner) :
      Changed now move next
  /-- A rejection is reported without a scanner. -/
  | told {iface : String} {handler : Handler} {reason : Reason} {rest : List Event}
      (hmove : move = .host .dispatch)
      (hqueue : now.world.queue.events = .admissionRejected iface handler reason :: rest)
      (hworld : next.world = (now.world.withEvents rest).notify handler (.requestFailed reason))
      (hscanners : ∀ t, next.Has t → now.Has t) : Changed now move next
  /-- No scanner acts and nothing is reported, but there may be a new scanner. -/
  | quiet (htells : now.tells move = none) (hfails : now.fails move = none)
      (hcallbacks : next.world.callbacks = now.world.callbacks)
      (hsound : now.world.Sound → next.world.Sound)
      (hevents : now.world.Sound → Owes none (now.remaining move) next.world.queue.events)
      (hscanners : ∀ t, next.Has t → now.Has t ∨ ∃ setup, t = { setup }) :
      Changed now move next

section Steps

variable {now next : Fleet ρ} {move : Move ρ} {handler : Handler}

omit [Radio ρ] in
/-- What is registered and loose after scanner `s` was registered. -/
theorem has_insert {registry : Registry} {world : World ρ} {loose : List Scanner}
    {iface : String} {s t : Scanner} (h : Has ⟨⟨registry.insert iface s, world⟩, loose⟩ t) :
    Has ⟨⟨registry, world⟩, loose⟩ t ∨ t = s := by
  rcases h with ⟨other, hfind⟩ | hloose
  · simp only [Host.scanner?, SortedMap.find?_insert] at hfind
    split at hfind
    · exact .inr (Option.some.inj hfind).symm
    · exact .inl (.inl ⟨other, hfind⟩)
  · exact .inl (.inr hloose)

omit [Radio ρ] in
/-- A scanner that made room for another one is still part of the fleet. -/
theorem has_displaced {host : Host ρ} {loose : List Scanner} {iface : String} {t : Scanner}
    (h : t ∈ loose ++ (host.scanner? iface).toList) : Has ⟨host, loose⟩ t := by
  rcases List.mem_append.mp h with hloose | hold
  · exact .inr hloose
  · exact .inl ⟨iface, Option.mem_toList.mp hold⟩

theorem Changed.same (htells : now.tells move = none) (hfails : now.fails move = none)
    (hremaining : now.remaining move = now.world.queue.events) : Changed now move now :=
  .quiet htells hfails rfl id (fun _ => .of_eq hremaining.symm) fun _ ht => .inl ht

/-- An event is dispatched by the scanner of its interface, if there is one. -/
theorem dispatch_changed (hkeyed : now.host.Keyed) :
    Changed now (.host .dispatch) (now.perform (.host .dispatch)) := by
  have hloose : now.loose ++ (now.displaces .dispatch).toList = now.loose := List.append_nil _
  cases hqueue : now.world.queue.events with
  | nil =>
      have hsame : now.perform (.host .dispatch) = now := by
        rw [perform, Host.perform_idle hqueue, hloose]
      rw [hsame]
      refine .same ?_ rfl ?_
      · rw [tells, hqueue]
        rfl
      · rw [remaining, hqueue]
        rfl
  | cons e rest =>
      by_cases hfound : ∃ iface s, e.iface? = some iface ∧ now.host.scanner? iface = some s
      · obtain ⟨iface, s, hiface, hfind⟩ := hfound
        have hnext := Host.perform_alone hqueue hiface hfind (hkeyed iface s hfind)
        refine .acted (m := .dispatch) (.inl ⟨iface, hfind⟩) rfl rfl rfl rfl ?_ ?_
        · rw [perform, hnext]
          rfl
        · intro t ht
          rw [perform, hnext, hloose] at ht
          exact has_insert ht
      · have hnone : ∀ iface, e.iface? = some iface → now.host.scanner? iface = none :=
          fun iface hiface => Option.eq_none_iff_forall_ne_some.mpr fun s hfind =>
            hfound ⟨iface, s, hiface, hfind⟩
        cases e with
        | admissionRejected iface handler reason =>
            have hnext := Host.perform_rejection hkeyed hqueue
            refine .told rfl hqueue ?_ ?_
            · rw [perform, hnext]
              rfl
            · intro t ht
              rw [perform, hnext, hloose] at ht
              exact ht
        | _ =>
            have hnext := Host.perform_lost hqueue hnone rfl
            refine .quiet ?_ rfl ?_ ?_ ?_ ?_
            · rw [tells, hqueue]
              rfl
            · rw [perform, hnext]
              rfl
            · intro hsound
              rw [perform, hnext]
              exact hsound.withEvents rest
            · intro _
              rw [perform, hnext, remaining, hqueue]
              exact .refl _
            · intro t ht
              rw [perform, hnext, hloose] at ht
              exact .inl ht

/-- A registered scanner is called, if there is one. -/
theorem call_changed (iface : String) (call : Call) :
    Changed now (.host (.call iface call)) (now.perform (.host (.call iface call))) := by
  cases hfind : now.host.scanner? iface with
  | none =>
      have hsame : now.perform (.host (.call iface call)) = now := by
        simp [perform, Host.perform, hfind, displaces]
      rw [hsame]
      exact .same rfl (by simp [fails, calls, hfind]) rfl
  | some s =>
      refine .acted (m := call.move) (.inl ⟨iface, hfind⟩) rfl ?_ ?_ ?_ ?_ ?_
      · cases call <;> rfl
      · simp [fails, calls, hfind]
      · cases call <;> rfl
      · simp [perform, Host.perform, hfind, world]
      · intro t ht
        simp only [perform, Host.perform, hfind, displaces, Option.toList_none,
          List.append_nil] at ht
        exact has_insert ht

/-- The expiry of an active alarm is put on the queue. -/
theorem fire_changed (handle : TimerHandle) :
    Changed now (.host (.fire handle)) (now.perform (.host (.fire handle))) := by
  have hexpire : (now.perform (.host (.fire handle))).world = now.world.expire handle := rfl
  refine .quiet rfl rfl ?_ ?_ ?_ ?_
  · rw [hexpire, World.expire]
    split <;> rfl
  · intro hsound
    rw [hexpire, World.expire]
    split
    · exact hsound
    · exact ⟨(World.post_isOpen now.world _).trans hsound.isOpen, hsound.notices⟩
  · intro hsound
    rw [hexpire, World.expire]
    split
    · exact .refl _
    next a _ _ => exact World.owes_post hsound.isOpen (.refl _) (.timerFired a.tag a.handle)
  · intro t ht
    simp only [perform, displaces, Option.toList_none, List.append_nil] at ht
    exact .inl ht

theorem host_changed (hkeyed : now.host.Keyed) (move : Host.Move ρ) :
    Changed now (.host move) (now.perform (.host move)) := by
  cases move with
  | register setup =>
      refine .quiet rfl rfl rfl id (fun _ => .refl _) ?_
      intro t ht
      rcases has_insert ht with (hfind | hmem) | hnew
      · exact .inl (.inl hfind)
      · exact .inl (has_displaced hmem)
      · exact .inr ⟨setup, hnew⟩
  | remove iface =>
      refine .quiet rfl rfl rfl id (fun _ => .refl _) ?_
      intro t ht
      left
      rcases ht with ⟨other, hfind⟩ | hmem
      · simp only [perform, Host.perform, Host.scanner?, SortedMap.find?_erase] at hfind
        split at hfind
        · cases hfind
        · exact .inl ⟨other, hfind⟩
      · exact has_displaced hmem
  | call iface call => exact call_changed iface call
  | fire handle => exact fire_changed handle
  | dispatch => exact dispatch_changed hkeyed
  | outside happening =>
      refine .quiet rfl rfl ?_ (fun hsound => hsound.happen happening)
        (fun hsound => World.owes_happen hsound happening) ?_
      · exact congrArg (List.filterMap Entry.callback?) (World.happen_log _ _)
      · intro t ht
        simp only [perform, displaces, Option.toList_none, List.append_nil] at ht
        exact .inl ht

theorem perform_changed (hkeyed : now.host.Keyed) (move : Move ρ) :
    Changed now move (now.perform move) := by
  cases move with
  | host move => exact host_changed hkeyed move
  | build setup =>
      refine .quiet rfl rfl rfl id (fun _ => .refl _) ?_
      intro t ht
      rcases ht with hfind | hmem
      · exact .inl (.inl hfind)
      · rcases List.mem_append.mp hmem with hloose | hnew
        · exact .inl (.inr hloose)
        · exact .inr ⟨setup, List.mem_singleton.mp hnew⟩
  | insert index =>
      cases hindex : now.loose[index]? with
      | none =>
          have hsame : now.perform (.insert index) = now := by simp [perform, hindex]
          rw [hsame]
          exact .same rfl rfl rfl
      | some s =>
          have hmem := List.mem_of_getElem? hindex
          simp only [perform, hindex]
          refine .quiet rfl rfl rfl id (fun _ => .refl _) ?_
          intro t ht
          left
          rcases has_insert ht with (hfind | hloose) | rfl
          · exact .inl hfind
          · rcases has_displaced hloose with hold | hrest
            · exact .inl hold
            · exact .inr (List.mem_of_mem_eraseIdx hrest)
          · exact .inr hmem
  | callLoose index call =>
      cases hindex : now.loose[index]? with
      | none =>
          have hsame : now.perform (.callLoose index call) = now := by simp [perform, hindex]
          rw [hsame]
          exact .same rfl (by simp [fails, calls, hindex]) rfl
      | some s =>
          have hmem := List.mem_of_getElem? hindex
          simp only [perform, hindex]
          refine .acted (m := call.move) (.inr hmem) rfl ?_ ?_ ?_ rfl ?_
          · cases call <;> rfl
          · simp [fails, calls, hindex]
          · cases call <;> rfl
          · intro t ht
            rcases ht with hfind | hloose
            · exact .inl (.inl hfind)
            · rcases List.mem_or_eq_of_mem_set hloose with hold | hnew
              · exact .inl (.inr hold)
              · exact .inr hnew
  | post e hpost =>
      refine .quiet rfl rfl rfl (fun hsound => hsound.post e) ?_ fun t ht => .inl ht
      intro hsound
      have howes := World.owes_post hsound.isOpen (.refl _) e
      rw [hpost] at howes
      exact howes
  | switch radio timers clock =>
      exact .quiet rfl rfl rfl (fun hsound => ⟨hsound.isOpen, hsound.notices⟩) (fun _ => .refl _)
        fun t ht => .inl ht

/-! ## What every move keeps -/

/-- What holds of a fleet at any time. -/
structure Sound (now : Fleet ρ) : Prop where
  world : now.world.Sound
  keyed : now.host.Keyed
  settled : ∀ s, now.Has s → s.single.slot ≠ .requested

omit [Radio ρ] in
theorem Sound.station (h : now.Sound) {s : Scanner} (hs : now.Has s) :
    Station.Sound ⟨s, now.world⟩ :=
  ⟨h.world, h.settled s hs⟩

theorem perform_keyed (hkeyed : now.host.Keyed) (move : Move ρ) :
    (now.perform move).host.Keyed := by
  cases move with
  | host move => exact (Host.perform_changed hkeyed move).keyed hkeyed
  | insert index =>
      simp only [perform]
      split
      · exact hkeyed
      · intro iface s hfind
        simp only [Host.scanner?, Registry.register, SortedMap.find?_insert] at hfind
        split at hfind
        next hiface => rw [hiface, Option.some.inj hfind]
        next => exact hkeyed iface s hfind
  | callLoose index call =>
      simp only [perform]
      split <;> exact hkeyed
  | _ => exact hkeyed

/-- No scanner of the fleet has a request of a handler. -/
def Lacks (now : Fleet ρ) (handler : Handler) : Prop :=
  ∀ s, now.Has s → s.Lacks handler

namespace Changed

omit [Radio ρ] in
theorem tells_of_told {iface : String} {reason : Reason} {rest : List Event}
    (hqueue : now.world.queue.events = .admissionRejected iface handler reason :: rest) :
    now.tells (.host .dispatch) = some { handler, reason } := by
  rw [tells, hqueue]
  rfl

theorem fails_handler (h : Changed now move next) {f : Failure}
    (hfails : now.fails move = some f) : move.handler? = some f.handler := by
  cases h with
  | acted _ hhandler _ hsame =>
      rw [← hhandler]
      exact Station.fails_handler (hsame.symm.trans hfails)
  | told hmove =>
      rw [hmove] at hfails
      cases hfails
  | quiet _ hnone =>
      rw [hnone] at hfails
      cases hfails

/-- What a move reports is said to the handlers, after all that was said before. -/
theorem callbacks (h : Changed now move next) :
    (now.world.callbacks ++ (now.tells move).toList.map fun f => (f.handler, f.callback)).Sublist
      next.world.callbacks := by
  cases h with
  | @acted s m _ _ htells _ _ hworld =>
      rw [htells, hworld]
      cases hsome : Station.tells ⟨s, now.world⟩ m with
      | none =>
          have hstep := Station.step_perform ⟨s, now.world⟩ m
          simpa using hstep.callbacks_prefix.sublist
      | some f =>
          obtain ⟨rfl, iface, rest, hqueue⟩ := Station.tells_eq_some hsome
          have hserve : Station.perform ⟨s, now.world⟩ .dispatch = _ :=
            Station.serve_rejection hqueue
          rw [hserve, World.notify_callbacks]
          exact List.Sublist.refl _
  | told hmove hqueue hworld =>
      rw [hmove, tells_of_told hqueue, hworld, World.notify_callbacks]
      exact List.Sublist.refl _
  | quiet htells _ hcallbacks =>
      rw [htells, hcallbacks]
      simp

variable [NoticeRadio ρ]

theorem sound (h : Changed now move next) (hkeyed : next.host.Keyed) (hsound : now.Sound) :
    next.Sound := by
  cases h with
  | @acted s m hs _ _ _ _ hworld hscanners =>
      have hnext := (Station.step_perform ⟨s, now.world⟩ m).sound (hsound.station hs)
      refine ⟨hworld ▸ hnext.world, hkeyed, ?_⟩
      intro t ht
      rcases hscanners t ht with hold | rfl
      · exact hsound.settled t hold
      · exact hnext.settled
  | told _ _ hworld hscanners =>
      refine ⟨?_, hkeyed, fun t ht => hsound.settled t (hscanners t ht)⟩
      rw [hworld]
      exact (hsound.world.withEvents _).settles (.notify _ _ _)
  | quiet _ _ _ hworld _ hscanners =>
      refine ⟨hworld hsound.world, hkeyed, ?_⟩
      intro t ht
      rcases hscanners t ht with hold | ⟨setup, rfl⟩
      · exact hsound.settled t hold
      · intro hrequested
        cases hrequested

theorem events (h : Changed now move next) (hsound : now.Sound) :
    Owes (now.fails move) (now.remaining move) next.world.queue.events := by
  cases h with
  | acted hs _ _ hfails hremaining hworld =>
      rw [hfails, hremaining, hworld]
      exact Station.owes_perform (hsound.station hs) _
  | told hmove hqueue hworld =>
      rw [hmove, remaining, hqueue, hworld]
      exact .refl _
  | quiet _ hfails _ _ hevents =>
      rw [hfails]
      exact hevents hsound.world

/-- What a move reports was owed first, and what newly fails is owed last. -/
theorem owed (h : Changed now move next) (hsound : now.Sound) :
    (now.tells move).toList ++ next.world.owed =
      now.world.owed ++ (now.fails move).toList := by
  apply (h.events hsound).balance
  cases move with
  | host move =>
      cases move with
      | dispatch => exact now.world.owed_eq
      | _ => rfl
  | _ => rfl

/-- What is said to a handler that no scanner has: the failures that the move reports. -/
theorem lacks (h : Changed now move next) (hsound : now.Sound) (hlacks : now.Lacks handler)
    (hmove : move.handler? ≠ some handler ∨ ∃ f, now.fails move = some f ∧ f.handler = handler) :
    next.Lacks handler ∧ next.world.heard handler =
      now.world.heard handler ++ reportsTo handler (now.tells move).toList := by
  cases h with
  | @acted s m hs hhandler htells hfails _ hworld hscanners =>
      rw [hfails, ← hhandler] at hmove
      obtain ⟨hlacks', hheard⟩ :=
        Station.lacks_perform (hsound.station hs) (hlacks s hs) hmove
      refine ⟨?_, ?_⟩
      · intro t ht
        rcases hscanners t ht with hold | rfl
        · exact hlacks t hold
        · exact hlacks'
      · rw [hworld, htells]
        exact hheard
  | @told _ carried reason rest hmove' hqueue hworld hscanners =>
      refine ⟨fun t ht => hlacks t (hscanners t ht), ?_⟩
      rw [hworld, hmove', tells_of_told hqueue]
      exact now.world.heard_report rest { handler := carried, reason } handler
  | quiet htells _ hcallbacks _ _ hscanners =>
      refine ⟨?_, ?_⟩
      · intro t ht
        rcases hscanners t ht with hold | ⟨setup, rfl⟩
        · exact hlacks t hold
        · exact .built setup handler
      · rw [World.heard_congr hcallbacks, htells]
        exact (List.append_nil _).symm

end Changed

end Steps

/-! ## Every run -/

namespace Run

theorem keyed (run : Run ρ) : run.now.host.Keyed := by
  induction run with
  | begin radio clock =>
      intro iface s hfind
      cases hfind
  | extend run move ih => exact perform_keyed ih move

theorem changed (run : Run ρ) (move : Move ρ) :
    Changed run.now move (run.extend move).now :=
  perform_changed run.keyed move

/-- Every handler of a failure was handed over by a call, in the same order. -/
theorem failures_sublist (run : Run ρ) :
    (run.failures.map Failure.handler).Sublist run.handlers := by
  induction run with
  | begin radio clock => exact List.Sublist.refl _
  | extend run move ih =>
      rw [failures, handlers, List.map_append]
      apply ih.append
      cases hfails : run.now.fails move with
      | none => exact List.nil_sublist _
      | some f =>
          rw [(run.changed move).fails_handler hfails]
          exact List.Sublist.refl _

/-- The reports were made in the order of the dispatches. -/
theorem told_sublist (run : Run ρ) :
    (run.told.map fun f => (f.handler, f.callback)).Sublist run.now.world.callbacks := by
  induction run with
  | begin radio clock => exact List.Sublist.refl _
  | extend run move ih =>
      rw [told, List.map_append]
      exact (ih.append (List.Sublist.refl _)).trans (run.changed move).callbacks

variable [NoticeRadio ρ]

theorem sound (run : Run ρ) : run.now.Sound := by
  induction run with
  | begin radio clock =>
      refine ⟨⟨rfl, by simp [now, Fleet.world]⟩, keyed _, ?_⟩
      rintro s (⟨iface, hfind⟩ | hloose)
      · cases hfind
      · cases hloose
  | extend run move ih => exact (run.changed move).sound (run.extend move).keyed ih

/-- The failures are those that were reported and those that are still owed, in one order. -/
theorem failures_eq (run : Run ρ) : run.failures = run.told ++ run.now.world.owed := by
  induction run with
  | begin radio clock => rfl
  | extend run move ih =>
      rw [failures, told, ih, List.append_assoc, List.append_assoc,
        (run.changed move).owed run.sound]

/-- A handler that was not handed over, or only to a scan that failed before it was active, hears of
nothing but the failures that are reported. -/
theorem unserved (run : Run ρ) (handler : Handler)
    (h : handler ∉ run.handlers ∨
      run.handlers.count handler = 1 ∧ handler ∈ run.failures.map Failure.handler) :
    run.now.Lacks handler ∧ run.now.world.heard handler = reportsTo handler run.told := by
  induction run with
  | begin radio clock =>
      refine ⟨?_, rfl⟩
      rintro s (⟨iface, hfind⟩ | hloose)
      · cases hfind
      · cases hloose
  | extend run move ih =>
      have hchanged := run.changed move
      suffices hbefore : (handler ∉ run.handlers ∨
          run.handlers.count handler = 1 ∧ handler ∈ run.failures.map Failure.handler) ∧
          (move.handler? ≠ some handler ∨
            ∃ f, run.now.fails move = some f ∧ f.handler = handler) by
        obtain ⟨hlacks, hheard⟩ := ih hbefore.1
        obtain ⟨hlacks', hheard'⟩ := hchanged.lacks run.sound hlacks hbefore.2
        refine ⟨hlacks', ?_⟩
        rw [hheard', hheard, told, reportsTo_append]
      by_cases hmove : move.handler? = some handler
      · -- The call hands the handler over for the first time, so the failure is its own.
        rcases h with hnot | ⟨hcount, hfailed⟩
        · simp [handlers, hmove] at hnot
        · have hnew : handler ∉ run.handlers := by
            simpa [handlers, hmove, List.count_append, List.count_eq_zero] using hcount
          refine ⟨.inl hnew, .inr ?_⟩
          rw [failures, List.map_append, List.mem_append] at hfailed
          rcases hfailed with hold | hnow
          · exact absurd (run.failures_sublist.subset hold) hnew
          · obtain ⟨f, hf, hown⟩ := List.mem_map.mp hnow
            exact ⟨f, Option.mem_toList.mp hf, hown⟩
      · refine ⟨?_, .inl hmove⟩
        rcases h with hnot | ⟨hcount, hfailed⟩
        · exact .inl fun hold => hnot (List.mem_append_left _ hold)
        · rw [handlers, List.count_append] at hcount
          have hzero : move.handler?.toList.count handler = 0 := by
            simpa [List.count_eq_zero] using hmove
          rw [failures, List.map_append, List.mem_append] at hfailed
          refine .inr ⟨by omega, ?_⟩
          rcases hfailed with hold | hnow
          · exact hold
          · obtain ⟨f, hf, rfl⟩ := List.mem_map.mp hnow
            exact absurd (hchanged.fails_handler (Option.mem_toList.mp hf)) hmove

/-- Turns of the dispatch loop report what the first events of the queue owe. -/
theorem told_after_turns (count : Nat) (run : Run ρ)
    (hcount : count ≤ run.now.world.queue.events.length)
    (howed : run.now.world.owed =
      (run.now.world.queue.events.take count).filterMap Event.rejection?) :
    ((List.replicate count (.host .dispatch)).foldl extend run).told = run.failures := by
  induction count generalizing run with
  | zero =>
      rw [List.take_zero, List.filterMap_nil] at howed
      rw [List.replicate_zero, List.foldl_nil, run.failures_eq, howed, List.append_nil]
  | succ count ih =>
      have hchanged := run.changed (.host .dispatch)
      have hnone : run.now.fails (.host .dispatch) = none := rfl
      obtain ⟨posted, hevents, -⟩ := hchanged.events run.sound
      have hbalance := hchanged.owed run.sound
      rw [hnone, howed] at hbalance
      have hfailures : (run.extend (.host .dispatch)).failures = run.failures := by
        rw [failures, hnone]
        exact List.append_nil _
      rw [List.replicate_succ, List.foldl_cons, ← hfailures]
      cases hqueue : run.now.world.queue.events with
      | nil => simp [hqueue] at hcount
      | cons e rest =>
          simp only [remaining, tells, hqueue, List.head?_cons, Option.bind_some, List.tail_cons,
            List.take_succ_cons, List.filterMap_cons, List.length_cons] at hevents hbalance hcount
          apply ih
          · rw [hevents, List.length_append]
            omega
          · rw [hevents, List.take_append_of_le_length (by omega)]
            cases he : e.rejection? <;> simpa [he] using hbalance

/-- Every scan that was accepted and failed before it was active has its failure reported, whatever
scanners are built, inserted, replaced, removed and called meanwhile. The failures are those that
were reported and those that are queued, in the order of the starts, and so are the callbacks. A
handler that was handed over once has heard nothing while its failure is queued, and hears the one
report with the reason of the failure. The turn that reports it leaves everything as it was but the
queue and the log. As many turns as there are events report all failures. -/
theorem deferred_failures_are_reported (run : Run ρ) :
    run.failures = run.told ++ run.now.world.owed ∧
    (run.told.map fun f => (f.handler, f.callback)).Sublist run.now.world.callbacks ∧
    (∀ f ∈ run.failures, run.handlers.count f.handler = 1 →
      (f ∈ run.now.world.owed → run.now.world.heard f.handler = []) ∧
      (f ∈ run.told → run.now.world.heard f.handler = [f.callback])) ∧
    (∀ iface handler reason rest,
      run.now.world.queue.events = .admissionRejected iface handler reason :: rest →
        (run.extend (.host .dispatch)).now =
          { run.now with
            host := { run.now.host with
              world := (run.now.world.withEvents rest).notify handler
                (.requestFailed reason) } }) ∧
    ((List.replicate run.now.world.queue.events.length (.host .dispatch)).foldl extend run).told =
      run.failures := by
  have hfailures := run.failures_eq
  refine ⟨hfailures, run.told_sublist, ?_, ?_, ?_⟩
  · intro f hf hcount
    have hmem : f.handler ∈ run.failures.map Failure.handler := List.mem_map_of_mem hf
    obtain ⟨-, hheard⟩ := run.unserved f.handler (.inr ⟨hcount, hmem⟩)
    -- The handler was handed over once, so it is told once or owed once.
    have hle := run.failures_sublist.count_le f.handler
    rw [hfailures, List.map_append, List.count_append, hcount] at hle
    refine ⟨?_, ?_⟩
    · intro howed
      have hpos : 0 < (run.now.world.owed.map Failure.handler).count f.handler :=
        List.count_pos_iff.mpr (List.mem_map_of_mem howed)
      rw [hheard]
      apply reportsTo_of_not_mem
      rw [← List.count_eq_zero]
      omega
    · intro htold
      rw [hheard]
      exact reportsTo_of_count_le htold (by omega)
  · intro iface handler reason rest hqueue
    have hnext := Host.perform_rejection run.keyed hqueue
    rw [now, perform, hnext]
    simp only [displaces, Option.toList_none, List.append_nil]
    rfl
  · exact run.told_after_turns _ (Nat.le_refl _) (by rw [List.take_length]; rfl)

end Run

end Fleet

namespace Sample

/-- A scan of a channel that nobody knows fails on a scanner that is not registered yet, and the
radio refuses one after the scanner was registered. Then the scanner is replaced, and its successor
is removed. -/
def departures : Fleet.Run Replay :=
  [.build setup,
    .callLoose 0
      (.single (some { settings with buckets := [{ target := .channels [7] }] })
        (some (handler 1))),
    .insert 0,
    .host (.outside (.radio
      { radio .reject with options := { outcome := .reject, reason := .busy } })),
    .host (.call "wlan0" (.single (some settings) (some (handler 2)))),
    .host (.register setup), .host (.remove "wlan0")].foldl .extend (.begin (radio .silent) 0)

/-- The first rejection is dispatched without a scanner, the second one with the old scanner back in
its place. -/
def returns : Fleet.Run Replay :=
  [.host .dispatch, .insert 0, .host .dispatch].foldl .extend departures

theorem departures_are_told :
    departures.failures = [⟨handler 1, .invalidRequest⟩, ⟨handler 2, .busy⟩] ∧
    departures.now.world.owed = departures.failures ∧
    departures.now.world.heard (handler 1) = [] ∧
    ((List.replicate 2 (.host .dispatch)).foldl .extend departures).told =
      departures.failures ∧
    returns.now.world.heard (handler 1) = [.requestFailed .invalidRequest] ∧
    returns.now.world.heard (handler 2) = [.requestFailed .busy] := by
  have hfailures : departures.failures = [⟨handler 1, .invalidRequest⟩, ⟨handler 2, .busy⟩] := by
    decide +kernel
  have howed : departures.now.world.owed = departures.failures := by decide +kernel
  have htold : returns.told = departures.failures := by decide +kernel
  have hsame : returns.failures = departures.failures := by decide +kernel
  have htwo : departures.now.world.queue.events.length = 2 := by decide +kernel
  obtain ⟨-, -, hbefore, -, hturns⟩ := departures.deferred_failures_are_reported
  rw [htwo] at hturns
  obtain ⟨-, -, hafter, -, -⟩ := returns.deferred_failures_are_reported
  have hfirst : ⟨handler 1, .invalidRequest⟩ ∈ departures.failures := by simp [hfailures]
  have hsecond : ⟨handler 2, .busy⟩ ∈ departures.failures := by simp [hfailures]
  refine ⟨hfailures, howed, ?_, hturns, ?_, ?_⟩
  · exact (hbefore _ hfirst (by decide +kernel)).1 (howed ▸ hfirst)
  · exact (hafter _ (hsame ▸ hfirst) (by decide +kernel)).2 (htold ▸ hfirst)
  · exact (hafter _ (hsame ▸ hsecond) (by decide +kernel)).2 (htold ▸ hsecond)

end Sample

end WirelessScan
