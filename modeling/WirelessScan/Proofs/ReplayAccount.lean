import WirelessScan.Proofs.LateNotices
import WirelessScan.Proofs.Freshness

/-!
# The account of a replay radio

A replay radio updates four things in an admission call: what it returns, its counter, the reading
of the clock that its stamps go by, and what it announces for later. Over any sequence of scan
calls, with time passing and notices arriving between them, the four stay in step: each can be read
off the list of the calls that were made.

A radio that refuses is the exception. It returns the reason of its options, and that may be
`succeeded`: such a call looks admitted, but nothing is counted, stamped or announced for it.
-/

namespace WirelessScan.Replay

/-- A scan call that was made. -/
structure Query where
  iface : String
  /-- The reading of the clock. -/
  clock : UInt64
  /-- The millisecond of the call on the scale of the timers. -/
  millis : Nat
  /-- What the call returned. -/
  status : Reason
deriving DecidableEq, Repr

/-- What can happen to a radio that no scanner uses. -/
inductive Act where
  | scan (iface : String) (request : Request)
  /-- Time moves on the scale of the timers, and the clock reads whatever it reads. -/
  | time (millis : Nat) (nanos : UInt64)
  /-- A notice arrives, if the radio has announced it. -/
  | arrival (notice : Notice)

/-- The surroundings of a radio, and the scan calls that were made in order. -/
structure Account where
  world : World Replay
  queries : List Query := []

namespace Account

/-- A new radio and its surroundings. -/
def fresh (networks : List Network) (options : Options) (clock : UInt64) : Account where
  world := { radio := { networks, options }, clock }

/-- The account after an act. -/
def act (a : Account) : Act → Account
  | .scan iface request =>
      { world := (a.world.issue iface request).2
        queries := a.queries ++
          [⟨iface, a.world.clock, a.world.elapsed, (a.world.issue iface request).1⟩] }
  | .time millis nanos => { a with world := a.world.happen (.time millis nanos) }
  | .arrival n => { a with world := a.world.happen (.arrival n) }

/-- The calls that returned success. -/
def admitted (a : Account) : List Query :=
  a.queries.filter fun q => q.status = .succeeded

/-- Some events and the milliseconds they are due at are all that was ever announced: each has
arrived, and then it is on the queue, or is still to come. -/
def Announces (a : Account) (promises : List (Nat × Event)) : Prop :=
  ∃ arrived : List Notice, a.world.queue.events = arrived.map Notice.event ∧
    ((arrived ++ a.world.notices).map fun n => (n.due, n.event)).Perm promises

/-- A call never puts an event on the queue itself. -/
theorem act_scan_queue (a : Account) (iface : String) (request : Request) :
    (a.act (.scan iface request)).world.queue = a.world.queue :=
  congrArg (List.foldl Queue.post a.world.queue) (a.world.radio.issue_posted a.world.clock iface)

/-- A notice that was not announced does not arrive. -/
theorem act_arrival_of_not_mem {a : Account} {n : Notice} (hn : n ∉ a.world.notices) :
    a.act (.arrival n) = a := by
  simp only [act, World.happen, if_neg hn]

/-! ## A radio that refuses -/

/-- The radio is as it was in the beginning, and all that it has done is to return its reason. -/
structure Refuses (radio : Replay) (a : Account) : Prop where
  same : a.world.radio = radio
  answers : ∀ q ∈ a.queries, q.status = radio.options.reason
  events : a.world.queue.events = []
  notices : a.world.notices = []

theorem Refuses.act {radio : Replay} (hreject : radio.options.outcome = .reject) {a : Account}
    (h : Refuses radio a) (x : Act) : Refuses radio (a.act x) := by
  cases x with
  | scan iface request =>
      have hissue : Radio.issue a.world.radio a.world.clock iface request =
          { status := radio.options.reason, radio } := by
        rw [h.same]
        exact if_pos hreject
      refine ⟨?_, ?_, (congrArg _ (a.act_scan_queue iface request)).trans h.events, ?_⟩
      · exact congrArg Admission.radio hissue
      · intro q hq
        rcases List.mem_append.mp hq with hold | hnew
        · exact h.answers q hold
        · rw [List.mem_singleton.mp hnew]
          exact congrArg Admission.status hissue
      · simp only [Account.act, World.issue, hissue, h.notices, List.map_nil, List.append_nil]
  | time millis nanos => exact ⟨h.same, h.answers, h.events, h.notices⟩
  | arrival n =>
      rw [act_arrival_of_not_mem (by simp [h.notices])]
      exact h

theorem refuses_foldl {radio : Replay} (hreject : radio.options.outcome = .reject) {a : Account}
    (h : Refuses radio a) (acts : List Act) : Refuses radio (acts.foldl Account.act a) := by
  induction acts generalizing a with
  | nil => exact h
  | cons x rest ih => exact ih (h.act hreject x)

/-! ## A radio that admits -/

/-- The event that a call is to cause, and the millisecond it is due at: when the delay of the
radio has passed since the call. -/
def promise? (options : Options) (q : Query) : Option (Nat × Event) :=
  (outcomeEvent? options q.iface).map fun e => (q.millis + options.delay.toNat, e)

theorem promise?_results {options : Options} (h : options.outcome = .results) :
    promise? options = fun q =>
      some (q.millis + options.delay.toNat, .resultsAvailable q.iface) := by
  funext q
  simp [promise?, outcomeEvent?, h]

theorem promise?_failure {options : Options} (h : options.outcome = .failure) :
    promise? options =
      fun q => some (q.millis + options.delay.toNat, .scanFailed q.iface options.reason) := by
  funext q
  simp [promise?, outcomeEvent?, h]

theorem promise?_silent {options : Options} (h : options.outcome = .silent) :
    promise? options = fun _ => none := by
  funext q
  simp [promise?, outcomeEvent?, h]

/-- The radio counts its calls and knows the last one, every call was admitted, and all were
promised their event. -/
structure Admits (networks : List Network) (options : Options) (a : Account) : Prop where
  radio : a.world.radio =
    { networks, options
      lastStart := a.queries.getLast?.map Query.clock
      issued := .ofNat a.queries.length }
  answers : ∀ q ∈ a.queries, q.status = .succeeded
  isOpen : a.world.queue.isOpen = true
  announces : a.Announces (a.queries.filterMap (promise? options))

section Admits

variable {networks : List Network} {options : Options} {a : Account}

theorem issue_of_admits (h : Admits networks options a) (hne : options.outcome ≠ .reject)
    (iface : String) (request : Request) :
    Radio.issue a.world.radio a.world.clock iface request =
      { status := .succeeded
        radio :=
          { networks, options
            lastStart := some a.world.clock
            issued := .ofNat (a.queries.length + 1) }
        later := ((outcomeEvent? options iface).map fun e => (options.delay, e)).toList } := by
  have hcount : UInt64.ofNat a.queries.length + 1 = .ofNat (a.queries.length + 1) := by simp
  rw [h.radio, ← hcount]
  exact if_neg hne

/-- An arriving notice moves from those that are announced to those that have arrived. -/
theorem Announces.arrival {promises : List (Nat × Event)} (hopen : a.world.queue.isOpen = true)
    (h : a.Announces promises) {n : Notice} (hn : n ∈ a.world.notices) :
    (a.act (.arrival n)).Announces promises := by
  obtain ⟨arrived, hevents, hperm⟩ := h
  refine ⟨arrived ++ [n], ?_, ?_⟩
  · simp only [Account.act, World.happen, if_pos hn]
    rw [List.map_append, ← hevents]
    exact World.post_events a.world n.event hopen
  · simp only [Account.act, World.happen, if_pos hn]
    refine List.Perm.trans (List.Perm.map _ ?_) hperm
    rw [List.append_assoc]
    exact (List.perm_cons_erase hn).symm.append_left arrived

theorem Admits.act (hne : options.outcome ≠ .reject) (h : Admits networks options a)
    (x : Act) : Admits networks options (a.act x) := by
  cases x with
  | scan iface request =>
      have hissue := issue_of_admits h hne iface request
      have hqueue := a.act_scan_queue iface request
      refine ⟨?_, ?_, (congrArg _ hqueue).trans h.isOpen, ?_⟩
      · have hradio : (a.world.issue iface request).2.radio = _ := congrArg Admission.radio hissue
        simpa [Account.act] using hradio
      · intro q hq
        rcases List.mem_append.mp hq with hold | hnew
        · exact h.answers q hold
        · rw [List.mem_singleton.mp hnew]
          exact congrArg Admission.status hissue
      · obtain ⟨arrived, hevents, hperm⟩ := h.announces
        refine ⟨arrived, (congrArg _ hqueue).trans hevents, ?_⟩
        have hpromised : ((arrived ++ (a.act (.scan iface request)).world.notices).map
            fun n => (n.due, n.event)) =
              ((arrived ++ a.world.notices).map fun n => (n.due, n.event)) ++
                [⟨iface, a.world.clock, a.world.elapsed, (a.world.issue iface request).1⟩].filterMap
                  (promise? options) := by
          simp only [Account.act, World.issue, hissue, promise?, List.filterMap_cons]
          cases outcomeEvent? options iface <;> simp
        rw [hpromised, Account.act, List.filterMap_append]
        exact hperm.append_right _
  | time millis nanos => exact ⟨h.radio, h.answers, h.isOpen, h.announces⟩
  | arrival n =>
      by_cases hn : n ∈ a.world.notices
      · have hannounces := h.announces.arrival h.isOpen hn
        simp only [Account.act, World.happen, if_pos hn] at hannounces ⊢
        exact ⟨h.radio, h.answers, (World.post_isOpen a.world n.event).trans h.isOpen, hannounces⟩
      · rw [act_arrival_of_not_mem hn]
        exact h

theorem admits_foldl (hne : options.outcome ≠ .reject) (h : Admits networks options a)
    (acts : List Act) : Admits networks options (acts.foldl Account.act a) := by
  induction acts generalizing a with
  | nil => exact h
  | cons x rest ih => exact ih (h.act hne x)

theorem Admits.admitted_eq (h : Admits networks options a) : a.admitted = a.queries :=
  List.filter_eq_self.mpr fun q hq => decide_eq_true (h.answers q hq)

theorem Admits.detections_eq (h : Admits networks options a) : a.world.radio.detections =
    match a.queries.getLast? with
    | none => []
    | some q => networks.map (detect q.clock) := by
  rw [h.radio, detections]
  cases a.queries.getLast? <;> rfl

end Admits

/-! ## Every sequence of calls -/

theorem refuses_fresh (networks : List Network) (options : Options) (clock : UInt64) :
    Refuses { networks, options } (fresh networks options clock) :=
  ⟨rfl, fun _ h => (List.not_mem_nil h).elim, rfl, rfl⟩

theorem admits_fresh (networks : List Network) (options : Options) (clock : UInt64) :
    Admits networks options (fresh networks options clock) :=
  ⟨rfl, fun _ h => (List.not_mem_nil h).elim, rfl, [], rfl, .nil⟩

/-- A replay radio accounts for every admitted scan, whatever its options are and whichever calls
are made at whatever times. The counter and the stamps follow the calls that returned success,
unless refusals are answered with success. Each such call causes one event later on for its
interface, results or a failure, and none from a silent radio. A radio that refuses never changes
and never announces anything. -/
theorem accounts_for_every_admitted_scan (networks : List Network) (options : Options)
    (clock : UInt64) (acts : List Act) :
    let a := acts.foldl Account.act (fresh networks options clock)
    ((options.outcome = .reject → options.reason ≠ .succeeded) →
      a.world.radio.issued = .ofNat a.admitted.length ∧
      (a.admitted.length < 2 ^ 64 → a.world.radio.issued.toNat = a.admitted.length) ∧
      a.world.radio.detections = match a.admitted.getLast? with
        | none => []
        | some q => networks.map (detect q.clock)) ∧
    (options.outcome = .results → a.Announces (a.admitted.map fun q =>
      (q.millis + options.delay.toNat, .resultsAvailable q.iface))) ∧
    (options.outcome = .failure → a.Announces (a.admitted.map fun q =>
      (q.millis + options.delay.toNat, .scanFailed q.iface options.reason))) ∧
    (options.outcome = .silent → a.Announces []) ∧
    (options.outcome = .reject →
      (∀ q ∈ a.queries, q.status = options.reason) ∧
      (options.reason ≠ .succeeded → a.admitted = []) ∧
      a.Announces [] ∧ a.world.radio = { networks, options }) ∧
    (∀ iface request, (a.act (.scan iface request)).world.queue = a.world.queue) := by
  intro a
  by_cases hreject : options.outcome = .reject
  · have h : Refuses { networks, options } a :=
      refuses_foldl hreject (refuses_fresh networks options clock) acts
    have hnone : options.reason ≠ .succeeded → a.admitted = [] := fun hreason =>
      List.filter_eq_nil_iff.mpr fun q hq => by simp [h.answers q hq, hreason]
    have hquiet : a.Announces [] := ⟨[], h.events, by simp [h.notices]⟩
    refine ⟨fun hhonest => ?_, ?_, ?_, ?_, fun _ => ⟨h.answers, hnone, hquiet, h.same⟩,
      a.act_scan_queue⟩
    · rw [hnone (hhonest hreject), h.same]
      exact ⟨rfl, fun _ => rfl, rfl⟩
    all_goals simp [hreject]
  · have h : Admits networks options a :=
      admits_foldl hreject (admits_fresh networks options clock) acts
    rw [h.admitted_eq]
    refine ⟨fun _ => ⟨by rw [h.radio], ?_, h.detections_eq⟩, ?_, ?_, ?_,
      fun h' => (hreject h').elim, a.act_scan_queue⟩
    · intro hfits
      rw [h.radio]
      exact UInt64.toNat_ofNat_of_lt' hfits
    · intro houtcome
      have hannounces := h.announces
      rwa [promise?_results houtcome, List.filterMap_eq_map'] at hannounces
    · intro houtcome
      have hannounces := h.announces
      rwa [promise?_failure houtcome, List.filterMap_eq_map'] at hannounces
    · intro houtcome
      have hannounces := h.announces
      rwa [promise?_silent houtcome, List.filterMap_none] at hannounces

end Account

end WirelessScan.Replay

namespace WirelessScan.Sample

open Replay (Account)

/-- A request for one channel. -/
def narrow : Request where
  scanType := .lowLatency
  frequencies := .ofList [2412]
  hidden := []
  neighborReports := false
  vendorElements := none

/-- Two interfaces scan, the second one while the first still waits, and one notice arrives. -/
def relay : List Replay.Act :=
  [.scan "wlan0" narrow, .time 100 100000000, .scan "wlan1" narrow, .time 300 300000000,
    .arrival ⟨300, 1, .resultsAvailable "wlan0"⟩]

theorem relay_accounted :
    (relay.foldl Account.act (.fresh [] { outcome := .results } 0)).world.radio.issued = 2 ∧
      (relay.foldl Account.act (.fresh [] { outcome := .results } 0)).Announces
        [(300, .resultsAvailable "wlan0"), (400, .resultsAvailable "wlan1")] ∧
      (relay.foldl Account.act
        (.fresh [] { outcome := .reject, reason := .busy } 0)).admitted = [] := by
  have hadmits := Account.accounts_for_every_admitted_scan [] { outcome := .results } 0 relay
  have hrefuses :=
    Account.accounts_for_every_admitted_scan [] { outcome := .reject, reason := .busy } 0 relay
  refine ⟨?_, hadmits.2.1 rfl, ?_⟩
  · exact (hadmits.1 (fun h => by cases h)).1
  · exact (hrefuses.2.2.2.2.1 rfl).2.1 (by decide)

/-- A refusal that is answered with success is not counted among the admitted scans. -/
theorem relay_not_accounted :
    ¬ (relay.foldl Account.act
        (.fresh [] { outcome := .reject, reason := .succeeded } 0)).world.radio.issued =
      .ofNat (relay.foldl Account.act
        (.fresh [] { outcome := .reject, reason := .succeeded } 0)).admitted.length := by
  decide +kernel

end WirelessScan.Sample
