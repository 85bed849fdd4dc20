import WirelessScan.Proofs.Refusal
import WirelessScan.Proofs.Stored
import WirelessScan.Proofs.Waiting

/-!
# Every admission call is faithful

A request reaches the radio on two paths: a single scan asks for all buckets of its settings when it
is started, and a cycle asks for the buckets that are due, in the start of its configuration or many
ticks later, from the settings that the configuration stored. Whichever path it takes, the request
says what the settings say, for the buckets concerned and no others.

A move makes one admission call at most. It makes none if it is a start that comes to nothing, or if
the request that it would replace still waits.
-/

namespace WirelessScan

variable {ρ : Type}

/-! ## Calls -/

/-- The admission call that an entry records: the interface, the request and the answer. -/
def Entry.call? : Entry → Option (String × Request × Reason)
  | admission iface request status => some (iface, request, status)
  | _ => none

/-- The admission calls made so far, in order. -/
def World.calls (w : World ρ) : List (String × Request × Reason) :=
  w.log.filterMap Entry.call?

theorem World.calls_eq (w : World ρ) : w.calls = w.contact.askings.filterMap Entry.call? := by
  rw [contact, List.filterMap_filter]
  unfold calls
  congr 1
  funext entry
  cases entry <;> rfl

/-- A request says what some settings say for some of their buckets. -/
structure Request.Faithful (request : Request) (setup : Setup) (settings : Settings)
    (buckets : List Bucket) : Prop where
  nonempty : request.frequencies.toList ≠ []
  nodup : request.frequencies.toList.Nodup
  known : ∀ b ∈ buckets, ∃ fs, setup.table.targetFrequencies b.target = .ok fs
  union : ∀ f, f ∈ request.frequencies.toList ↔
    ∃ b ∈ buckets, ∃ fs, setup.table.targetFrequencies b.target = .ok fs ∧ f ∈ fs
  hidden : request.hidden = settings.hidden.take (min settings.hidden.length setup.capacity)
  scanType : request.scanType = settings.scanType
  neighborReports : request.neighborReports = settings.neighborReports
  vendorElements : request.vendorElements = settings.vendorElements

theorem Setup.resolve_faithful {setup : Setup} {settings : Settings} {buckets : List Bucket}
    {request : Request} (h : setup.resolve settings buckets = .ok request) :
    request.Faithful setup settings buckets := by
  obtain ⟨hfrequencies, hsome⟩ := resolve_ok h
  have hparameters : request =
      { scanType := settings.scanType, frequencies := request.frequencies
        hidden := hiddenWithin setup.capacity settings.hidden
        neighborReports := settings.neighborReports
        vendorElements := settings.vendorElements } := by
    simp only [resolve, Request.resolve, hfrequencies, bind, Except.bind, hsome] at h
    exact (Except.ok.inj h).symm
  have hhidden : request.hidden = settings.hidden.take setup.capacity :=
    congrArg Request.hidden hparameters
  refine ⟨?_, ?_, ChannelTable.known_of_resolve hfrequencies, ChannelTable.mem_resolve hfrequencies,
    ?_, congrArg Request.scanType hparameters, congrArg Request.neighborReports hparameters,
    congrArg Request.vendorElements hparameters⟩
  · simpa [FrequencySet.isEmpty] using hsome
  · exact request.frequencies.sorted.imp UInt32.ne_of_lt
  · rw [hhidden, Nat.min_comm]
    exact List.take_eq_take_min

/-! ## Occasions -/

namespace Station

variable [Radio ρ]

/-- When a move can make an admission call: for which settings, and for which of their buckets. -/
inductive Occasion (now : Station ρ) (move : Move ρ) :
    Place → Settings → List Bucket → Prop where
  /-- A single scan starts in an idle slot: all buckets. -/
  | single {settings : Settings} {handler : Handler}
      (hmove : move = .single (some settings) (some handler))
      (hidle : now.scanner.single.slot = .idle) :
      Occasion now move .single settings settings.buckets
  /-- A configuration starts with its first cycle: the buckets that are due in cycle 0. -/
  | first {id : ScanId} {settings : Settings} {handler : Handler} {request : Request}
      (hmove : move = .background (some settings) (some handler))
      (hanswer : now.answersId move = some id)
      (hresolve : now.scanner.setup.resolve settings settings.buckets = .ok request) :
      Occasion now move (.cycle id) settings ((settings.dueBuckets 0).map Prod.fst)
  /-- The period timer of a configuration without a pending cycle ticks: the buckets that are due
  in its next cycle. -/
  | tick {id : ScanId} {p : Periodic}
      (hturn : now.turn? move = some (.timerFired (.period now.iface id) p.periodTimer))
      (hfind : now.config? id = some p) (hidle : p.pending = none) :
      Occasion now move (.cycle id) p.settings ((p.settings.dueBuckets p.cycle).map Prod.fst)

/-- A start or a tick that makes no admission call. -/
inductive Barred (now : Station ρ) : Move ρ → Prop where
  | refusedSingle {settings : Option Settings} {handler : Option Handler}
      (hrefused : (now.scanner.startSingle settings handler now.world).1 = false) :
      Barred now (.single settings handler)
  | refusedBackground {settings : Option Settings} {handler : Option Handler}
      (hrefused : now.answersId (.background settings handler) = none) :
      Barred now (.background settings handler)
  | unresolvedSingle {settings : Settings} {handler : Option Handler} {error : ScanError}
      (hresolve : now.scanner.setup.resolve settings settings.buckets = .error error) :
      Barred now (.single (some settings) handler)
  | unresolvedBackground {settings : Settings} {handler : Option Handler} {error : ScanError}
      (hresolve : now.scanner.setup.resolve settings settings.buckets = .error error) :
      Barred now (.background (some settings) handler)
  | armed {settings : Option Settings} {handler : Option Handler} {scan : InFlight}
      (hslot : now.scanner.single.slot = .armed scan) : Barred now (.single settings handler)
  | pending {move : Move ρ} {id : ScanId} {handle : TimerHandle} {p : Periodic} {c : Cycle}
      (hturn : now.turn? move = some (.timerFired (.period now.iface id) handle))
      (hfind : now.config? id = some p) (hpending : p.pending = some c) : Barred now move

variable {now : Station ρ} {move : Move ρ} {place : Place}

theorem cycleAt_eq_some {id : ScanId} {p : Periodic} (h : now.cycleAt move id = some p) :
    (∃ settings handler request, move = .background (some settings) (some handler) ∧
      now.answersId move = some id ∧
      now.scanner.setup.resolve settings settings.buckets = .ok request ∧
      p = { settings, handler, periodTimer := now.world.timers.next }) ∨
    (now.turn? move = some (.timerFired (.period now.iface id) p.periodTimer) ∧
      now.config? id = some p) := by
  unfold cycleAt at h
  split at h
  next settings handler =>
    split at h
    next hstarts =>
      left
      obtain ⟨hanswer, hok⟩ := hstarts
      cases hresolve : now.scanner.setup.resolve settings settings.buckets with
      | error error => simp [hresolve, Except.isOk, Except.toBool] at hok
      | ok request =>
          exact ⟨settings, handler, request, rfl, hanswer, hresolve, (Option.some.inj h).symm⟩
    next => cases h
  next =>
    split at h
    next iface other handle hturn =>
      split at h
      next hown =>
        right
        obtain ⟨rfl, rfl⟩ := hown
        obtain ⟨hfind, hhandle⟩ := Option.filter_eq_some_iff.mp h
        obtain rfl : p.periodTimer = handle := by simpa using hhandle
        exact ⟨hturn, hfind⟩
      next => cases h
    next => cases h
  next => cases h

theorem errand?_occasion {errand : Errand} (h : now.errand? move place = some errand) :
    now.Occasion move place errand.settings errand.buckets := by
  cases place with
  | single =>
      simp only [errand?] at h
      split at h
      next =>
        split at h
        next hidle =>
          obtain rfl := Option.some.inj h
          exact .single rfl hidle
        next => cases h
      next => cases h
  | cycle id =>
      obtain ⟨p, hcycle, herrand⟩ := Option.bind_eq_some_iff.mp h
      unfold Periodic.errand? at herrand
      split at herrand
      next hidle =>
        obtain rfl := Option.some.inj herrand
        rcases cycleAt_eq_some hcycle with
          ⟨settings, handler, request, hmove, hanswer, hresolve, rfl⟩ | ⟨hturn, hfind⟩
        · exact .first hmove hanswer hresolve
        · exact .tick hturn hfind hidle
      next => cases herrand

theorem Asks.not_barred {errand : Errand} {request : Request}
    (h : now.Asks move place errand request) : ¬ now.Barred move := by
  obtain ⟨hruns, hresolves⟩ := h
  -- Whatever bars a move contradicts a hypothesis of its occasion.
  have hoccasion := errand?_occasion hruns
  generalize errand.settings = settings, errand.buckets = buckets at hoccasion hresolves
  intro hbarred
  cases hoccasion with
  | single hmove hidle =>
      subst hmove
      cases hbarred with
      | refusedSingle hrefused => simp [Scanner.startSingle_refused_iff, hidle] at hrefused
      | unresolvedSingle hresolve => simp [hresolve] at hresolves
      | armed hslot => simp [hidle] at hslot
      | pending hturn => cases hturn
  | first hmove hanswer hresolve =>
      subst hmove
      cases hbarred with
      | refusedBackground hrefused => simp [hrefused] at hanswer
      | unresolvedBackground hunresolved => simp [hunresolved] at hresolve
      | pending hturn => cases hturn
  | tick hturn hfind hidle =>
      cases hbarred with
      | pending hturn' hfind' hpending =>
          obtain ⟨rfl, -⟩ : _ = _ ∧ _ := by simpa using hturn.symm.trans hturn'
          obtain rfl := Option.some.inj (hfind.symm.trans hfind')
          simp [hidle] at hpending
      | _ => cases hturn

end Station

/-! ## Every run -/

/-- The settings of the latest start that activated a configuration under an id. -/
def Run.startedWith [Radio ρ] (id : ScanId) : Run ρ → Option Settings
  | begin .. => none
  | extend run move =>
    (if move.isCall then (run.now.cycleAt move id).map (·.settings) else none).or
      (run.startedWith id)

section Runs

variable [Radio ρ]

namespace Step

variable {now next : Station ρ} {move : Move ρ}

/-- A move makes one admission call at most, for the request that it asks for. -/
theorem calls (hstep : Step now move next) : next.world.calls = now.world.calls ∨
    ∃ place errand request status, now.Asks move place errand request ∧
      next.world.calls = now.world.calls ++ [(now.iface, request, status)] := by
  by_cases houtside : ∃ happening, move = .outside happening
  · obtain ⟨happening, rfl⟩ := houtside
    cases hstep with
    | outside => exact .inl (by rw [World.calls, World.happen_log]; rfl)
  · have hcontact := hstep.contact fun happening hmove => houtside ⟨happening, hmove⟩
    simp only [World.calls_eq]
    rcases hcontact with hsame | ⟨place, errand, request, hasks, hasked⟩
    · exact .inl (by rw [hsame])
    · refine .inr ⟨place, errand, request, now.world.answer now.iface request, hasks, ?_⟩
      rw [hasked, Contact.asked, List.filterMap_append]
      rfl

end Step

namespace Run

variable (run : Run ρ)

theorem startedWith_of_not_call {move : Move ρ} {id : ScanId}
    (hcall : move.isCall = true → run.now.cycleAt move id = none) :
    (run.extend move).startedWith id = run.startedWith id := by
  cases hkind : move.isCall with
  | true => simp [startedWith, hcall hkind]
  | false => simp [startedWith, hkind]

/-- An active configuration has the settings that it was started with. -/
theorem startedWith_of_config {id : ScanId} {p : Periodic} (hfind : run.now.config? id = some p) :
    run.startedWith id = some p.settings := by
  induction run generalizing p with
  | begin setup radio clock => cases hfind
  | extend run move ih =>
      -- A cycle keeps the settings, so only a start of the id has to be looked at.
      cases (run.now.step_perform move).origin hfind with
      | begun hmove hcycle hran =>
          simp [startedWith, hmove ▸ hcycle, hmove, Move.isCall, hran.settings]
      | ticked hmove hnow _ hran =>
          rw [run.startedWith_of_not_call (by simp [hmove, Move.isCall]), hran.settings]
          refine (ih hnow).trans ?_
          rfl
      | ended hmove hnow =>
          rw [run.startedWith_of_not_call (by simp [hmove, Move.isCall]),
            Periodic.ended_settings]
          exact ih hnow
      | kept hcall hnow => rw [run.startedWith_of_not_call hcall, ih hnow]

/-- A move of a run calls the radio for a request: on an occasion, for the settings that the
request was started with, and faithfully. -/
structure Calls (move : Move ρ) (iface : String) (request : Request) (place : Place)
    (settings : Settings) (buckets : List Bucket) : Prop where
  iface : iface = run.now.iface
  occasion : run.now.Occasion move place settings buckets
  started : ∀ id, place = .cycle id → (run.extend move).startedWith id = some settings
  faithful : request.Faithful run.now.scanner.setup settings buckets

theorem calls_of_asks {move : Move ρ} {place : Place} {errand : Errand} {request : Request}
    (h : run.now.Asks move place errand request) :
    run.Calls move run.now.iface request place errand.settings errand.buckets := by
  have hoccasion := Station.errand?_occasion h.runs
  refine ⟨rfl, hoccasion, ?_, Setup.resolve_faithful h.resolves⟩
  intro id hplace
  generalize errand.settings = settings, errand.buckets = buckets at hoccasion
  cases hoccasion with
  | single => cases hplace
  | first hmove hanswer hresolve =>
      obtain rfl := Place.cycle.inj hplace
      subst hmove
      simp [startedWith, Station.cycleAt_activated hanswer hresolve, Move.isCall]
  | tick hturn hfind =>
      obtain rfl := Place.cycle.inj hplace
      have hmove := (Station.turn?_eq_some hturn).1
      rw [run.startedWith_of_not_call (by simp [hmove, Move.isCall])]
      exact run.startedWith_of_config hfind

theorem call_origin {move : Move ρ} {iface : String} {request : Request} {status : Reason}
    (h : (iface, request, status) ∈ (run.extend move).now.world.calls) :
    (iface, request, status) ∈ run.now.world.calls ∨
      ∃ place settings buckets, run.Calls move iface request place settings buckets := by
  rcases (run.now.step_perform move).calls with
    hsame | ⟨place, errand, asked, answer, hasks, hadded⟩
  · exact .inl (hsame ▸ h)
  · rw [now, hadded, List.mem_append, List.mem_singleton] at h
    refine h.imp_right fun hnew => ?_
    obtain ⟨rfl, rfl, -⟩ : iface = run.now.iface ∧ request = asked ∧ status = answer := by
      simpa using hnew
    exact ⟨place, _, _, run.calls_of_asks hasks⟩

/-- Every admission call of a run was made by one of its moves, for a request that is faithful to
the settings it was started with. A move makes one call at most, and a barred move makes none. -/
theorem admission_calls_are_faithful :
    (∀ iface request status, (iface, request, status) ∈ run.now.world.calls →
      ∃ (earlier : Run ρ) (move : Move ρ) (moves : List (Move ρ)) (place : Place)
        (settings : Settings) (buckets : List Bucket),
        run = moves.foldl extend (earlier.extend move) ∧
        earlier.Calls move iface request place settings buckets) ∧
    ∀ move, ∃ calls, (run.extend move).now.world.calls = run.now.world.calls ++ calls ∧
      calls.length ≤ 1 ∧
      (∀ iface request status, (iface, request, status) ∈ calls →
        ∃ place settings buckets, run.Calls move iface request place settings buckets) ∧
      (run.now.Barred move → calls = []) := by
  refine ⟨?_, ?_⟩
  · induction run with
    | begin setup radio clock =>
        intro iface request status hcall
        cases hcall
    | extend run move ih =>
        intro iface request status hcall
        rcases run.call_origin hcall with hold | ⟨place, settings, buckets, hcalls⟩
        · obtain ⟨earlier, first, moves, place, settings, buckets, hrun, hcalls⟩ := ih _ _ _ hold
          refine ⟨earlier, first, moves ++ [move], place, settings, buckets, ?_, hcalls⟩
          rw [List.foldl_append, ← hrun]
          rfl
        · exact ⟨run, move, [], place, settings, buckets, rfl, hcalls⟩
  · intro move
    rcases (run.now.step_perform move).calls with
      hsame | ⟨place, errand, asked, answer, hasks, hadded⟩
    · exact ⟨[], by rw [List.append_nil]; exact hsame, by simp, by simp, fun _ => rfl⟩
    · refine ⟨_, hadded, Nat.le_refl 1, ?_, fun hbarred => absurd hbarred hasks.not_barred⟩
      intro iface request status hcall
      obtain ⟨rfl, rfl, -⟩ : iface = run.now.iface ∧ request = asked ∧ status = answer := by
        simpa using hcall
      exact ⟨place, _, _, run.calls_of_asks hasks⟩

end Run

end Runs

namespace Sample

/-- The first cycle of a configuration asks for both channels, the second one for the channel that
is scanned often, and a single scan for both again. -/
example :
    let asked := run
      [.background (some settings) (some (handler 1)), .outside (.results "wlan0"), .dispatch,
        .fire 1, .dispatch, .single (some settings) (some (handler 2))]
    asked.now.world.calls.map (fun call => (call.1, call.2.1.frequencies.toList)) =
      [("wlan0", [2412, 2437]), ("wlan0", [2412]), ("wlan0", [2412, 2437])] := by
  decide +kernel

end Sample

end WirelessScan
