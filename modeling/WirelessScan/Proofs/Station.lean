import WirelessScan.Proofs.Operations
import WirelessScan.Registry

/-!
# Stations and their runs

A station is one registered scanner together with the world around it. A run of a station is any
sequence of moves: calls of the scanner, expiries of alarms, turns of the dispatch loop, and
whatever the radio and the clock do by themselves. Nothing is assumed about the order, and none of
the moves closes the queue or takes the scanner out of its registry.

`Step` says once what a move can do; `Station.step_perform` is the only place where the moves are
opened.
-/

namespace WirelessScan

variable {ρ : Type}

/-! ## Moves -/

/-- What happens around a scanner by itself. -/
inductive Happening (ρ : Type) where
  /-- The radio has results for some interface. -/
  | results (iface : String)
  /-- The radio gives up a scan of some interface. -/
  | failure (iface : String) (reason : Reason)
  /-- A notice arrives that the radio had announced. -/
  | arrival (notice : Notice)
  /-- The radio changes: its next answers, what it holds, anything. -/
  | radio (radio : ρ)
  /-- Time moves on the scale of the timers, and the clock reads whatever it reads. -/
  | time (millis : Nat) (nanos : UInt64)

/-- The world after a happening. Only an announced notice can arrive. -/
def World.happen (w : World ρ) : Happening ρ → World ρ
  | .results iface => w.post (.resultsAvailable iface)
  | .failure iface reason => w.post (.scanFailed iface reason)
  | .arrival n =>
    if n ∈ w.notices then
      { w with notices := w.notices.erase n, queue := w.queue.post n.event }
    else w
  | .radio radio => { w with radio }
  | .time millis nanos => { w with elapsed := millis, clock := nanos }

/-- A move of a station. -/
inductive Move (ρ : Type) where
  | single (settings : Option Settings) (handler : Option Handler)
  | background (settings : Option Settings) (handler : Option Handler)
  | stop (id : ScanId)
  /-- An alarm expires, if it is active. -/
  | fire (handle : TimerHandle)
  /-- The next event of the queue is dispatched, if there is one. -/
  | dispatch
  | outside (happening : Happening ρ)

namespace Move

/-- Whether a move is a call of the scanner. -/
def isCall : Move ρ → Bool
  | single .. => true
  | background .. => true
  | stop _ => true
  | _ => false

/-- The handler that a call hands over. -/
def handler? : Move ρ → Option Handler
  | single _ handler => handler
  | background _ handler => handler
  | _ => none

end Move

/-! ## Stations -/

/-- Whether a slot is armed for a handler. -/
def Slot.holds (slot : Slot) (handler : Handler) : Bool :=
  match slot with
  | armed scan => scan.handler = handler
  | _ => false

/-- A registered scanner and the world around it. -/
structure Station (ρ : Type) where
  scanner : Scanner
  world : World ρ

namespace Station

/-- The interface of the scanner. -/
def iface (now : Station ρ) : String := now.scanner.iface

/-- The registry, in which the scanner is the only one. -/
def registry (now : Station ρ) : Registry := Registry.register ∅ now.scanner

/-- The active configuration of an id. -/
def config? (now : Station ρ) (id : ScanId) : Option Periodic :=
  now.scanner.background.scans.find? id

/-- Whether the armed slot holds a handler. -/
def slotHolds (now : Station ρ) (handler : Handler) : Bool :=
  now.scanner.single.slot.holds handler

variable [Radio ρ]

/-- One turn of the dispatch loop. -/
def serve (now : Station ρ) : Station ρ :=
  match now.registry.dispatchNext? now.world with
  | none => now
  | some (_, registry, world) =>
    { scanner := (SortedMap.find? registry now.iface).getD now.scanner, world }

/-- The station after a move. -/
def perform (now : Station ρ) : Move ρ → Station ρ
  | .single settings handler =>
    let r := now.scanner.startSingle settings handler now.world
    { scanner := r.2.1, world := r.2.2 }
  | .background settings handler =>
    let r := now.scanner.startBackground settings handler now.world
    { scanner := r.2.1, world := r.2.2 }
  | .stop id =>
    let r := now.scanner.stopBackground id now.world
    { scanner := r.2.1, world := r.2.2 }
  | .fire handle => { now with world := now.world.expire handle }
  | .dispatch => now.serve
  | .outside happening => { now with world := now.world.happen happening }

/-- The handler of a single scan that the move starts, if the scanner accepts it. -/
def accepts (now : Station ρ) : Move ρ → Option Handler
  | .single settings handler =>
    if (now.scanner.startSingle settings handler now.world).1 then handler else none
  | _ => none

/-- The handler of a scan that the scanner refuses to start. -/
def refuses (now : Station ρ) : Move ρ → Option Handler
  | .single settings handler =>
    if (now.scanner.startSingle settings handler now.world).1 then none else handler
  | .background settings handler =>
    if (now.scanner.startBackground settings handler now.world).1.isSome then none else handler
  | _ => none

/-- The id that the move hands out to a configuration. -/
def answersId (now : Station ρ) : Move ρ → Option ScanId
  | .background settings handler =>
    (now.scanner.startBackground settings handler now.world).1
  | _ => none

end Station

/-! ## Steps -/

/-- What a move can do to a station: one case for each way an operation can go. -/
inductive Step [Radio ρ] (now : Station ρ) : Move ρ → Station ρ → Prop where
  | single {settings : Option Settings} {handler : Option Handler} {accepted : Bool}
      {single : Single} {world : World ρ}
      (hstarted : Single.Started now.scanner.setup now.scanner.single now.world settings handler
        (accepted, single, world)) :
      Step now (.single settings handler) ⟨{ now.scanner with single }, world⟩
  | background {settings : Option Settings} {handler : Option Handler} {id : Option ScanId}
      {background : Background} {world : World ρ}
      (hstarted : Background.Started now.scanner.setup now.scanner.background now.world settings
        handler (id, background, world))
      (hid : now.answersId (.background settings handler) = id) :
      Step now (.background settings handler) ⟨{ now.scanner with background }, world⟩
  | stopInactive {id : ScanId} (hfind : now.config? id = none) : Step now (.stop id) now
  | stopActive {id : ScanId} {p : Periodic} (hfind : now.config? id = some p) :
      Step now (.stop id)
        ⟨{ now.scanner with
            background := { now.scanner.background with
              scans := now.scanner.background.scans.erase id } },
          p.disarm now.world⟩
  | fireInactive {handle : TimerHandle} (hfind : now.world.timers.find? handle = none) :
      Step now (.fire handle) now
  | fire {a : Alarm} (hactive : a ∈ now.world.timers.active) :
      Step now (.fire a.handle)
        { now with
          world := { now.world with
            timers := now.world.timers.cancel a.handle
            queue := now.world.queue.post (.timerFired a.tag a.handle) } }
  | outside {happening : Happening ρ} :
      Step now (.outside happening) { now with world := now.world.happen happening }
  | idle (hqueue : now.world.queue.events = []) : Step now .dispatch now
  /-- The radio ends what waits for it. Results are only fetched if somebody waits. -/
  | finished {e : Ending} {rest : List Event} {single : Single} {world : World ρ}
      (hqueue : now.world.queue.events = e.event now.iface :: rest)
      (hraw : ∀ raw, e = .results raw → raw = Radio.detections now.world.radio now.iface ∧
        now.scanner.isWaiting = true)
      (hfinished : Single.Finished e now.scanner.single
        (e.fetched now.iface (now.world.withEvents rest)) (single, world)) :
      Step now .dispatch
        ⟨{ now.scanner with single, background := (now.scanner.background.finish e world).1 },
          (now.scanner.background.finish e world).2⟩
  /-- Results for which nobody waits. -/
  | unwanted {rest : List Event}
      (hqueue : now.world.queue.events = .resultsAvailable now.iface :: rest)
      (hwaiting : now.scanner.isWaiting = false) :
      Step now .dispatch { now with world := now.world.withEvents rest }
  | singleTimeout {handle : TimerHandle} {rest : List Event} {single : Single} {world : World ρ}
      (hqueue : now.world.queue.events =
        .timerFired (.singleTimeout now.iface) handle :: rest)
      (hexpired : Single.Expired now.scanner.single handle (now.world.withEvents rest)
        (single, world)) :
      Step now .dispatch ⟨{ now.scanner with single }, world⟩
  | period {id : ScanId} {handle : TimerHandle} {rest : List Event} {background : Background}
      {world : World ρ}
      (hqueue : now.world.queue.events = .timerFired (.period now.iface id) handle :: rest)
      (hticked : Background.Ticked now.scanner.setup now.scanner.background id handle
        (now.world.withEvents rest) (background, world)) :
      Step now .dispatch ⟨{ now.scanner with background }, world⟩
  | cycleTimeout {id : ScanId} {handle : TimerHandle} {rest : List Event}
      {background : Background} {world : World ρ}
      (hqueue : now.world.queue.events =
        .timerFired (.cycleTimeout now.iface id) handle :: rest)
      (hexpired : Background.Expired now.scanner.background id handle
        (now.world.withEvents rest) (background, world)) :
      Step now .dispatch ⟨{ now.scanner with background }, world⟩
  /-- A rejection reaches its handler, whatever interface it names. -/
  | rejection {iface : String} {handler : Handler} {reason : Reason} {rest : List Event}
      (hqueue : now.world.queue.events = .admissionRejected iface handler reason :: rest) :
      Step now .dispatch
        { now with
          world := (now.world.withEvents rest).notify handler (.requestFailed reason) }
  | cycleRejection {id : ScanId} {reason : Reason} {rest : List Event}
      (hqueue : now.world.queue.events = .cycleRejected now.iface id reason :: rest) :
      Step now .dispatch
        { now with
          world := now.scanner.background.rejectCycle id reason (now.world.withEvents rest) }
  /-- An event of another interface is dropped, unless it is a rejection. -/
  | foreign {e : Event} {rest : List Event} (hqueue : now.world.queue.events = e :: rest)
      (hiface : e.iface? ≠ some now.iface)
      (hother : ∀ iface handler reason, e ≠ .admissionRejected iface handler reason) :
      Step now .dispatch { now with world := now.world.withEvents rest }

namespace Station

variable [Radio ρ]

theorem serve_nil {now : Station ρ} (h : now.world.queue.events = []) : now.serve = now := by
  simp [serve, Registry.dispatchNext?, Queue.pop?, h]

/-- The registry hands an event of the interface to the scanner. -/
theorem serve_own {now : Station ρ} {e : Event} {rest : List Event}
    (hqueue : now.world.queue.events = e :: rest) (hiface : e.iface? = some now.iface) :
    now.serve =
      { scanner := (now.scanner.handle e (now.world.withEvents rest)).1
        world := (now.scanner.handle e (now.world.withEvents rest)).2 } := by
  have hfind : SortedMap.find? now.registry now.iface = some now.scanner := by
    simp [registry, Registry.register, iface]
  simp [serve, Registry.dispatchNext?, Queue.pop?, hqueue, Registry.dispatch, hiface, hfind,
    Surroundings.world, Surroundings.setWorld, World.withEvents]

/-- An event of no interface or of another one does not reach the scanner. A rejection still
reaches its handler. -/
theorem serve_foreign {now : Station ρ} {e : Event} {rest : List Event}
    (hqueue : now.world.queue.events = e :: rest) (hiface : e.iface? ≠ some now.iface) :
    now.serve =
      { now with
        world := match e with
          | .admissionRejected _ handler reason =>
            (now.world.withEvents rest).notify handler (.requestFailed reason)
          | _ => now.world.withEvents rest } := by
  have hself : SortedMap.find? now.registry now.iface = some now.scanner := by
    simp [registry, Registry.register, iface]
  have hfind : ∀ i, e.iface? = some i → SortedMap.find? now.registry i = none := by
    intro i hi
    have hne : i ≠ now.scanner.iface := fun h => hiface (by rw [hi, h]; rfl)
    simp only [registry, Registry.register, SortedMap.find?_insert, hne, if_false]
    rfl
  cases e with
  | shutdown =>
      simp [serve, Registry.dispatchNext?, Queue.pop?, hqueue, Registry.dispatch, Event.iface?,
        hself, World.withEvents]
  | _ =>
      simp [serve, Registry.dispatchNext?, Queue.pop?, hqueue, Registry.dispatch, Event.iface?,
        hfind _ rfl, hself, Surroundings.world, Surroundings.setWorld, World.withEvents]

theorem step_serve (now : Station ρ) : Step now .dispatch now.serve := by
  cases hqueue : now.world.queue.events with
  | nil => rw [serve_nil hqueue]; exact .idle hqueue
  | cons e rest =>
      by_cases hiface : e.iface? = some now.iface
      · rw [serve_own hqueue hiface]
        have hall : e.iface?.all (· = now.scanner.iface) = true := by
          rw [hiface]; simp [iface]
        unfold Scanner.handle
        rw [if_pos hall]
        cases e with
        | resultsAvailable i =>
            obtain rfl : i = now.iface := by simpa [Event.iface?] using hiface
            dsimp only
            rw [Scanner.handleResults_eq]
            split
            next hwaiting =>
              dsimp only
              rw [Background.complete_eq_finish]
              refine .finished (e := .results _) hqueue ?_ (Single.complete_finished _ _ _)
              intro raw h
              exact ⟨(Ending.results.inj h).symm, hwaiting⟩
            next hwaiting => exact .unwanted hqueue (by simpa using hwaiting)
        | scanFailed i reason =>
            obtain rfl : i = now.iface := by simpa [Event.iface?] using hiface
            dsimp only [Scanner.handleFailure]
            rw [Background.fail_eq_finish]
            exact .finished (e := .failure reason) hqueue (by simp) (Single.fail_finished _ _ _)
        | timerFired tag handle =>
            have htag : tag.iface = now.iface := by simpa [Event.iface?] using hiface
            cases tag with
            | singleTimeout i =>
                obtain rfl := htag
                exact .singleTimeout hqueue (Single.expire_expired _ _ _)
            | period i id =>
                obtain rfl := htag
                exact .period hqueue (Background.tick_ticked _ _ _ _ _)
            | cycleTimeout i id =>
                obtain rfl := htag
                exact .cycleTimeout hqueue (Background.expire_expired _ _ _ _)
        | admissionRejected i handler reason => exact .rejection hqueue
        | cycleRejected i id reason =>
            obtain rfl : i = now.iface := by simpa [Event.iface?] using hiface
            exact .cycleRejection hqueue
        | shutdown => simp [Event.iface?] at hiface
      · rw [serve_foreign hqueue hiface]
        cases e with
        | admissionRejected i handler reason => exact .rejection hqueue
        | _ => exact .foreign hqueue hiface (by simp)

theorem step_perform (now : Station ρ) (move : Move ρ) : Step now move (now.perform move) := by
  cases move with
  | single settings handler => exact .single (Single.start_started _ _ _ _ _)
  | background settings handler => exact .background (Background.start_started _ _ _ _ _) rfl
  | stop id =>
      simp only [perform, Scanner.stopBackground]
      cases hfind : now.scanner.background.scans.find? id with
      | none => rw [Background.stop_inactive hfind]; exact .stopInactive hfind
      | some p => rw [Background.stop_active hfind]; exact .stopActive hfind
  | fire handle =>
      simp only [perform, World.expire, Timers.expire?]
      cases hfind : now.world.timers.find? handle with
      | none => exact .fireInactive hfind
      | some a =>
          obtain rfl : a.handle = handle := by
            simpa using List.find?_some (p := fun a : Alarm => a.handle = handle) hfind
          exact .fire (List.mem_of_find?_eq_some hfind)
  | dispatch => exact now.step_serve
  | outside happening => exact .outside

end Station

/-! ## Runs -/

/-- What has happened to a station since its beginning, the latest move last. -/
inductive Run (ρ : Type) where
  /-- A new scanner over any radio and any reading of the clock. -/
  | begin (setup : Setup) (radio : ρ) (clock : UInt64)
  | extend (run : Run ρ) (move : Move ρ)

namespace Run

variable [Radio ρ]

/-- The station at the end of a run. -/
def now : Run ρ → Station ρ
  | begin setup radio clock => { scanner := { setup }, world := { radio, clock } }
  | extend run move => run.now.perform move

/-- What the moves of a run show to an observer, in order. -/
def collect {α : Type} (f : Station ρ → Move ρ → Option α) : Run ρ → List α
  | begin .. => []
  | extend run move => run.collect f ++ (f run.now move).toList

/-- The sum of a quantity over the moves of a run. -/
def total (f : Station ρ → Move ρ → Nat) : Run ρ → Nat
  | begin .. => 0
  | extend run move => run.total f + f run.now move

/-- The handlers that calls have handed over so far. Callers hand over a new one each time. -/
def handlers (run : Run ρ) : List Handler :=
  run.collect fun _ move => move.handler?

/-- The handlers of the single scans that were accepted. -/
def accepted (run : Run ρ) : List Handler :=
  run.collect Station.accepts

/-- The handlers of the scans that were refused. -/
def refused (run : Run ρ) : List Handler :=
  run.collect Station.refuses

/-- The ids that were handed out to configurations. -/
def ids (run : Run ρ) : List ScanId :=
  run.collect Station.answersId

theorem handlers_extend (run : Run ρ) (move : Move ρ) :
    (run.extend move).handlers = run.handlers ++ move.handler?.toList := rfl

end Run

/-! ## A small station -/

namespace Sample

/-- The scanner of an interface with two channels. -/
def setup : Setup where
  iface := "wlan0"
  table := .ofEntries [] [(1, 2412), (6, 2437)]

/-- A radio without networks that answers in one way. -/
def radio (outcome : Replay.Outcome) : Replay where
  networks := []
  options := { outcome }

/-- Settings that scan one channel often and the other one seldom. -/
def settings : Settings where
  basePeriod := 1000
  buckets :=
    [{ period := 1000, flags := .afterEachScan, target := .channels [1] },
      { period := 2000, flags := .noBatch, target := .channels [6] }]

/-- The handlers, by number. -/
def handler (serial : Nat) : Handler := ⟨"sample", serial⟩

/-- The run that begins with a radio that never reports and goes on with some moves. -/
def run (moves : List (Move Replay)) : Run Replay :=
  moves.foldl .extend (.begin setup (radio .silent) 0)

end Sample

end WirelessScan
