import WirelessScan.Registry
import WirelessScan.Replay

/-!
# Playbacks

A playback tries out one scanner over the replay radio, on a time that moves only when a step says
so. While time moves, every event is handled at the moment it arrives, and what is already queued
comes first.
-/

namespace WirelessScan.Bench

/-- One step of a playback. -/
inductive PlaybackStep where
  | single (settings : Option Settings) (handler : Option String)
  | background (settings : Option Settings) (handler : Option String)
  | stop (id : ScanId)
  | latestSingle
  | latestBackground (id : ScanId)
  /-- What the radio holds. -/
  | detections
  /-- Calls the radio around the scanner. -/
  | radioScan (iface : String) (scanType : ScanType) (frequencies : List UInt32)
  | closeQueue
  | advance (millis : Nat)

/-- What a step answers. -/
inductive PlaybackAnswer where
  | nothing
  | flag (value : Bool)
  | id (id : Option ScanId)
  | results (results : Option ResultSet)
  | detections (detections : List Detection)
  | reason (reason : Reason)

/-- An event that was handled, and what was done meanwhile. -/
structure Turn where
  millis : Nat
  event : Event
  log : List Entry

/-- The report of a step. -/
structure PlaybackReport where
  answer : PlaybackAnswer
  millis : Nat
  /-- What the call of the step did: alarms and callbacks. -/
  log : List Entry
  turns : List Turn
  phase : Phase
  backgroundCount : Nat
  /-- The number of scans that the radio admitted. -/
  issued : UInt64
  /-- The number of active alarms. -/
  pending : Nat

/-- The state of a playback. The registry holds the one scanner. -/
structure Playback where
  iface : String
  registry : Registry
  world : World Replay
  /-- The number of handlers made so far. -/
  handlers : Nat := 0

namespace Playback

/-- A playback at its beginning. -/
def begin (setup : Setup) (networks : List Replay.Network) (options : Replay.Options)
    (clock : UInt64) : Playback where
  iface := setup.iface
  registry := Registry.register ∅ { setup }
  world := { radio := { networks, options }, clock }

/-- The scanner. -/
def scanner? (p : Playback) : Option Scanner :=
  SortedMap.find? p.registry p.iface

/-- Makes the handler of a step. -/
def makeHandler (p : Playback) (name : Option String) : Option Handler × Playback :=
  match name with
  | none => (none, p)
  | some name =>
    (some { name, serial := p.handlers }, { p with handlers := p.handlers + 1 })

/-- Runs an operation of the scanner. -/
def withScanner (p : Playback)
    (f : Scanner → World Replay → PlaybackAnswer × Scanner × World Replay) :
    PlaybackAnswer × Playback :=
  match p.scanner? with
  | none => (.nothing, p)
  | some scanner =>
    let (answer, scanner, world) := f scanner p.world
    (answer, { p with registry := p.registry.register scanner, world })

/-- Whether an entry of the log belongs into a report. -/
def isReported : Entry → Bool
  | .schedule .. | .cancel _ | .callback .. => true
  | _ => false

/-- Handles the next event, if there is one. -/
def turn? (p : Playback) : Option (Turn × Playback) :=
  match p.registry.dispatchNext? { p.world with log := [] } with
  | none => none
  | some (event, registry, world) =>
    some (⟨world.elapsed, event, world.log.filter isReported⟩, { p with registry, world })

/-- Lets time pass until a target: handles what is queued, then waits for what is due next, for at
most `limit` of these. -/
def advance (target : Nat) : (limit : Nat) → Playback → List Turn × Playback
  | 0, p => ([], p)
  | limit + 1, p =>
    match p.turn? with
    | some (turn, p) =>
      let (turns, p) := advance target limit p
      (turn :: turns, p)
    | none =>
      let done := ([], { p with world := p.world.waitUntil target })
      match p.world.nextDue? with
      | none => done
      | some d =>
        if d.millis ≤ target then advance target limit { p with world := p.world.meet d }
        else done

/-- A number of turns and waits after which a target is reached. A configuration ticks at most once
in a millisecond, and a tick brings about its own event, a watchdog and an outcome. -/
def advanceLimit (p : Playback) (millis : Nat) : Nat :=
  let configurations := p.registry.values.foldl (fun n s => n + s.background.count) 0
  let ahead := p.world.queue.events.length + p.world.timers.pending + p.world.notices.length
  2 * (ahead + 3 * configurations * (millis + 1)) + 1

/-- The answer and the effect of a step, and the events that were handled. -/
def perform (p : Playback) : PlaybackStep → PlaybackAnswer × List Turn × Playback
  | .single settings name =>
    let (handler, p) := p.makeHandler name
    let (answer, p) := p.withScanner fun scanner w =>
      let (accepted, scanner, w) := scanner.startSingle settings handler w
      (.flag accepted, scanner, w)
    (answer, [], p)
  | .background settings name =>
    let (handler, p) := p.makeHandler name
    let (answer, p) := p.withScanner fun scanner w =>
      let (id, scanner, w) := scanner.startBackground settings handler w
      (.id id, scanner, w)
    (answer, [], p)
  | .stop id =>
    let (answer, p) := p.withScanner fun scanner w =>
      let (found, scanner, w) := scanner.stopBackground id w
      (.flag found, scanner, w)
    (answer, [], p)
  | .latestSingle => (.results (p.scanner?.map (·.single.latest)), [], p)
  | .latestBackground id => (.results (p.scanner?.bind (·.background.latest? id)), [], p)
  | .detections => (.detections p.world.radio.detections, [], p)
  | .radioScan iface scanType frequencies =>
    let request : Request :=
      { scanType
        frequencies := .ofList frequencies
        hidden := []
        neighborReports := false
        vendorElements := none }
    let (reason, world) := p.world.issue iface request
    (.reason reason, [], { p with world })
  | .closeQueue => (.nothing, [], { p with world := { p.world with queue := p.world.queue.close } })
  | .advance millis =>
    let (turns, p) := advance (p.world.elapsed + millis) (p.advanceLimit millis) p
    (.nothing, turns, { p with world := { p.world with log := [] } })

/-- Performs a step and reports it. -/
def step (p : Playback) (s : PlaybackStep) : PlaybackReport × Playback :=
  let (answer, turns, p) := { p with world := { p.world with log := [] } }.perform s
  ({ answer
     millis := p.world.elapsed
     log := p.world.log.filter isReported
     turns
     phase := (p.scanner?.map (·.single.phase)).getD .idle
     backgroundCount := (p.scanner?.map (·.background.count)).getD 0
     issued := p.world.radio.issued
     pending := p.world.timers.pending }, p)

/-- Performs steps in order and reports each. -/
def steps : Playback → List PlaybackStep → List PlaybackReport
  | _, [] => []
  | p, s :: rest =>
    let (report, p) := p.step s
    report :: steps p rest

end Playback

end WirelessScan.Bench
