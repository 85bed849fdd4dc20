import WirelessScan.Bench.Script
import WirelessScan.Registry

/-!
# Sessions

A session tries out scanners over the scripted radio, one step at a time: steps register and remove
scanners, start and stop scans, script the radio, move the clock, let alarms expire, and serve the
queue. The report of a step says what it answered, what was done to the surroundings of the scanners
meanwhile, and what the scanners and timers look like afterwards.
-/

namespace WirelessScan.Bench

/-- One step of a session. -/
inductive Step where
  /-- Registers a new scanner. -/
  | insert (setup : Setup)
  /-- Removes a scanner, which is kept aside. -/
  | remove (iface : String)
  /-- Registers a scanner that was kept aside. -/
  | reinsert (iface : String)
  | single (iface : String) (settings : Option Settings) (handler : Option String)
  /-- Starts a periodic scan and answers whether it was accepted. -/
  | batched (iface : String) (settings : Option Settings) (handler : Option String)
  /-- Starts a periodic scan and answers its id. -/
  | background (iface : String) (settings : Option Settings) (handler : Option String)
  | stop (iface : String) (id : ScanId)
  | latestSingle (iface : String)
  | latestBackground (iface : String) (id : ScanId)
  | setStatus (iface : String) (status : Reason)
  | setDetections (iface : String) (detections : List Detection)
  | setAdmission (iface : String) (nanos : UInt64) (posted : List ScriptedEvent)
  | setClock (nanos : UInt64)
  | post (event : ScriptedEvent)
  /-- Lets the first active alarm of a tag expire. -/
  | fire (tag : TimerTag)
  /-- Lets an active alarm expire, counted from 0 and around the end. -/
  | fireNth (n : Nat)
  /-- Handles everything queued. -/
  | dispatch
  /-- Handles the next event. -/
  | dispatchOne
  /-- Hands an event to a scanner, around the queue. -/
  | handle (iface : String) (event : ScriptedEvent)
  /-- Queues a shutdown and serves the queue until the first shutdown. -/
  | run
  | closeHandler (name : String)
  | closeQueue

/-- What a step answers. -/
inductive Answer where
  | nothing
  | error (error : ScanError)
  | queueClosed
  | flag (value : Bool)
  | count (value : Nat)
  | replaced (iface : Option String)
  | id (id : Option ScanId)
  | results (results : Option ResultSet)
  | handle (handle : Option TimerHandle)
  | alarm (alarm : Option Alarm)
  | event (event : Option Event)

/-- What is visible of a registered scanner. -/
structure Status where
  iface : String
  phase : Phase
  inFlight : Bool
  backgroundCount : Nat
deriving DecidableEq, Repr

/-- The report of a step. -/
structure Report where
  answer : Answer
  /-- What was done to the surroundings, in order. Readings of the clock are left out, and so are
  callbacks that nobody listened to. -/
  trace : List Entry
  scanners : List Status
  /-- The active alarms in the order of scheduling. -/
  alarms : List Alarm

/-- The state of a session. -/
structure Session where
  registry : Registry := ∅
  /-- Scanners that were removed. -/
  aside : Registry := ∅
  world : World Script

namespace Session

/-- A session without scanners, at a reading of the clock. -/
def begin (clock : UInt64) : Session where
  world := { radio := {}, clock }

/-- Makes the handler of a step. -/
def makeHandler (w : World Script) (name : Option String) : Option Handler × World Script :=
  match name with
  | none => (none, w)
  | some name =>
    let (handler, listeners) := w.radio.listeners.make name
    (some handler, { w with radio := { w.radio with listeners } })

/-- Makes the event of a step. -/
def makeEvent (w : World Script) (e : ScriptedEvent) : Event × World Script :=
  let (event, listeners) := e.toEvent w.radio.listeners
  (event, { w with radio := { w.radio with listeners } })

/-- Runs an operation of the scanner of an interface, or answers that there is none. -/
def withScanner (s : Session) (iface : String)
    (f : Scanner → World Script → Answer × Scanner × World Script) : Answer × Session :=
  match s.registry.get iface with
  | .error e => (.error e, s)
  | .ok scanner =>
    let (answer, scanner, world) := f scanner s.world
    (answer, { s with registry := s.registry.register scanner, world })

/-- Changes the script of an interface. -/
def script (s : Session) (iface : String) (f : Cue → Cue) : Answer × Session :=
  (.nothing, { s with world := { s.world with radio := s.world.radio.modify iface f } })

/-- A number of events after which nothing can be queued any more. A scanner only calls the radio
while it handles the expiry of a period timer that it waits for, each expiry counts once, and a call
puts the events of one cue on the queue. -/
def dispatchLimit (w : World Script) : Nat :=
  let posted := w.radio.cues.values.foldl (fun n c => n + c.posted.length) 0
  let queued := w.queue.events.length
  queued + (queued + posted) * posted

/-- The answer and the effect of a step. -/
def perform (s : Session) : Step → Answer × Session
  | .insert setup =>
    let replaced := SortedMap.find? s.registry setup.iface
    (.replaced (replaced.map (·.iface)), { s with registry := s.registry.register { setup } })
  | .remove iface =>
    match SortedMap.find? s.registry iface with
    | none => (.flag false, s)
    | some scanner =>
      (.flag true,
        { s with registry := s.registry.erase iface, aside := s.aside.register scanner })
  | .reinsert iface =>
    match SortedMap.find? s.aside iface with
    | none => (.flag false, s)
    | some scanner =>
      (.flag true,
        { s with registry := s.registry.register scanner, aside := s.aside.erase iface })
  | .single iface settings name => s.withScanner iface fun scanner w =>
    let (handler, w) := makeHandler w name
    let (accepted, scanner, w) := scanner.startSingle settings handler w
    (.flag accepted, scanner, w)
  | .batched iface settings name => s.withScanner iface fun scanner w =>
    let (handler, w) := makeHandler w name
    let (id, scanner, w) := scanner.startBackground settings handler w
    (.flag id.isSome, scanner, w)
  | .background iface settings name => s.withScanner iface fun scanner w =>
    let (handler, w) := makeHandler w name
    let (id, scanner, w) := scanner.startBackground settings handler w
    (.id id, scanner, w)
  | .stop iface id => s.withScanner iface fun scanner w =>
    let (found, scanner, w) := scanner.stopBackground id w
    (.flag found, scanner, w)
  | .latestSingle iface => s.withScanner iface fun scanner w =>
    (.results (some scanner.single.latest), scanner, w)
  | .latestBackground iface id => s.withScanner iface fun scanner w =>
    (.results (scanner.background.latest? id), scanner, w)
  | .setStatus iface status => s.script iface fun c => { c with status }
  | .setDetections iface detections => s.script iface fun c => { c with detections }
  | .setAdmission iface nanos posted => s.script iface fun c => { c with nanos, posted }
  | .setClock clock => (.nothing, { s with world := { s.world with clock } })
  | .post e =>
    let (event, world) := makeEvent s.world e
    (.flag world.queue.isOpen, { s with world := world.post event })
  | .fire tag =>
    match s.world.timers.active.find? (·.tag = tag) with
    | none => (.handle none, s)
    | some a => (.handle (some a.handle), { s with world := s.world.expire a.handle })
  | .fireNth n =>
    match s.world.timers.active[n % s.world.timers.active.length]? with
    | none => (.alarm none, s)
    | some a => (.alarm (some a), { s with world := s.world.expire a.handle })
  | .dispatch =>
    if s.world.queue.isOpen then
      let (count, registry, world) :=
        s.registry.dispatchPending (dispatchLimit s.world) s.world
      (.count count, { s with registry, world })
    else (.queueClosed, s)
  | .dispatchOne =>
    if s.world.queue.isOpen then
      match s.registry.dispatchNext? s.world with
      | none => (.event none, s)
      | some (e, registry, world) => (.event (some e), { s with registry, world })
    else (.queueClosed, s)
  | .handle iface e => s.withScanner iface fun scanner w =>
    let (event, w) := makeEvent w e
    let (scanner, w) := scanner.handle event w
    (.nothing, scanner, w)
  | .run =>
    if s.world.queue.isOpen then
      let world := s.world.post .shutdown
      let (registry, world) := s.registry.run world.queue.events.length world
      (.nothing, { s with registry, world })
    else (.queueClosed, s)
  | .closeHandler name =>
    let (wasOpen, listeners) := Listeners.close s.world.radio.listeners name
    (.flag wasOpen, { s with world := { s.world with radio := { s.world.radio with listeners } } })
  | .closeQueue => (.nothing, { s with world := { s.world with queue := s.world.queue.close } })

/-- Whether an entry of the log belongs into the report of a step. -/
def isReported (listeners : Listeners) : Entry → Bool
  | .clockRead _ => false
  | .callback handler _ => listeners.hears handler
  | _ => true

/-- What is visible of the registered scanners, in the order of their interfaces. -/
def statuses (s : Session) : List Status :=
  s.registry.values.map fun scanner =>
    { iface := scanner.iface
      phase := scanner.single.phase
      inFlight := scanner.single.inFlight
      backgroundCount := scanner.background.count }

/-- Performs a step and reports it. -/
def step (s : Session) (step : Step) : Report × Session :=
  let (answer, s) := { s with world := { s.world with log := [] } }.perform step
  let trace := s.world.log.filter (isReported s.world.radio.listeners)
  ({ answer, trace, scanners := s.statuses, alarms := s.world.timers.active }, s)

/-- Performs steps in order and reports each. -/
def steps : Session → List Step → List Report
  | _, [] => []
  | s, step :: rest =>
    let (report, s) := s.step step
    report :: steps s rest

end Session

end WirelessScan.Bench
