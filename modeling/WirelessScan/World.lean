import WirelessScan.Event
import WirelessScan.Request

/-!
# The world around a scanner

A scanner acts on a radio, a clock, a timer service, a queue and the handlers of its scans. The
world holds all of these as one value together with a log of everything that was done to them, so
that an operation of a scanner is a function from a world to a world.

A radio is any type with an instance of `Radio`: it answers an admission call, which may take time,
put events on the queue at once and announce events for later, and it lists the detections it
holds. A scanner never sees more of it than that.
-/

namespace WirelessScan

/-- The sum of two numbers, or the largest number if the sum does not fit. -/
def satAdd (a b : UInt64) : UInt64 :=
  .ofNatClamp (a.toNat + b.toNat)

/-! ## Queue -/

/-- The queue of events in the order of posting. Once closed it is empty and stays so. -/
structure Queue where
  events : List Event := []
  isOpen : Bool := true
deriving DecidableEq, Repr

namespace Queue

instance : Inhabited Queue := ⟨{}⟩

/-- Puts an event at the end; a closed queue loses it. -/
def post (q : Queue) (e : Event) : Queue :=
  if q.isOpen then { q with events := q.events ++ [e] } else q

/-- The first event and the rest of the queue. -/
def pop? (q : Queue) : Option (Event × Queue) :=
  match q.events with
  | [] => none
  | e :: rest => some (e, { q with events := rest })

/-- Drops everything queued and accepts nothing from now on. -/
def close (_ : Queue) : Queue := { events := [], isOpen := false }

end Queue

/-! ## Radio -/

/-- What an admission call did. -/
structure Admission (ρ : Type) where
  /-- `succeeded` if the scan was admitted. -/
  status : Reason
  /-- The radio after the call. -/
  radio : ρ
  /-- How long the call took, in nanoseconds. -/
  nanos : UInt64 := 0
  /-- Events put on the queue while the call ran. -/
  posted : List Event := []
  /-- Events that will be put on the queue later, each with its delay in milliseconds. -/
  later : List (UInt64 × Event) := []

/-- The surface of a radio. -/
class Radio (ρ : Type) where
  /-- The admission call for an interface at a time. -/
  issue : ρ → UInt64 → String → Request → Admission ρ
  /-- Everything the radio holds for an interface, stale entries included. -/
  detections : ρ → String → List Detection

/-! ## Log -/

/-- One thing that was done to the surroundings of a scanner. -/
inductive Entry where
  | clockRead (nanos : UInt64)
  /-- An admission call and its answer. -/
  | admission (iface : String) (request : Request) (status : Reason)
  /-- The radio's detections were fetched. -/
  | fetch (iface : String) (detections : List Detection)
  | schedule (tag : TimerTag) (handle : TimerHandle) (millis : UInt64)
  /-- An alarm was cancelled, whether it was still active or not. -/
  | cancel (handle : TimerHandle)
  | callback (handler : Handler) (callback : Callback)
deriving DecidableEq, Repr

/-- An event that was announced for later. -/
structure Notice where
  /-- The millisecond at which the event is put on the queue. -/
  due : Nat
  /-- The handle of the next timer at the time of the announcement. It places the notice among
  the alarms that are due in the same millisecond. -/
  nextHandle : TimerHandle
  event : Event
deriving DecidableEq, Repr

/-- A radio, a clock, timers, a queue and the log of what was done to them. -/
structure World (ρ : Type) where
  radio : ρ
  /-- The reading of the clock in nanoseconds. -/
  clock : UInt64 := 0
  /-- Milliseconds since the beginning, on the scale of the timers. -/
  elapsed : Nat := 0
  timers : Timers := {}
  notices : List Notice := []
  queue : Queue := {}
  log : List Entry := []

namespace World

variable {ρ : Type}

/-- Adds an entry to the log. -/
def record (w : World ρ) (e : Entry) : World ρ :=
  { w with log := w.log ++ [e] }

/-! ## What a scanner can do -/

/-- Reads the clock. -/
def readClock (w : World ρ) : UInt64 × World ρ :=
  (w.clock, w.record (.clockRead w.clock))

/-- Asks the radio to admit a request. -/
def issue [Radio ρ] (w : World ρ) (iface : String) (request : Request) : Reason × World ρ :=
  let a := Radio.issue w.radio w.clock iface request
  (a.status,
    { w with
      radio := a.radio
      clock := satAdd w.clock a.nanos
      queue := a.posted.foldl Queue.post w.queue
      notices := w.notices ++
        a.later.map fun (delay, e) => ⟨w.elapsed + delay.toNat, w.timers.next, e⟩
      log := w.log ++ [.admission iface request a.status] })

/-- Fetches the detections that the radio holds. -/
def fetch [Radio ρ] (w : World ρ) (iface : String) : List Detection × World ρ :=
  let ds := Radio.detections w.radio iface
  (ds, w.record (.fetch iface ds))

/-- Schedules an alarm some milliseconds from now. -/
def schedule (w : World ρ) (tag : TimerTag) (millis : UInt64) : TimerHandle × World ρ :=
  let t := w.timers.schedule tag (w.elapsed + millis.toNat)
  (t.1, { w with timers := t.2, log := w.log ++ [.schedule tag t.1 millis] })

/-- Cancels an alarm. -/
def cancel (w : World ρ) (handle : TimerHandle) : World ρ :=
  { w with timers := w.timers.cancel handle, log := w.log ++ [.cancel handle] }

/-- Reports to a handler. -/
def notify (w : World ρ) (handler : Handler) (callback : Callback) : World ρ :=
  w.record (.callback handler callback)

/-- Puts an event on the queue. -/
def post (w : World ρ) (e : Event) : World ρ :=
  { w with queue := w.queue.post e }

/-- How a handler is called while its scan shows some results as the latest ones. -/
abbrev Caller (ρ : Type) : Type := Handler → Callback → ResultSet → World ρ → World ρ

/-- A call is recorded, whatever results the scan shows. -/
def call : Caller ρ := fun handler callback _ w => w.notify handler callback

/-! ## What happens by itself -/

/-- Moves the time on to a later millisecond; the clock moves along as far as it can. -/
def waitUntil (w : World ρ) (millis : Nat) : World ρ :=
  { w with
    elapsed := max w.elapsed millis
    clock := .ofNatClamp (w.clock.toNat + (millis - w.elapsed) * 1000000) }

/-- An alarm expires: the event that says so is put on the queue. A handle without an active
alarm does nothing. -/
def expire (w : World ρ) (handle : TimerHandle) : World ρ :=
  match w.timers.expire? handle with
  | none => w
  | some (a, timers) => { w with timers, queue := w.queue.post (.timerFired a.tag a.handle) }

/-- What comes next: an alarm or a notice. -/
inductive Due where
  | alarm (a : Alarm)
  | notice (n : Notice)

/-- The millisecond at which something is due. -/
def Due.millis : Due → Nat
  | alarm a => a.due
  | notice n => n.due

/-- The alarm or notice that comes first. Of several due in the same millisecond, the one that was
scheduled or announced first comes first. -/
def nextDue? (w : World ρ) : Option Due :=
  match w.timers.soonest?, w.notices.minOn? (·.due) with
  | none, none => none
  | some a, none => some (.alarm a)
  | none, some n => some (.notice n)
  | some a, some n =>
    if n.due < a.due ∨ (n.due = a.due ∧ n.nextHandle ≤ a.handle) then some (.notice n)
    else some (.alarm a)

/-- Waits for something that is due and puts its event on the queue. -/
def meet (w : World ρ) (d : Due) : World ρ :=
  let w := w.waitUntil d.millis
  match d with
  | .alarm a => w.expire a.handle
  | .notice n => { w with notices := w.notices.erase n, queue := w.queue.post n.event }

end World

end WirelessScan
