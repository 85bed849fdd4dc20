import WirelessScan.Scanner.Single
import WirelessScan.SortedMap

/-!
# The periodic scans of an interface

Any number of periodic configurations run beside each other, each with its own handler, timers and
results. A configuration counts cycles, one for each tick of its period timer; the start is tick
0. In cycle `n` the buckets are due whose period divides `n` base periods. A cycle is skipped
while the previous one still waits for the radio, and when no bucket is due; the count goes on all
the same, so the schedule never drifts.
-/

namespace WirelessScan

/-- A cycle that waits for the radio. -/
structure Cycle where
  request : Request
  /-- Bit `i` is set if bucket `i` is part of the cycle. -/
  buckets : UInt32
  fullResults : Bool
  /-- Whether completion is reported. -/
  reportStatus : Bool
  /-- The reading of the clock before the admission call. -/
  start : UInt64
  timeout : TimerHandle
deriving DecidableEq, Repr

/-- A periodic configuration. -/
structure Periodic where
  settings : Settings
  handler : Handler
  /-- The number of the next cycle. -/
  cycle : UInt64 := 0
  periodTimer : TimerHandle
  pending : Option Cycle := none
  /-- The results of the last cycle that completed. -/
  latest : ResultSet := {}
deriving DecidableEq, Repr

namespace Settings

/-- Whether a bucket is due in cycle `n`. -/
def isDue (s : Settings) (n : UInt64) (b : Bucket) : Bool :=
  n * s.basePeriod.toUInt64 % b.period.toUInt64 == 0

/-- The buckets that are due in cycle `n`, each with its number. -/
def dueBuckets (s : Settings) (n : UInt64) : List (Bucket × Nat) :=
  (s.buckets.zipIdx.take maxBuckets).filter fun b => s.isDue n b.1

end Settings

/-- The bucket mask with one bit for each number. -/
def bucketMask (numbers : List Nat) : UInt32 :=
  numbers.foldl (fun mask i => mask ||| (1 <<< UInt32.ofNat i)) 0

namespace Periodic

variable {ρ : Type}

/-- Runs the next cycle. The answer is the reason of a failed resolution or admission, which the
caller has to report. -/
def runCycle [Radio ρ] (setup : Setup) (id : ScanId) (p : Periodic) (w : World ρ) :
    Option Reason × Periodic × World ρ :=
  let due := p.settings.dueBuckets p.cycle
  let buckets := due.map Prod.fst
  let waiting := p.pending.isSome
  let p := { p with cycle := p.cycle + 1 }
  if waiting || due.isEmpty then (none, p, w)
  else
    match setup.resolve p.settings buckets with
    | .error e => (some e.reason, p, w)
    | .ok request =>
      let (start, w) := w.readClock
      let (status, w) := w.issue setup.iface request
      if status.isSuccess then
        let (timeout, w) := w.schedule (.cycleTimeout setup.iface id) setup.timeout
        let cycle :=
          { request
            buckets := bucketMask (due.map Prod.snd)
            fullResults := (ReportFlags.ofBuckets buckets).contains .fullScanResult
            reportStatus := buckets.any (·.flags.isBatched)
            start, timeout }
        (none, { p with pending := some cycle }, w)
      else (some status, p, w)

/-- The radio has results: a waiting cycle completes. Its records are reported while the
configuration still shows the previous results; the new ones are stored before completion is
reported. -/
def completeBy (call : World.Caller ρ) (p : Periodic) (raw : List Detection) (w : World ρ) :
    Periodic × World ρ :=
  match p.pending with
  | none => (p, w)
  | some cycle =>
    let p := { p with pending := none }
    let w := w.cancel cycle.timeout
    let results :=
      ResultSet.reconcile raw cycle.start (some cycle.request.frequencies) cycle.buckets
    let w :=
      if cycle.fullResults then Single.reportRecords (call p.handler · p.latest) results w else w
    let p := { p with latest := results }
    let w := if cycle.reportStatus then call p.handler .statusAvailable p.latest w else w
    (p, w)

/-- The completion of a waiting cycle with the calls as they are recorded. -/
def complete (p : Periodic) (raw : List Detection) (w : World ρ) : Periodic × World ρ :=
  p.completeBy World.call raw w

/-- The radio gave up: a waiting cycle fails. -/
def fail (p : Periodic) (reason : Reason) (w : World ρ) : Periodic × World ρ :=
  match p.pending with
  | none => (p, w)
  | some cycle =>
    let w := w.cancel cycle.timeout
    ({ p with pending := none }, w.notify p.handler (.requestFailed reason))

end Periodic

/-- The periodic half of a scanner. -/
structure Background where
  /-- The id of the next configuration. -/
  nextId : ScanId := 1
  scans : SortedMap ScanId Periodic := ∅

namespace Background

instance : Inhabited Background := ⟨{}⟩

/-- The number of active configurations. -/
def count (b : Background) : Nat := b.scans.size

/-- Whether some configuration waits for the radio. -/
def hasPending (b : Background) : Bool :=
  b.scans.values.any (·.pending.isSome)

/-- The latest results of a configuration. -/
def latest? (b : Background) (id : ScanId) : Option ResultSet :=
  (b.scans.find? id).map (·.latest)

variable {ρ : Type}

/-- Starts a configuration and runs its first cycle.

No answer means that the start was refused and the handler will never be called: settings or handler
are missing, or the settings cannot be run periodically. A configuration whose channels cannot be
resolved uses up an id but does not become active; its handler hears of the failure through the
queue, and so it does of a refusal of the first cycle. -/
def start [Radio ρ] (setup : Setup) (b : Background) (settings : Option Settings)
    (handler : Option Handler) (w : World ρ) : Option ScanId × Background × World ρ :=
  match settings, handler with
  | some settings, some handler =>
    if !settings.isPeriodic then (none, b, w)
    else
      let id := b.nextId
      let b := { b with nextId := id + 1 }
      match setup.resolve settings settings.buckets with
      | .error e => (some id, b, w.post (.admissionRejected setup.iface handler e.reason))
      | .ok _ =>
        let (periodTimer, w) := w.schedule (.period setup.iface id) settings.basePeriod.toUInt64
        let (refusal, p, w) := Periodic.runCycle setup id { settings, handler, periodTimer } w
        let b := { b with scans := b.scans.insert id p }
        match refusal with
        | none => (some id, b, w)
        | some reason => (some id, b, w.post (.cycleRejected setup.iface id reason))
  | _, _ => (none, b, w)

/-- Stops a configuration without a callback. The answer is whether it was active. -/
def stop (b : Background) (id : ScanId) (w : World ρ) : Bool × Background × World ρ :=
  match b.scans.find? id with
  | none => (false, b, w)
  | some p =>
    let w := w.cancel p.periodTimer
    let w := match p.pending with
      | none => w
      | some cycle => w.cancel cycle.timeout
    (true, { b with scans := b.scans.erase id }, w)

/-- A period timer expired: it is armed anew and the next cycle runs. Only the timer that the
configuration is waiting for counts. -/
def tick [Radio ρ] (setup : Setup) (b : Background) (id : ScanId) (handle : TimerHandle)
    (w : World ρ) : Background × World ρ :=
  match b.scans.find? id with
  | none => (b, w)
  | some p =>
    if p.periodTimer = handle then
      let (periodTimer, w) := w.schedule (.period setup.iface id) p.settings.basePeriod.toUInt64
      let (refusal, p, w) := Periodic.runCycle setup id { p with periodTimer } w
      let b := { b with scans := b.scans.insert id p }
      match refusal with
      | none => (b, w)
      | some reason => (b, w.notify p.handler (.requestFailed reason))
    else (b, w)

/-- The refusal of a first cycle reaches the handler, unless the configuration was stopped. -/
def rejectCycle (b : Background) (id : ScanId) (reason : Reason) (w : World ρ) : World ρ :=
  match b.scans.find? id with
  | none => w
  | some p => w.notify p.handler (.requestFailed reason)

/-- The watchdog of a cycle expired: the cycle fails, provided that it is its own watchdog. -/
def expire (b : Background) (id : ScanId) (handle : TimerHandle) (w : World ρ) :
    Background × World ρ :=
  match b.scans.find? id with
  | none => (b, w)
  | some p =>
    if p.pending.map (·.timeout) = some handle then
      ({ b with scans := b.scans.insert id { p with pending := none } },
        w.notify p.handler (.requestFailed .timeout))
    else (b, w)

/-- The radio has results: every waiting cycle completes, in the order of the ids. -/
def completeBy (call : World.Caller ρ) (b : Background) (raw : List Detection) (w : World ρ) :
    Background × World ρ :=
  let r := b.scans.mapAccum (fun _ p w => p.completeBy call raw w) w
  ({ b with scans := r.1 }, r.2)

/-- The completion of all waiting cycles with the calls as they are recorded. -/
def complete (b : Background) (raw : List Detection) (w : World ρ) : Background × World ρ :=
  b.completeBy World.call raw w

/-- The radio gave up: every waiting cycle fails, in the order of the ids. -/
def fail (b : Background) (reason : Reason) (w : World ρ) : Background × World ρ :=
  let r := b.scans.mapAccum (fun _ p w => p.fail reason w) w
  ({ b with scans := r.1 }, r.2)

end Background

end WirelessScan
