import WirelessScan.World

/-!
# The single scan of an interface

A scanner runs at most one single scan at a time, in one slot: idle, then requested while the
admission call runs, then armed until a notice of the radio or the watchdog ends it. Every scan that
is accepted ends with exactly one final callback: on completion, failure or timeout out of the
armed slot, or by an event that carries the handler if it was never admitted.
-/

namespace WirelessScan

/-- The parts of a scanner that never change. -/
structure Setup where
  iface : String
  table : ChannelTable
  /-- How many hidden networks the radio probes for in one scan. -/
  capacity : Nat := defaultCapacity
  /-- Milliseconds after which the watchdog of a scan expires. -/
  timeout : UInt64 := 15000

/-- Resolves some buckets of the settings for the radio of this scanner. -/
def Setup.resolve (setup : Setup) (settings : Settings) (buckets : List Bucket) :
    Except ScanError Request :=
  Request.resolve setup.table setup.capacity settings buckets

/-- An admitted single scan. -/
structure InFlight where
  handler : Handler
  request : Request
  fullResults : Bool
  /-- The reading of the clock before the admission call; no detection of this scan is older. -/
  start : UInt64
  timeout : TimerHandle
deriving DecidableEq, Repr

/-- The slot of the single scan. -/
inductive Slot where
  | idle
  /-- The admission call runs. -/
  | requested
  /-- The radio scans. -/
  | armed (scan : InFlight)
deriving DecidableEq, Repr

/-- What is visible of the slot from outside. -/
inductive Phase where
  | idle
  | requested
  | armed
deriving DecidableEq, Repr

/-- The written name of a phase. -/
def Phase.name : Phase → String
  | idle => "idle"
  | requested => "requested"
  | armed => "armed"

/-- The single-scan half of a scanner. -/
structure Single where
  slot : Slot := .idle
  /-- The results of the last scan that completed. -/
  latest : ResultSet := {}
deriving DecidableEq, Repr

namespace Single

instance : Inhabited Single := ⟨{}⟩

/-- The phase of the slot. -/
def phase (s : Single) : Phase :=
  match s.slot with
  | .idle => .idle
  | .requested => .requested
  | .armed _ => .armed

/-- Whether a scan occupies the slot. -/
def inFlight (s : Single) : Bool :=
  s.slot != .idle

variable {ρ : Type}

/-- Starts a scan.

The answer `false` means that the scan was refused and its handler will never be called: settings or
handler are missing, or the slot is taken. Otherwise the outcome reaches the handler through the
queue, a failed resolution or admission too. -/
def start [Radio ρ] (setup : Setup) (s : Single) (settings : Option Settings)
    (handler : Option Handler) (w : World ρ) : Bool × Single × World ρ :=
  match settings, handler with
  | some settings, some handler =>
    if s.inFlight then (false, s, w)
    else
      match setup.resolve settings settings.buckets with
      | .error e => (true, s, w.post (.admissionRejected setup.iface handler e.reason))
      | .ok request =>
        let (start, w) := w.readClock
        let s := { s with slot := .requested }
        let (status, w) := w.issue setup.iface request
        if status.isSuccess then
          let (timeout, w) := w.schedule (.singleTimeout setup.iface) setup.timeout
          let scan :=
            { handler, request, fullResults := settings.wantsFullResults, start, timeout }
          (true, { s with slot := .armed scan }, w)
        else
          (true, { s with slot := .idle }, w.post (.admissionRejected setup.iface handler status))
  | _, _ => (false, s, w)

/-- Makes one report for each record of a result set. -/
def reportRecords (report : Callback → World ρ → World ρ) (results : ResultSet) (w : World ρ) :
    World ρ :=
  results.detections.foldl (fun w d => report (.fullResult d results.buckets) w) w

/-- The radio has results: an armed scan completes. Its records are reported while the slot still
shows the previous results; the new ones are stored before the final callback. -/
def completeBy (call : World.Caller ρ) (s : Single) (raw : List Detection) (w : World ρ) :
    Single × World ρ :=
  match s.slot with
  | .armed scan =>
    let s := { s with slot := .idle }
    let w := w.cancel scan.timeout
    let results := ResultSet.reconcile raw scan.start (some scan.request.frequencies) 0
    let w :=
      if scan.fullResults then reportRecords (call scan.handler · s.latest) results w else w
    let s := { s with latest := results }
    (s, call scan.handler .statusAvailable s.latest w)
  | _ => (s, w)

/-- The completion of an armed scan with the calls as they are recorded. -/
def complete (s : Single) (raw : List Detection) (w : World ρ) : Single × World ρ :=
  s.completeBy World.call raw w

/-- The radio gave up: an armed scan fails. -/
def fail (s : Single) (reason : Reason) (w : World ρ) : Single × World ρ :=
  match s.slot with
  | .armed scan =>
    let w := w.cancel scan.timeout
    ({ s with slot := .idle }, w.notify scan.handler (.requestFailed reason))
  | _ => (s, w)

/-- A watchdog expired: an armed scan fails, provided that it is its own watchdog. -/
def expire (s : Single) (handle : TimerHandle) (w : World ρ) : Single × World ρ :=
  match s.slot with
  | .armed scan =>
    if scan.timeout = handle then
      ({ s with slot := .idle }, w.notify scan.handler (.requestFailed .timeout))
    else (s, w)
  | _ => (s, w)

end Single

end WirelessScan
