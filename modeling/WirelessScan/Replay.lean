import WirelessScan.Named
import WirelessScan.World

/-!
# The replay radio

A radio without antenna: it holds a fixed set of networks and, for each admitted scan, announces
one outcome after a fixed delay. The networks are stamped anew relative to the last admitted scan,
so a network with a negative offset is a leftover of an earlier scan.
-/

namespace WirelessScan.Replay

/-- A network of a fixture. -/
structure Network where
  ssid : String
  bssid : String
  /-- Signal strength in dBm. -/
  signal : Int32
  /-- Centre frequency in MHz. -/
  frequency : UInt32
  /-- Time of detection relative to the start of the scan, in milliseconds. -/
  offset : Int64 := 0
  elements : List UInt8 := []
deriving DecidableEq, Repr

/-- How the radio answers a scan. -/
inductive Outcome where
  /-- Admit, then report results. -/
  | results
  /-- Admit, then report a failure. -/
  | failure
  /-- Admit and never answer. -/
  | silent
  /-- Refuse at admission. -/
  | reject
deriving DecidableEq, Repr

namespace Outcome

instance : Inhabited Outcome := ⟨results⟩

/-- The written name. -/
def name : Outcome → String
  | results => "results"
  | failure => "failure"
  | silent => "silent"
  | reject => "reject"

instance : Named Outcome := ⟨[results, failure, silent, reject], name⟩

end Outcome

/-- The behaviour of a replay radio. -/
structure Options where
  outcome : Outcome := .results
  /-- The reason of a failure or a refusal. -/
  reason : Reason := .unspecified
  /-- Milliseconds from admission to the outcome. -/
  delay : UInt64 := 300
  /-- How many hidden networks the radio probes for in one scan. -/
  capacity : Nat := defaultCapacity
deriving DecidableEq, Repr

instance : Inhabited Options := ⟨{}⟩

end Replay

/-- A radio that replays a fixed set of networks. -/
structure Replay where
  networks : List Replay.Network
  options : Replay.Options := {}
  /-- The reading of the clock at the last admitted scan. -/
  lastStart : Option UInt64 := none
  /-- The number of admitted scans. -/
  issued : UInt64 := 0
deriving DecidableEq, Repr

namespace Replay

/-- The number of microseconds nearest to `n` with which a stamp is computed: one of 64 bits with a
sign. -/
def clampStamp (n : Int) : Int :=
  max Int64.minValue.toInt (min n Int64.maxValue.toInt)

/-- The time of detection of a network whose scan started at `start` (in nanoseconds), in
microseconds: never before the beginning of time, and at most the largest stamp. -/
def stamp (start : UInt64) (offset : Int64) : UInt64 :=
  let base : Int := (start.toNat / 1000 : Nat)
  .ofNatClamp (max 0 (clampStamp (base + clampStamp (offset.toInt * 1000)))).toNat

/-- The detection of a network in a scan. -/
def detect (start : UInt64) (n : Network) : Detection where
  ssid := n.ssid
  bssid := n.bssid
  signal := n.signal
  frequency := n.frequency
  micros := stamp start n.offset
  elements := n.elements

/-- What the radio holds: nothing before the first admitted scan, then every network of the
fixture, stamped relative to the last admitted scan. -/
def detections (r : Replay) : List Detection :=
  match r.lastStart with
  | none => []
  | some start => r.networks.map (detect start)

/-- The event that ends an admitted scan, if one does. -/
def outcomeEvent? (o : Options) (iface : String) : Option Event :=
  match o.outcome with
  | .results => some (.resultsAvailable iface)
  | .failure => some (.scanFailed iface o.reason)
  | .silent | .reject => none

/-- The admission call. A refusal changes nothing. -/
def issue (r : Replay) (clock : UInt64) (iface : String) : Admission Replay :=
  if r.options.outcome = .reject then { status := r.options.reason, radio := r }
  else
    { status := .succeeded
      radio := { r with lastStart := some clock, issued := r.issued + 1 }
      later := ((outcomeEvent? r.options iface).map fun e => (r.options.delay, e)).toList }

instance : Radio Replay where
  issue r clock iface _ := r.issue clock iface
  detections r _ := r.detections

end Replay

end WirelessScan
