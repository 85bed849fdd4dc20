import WirelessScan.FrequencySet

/-!
# Detections and result sets

A detection is a network as the radio reports it. The radio reports everything it holds, leftovers
of earlier scans included; `ResultSet.reconcile` turns such a list into the results of one scan by
dropping what is too old or was not asked for and putting the strongest signal first.
-/

namespace WirelessScan

/-- A network as reported by the radio. -/
structure Detection where
  ssid : String
  bssid : String
  /-- Signal strength in dBm. -/
  signal : Int32
  /-- Centre frequency in MHz. -/
  frequency : UInt32
  /-- Time of detection in microseconds. -/
  micros : UInt64
  /-- Opaque bytes that the network announced. -/
  elements : List UInt8 := []
deriving DecidableEq, Repr

namespace Detection

/-- Time of detection in nanoseconds, the scale of scan start stamps, as far as it fits. -/
def nanos (d : Detection) : UInt64 :=
  .ofNatClamp (d.micros.toNat * 1000)

/-- Whether the network was detected at or after `start` (in nanoseconds). -/
def isFresh (d : Detection) (start : UInt64) : Bool :=
  start ≤ d.nanos

/-- Whether the frequency was asked for. Without a set every frequency was. -/
def isWanted (d : Detection) (frequencies : Option FrequencySet) : Bool :=
  match frequencies with
  | none => true
  | some fs => d.frequency ∈ fs

/-- Puts a detection in front of the first one whose signal is not stronger. -/
def insertBySignal (d : Detection) : List Detection → List Detection
  | [] => [d]
  | e :: rest => if d.signal < e.signal then e :: insertBySignal d rest else d :: e :: rest

/-- Orders detections by falling signal; those of equal signal keep their order. -/
def strongestFirst (ds : List Detection) : List Detection :=
  ds.foldr insertBySignal []

end Detection

/-- The results of one completed scan. -/
structure ResultSet where
  /-- Bit `i` is set if bucket `i` was part of the scan; 0 for a single scan. -/
  buckets : UInt32 := 0
  detections : List Detection := []
deriving DecidableEq, Repr

namespace ResultSet

instance : Inhabited ResultSet := ⟨{}⟩

/-- The results of a scan that began at `start`, out of everything the radio holds. -/
def reconcile (raw : List Detection) (start : UInt64) (frequencies : Option FrequencySet)
    (buckets : UInt32) : ResultSet where
  buckets
  detections := Detection.strongestFirst <|
    raw.filter fun d => d.isFresh start && d.isWanted frequencies

/-- The number of detections. -/
def size (r : ResultSet) : Nat := r.detections.length

/-- Whether there is no detection. -/
def isEmpty (r : ResultSet) : Bool := r.detections.isEmpty

/-- The names of the networks, in order. -/
def ssids (r : ResultSet) : List String := r.detections.map (·.ssid)

end ResultSet

end WirelessScan
