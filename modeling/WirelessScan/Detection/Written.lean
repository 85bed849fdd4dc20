import WirelessScan.Detection
import WirelessScan.Json.Numbers

/-!
# Written detections

The JSON form of detections and result sets, with the fields in the order of declaration. The bytes
that a network announced may be left out.
-/

namespace WirelessScan

open Json (Reader RecordField Value readText readInt32 readUInt32 readUInt64 readUInt8 readArray)

namespace Detection

/-- The written form of a detection. -/
def toJson (d : Detection) : Value :=
  .object [
    ("ssid", .string d.ssid),
    ("bssid", .string d.bssid),
    ("signal_strength", .number d.signal.toInt),
    ("frequency", .number d.frequency.toNat),
    ("timestamp_micros", .number d.micros.toNat),
    ("information_elements", .bytes d.elements)]

/-- The fields of a detection as far as they have been read. -/
structure Draft where
  ssid : Option String := none
  bssid : Option String := none
  signal : Option Int32 := none
  frequency : Option UInt32 := none
  micros : Option UInt64 := none
  elements : Option (List UInt8) := none

/-- The fields of a written detection. -/
def Draft.fields : List (RecordField Draft) := [
  { name := "ssid"
    isSet := (·.ssid.isSome)
    read := fun d cs => do
      let (a, cs) ← readText cs
      return ({ d with ssid := some a }, cs) },
  { name := "bssid"
    isSet := (·.bssid.isSome)
    read := fun d cs => do
      let (a, cs) ← readText cs
      return ({ d with bssid := some a }, cs) },
  { name := "signal_strength"
    isSet := (·.signal.isSome)
    read := fun d cs => do
      let (a, cs) ← readInt32 cs
      return ({ d with signal := some a }, cs) },
  { name := "frequency"
    isSet := (·.frequency.isSome)
    read := fun d cs => do
      let (a, cs) ← readUInt32 cs
      return ({ d with frequency := some a }, cs) },
  { name := "timestamp_micros"
    isSet := (·.micros.isSome)
    read := fun d cs => do
      let (a, cs) ← readUInt64 cs
      return ({ d with micros := some a }, cs) },
  { name := "information_elements"
    isOptional := true
    isSet := (·.elements.isSome)
    read := fun d cs => do
      let (a, cs) ← readArray readUInt8 cs
      return ({ d with elements := some a }, cs) }]

/-- The detection, provided that no field is missing. -/
def Draft.finish (d : Draft) : Option Detection := do
  return {
    ssid := ← d.ssid
    bssid := ← d.bssid
    signal := ← d.signal
    frequency := ← d.frequency
    micros := ← d.micros
    elements := d.elements.getD [] }

/-- Reads a detection. -/
def reader : Reader Detection :=
  Json.readRecord Draft.fields {} Draft.finish

end Detection

/-- The written form of a result set. -/
def ResultSet.toJson (r : ResultSet) : Value :=
  .object [
    ("buckets_scanned", .number r.buckets.toNat),
    ("results", .array (r.detections.map Detection.toJson))]

end WirelessScan
