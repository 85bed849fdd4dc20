import WirelessScan.FileTree
import WirelessScan.Json.Numbers
import WirelessScan.Replay

/-!
# Fixtures

A fixture is a JSON array of networks for a replay radio. The name of a network may not be longer
than 32 bytes; that is looked at once the whole text has been read.
-/

namespace WirelessScan.Replay

open Json (Reader RecordField Value readText readInt32 readInt64 readUInt32 readUInt8 readArray)

namespace Network

/-- The written form of a network. -/
def toJson (n : Network) : Value :=
  .object [
    ("ssid", .string n.ssid),
    ("bssid", .string n.bssid),
    ("rssi", .number n.signal.toInt),
    ("frequency", .number n.frequency.toNat),
    ("offset_ms", .number n.offset.toInt),
    ("information_elements", .bytes n.elements)]

/-- The fields of a network as far as they have been read. -/
structure Draft where
  ssid : Option String := none
  bssid : Option String := none
  signal : Option Int32 := none
  frequency : Option UInt32 := none
  offset : Option Int64 := none
  elements : Option (List UInt8) := none

/-- The fields of a written network. -/
def Draft.fields : List (RecordField Draft) := [
  { name := "ssid"
    isSet := (·.ssid.isSome)
    read := fun d cs => do
      let (a, cs) ← readText cs
      return ({ d with ssid := some a }, cs) },
  { name := "bssid"
    isSet := (·.bssid.isSome)
    read := fun d cs => do
      let (a, cs) ← readText cs
      return ({ d with bssid := some a }, cs) },
  { name := "rssi"
    isSet := (·.signal.isSome)
    read := fun d cs => do
      let (a, cs) ← readInt32 cs
      return ({ d with signal := some a }, cs) },
  { name := "frequency"
    isSet := (·.frequency.isSome)
    read := fun d cs => do
      let (a, cs) ← readUInt32 cs
      return ({ d with frequency := some a }, cs) },
  { name := "offset_ms"
    isOptional := true
    isSet := (·.offset.isSome)
    read := fun d cs => do
      let (a, cs) ← readInt64 cs
      return ({ d with offset := some a }, cs) },
  { name := "information_elements"
    isOptional := true
    isSet := (·.elements.isSome)
    read := fun d cs => do
      let (a, cs) ← readArray readUInt8 cs
      return ({ d with elements := some a }, cs) }]

/-- The network, provided that no field is missing but those that may be left out. -/
def Draft.finish (d : Draft) : Option Network := do
  return {
    ssid := ← d.ssid
    bssid := ← d.bssid
    signal := ← d.signal
    frequency := ← d.frequency
    offset := d.offset.getD 0
    elements := d.elements.getD [] }

/-- Reads a network. -/
def reader : Reader Network :=
  Json.readRecord Draft.fields {} Draft.finish

/-- The greatest length of the name of a network, in bytes. -/
def maxNameBytes : Nat := 32

/-- Whether the name of a network is short enough to be sent. -/
def hasValidName (n : Network) : Bool :=
  n.ssid.utf8ByteSize ≤ maxNameBytes

end Network

namespace Fixture

/-- Accepts networks whose names are all short enough. -/
def check (networks : List Network) : Except ScanError (List Network) :=
  if networks.all Network.hasValidName then .ok networks
  else .error (.fixture "SSID longer than 32 bytes")

/-- Reads a fixture. Problems of the text come before names that are too long. -/
def parse (text : String) : Except ScanError (List Network) :=
  match Json.read (readArray Network.reader) text with
  | .ok networks => check networks
  | .error fault => .error (.json fault)

/-- Reads the fixture in the file at a path. A file that cannot be read is an error of its own; any
other error names the path. -/
def load (files : FileTree) (path : String) : Except ScanError (List Network) :=
  match files.readText path with
  | .error fault => .error (.file fault)
  | .ok text =>
    match parse text with
    | .ok networks => .ok networks
    | .error e => .error (.fixture (path ++ ": " ++ e.message))

/-- The networks that are replayed if no fixture is given. The last one is a leftover of an earlier
scan. -/
def builtIn : List Network := [
  { ssid := "HomeNet", bssid := "a4:2b:b0:10:22:01", signal := -48, frequency := 2437,
    offset := 120 },
  { ssid := "HomeNet-5G", bssid := "a4:2b:b0:10:22:02", signal := -55, frequency := 5180,
    offset := 180 },
  { ssid := "CoffeeShop", bssid := "3c:84:6a:9e:01:7f", signal := -71, frequency := 2412,
    offset := 95 },
  { ssid := "Neighbour", bssid := "f0:9f:c2:44:aa:10", signal := -83, frequency := 2462,
    offset := 240 },
  { ssid := "Office-DFS", bssid := "70:3a:0e:51:c0:33", signal := -67, frequency := 5500,
    offset := 210 },
  { ssid := "Lab-6E", bssid := "b8:27:eb:6e:00:01", signal := -62, frequency := 5975,
    offset := 260 },
  { ssid := "", bssid := "b8:27:eb:6e:00:02", signal := -77, frequency := 2437,
    offset := 150 },
  { ssid := "OldSighting", bssid := "00:11:22:33:44:55", signal := -40, frequency := 2437,
    offset := -30000 }]

end Fixture

end WirelessScan.Replay
