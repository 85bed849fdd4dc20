import WirelessScan.ChannelTable
import WirelessScan.FrequencySet
import WirelessScan.ScanError
import WirelessScan.Settings

/-!
# Requests

Resolution turns settings into the one request that is handed to the radio: the union of the
frequencies of the buckets concerned, and the other parameters as the caller gave them, except
that the list of hidden networks is cut to what the radio can probe for.
-/

namespace WirelessScan

/-- The number of hidden networks that a radio probes for in one scan unless it says otherwise. -/
def defaultCapacity : Nat := 20

/-- A list cut to its first `capacity` members. -/
def hiddenWithin (capacity : Nat) (names : List String) : List String :=
  names.take capacity

namespace ChannelTable

/-- The frequency of an explicit channel, or the error that names it. -/
def frequency (table : ChannelTable) (channel : UInt32) : Except ScanError UInt32 :=
  match table.frequency? channel with
  | some f => .ok f
  | none => .error (.unknownChannel channel)

/-- The frequencies of a target, in table or list order. -/
def targetFrequencies (table : ChannelTable) : Target → Except ScanError (List UInt32)
  | .band band => .ok (band.subBands.flatMap table.block)
  | .channels channels => channels.mapM table.frequency

/-- The union of the frequencies of all buckets. The first unknown channel, in the order of the
buckets and of their lists, is an error; there is no partial answer. -/
def resolve (table : ChannelTable) (buckets : List Bucket) : Except ScanError FrequencySet := do
  let frequencies ← buckets.mapM fun b => table.targetFrequencies b.target
  return .ofList frequencies.flatten

end ChannelTable

/-- A request as it is handed to the radio. -/
structure Request where
  scanType : ScanType
  frequencies : FrequencySet
  hidden : List String
  neighborReports : Bool
  vendorElements : Option (List UInt8)
deriving DecidableEq, Repr

/-- Resolves some buckets of the settings; the other parameters are those of the settings. A set
without frequencies is an error. -/
def Request.resolve (table : ChannelTable) (capacity : Nat) (settings : Settings)
    (buckets : List Bucket) : Except ScanError Request := do
  let frequencies ← table.resolve buckets
  if frequencies.isEmpty then throw .noChannels
  return {
    scanType := settings.scanType
    frequencies
    hidden := hiddenWithin capacity settings.hidden
    neighborReports := settings.neighborReports
    vendorElements := settings.vendorElements }

end WirelessScan
