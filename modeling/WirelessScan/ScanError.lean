import WirelessScan.Json.Fault
import WirelessScan.Reason

/-!
# Errors

What can go wrong outside the radio: a request that cannot be resolved, an interface without a
scanner, a fixture that cannot be read. Each error has a message and a reason under which it is
reported when it rejects a scan.
-/

namespace WirelessScan

/-- How access to a file failed. -/
inductive FileFault where
  | notFound
  | isADirectory
  | notADirectory
  /-- The content is not text. -/
  | invalidData
  | alreadyExists
deriving DecidableEq, Repr

/-- The written name of a failure. -/
def FileFault.name : FileFault → String
  | notFound => "NotFound"
  | isADirectory => "IsADirectory"
  | notADirectory => "NotADirectory"
  | invalidData => "InvalidData"
  | alreadyExists => "AlreadyExists"

/-- An error of the library. -/
inductive ScanError where
  /-- An explicit channel has no entry in the channel table. -/
  | unknownChannel (channel : UInt32)
  /-- The buckets hold no frequency at all. -/
  | noChannels
  /-- No scanner is registered for the interface. -/
  | unknownInterface (iface : String)
  /-- A fixture that is well formed but not acceptable, or one that was read from a named file. -/
  | fixture (text : String)
  | file (fault : FileFault)
  | json (fault : Json.Fault)
deriving DecidableEq, Repr

namespace ScanError

/-- The text of an error. Details that a file system or a JSON text would add are left out. -/
def message : ScanError → String
  | unknownChannel c => s!"Unknown channel: {c} has no entry in the channel table"
  | noChannels => "No channels to scan"
  | unknownInterface iface => s!"Unknown interface: {iface}"
  | fixture text => s!"Fixture error: {text}"
  | file _ => "I/O error"
  | json _ => "JSON error"

/-- The reason under which an error is reported to the handler of a rejected scan. -/
def reason : ScanError → Reason
  | unknownChannel _ => .invalidRequest
  | unknownInterface _ => .noDevice
  | _ => .unspecified

end ScanError

end WirelessScan
