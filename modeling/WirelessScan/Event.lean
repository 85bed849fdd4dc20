import WirelessScan.Detection
import WirelessScan.Reason
import WirelessScan.Text.Quoted
import WirelessScan.Timers

/-!
# Events, handlers and callbacks

Everything that can change a scanner after a call has returned arrives as an event on one queue:
notices of the radio, expired timers and deferred admission failures. What a scan has to report
goes to the handler that was given with it, as callbacks.
-/

namespace WirelessScan

/-- The receiver of the callbacks of one scan. Handlers of one name are told apart by number. -/
structure Handler where
  name : String
  serial : Nat
deriving DecidableEq, Repr

/-- A report to a handler. -/
inductive Callback where
  /-- The scan completed and its results can be fetched. -/
  | statusAvailable
  /-- A record of a completed scan. -/
  | fullResult (detection : Detection) (buckets : UInt32)
  /-- The scan was refused or failed. -/
  | requestFailed (reason : Reason)
deriving DecidableEq, Repr

/-- Whether a callback ends a single scan or a cycle. -/
def Callback.isTerminal : Callback → Bool
  | fullResult .. => false
  | _ => true

/-- What travels through the queue. -/
inductive Event where
  /-- The radio has results for an interface. -/
  | resultsAvailable (iface : String)
  /-- The radio gave up a scan. -/
  | scanFailed (iface : String) (reason : Reason)
  /-- An alarm expired. -/
  | timerFired (tag : TimerTag) (handle : TimerHandle)
  /-- A scan was refused at admission. The handler travels along, so that it hears of the failure
  on a later turn and never inside the call that started the scan. -/
  | admissionRejected (iface : String) (handler : Handler) (reason : Reason)
  /-- The first cycle of a periodic scan was refused at admission. -/
  | cycleRejected (iface : String) (id : ScanId) (reason : Reason)
  /-- Stop serving the queue. -/
  | shutdown
deriving DecidableEq, Repr

namespace Event

/-- The interface that an event belongs to; the shutdown belongs to none. -/
def iface? : Event → Option String
  | resultsAvailable iface => some iface
  | scanFailed iface _ => some iface
  | timerFired tag _ => some tag.iface
  | admissionRejected iface .. => some iface
  | cycleRejected iface .. => some iface
  | shutdown => none

open Text (quoted)

/-- The text of a record: its name and its fields between braces. -/
def recordText (name fields : String) : String :=
  name ++ " \x7b " ++ fields ++ " \x7d"

/-- The text of the tag of an alarm. -/
def tagText : TimerTag → String
  | .singleTimeout iface => recordText "SingleScanTimeout" ("iface: " ++ quoted iface)
  | .period iface id =>
    recordText "BackgroundPeriod" ("iface: " ++ quoted iface ++ s!", id: BackgroundScanId({id})")
  | .cycleTimeout iface id =>
    recordText "BackgroundTimeout" ("iface: " ++ quoted iface ++ s!", id: BackgroundScanId({id})")

/-- The text of an event for diagnosis. -/
def describe : Event → String
  | resultsAvailable iface =>
    "Driver(" ++ recordText "ResultsAvailable" ("iface: " ++ quoted iface) ++ ")"
  | scanFailed iface reason =>
    "Driver(" ++ recordText "ScanFailed"
      ("iface: " ++ quoted iface ++ ", reason: " ++ reason.constructorName) ++ ")"
  | timerFired tag handle =>
    recordText "TimerFired" ("tag: " ++ tagText tag ++ s!", handle: TimerHandle({handle})")
  | admissionRejected iface _ reason =>
    recordText "AdmissionRejected"
      ("iface: " ++ quoted iface ++ ", reason: " ++ reason.constructorName ++ ", ..")
  | cycleRejected iface id reason =>
    recordText "BackgroundCycleRejected"
      ("iface: " ++ quoted iface ++ s!", id: BackgroundScanId({id}), reason: "
        ++ reason.constructorName)
  | shutdown => "Shutdown"

end Event

end WirelessScan
