import WirelessScan.Named

/-!
# Reasons

The status codes shared by the radio's admission answers and by failure reports. Every reason has
a number (0 for success, negative otherwise), a written name and a text for people.
-/

namespace WirelessScan

/-- Why a scan ended, or how its admission was answered. -/
inductive Reason where
  | succeeded
  | unspecified
  | invalidListener
  | invalidRequest
  | notAuthorized
  | duplicateRequest
  | busy
  | abort
  | noDevice
  | invalidArgs
  /-- Produced by the scanner itself when a watchdog expires. -/
  | timeout
deriving DecidableEq, Repr, Inhabited

namespace Reason

/-- Every reason, in the order of the numbers. -/
def all : List Reason :=
  [succeeded, unspecified, invalidListener, invalidRequest, notAuthorized, duplicateRequest,
    busy, abort, noDevice, invalidArgs, timeout]

/-- The number of a reason: 0, -1, -2, … in the order of declaration. -/
def code : Reason → Int32
  | succeeded => 0
  | unspecified => -1
  | invalidListener => -2
  | invalidRequest => -3
  | notAuthorized => -4
  | duplicateRequest => -5
  | busy => -6
  | abort => -7
  | noDevice => -8
  | invalidArgs => -9
  | timeout => -10

/-- The reason of a number. A number that stands for no reason is `unspecified`. -/
def ofCode (c : Int32) : Reason :=
  (all.find? fun r => r.code == c).getD unspecified

/-- The written name. -/
def name : Reason → String
  | succeeded => "succeeded"
  | unspecified => "unspecified"
  | invalidListener => "invalid-listener"
  | invalidRequest => "invalid-request"
  | notAuthorized => "not-authorized"
  | duplicateRequest => "duplicate-request"
  | busy => "busy"
  | abort => "abort"
  | noDevice => "no-device"
  | invalidArgs => "invalid-args"
  | timeout => "timeout"

instance : Named Reason := ⟨all, name⟩

/-- The capitalised form used in the text of an event. -/
def constructorName : Reason → String
  | succeeded => "Succeeded"
  | unspecified => "Unspecified"
  | invalidListener => "InvalidListener"
  | invalidRequest => "InvalidRequest"
  | notAuthorized => "NotAuthorized"
  | duplicateRequest => "DuplicateRequest"
  | busy => "Busy"
  | abort => "Abort"
  | noDevice => "NoDevice"
  | invalidArgs => "InvalidArgs"
  | timeout => "Timeout"

/-- The words for people, without the number. -/
def words : Reason → String
  | succeeded => "succeeded"
  | unspecified => "unspecified"
  | invalidListener => "invalid listener"
  | invalidRequest => "invalid request"
  | notAuthorized => "not authorized"
  | duplicateRequest => "duplicate request"
  | busy => "busy"
  | abort => "aborted"
  | noDevice => "no device"
  | invalidArgs => "invalid arguments"
  | timeout => "timeout"

/-- The text for people: the words, then the number in parentheses. -/
def display (r : Reason) : String :=
  s!"{r.words} ({r.code})"

/-- Whether the reason stands for success. -/
def isSuccess (r : Reason) : Bool :=
  r == succeeded

theorem isSuccess_iff {r : Reason} : r.isSuccess = true ↔ r = succeeded := by
  simp [isSuccess]

theorem ofCode_code (r : Reason) : ofCode r.code = r := by
  cases r <;> rfl

end Reason

end WirelessScan
