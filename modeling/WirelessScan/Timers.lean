/-!
# Timers

A timer service hands out handles 1, 2, 3, … and keeps the alarms that have neither expired nor
been cancelled. Every alarm has a tag that says what it is for and which interface it belongs to.
-/

namespace WirelessScan

/-- Identity of a periodic scan configuration of an interface. -/
abbrev ScanId := UInt32

/-- Identity of a scheduled alarm. -/
abbrev TimerHandle := UInt64

/-- What an alarm is for. -/
inductive TimerTag where
  /-- Watchdog of the single scan. -/
  | singleTimeout (iface : String)
  /-- Next cycle of a periodic scan. -/
  | period (iface : String) (id : ScanId)
  /-- Watchdog of a cycle of a periodic scan. -/
  | cycleTimeout (iface : String) (id : ScanId)
deriving DecidableEq, Repr

namespace TimerTag

/-- The interface that the alarm belongs to. -/
def iface : TimerTag → String
  | singleTimeout iface => iface
  | period iface _ => iface
  | cycleTimeout iface _ => iface

/-- The tag as text. -/
def display : TimerTag → String
  | singleTimeout iface => s!"{iface}:single-scan-timeout"
  | period iface id => s!"{iface}:background-period:{id}"
  | cycleTimeout iface id => s!"{iface}:background-timeout:{id}"

end TimerTag

/-- A scheduled alarm. -/
structure Alarm where
  handle : TimerHandle
  tag : TimerTag
  /-- The millisecond at which the alarm expires. -/
  due : Nat
deriving DecidableEq, Repr

/-- A timer service: the next handle and the active alarms in the order of scheduling. -/
structure Timers where
  next : TimerHandle := 1
  active : List Alarm := []
deriving DecidableEq, Repr

namespace Timers

instance : Inhabited Timers := ⟨{}⟩

/-- Schedules an alarm and answers its handle, which was never handed out before. -/
def schedule (t : Timers) (tag : TimerTag) (due : Nat) : TimerHandle × Timers :=
  (t.next, { next := t.next + 1, active := t.active ++ [⟨t.next, tag, due⟩] })

/-- Removes an alarm. A handle without an active alarm is ignored. -/
def cancel (t : Timers) (handle : TimerHandle) : Timers :=
  { t with active := t.active.filter (·.handle ≠ handle) }

/-- The active alarm of a handle. -/
def find? (t : Timers) (handle : TimerHandle) : Option Alarm :=
  t.active.find? (·.handle = handle)

/-- Lets an alarm expire: it is handed out once and is not active any more. -/
def expire? (t : Timers) (handle : TimerHandle) : Option (Alarm × Timers) :=
  (t.find? handle).map fun a => (a, t.cancel handle)

/-- The alarm that expires first; of several due at the same time, the one scheduled first. -/
def soonest? (t : Timers) : Option Alarm :=
  t.active.minOn? (·.due)

/-- The number of active alarms. -/
def pending (t : Timers) : Nat := t.active.length

end Timers

end WirelessScan
