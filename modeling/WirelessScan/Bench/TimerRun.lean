import WirelessScan.World

/-!
# Timer runs

A timer run tries out the timer service alone, on a time that moves only when a step says so. What
is due within a step fires in the order of its time, and alarms of the same time in the order of
scheduling. No radio takes part.
-/

namespace WirelessScan.Bench

/-- One step of a timer run. -/
inductive TimerStep where
  | schedule (tag : TimerTag) (millis : UInt64)
  | cancel (handle : TimerHandle)
  /-- Moves the time on; an alarm that is due at the new time fires too. -/
  | advance (millis : Nat)
  /-- Drops the queue: from now on alarms still expire, but nobody hears of them. -/
  | closeQueue

/-- An expiry that was heard of. -/
structure Firing where
  millis : Nat
  tag : TimerTag
  handle : TimerHandle
deriving DecidableEq, Repr

/-- The report of a step. -/
structure TimerReport where
  /-- The handle of an alarm that was scheduled. -/
  handle : Option TimerHandle
  millis : Nat
  fired : List Firing
  pending : Nat

namespace TimerRun

/-- Takes the expiries from the queue. -/
def collect (w : World Unit) : List Firing × World Unit :=
  (w.queue.events.filterMap fun
    | .timerFired tag handle => some { millis := w.elapsed, tag, handle }
    | _ => none,
    { w with queue := { w.queue with events := [] } })

/-- Lets up to `count` alarms expire that are due until a time, then moves on to that time. -/
def advance (target : Nat) : (count : Nat) → World Unit → List Firing × World Unit
  | 0, w => ([], w.waitUntil target)
  | count + 1, w =>
    match w.nextDue? with
    | none => ([], w.waitUntil target)
    | some d =>
      if d.millis ≤ target then
        let (fired, w) := collect (w.meet d)
        let (later, w) := advance target count w
        (fired ++ later, w)
      else ([], w.waitUntil target)

/-- Performs a step and reports it. -/
def step (w : World Unit) : TimerStep → TimerReport × World Unit
  | .schedule tag millis =>
    let (handle, w) := w.schedule tag millis
    (⟨some handle, w.elapsed, [], w.timers.pending⟩, w)
  | .cancel handle =>
    let w := w.cancel handle
    (⟨none, w.elapsed, [], w.timers.pending⟩, w)
  | .advance millis =>
    let (fired, w) := advance (w.elapsed + millis) w.timers.pending w
    (⟨none, w.elapsed, fired, w.timers.pending⟩, w)
  | .closeQueue =>
    let w := { w with queue := w.queue.close }
    (⟨none, w.elapsed, [], w.timers.pending⟩, w)

/-- Performs steps in order and reports each. -/
def steps (w : World Unit) : List TimerStep → List TimerReport
  | [] => []
  | s :: rest =>
    let (report, w) := step w s
    report :: steps w rest

/-- Performs steps in order, beginning with an empty timer service, and reports each. -/
def run (ss : List TimerStep) : List TimerReport :=
  steps { radio := () } ss

end TimerRun

end WirelessScan.Bench
