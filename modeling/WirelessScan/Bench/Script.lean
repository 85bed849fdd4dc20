import WirelessScan.SortedMap
import WirelessScan.World

/-!
# The scripted radio

A radio under full control, for trying out scanners: for each interface a script says how the next
admission calls are answered, how long they take, which events they put on the queue, and what the
radio holds. The script also keeps the listeners, the receiving ends of the handlers made so far; a
handler whose listener is gone reports to nobody.
-/

namespace WirelessScan.Bench

/-- An event as it stands in a script: a rejection names its handler, which is made when the event
is put on the queue. -/
inductive ScriptedEvent where
  | resultsAvailable (iface : String)
  | scanFailed (iface : String) (reason : Reason)
  | timerFired (tag : TimerTag) (handle : TimerHandle)
  | admissionRejected (iface : String) (handler : String) (reason : Reason)
  | cycleRejected (iface : String) (id : ScanId) (reason : Reason)
  | shutdown
deriving DecidableEq, Repr

/-- How the radio answers for one interface. -/
structure Cue where
  status : Reason := .succeeded
  detections : List Detection := []
  /-- Nanoseconds that an admission call takes. -/
  nanos : UInt64 := 0
  /-- Events put on the queue from inside an admission call, whatever its answer. -/
  posted : List ScriptedEvent := []
deriving DecidableEq, Repr

instance : Inhabited Cue := ⟨{}⟩

/-- The receiving end of a handler. -/
structure Listener where
  handler : Handler
  isOpen : Bool := true
deriving DecidableEq, Repr

/-- The listeners of all handlers made so far, the latest first. -/
abbrev Listeners := List Listener

namespace Listeners

/-- Makes a handler of a name, with an open listener. -/
def make (ls : Listeners) (name : String) : Handler × Listeners :=
  let handler := { name, serial := ls.length }
  (handler, { handler } :: ls)

/-- Drops the listener of the latest handler of a name. The answer is whether it was open. -/
def close : Listeners → String → Bool × Listeners
  | [], _ => (false, [])
  | l :: rest, name =>
    if l.handler.name = name then (l.isOpen, { l with isOpen := false } :: rest)
    else
      let r := close rest name
      (r.1, l :: r.2)

/-- Whether somebody listens to a handler. -/
def hears (ls : Listeners) (handler : Handler) : Bool :=
  ls.any fun l => l.handler = handler && l.isOpen

end Listeners

/-- Makes an event out of its scripted form. -/
def ScriptedEvent.toEvent (e : ScriptedEvent) (ls : Listeners) : Event × Listeners :=
  match e with
  | resultsAvailable iface => (.resultsAvailable iface, ls)
  | scanFailed iface reason => (.scanFailed iface reason, ls)
  | timerFired tag handle => (.timerFired tag handle, ls)
  | admissionRejected iface name reason =>
    let (handler, ls) := ls.make name
    (.admissionRejected iface handler reason, ls)
  | cycleRejected iface id reason => (.cycleRejected iface id reason, ls)
  | shutdown => (.shutdown, ls)

/-- Makes events out of their scripted forms, in order. -/
def ScriptedEvent.toEvents : List ScriptedEvent → Listeners → List Event × Listeners
  | [], ls => ([], ls)
  | e :: rest, ls =>
    let (event, ls) := e.toEvent ls
    let (events, ls) := toEvents rest ls
    (event :: events, ls)

/-- The scripted radio of all interfaces. -/
structure Script where
  cues : SortedMap String Cue := ∅
  listeners : Listeners := []

namespace Script

instance : Inhabited Script := ⟨{}⟩

/-- The cue of an interface. -/
def cue (s : Script) (iface : String) : Cue :=
  (s.cues.find? iface).getD {}

/-- Changes the cue of an interface. -/
def modify (s : Script) (iface : String) (f : Cue → Cue) : Script :=
  { s with cues := s.cues.insert iface (f (s.cue iface)) }

instance : Radio Script where
  issue s _ iface _ :=
    let cue := s.cue iface
    let (posted, listeners) := ScriptedEvent.toEvents cue.posted s.listeners
    { status := cue.status, radio := { s with listeners }, nanos := cue.nanos, posted }
  detections s iface := (s.cue iface).detections

end Script

end WirelessScan.Bench
