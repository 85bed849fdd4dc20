import WirelessScan.Scanner

/-!
# Registry and dispatch

The scanners of all interfaces, and the two loops that serve the queue: one handles everything that
is queued, the other serves until a shutdown.

Scanners may share their surroundings or have surroundings of their own. `Surroundings` says where
the world of an interface is found; a single event is dispatched over either arrangement, while
the loops need the one queue of a shared world.
-/

namespace WirelessScan

/-- A state in which every interface finds its world. -/
class Surroundings (Ω : Type) (ρ : outParam Type) where
  /-- The world of an interface. -/
  world : Ω → String → World ρ
  /-- Puts back the world of an interface. -/
  setWorld : Ω → String → World ρ → Ω

/-- One world that all interfaces share. -/
instance Surroundings.shared {ρ : Type} : Surroundings (World ρ) ρ where
  world w _ := w
  setWorld _ _ w := w

/-- A world for each interface. -/
instance Surroundings.separate {ρ : Type} : Surroundings (String → World ρ) ρ where
  world ws := ws
  setWorld ws iface w := fun i => if i = iface then w else ws i

/-- The scanners by interface. -/
abbrev Registry := SortedMap String Scanner

namespace Registry

/-- Registers a scanner under its interface, in place of the one that is there. -/
def register (r : Registry) (s : Scanner) : Registry :=
  SortedMap.insert r s.iface s

/-- The scanner of an interface. -/
def get (r : Registry) (iface : String) : Except ScanError Scanner :=
  match SortedMap.find? r iface with
  | some s => .ok s
  | none => .error (.unknownInterface iface)

variable {ρ Ω : Type} [Radio ρ]

/-- Hands an event to the scanner of its interface. Without a scanner the event is dropped, except
that a deferred admission failure still reaches its handler. -/
def dispatch [Surroundings Ω ρ] (r : Registry) (e : Event) (ω : Ω) : Registry × Ω :=
  match e.iface? with
  | none => (r, ω)
  | some iface =>
    let w := Surroundings.world ω iface
    match SortedMap.find? r iface with
    | some s =>
      let (s, w) := s.handle e w
      (SortedMap.insert r iface s, Surroundings.setWorld ω iface w)
    | none =>
      match e with
      | .admissionRejected _ handler reason =>
        (r, Surroundings.setWorld ω iface (w.notify handler (.requestFailed reason)))
      | _ => (r, ω)

/-- Handles the next event, if there is one. -/
def dispatchNext? (r : Registry) (w : World ρ) : Option (Event × Registry × World ρ) :=
  match w.queue.pop? with
  | none => none
  | some (e, queue) => some (e, dispatch r e { w with queue })

/-- Handles everything that is queued or becomes queued meanwhile, in order, but at most `limit`
events. The answer begins with the number of events handled. -/
def dispatchPending : (limit : Nat) → Registry → World ρ → Nat × Registry × World ρ
  | 0, r, w => (0, r, w)
  | limit + 1, r, w =>
    match dispatchNext? r w with
    | none => (0, r, w)
    | some (_, r, w) =>
      let (count, r, w) := dispatchPending limit r w
      (count + 1, r, w)

/-- Serves the queue until the first shutdown, which is consumed, but for at most `limit` events. -/
def run : (limit : Nat) → Registry → World ρ → Registry × World ρ
  | 0, r, w => (r, w)
  | limit + 1, r, w =>
    match w.queue.pop? with
    | none => (r, w)
    | some (e, queue) =>
      let w := { w with queue }
      if e = .shutdown then (r, w)
      else
        let (r, w) := dispatch r e w
        run limit r w

end Registry

end WirelessScan
