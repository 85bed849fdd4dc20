import WirelessScan.Program.Page
import WirelessScan.Registry

/-!
# Waiting for the outcome of a scan

The program starts a scan with a handler of its own and then takes that handler's callbacks one
after the other. A callback that waits is taken first; only if there is none, the next event of the
queue is handled. So no event is handled between a callback and the reaction to it, and the results
that a completion stored are printed before anything can replace them.

What happens around the program while it serves the queue is a parameter: a function that is asked
before each event what has become of the world, and may answer that nothing will come any more. It
sees the whole world and the time in it, so any sequence of happenings is that of some function.
-/

namespace WirelessScan.Program

/-- A scanner at work for the program, and the callbacks that were not taken yet. -/
structure Consumer (ρ : Type) where
  registry : Registry
  world : World ρ
  outcomes : List Callback := []

/-- The handler of the program. -/
def handler : Handler := ⟨"program", 0⟩

/-- The callbacks to the program in a log, in order. -/
def callbacks (log : List Entry) : List Callback :=
  log.filterMap fun
    | .callback h c => if h = handler then some c else none
    | _ => none

namespace Consumer

variable {ρ : Type}

/-- The world in which the next thing is done, with an empty log. -/
def surroundings (c : Consumer ρ) : World ρ := { c.world with log := [] }

/-- The consumer after something was done in its surroundings. The callbacks that were made wait
behind those that wait already. -/
def after (c : Consumer ρ) (registry : Registry) (world : World ρ) : Consumer ρ :=
  { registry, world, outcomes := c.outcomes ++ callbacks world.log }

/-- Takes the first callback that waits. -/
def take? (c : Consumer ρ) : Option (Callback × Consumer ρ) :=
  match c.outcomes with
  | [] => none
  | outcome :: rest => some (outcome, { c with outcomes := rest })

variable [Radio ρ]

/-- Handles the next event of the queue, if there is one. -/
def dispatch (c : Consumer ρ) : Consumer ρ :=
  match c.registry.dispatchNext? c.surroundings with
  | none => c
  | some (_, registry, world) => c.after registry world

/-- Serves the queue until a callback waits and takes it, all in less than `limit` turns. -/
def next (wait : World ρ → Option (World ρ)) :
    (limit : Nat) → Consumer ρ → Option Callback × Consumer ρ
  | 0, c => (none, c)
  | limit + 1, c =>
    match c.take? with
    | some (outcome, c) => (some outcome, c)
    | none =>
      match wait c.world with
      | none => (none, c)
      | some world => next wait limit (dispatch { c with world })

end Consumer

/-- How a run ended: what it printed, and the message of the error that ended it. -/
structure Ending (ρ : Type) where
  pages : List Page
  error : Option String
  consumer : Consumer ρ

namespace Ending

/-- The same ending with some pages in front. -/
def after {ρ : Type} (pages : List Page) (e : Ending ρ) : Ending ρ :=
  { e with pages := pages ++ e.pages }

end Ending

/-- How a scan is run and printed. -/
structure Job where
  iface : String
  settings : Settings
  json : Bool

namespace Job

variable {ρ : Type} [Radio ρ]

/-- Starts the single scan of a job. -/
def startSingle (job : Job) (c : Consumer ρ) : Except String (Consumer ρ) :=
  match c.registry.get job.iface with
  | .error e => .error e.message
  | .ok scanner =>
    match scanner.startSingle (some job.settings) (some handler) c.surroundings with
    | (true, scanner, world) => .ok (c.after (c.registry.register scanner) world)
    | (false, _, _) => .error s!"Scan on {job.iface} was refused"

/-- Starts the periodic scan of a job and answers its id. -/
def startCycles (job : Job) (c : Consumer ρ) : Except String (ScanId × Consumer ρ) :=
  match c.registry.get job.iface with
  | .error e => .error e.message
  | .ok scanner =>
    match scanner.startBackground (some job.settings) (some handler) c.surroundings with
    | (some id, scanner, world) => .ok (id, c.after (c.registry.register scanner) world)
    | (none, _, _) => .error s!"Batched scan on {job.iface} was refused"

/-- The ending of a run whose callbacks cease. -/
def stalled (c : Consumer ρ) : Ending ρ :=
  ⟨[], some "Dispatch queue closed", c⟩

/-- What is printed of a record before the results of its scan. -/
def recordPages (job : Job) (d : Detection) : List Page :=
  if job.json then [] else [.fullResult d]

/-- What is printed of the results of a cycle. -/
def cyclePages (job : Job) (cycle cycles : UInt32) (r : ResultSet) : List Page :=
  (if job.json then [] else [.heading cycle cycles]) ++ [.results job.json r]

/-- Takes up to `count` callbacks of a single scan and prints what they report. -/
def followSingle (job : Job) (wait : World ρ → Option (World ρ)) (limit : Nat) :
    (count : Nat) → Consumer ρ → Ending ρ
  | 0, c => stalled c
  | count + 1, c =>
    match c.next wait limit with
    | (none, c) => stalled c
    | (some (.fullResult d _), c) =>
      (followSingle job wait limit count c).after (job.recordPages d)
    | (some .statusAvailable, c) =>
      match c.registry.get job.iface with
      | .error e => ⟨[], some e.message, c⟩
      | .ok scanner => ⟨[.results job.json scanner.single.latest], none, c⟩
    | (some (.requestFailed reason), c) =>
      ⟨[], some s!"Scan on {job.iface} failed: {reason.display}", c⟩

/-- Runs a single scan. -/
def runSingle (job : Job) (wait : World ρ → Option (World ρ)) (limit count : Nat)
    (c : Consumer ρ) : Ending ρ :=
  match job.startSingle c with
  | .error message => ⟨[], some message, c⟩
  | .ok c => job.followSingle wait limit count c

/-- Takes up to `count` callbacks of a periodic scan and prints the results of each cycle that
completes, until `cycles` of them have, of which `completed` have already. -/
def followCycles (job : Job) (wait : World ρ → Option (World ρ)) (limit : Nat) (id : ScanId)
    (cycles : UInt32) : (count : Nat) → (completed : UInt32) → Consumer ρ → Ending ρ
  | 0, _, c => stalled c
  | count + 1, completed, c =>
    match c.next wait limit with
    | (none, c) => stalled c
    | (some (.fullResult ..), c) => followCycles job wait limit id cycles count completed c
    | (some .statusAvailable, c) =>
      match c.registry.get job.iface with
      | .error e => ⟨[], some e.message, c⟩
      | .ok scanner =>
        let completed := completed + 1
        let printed := (scanner.background.latest? id).elim [] (job.cyclePages completed cycles)
        if cycles ≤ completed then ⟨printed, none, c⟩
        else (followCycles job wait limit id cycles count completed c).after printed
    | (some (.requestFailed reason), c) =>
      ⟨[], some s!"Batched scan {id} failed: {reason.display}", c⟩

/-- Stops the periodic scan of a run that has ended. -/
def stopAfter (job : Job) (id : ScanId) (e : Ending ρ) : Ending ρ :=
  match e.consumer.registry.get job.iface with
  | .error _ => e
  | .ok scanner =>
    let (_, scanner, world) := scanner.stopBackground id e.consumer.world
    { e with
      consumer := { e.consumer with registry := e.consumer.registry.register scanner, world } }

/-- Runs a periodic scan for a number of cycles. -/
def runCycles (job : Job) (wait : World ρ → Option (World ρ)) (limit count : Nat)
    (cycles : UInt32) (c : Consumer ρ) : Ending ρ :=
  if cycles = 0 then ⟨[], some "--batched needs at least one cycle", c⟩
  else
    match job.startCycles c with
    | .error message => ⟨[], some message, c⟩
    | .ok (id, c) => job.stopAfter id (job.followCycles wait limit id cycles count 0 c)

end Job

end WirelessScan.Program
