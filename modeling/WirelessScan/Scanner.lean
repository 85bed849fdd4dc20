import WirelessScan.Scanner.Background

/-!
# Scanners

The scanner of an interface joins its single scan and its periodic scans. Calls start and stop
scans; everything else that changes a scanner is an event handed to `Scanner.handle`.
-/

namespace WirelessScan

/-- The scanner of one interface. -/
structure Scanner where
  setup : Setup
  single : Single := {}
  background : Background := {}

namespace Scanner

variable {ρ : Type}

/-- The interface of a scanner. -/
def iface (s : Scanner) : String := s.setup.iface

/-- Starts a single scan; see `Single.start`. -/
def startSingle [Radio ρ] (s : Scanner) (settings : Option Settings) (handler : Option Handler)
    (w : World ρ) : Bool × Scanner × World ρ :=
  let (accepted, single, w) := s.single.start s.setup settings handler w
  (accepted, { s with single }, w)

/-- Starts a periodic scan and answers its id; see `Background.start`. -/
def startBackground [Radio ρ] (s : Scanner) (settings : Option Settings)
    (handler : Option Handler) (w : World ρ) : Option ScanId × Scanner × World ρ :=
  let (id, background, w) := s.background.start s.setup settings handler w
  (id, { s with background }, w)

/-- Stops a periodic scan; see `Background.stop`. -/
def stopBackground (s : Scanner) (id : ScanId) (w : World ρ) : Bool × Scanner × World ρ :=
  let (found, background, w) := s.background.stop id w
  (found, { s with background }, w)

/-- Whether a request waits for the radio. -/
def isWaiting (s : Scanner) : Bool :=
  s.single.inFlight || s.background.hasPending

/-- The radio has results. They are fetched once for all waiting requests, and not at all if none
waits; the single scan completes before the periodic ones. -/
def handleResultsBy [Radio ρ] (call : World.Caller ρ) (s : Scanner) (w : World ρ) :
    Scanner × World ρ :=
  if s.isWaiting then
    let (raw, w) := w.fetch s.iface
    let (single, w) := s.single.completeBy call raw w
    let (background, w) := s.background.completeBy call raw w
    ({ s with single, background }, w)
  else (s, w)

/-- The radio has results, and the calls are recorded. -/
def handleResults [Radio ρ] (s : Scanner) (w : World ρ) : Scanner × World ρ :=
  s.handleResultsBy World.call w

/-- The radio gave up. -/
def handleFailure (s : Scanner) (reason : Reason) (w : World ρ) : Scanner × World ρ :=
  let (single, w) := s.single.fail reason w
  let (background, w) := s.background.fail reason w
  ({ s with single, background }, w)

/-- An alarm expired. -/
def handleTimer [Radio ρ] (s : Scanner) (tag : TimerTag) (handle : TimerHandle) (w : World ρ) :
    Scanner × World ρ :=
  match tag with
  | .singleTimeout _ =>
    let (single, w) := s.single.expire handle w
    ({ s with single }, w)
  | .period _ id =>
    let (background, w) := s.background.tick s.setup id handle w
    ({ s with background }, w)
  | .cycleTimeout _ id =>
    let (background, w) := s.background.expire id handle w
    ({ s with background }, w)

/-- Handles an event. An event of another interface is ignored. -/
def handle [Radio ρ] (s : Scanner) (e : Event) (w : World ρ) : Scanner × World ρ :=
  if e.iface?.all (· = s.iface) then
    match e with
    | .resultsAvailable _ => s.handleResults w
    | .scanFailed _ reason => s.handleFailure reason w
    | .timerFired tag handle => s.handleTimer tag handle w
    | .admissionRejected _ handler reason => (s, w.notify handler (.requestFailed reason))
    | .cycleRejected _ id reason => (s, s.background.rejectCycle id reason w)
    | .shutdown => (s, w)
  else (s, w)

end Scanner

end WirelessScan
