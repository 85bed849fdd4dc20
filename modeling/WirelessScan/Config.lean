import WirelessScan.CommandLine
import WirelessScan.Scanner.Single
import WirelessScan.Text.Blank

/-!
# Configuration

What a run of the program is configured with, in three sections. The defaults of the fields are
those of the default configuration text; the command line overrides single fields on top of a
file.
-/

namespace WirelessScan

namespace Config

/-- What concerns the program as a whole. -/
structure General where
  interface : String := "wlan0"
  logLevel : String := "info"
  /-- The path of the log file; blank for none. -/
  logFile : String := ""
deriving DecidableEq, Repr

/-- What is scanned. -/
structure Scan where
  /-- Milliseconds after which the watchdog of a scan expires. -/
  timeout : UInt64 := 15000
  scanType : ScanType := .lowLatency
  band : Option Band := some .ghz24And5
  channels : List UInt32 := []
  hidden : List String := []
  fullResults : Bool := false
  neighborReports : Bool := false
  /-- Milliseconds between two cycles of a periodic scan. -/
  basePeriod : UInt32 := 10000
deriving DecidableEq, Repr

/-- How the radio replays. -/
structure Replay where
  /-- The path of a fixture; blank for the built-in one. -/
  fixture : String := ""
  outcome : WirelessScan.Replay.Outcome := .results
  /-- Milliseconds from admission to the outcome. -/
  delay : UInt64 := 300
  /-- How many hidden networks the radio probes for in one scan. -/
  capacity : UInt64 := 20
deriving DecidableEq, Repr

end Config

/-- A configuration. -/
structure Config where
  general : Config.General := {}
  scan : Config.Scan := {}
  replay : Config.Replay := {}
deriving DecidableEq, Repr

namespace Config

instance : Inhabited Config := ⟨{}⟩

/-- The default configuration as text. -/
def defaultText : String := "# nexus-scan configuration
# Every value here can be overridden from the command line.

[general]
# Interface the scanner is bound to
interface = \"wlan0\"
# trace, debug, info, warn, error (RUST_LOG takes precedence)
log_level = \"info\"
# Log file path; empty logs to stderr
log_file = \"\"

[scan]
# Watchdog for every scan, in milliseconds
timeout_ms = 15000
# low-latency, low-power, high-accuracy
scan_type = \"low-latency\"
# ghz24, ghz5, ghz5-dfs-only, ghz5-with-dfs, ghz24-and5, ghz24-and5-with-dfs, ghz6, ghz60, all
band = \"ghz24-and5\"
# Explicit channels (numbers or MHz) scanned in addition to the band
channels = []
# SSIDs to probe for explicitly
hidden_networks = []
# Report every result as it is reconciled
full_results = false
enable_6ghz_rnr = false
# Period of batched scans, in milliseconds
base_period_ms = 10000

[replay]
# JSON fixture of networks; empty uses the built-in set
fixture = \"\"
# results, failure, silent, reject
outcome = \"results\"
# Delay before the replayed completion arrives, in milliseconds
completion_delay_ms = 300
# Hidden SSIDs the replayed radio can probe for in one scan
max_scan_ssids = 20
"

/-- The interface to scan on. -/
def interface (c : Config) : String := Text.trim c.general.interface

/-- A path that may be left blank. -/
def pathOrNone (s : String) : Option String :=
  let path := Text.trim s
  if path.isEmpty then none else some path

/-- The path of the log file. -/
def logFile? (c : Config) : Option String := pathOrNone c.general.logFile

/-- The path of the fixture. -/
def fixture? (c : Config) : Option String := pathOrNone c.replay.fixture

/-- The scan that is configured: a bucket for the band and one for the explicit channels, as far as
they are given, both with the base period. -/
def settings (c : Config) : Settings :=
  let flags : ReportFlags :=
    if c.scan.fullResults then .union .afterEachScan .fullScanResult else .afterEachScan
  let bucket (target : Target) : Bucket := { period := c.scan.basePeriod, flags, target }
  { scanType := c.scan.scanType
    basePeriod := c.scan.basePeriod
    buckets := (c.scan.band.map fun b => bucket (.band b)).toList ++
      (if c.scan.channels.isEmpty then [] else [bucket (.channels c.scan.channels)])
    hidden := c.scan.hidden
    neighborReports := c.scan.neighborReports }

/-- The behaviour of the replay radio. -/
def replayOptions (c : Config) : WirelessScan.Replay.Options where
  outcome := c.replay.outcome
  reason := .unspecified
  delay := c.replay.delay
  capacity := c.replay.capacity.toNat

/-- The fixed parts of the scanner. -/
def setup (c : Config) : Setup where
  iface := c.interface
  table := .standard
  capacity := c.replay.capacity.toNat
  timeout := c.scan.timeout

/-- A list of the command line, if one is given. -/
def orList {α : Type} (given : List α) (other : List α) : List α :=
  if given.isEmpty then other else given

/-- The configuration with what the command line gives in place of it. -/
def override (c : Config) (line : CommandLine) : Config where
  general :=
    { c.general with
      interface := line.interface.getD c.general.interface
      logLevel := line.logLevel.getD c.general.logLevel }
  scan :=
    { c.scan with
      timeout := line.timeout.getD c.scan.timeout
      scanType := line.scanType.getD c.scan.scanType
      band := line.band.or c.scan.band
      channels := orList line.channels c.scan.channels
      hidden := orList line.hidden c.scan.hidden
      fullResults := line.fullResults || c.scan.fullResults
      neighborReports := line.neighborReports || c.scan.neighborReports }
  replay :=
    { c.replay with
      fixture := line.fixture.getD c.replay.fixture
      outcome := line.outcome.getD c.replay.outcome }

end Config

end WirelessScan
