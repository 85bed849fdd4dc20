import WirelessScan.Config.Load
import WirelessScan.Program.Consumer
import WirelessScan.Replay.Fixture

/-!
# The program

A run reads the command line, loads the configuration, makes sure that the log file is there, sets
up one scanner over the replay radio and runs a single scan or a number of cycles. It is a
function from the words of the command line and the files to an exit code, the pages that are
printed, an error and the files afterwards. Time is that of the timers: nothing waits in earnest.
-/

namespace WirelessScan.Program

/-- What a run finds, apart from the files. -/
structure Environment where
  /-- The directory for configurations. -/
  configHome : String
  /-- The reading of the clock at the beginning, in nanoseconds. -/
  clock : UInt64

/-- The directory for configurations: the one that is set for it if that is a path from the root,
else a hidden one in the home directory, else the working directory. -/
def configHome (configured home : Option String) : String :=
  match configured.filter Path.isAbsolute, home with
  | some directory, _ => directory
  | none, some home => home ++ "/.config"
  | none, none => "."

/-- What a run leaves. -/
structure Outcome where
  exitCode : UInt32
  pages : List Page
  /-- The message of the error that ended the run. -/
  error : Option String
  files : FileTree

/-- The name and the version of the program. -/
def version : String := "nexus-scan 0.1.0\n"

/-- The help text. -/
def help : String :=
  "nexus-scan: run wireless scans through the scan orchestration core\n\n" ++
  "Usage: nexus-scan [OPTIONS]\n\n" ++
  "Options:\n" ++
  "  -i, --interface <INTERFACE>    Interface to scan on (overrides config file)\n" ++
  "  -l, --log-level <LOG_LEVEL>    Log level filter (overrides config file)\n" ++
  "  -c, --config <CONFIG>          Path to a custom config file\n" ++
  "      --print-default-config     Print the default config to stdout and exit\n" ++
  "  -b, --band <BAND>              Band to scan [possible values: " ++
    ", ".intercalate ((Named.members (α := Band)).map Band.name) ++ "]\n" ++
  "      --channel <CHANNELS>       Extra channel to scan, by number or MHz (repeatable)\n" ++
  "      --hidden <HIDDEN_NETWORKS> Hidden SSID to probe for (repeatable)\n" ++
  "      --scan-type <SCAN_TYPE>    Scan type [possible values: " ++
    ", ".intercalate ((Named.members (α := ScanType)).map ScanType.name) ++ "]\n" ++
  "      --full-results             Print each result as it is reported\n" ++
  "      --rnr                      Enable 6 GHz reduced neighbour report discovery\n" ++
  "      --timeout-ms <TIMEOUT_MS>  Scan timeout in milliseconds\n" ++
  "      --fixture <FIXTURE>        JSON fixture of networks for the replay driver\n" ++
  "      --outcome <OUTCOME>        How the replay driver answers [possible values: " ++
    ", ".intercalate ((Named.members (α := Replay.Outcome)).map Replay.Outcome.name) ++ "]\n" ++
  "      --batched <BATCHED>        Run a batched scan for this many cycles instead of a single " ++
    "scan\n" ++
  "      --json                     Print results as JSON\n" ++
  "  -h, --help                     Print help\n" ++
  "  -V, --version                  Print version\n"

/-- Waits for what is due next, unless an event is there already. -/
def waitForNext (w : World Replay) : Option (World Replay) :=
  if w.queue.events.isEmpty then w.nextDue?.map w.meet else some w

/-- The consumer of a run: one scanner over a replay radio. -/
def consumer (env : Environment) (c : Config) (networks : List Replay.Network) :
    Consumer Replay where
  registry := Registry.register ∅ { setup := c.setup }
  world := { radio := { networks, options := c.replayOptions }, clock := env.clock }

/-- A number of turns within which a callback comes: a cycle is admitted at the next tick at the
latest, and then ends at the latest when its watchdog expires. -/
def turnLimit (c : Config) : Nat :=
  2 * (c.scan.timeout.toNat / c.scan.basePeriod.toNat + 8)

/-- A number of callbacks within which so many scans end. -/
def callbackLimit (scans : Nat) (networks : List Replay.Network) : Nat :=
  (scans + 1) * (networks.length + 1)

/-- Scans and prints. -/
def scan (env : Environment) (c : Config) (line : CommandLine) (networks : List Replay.Network) :
    Ending Replay :=
  let job : Job := { iface := c.interface, settings := c.settings, json := line.json }
  let start := consumer env c networks
  match line.cycles with
  | none => job.runSingle waitForNext (turnLimit c) (callbackLimit 1 networks) start
  | some cycles =>
    job.runCycles waitForNext (turnLimit c) (callbackLimit cycles.toNat networks) cycles start

/-- Makes sure that the log file is there, if one is configured. -/
def openLog (files : FileTree) (c : Config) : Except String FileTree :=
  match c.logFile? with
  | none => .ok files
  | some path =>
    match files.touch path with
    | .ok files => .ok files
    | .error _ => .error s!"Failed to open log file {path}"

/-- The networks to replay. -/
def loadNetworks (files : FileTree) (c : Config) : Except String (List Replay.Network) :=
  match c.fixture? with
  | none => .ok Replay.Fixture.builtIn
  | some path =>
    match Replay.Fixture.load files path with
    | .ok networks => .ok networks
    | .error _ => .error s!"Failed to load fixture {path}"

/-- Runs with a configuration. -/
def runWith (env : Environment) (c : Config) (line : CommandLine) (files : FileTree) : Outcome :=
  match openLog files c with
  | .error e => ⟨1, [], some e, files⟩
  | .ok files =>
    match loadNetworks files c with
    | .error e => ⟨1, [], some e, files⟩
    | .ok networks =>
      let ending := scan env c line networks
      ⟨if ending.error.isSome then 1 else 0, ending.pages, ending.error, files⟩

/-- Runs the program. -/
def run (env : Environment) (words : List String) (files : FileTree) : Outcome :=
  match CommandLine.parse words with
  | .error .displayHelp => ⟨0, [.text help], none, files⟩
  | .error .displayVersion => ⟨0, [.text version], none, files⟩
  | .error _ => ⟨2, [], none, files⟩
  | .ok line =>
    if line.printDefaultConfig then ⟨0, [.text Config.defaultText], none, files⟩
    else
      match Config.load files env.configHome line with
      | (.error e, files) => ⟨1, [], some e.message, files⟩
      | (.ok c, files) => runWith env c line files

/-- The paths of the files that a run with these words looks at, given those at which it finds its
configuration. -/
def pathsNeeded (env : Environment) (words : List String) (files : FileTree) : List String :=
  match CommandLine.parse words with
  | .error _ => []
  | .ok line =>
    match Config.load files env.configHome line with
    | (.error _, _) => [Config.path env.configHome line]
    | (.ok c, _) => Config.path env.configHome line :: c.logFile?.toList ++ c.fixture?.toList

end WirelessScan.Program
