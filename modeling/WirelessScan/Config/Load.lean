import WirelessScan.Config.Decode
import WirelessScan.FileTree
import WirelessScan.Text.Quoted

/-!
# Loading the configuration

The configuration comes from a file. If nothing exists at the path of the file, the directories
above it are made and the default text is written there first. The command line is applied on top.
-/

namespace WirelessScan.Config

/-- Why no configuration could be loaded. -/
inductive LoadError where
  | createDirectory (directory : String)
  | write (path : String)
  | read (path : String)
  | parse (path : String)
deriving DecidableEq, Repr

/-- The text of an error. -/
def LoadError.message : LoadError → String
  | createDirectory directory => s!"Failed to create config directory: {directory}"
  | write path => s!"Failed to write default config to {path}"
  | read path => s!"Failed to read config from {path}"
  | parse path =>
    s!"Failed to parse config at {path}.\n" ++
      "Delete the file to regenerate defaults, or run:\n" ++
      "  nexus-scan --print-default-config > " ++ Text.quoted path

/-- The path of the configuration file below the directory for configurations. -/
def defaultPath (configHome : String) : String :=
  configHome ++ "/nexus-scan/config.toml"

/-- Writes the default text to a path at which nothing exists, after making the directories above.
-/
def create (t : FileTree) (path : String) : Except LoadError Unit × FileTree :=
  let write (t : FileTree) : Except LoadError Unit × FileTree :=
    match t.writeText path defaultText with
    | .ok t => (.ok (), t)
    | .error _ => (.error (.write path), t)
  match Path.parent? path with
  | none => write t
  | some directory =>
    match t.createDirectories directory with
    | (.ok (), t) => write t
    | (.error _, t) => (.error (.createDirectory directory), t)

/-- Reads the configuration file at a path and applies the command line. -/
def readFrom (t : FileTree) (path : String) (line : CommandLine) : Except LoadError Config :=
  match t.readText path with
  | .error _ => .error (.read path)
  | .ok text =>
    match parse? text with
    | none => .error (.parse path)
    | some c => .ok (c.override line)

/-- Loads the configuration from a path, where the file is made if it is missing. -/
def loadFrom (t : FileTree) (path : String) (line : CommandLine) :
    Except LoadError Config × FileTree :=
  if t.pathExists path then (readFrom t path line, t)
  else
    match create t path with
    | (.error e, t) => (.error e, t)
    | (.ok (), t) => (readFrom t path line, t)

/-- The path of the configuration file: the one that the command line gives, else the default one.
-/
def path (configHome : String) (line : CommandLine) : String :=
  line.config.getD (defaultPath configHome)

/-- Loads the configuration for a command line. -/
def load (t : FileTree) (configHome : String) (line : CommandLine) :
    Except LoadError Config × FileTree :=
  loadFrom t (path configHome line) line

end WirelessScan.Config
