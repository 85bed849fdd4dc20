import WirelessScan.Detection.Written

/-!
# What the program prints

The output of a run is a list of pages. A result set is printed as a table with one line for each
network, or as JSON.
-/

namespace WirelessScan

/-- A piece of output that is printed at once. -/
inductive Page where
  /-- A text as it is. -/
  | text (s : String)
  /-- A record that is reported before the results of its scan. -/
  | fullResult (detection : Detection)
  /-- The heading of the results of a cycle. -/
  | heading (cycle cycles : UInt32)
  | table (results : ResultSet)
  | json (results : ResultSet)
deriving DecidableEq, Repr

namespace Page

/-- The name of a network; one that does not announce its name is hidden. -/
def displayName (ssid : String) : String :=
  if ssid.isEmpty then "<hidden>" else ssid

/-- A text followed by blanks up to a width, which counts characters. -/
def padRight (width : Nat) (s : String) : String :=
  .ofList (s.toList ++ List.replicate (width - s.length) ' ')

/-- A text after blanks up to a width, which counts characters. -/
def padLeft (width : Nat) (s : String) : String :=
  .ofList (List.replicate (width - s.length) ' ' ++ s.toList)

/-- A line of the table. -/
def row (name bssid frequency signal : String) : String :=
  " ".intercalate
    [padRight 32 name, padRight 17 bssid, padLeft 6 frequency, padLeft 6 signal] ++ "\n"

/-- The line of a network. -/
def rowOf (d : Detection) : String :=
  row (displayName d.ssid) d.bssid (toString d.frequency) (toString d.signal)

/-- The text of a page. -/
def render : Page → String
  | text s => s
  | fullResult d => s!"+ {displayName d.ssid} {d.bssid} {d.frequency} MHz\n"
  | heading cycle cycles => s!"── cycle {cycle}/{cycles} ──\n"
  | table r =>
    row "SSID" "BSSID" "MHz" "dBm" ++ String.join (r.detections.map rowOf) ++
      s!"{r.size} networks\n"
  | json r => r.toJson.text .pretty ++ "\n"

/-- What is printed of pages, one after the other. -/
def output (pages : List Page) : String :=
  String.join (pages.map render)

/-- The page of a result set. -/
def results (json : Bool) (r : ResultSet) : Page :=
  if json then .json r else .table r

end Page

end WirelessScan
