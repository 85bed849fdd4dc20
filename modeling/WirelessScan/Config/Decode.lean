import WirelessScan.Config
import WirelessScan.Toml.Document

/-!
# Configuration texts

A configuration is read out of a TOML text. Sections and keys that are missing keep their
defaults, and unknown ones are ignored. A value of the wrong type or out of range refuses the text
as a whole.

A section is a table, or an array whose items are the fields in the order of declaration.
-/

namespace WirelessScan.Config

open Toml (Value)

/-- The value of the field of a section that has a name and a position. -/
def field? (part : Value) (position : Nat) (name : String) : Option Value :=
  match part with
  | .table entries => entries.lookup name
  | .array items => items[position]?
  | _ => none

/-- A field of a section, or its default if the section leaves it out. -/
def fieldOr {α : Type} (part : Value) (position : Nat) (name : String)
    (decode : Value → Option α) (default : α) : Option α :=
  match field? part position name with
  | none => some default
  | some v => decode v

/-! ## Values -/

/-- A text. -/
def decodeString : Value → Option String
  | .string s => some s
  | _ => none

/-- A switch. -/
def decodeBool : Value → Option Bool
  | .boolean b => some b
  | _ => none

/-- A number below a bound. -/
def decodeBelow (bound : Nat) : Value → Option Nat
  | .integer n => if 0 ≤ n ∧ n < bound then some n.toNat else none
  | _ => none

/-- A number of 32 bits. -/
def decodeUInt32 (v : Value) : Option UInt32 :=
  (decodeBelow UInt32.size v).map UInt32.ofNat

/-- A number of 64 bits. -/
def decodeUInt64 (v : Value) : Option UInt64 :=
  (decodeBelow UInt64.size v).map UInt64.ofNat

/-- A list. -/
def decodeList {α : Type} (decode : Value → Option α) : Value → Option (List α)
  | .array items => items.mapM decode
  | _ => none

/-- A member of a kind: its name, or a table with the name as its only key, whose value is empty. -/
def decodeKind {α : Type} [Named α] : Value → Option α
  | .string name => Named.ofName? name
  | .table [(name, .table [])] => Named.ofName? name
  | .table [(name, .array [])] => Named.ofName? name
  | _ => none

/-! ## Sections -/

/-- Whether a value can be a section at all. A date or time is taken for a table without any of the
fields. -/
def isSection : Value → Bool
  | .table _ | .array _ | .datetime => true
  | _ => false

/-- Decodes the section on the program as a whole. -/
def decodeGeneral (v : Value) : Option General := do
  guard (isSection v)
  let missing : General := {}
  return {
    interface := ← fieldOr v 0 "interface" decodeString missing.interface
    logLevel := ← fieldOr v 1 "log_level" decodeString missing.logLevel
    logFile := ← fieldOr v 2 "log_file" decodeString missing.logFile }

/-- Decodes the section on what is scanned. -/
def decodeScan (v : Value) : Option Scan := do
  guard (isSection v)
  let missing : Scan := {}
  return {
    timeout := ← fieldOr v 0 "timeout_ms" decodeUInt64 missing.timeout
    scanType := ← fieldOr v 1 "scan_type" decodeKind missing.scanType
    band := ← fieldOr v 2 "band" (fun v => (decodeKind v).map some) missing.band
    channels := ← fieldOr v 3 "channels" (decodeList decodeUInt32) missing.channels
    hidden := ← fieldOr v 4 "hidden_networks" (decodeList decodeString) missing.hidden
    fullResults := ← fieldOr v 5 "full_results" decodeBool missing.fullResults
    neighborReports := ← fieldOr v 6 "enable_6ghz_rnr" decodeBool missing.neighborReports
    basePeriod := ← fieldOr v 7 "base_period_ms" decodeUInt32 missing.basePeriod }

/-- Decodes the section on the replay radio. -/
def decodeReplay (v : Value) : Option Replay := do
  guard (isSection v)
  let missing : Replay := {}
  return {
    fixture := ← fieldOr v 0 "fixture" decodeString missing.fixture
    outcome := ← fieldOr v 1 "outcome" decodeKind missing.outcome
    delay := ← fieldOr v 2 "completion_delay_ms" decodeUInt64 missing.delay
    capacity := ← fieldOr v 3 "max_scan_ssids" decodeUInt64 missing.capacity }

/-- Decodes a whole document. -/
def decode (entries : Toml.Entries) : Option Config := do
  let root := Value.table entries
  return {
    general := ← fieldOr root 0 "general" decodeGeneral {}
    scan := ← fieldOr root 1 "scan" decodeScan {}
    replay := ← fieldOr root 2 "replay" decodeReplay {} }

/-- Reads a configuration text. -/
def parse? (text : String) : Option Config := do
  decode (← Toml.parse text)

end WirelessScan.Config
