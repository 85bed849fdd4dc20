import Mathlib
import WirelessScan.Config.Load
import WirelessScan.Proofs.Decoding

/-!
# Layers of the configuration

A configuration has fifteen keys in three sections, and three layers give a key its value: the
command line, the file and the defaults. `Key` lists the keys with the types of their values, and
says for each where it stands in the file, how it is decoded, and what the command line has for it.
Every key takes its value from the first layer that has one, whatever the layers say of the other
keys (`Layered`).
-/

namespace WirelessScan.Config

open Toml (Value)

/-! ## Keys -/

/-- A section of the configuration. -/
inductive Section where
  | general
  | scan
  | replay
deriving DecidableEq, Repr

/-- The written name of a section. -/
def Section.name : Section → String
  | general => "general"
  | scan => "scan"
  | replay => "replay"

/-- A key of the configuration, with the type of its values. -/
inductive Key : Type → Type where
  | interface : Key String
  | logLevel : Key String
  | logFile : Key String
  | timeout : Key UInt64
  | scanType : Key ScanType
  | band : Key (Option Band)
  | channels : Key (List UInt32)
  | hidden : Key (List String)
  | fullResults : Key Bool
  | neighborReports : Key Bool
  | basePeriod : Key UInt32
  | fixture : Key String
  | outcome : Key WirelessScan.Replay.Outcome
  | delay : Key UInt64
  | capacity : Key UInt64

/-- What there is to know about a key. -/
structure KeyFacts (α : Type) where
  part : Section
  /-- The place of the key in a section that is written as an array. -/
  position : Nat
  name : String
  decode : Value → Option α
  /-- The value in a configuration. -/
  get : Config → α
  /-- The value on a command line, if it gives one. -/
  given? : CommandLine → Option α

/-- A list that is given if it has a member. -/
def givenList {α : Type} (l : List α) : Option (List α) :=
  if l.isEmpty then none else some l

/-- A switch that is given if it is on. -/
def givenSwitch (on : Bool) : Option Bool :=
  if on then some true else none

namespace Key

/-- The table of the keys. -/
def facts : {α : Type} → Key α → KeyFacts α
  | _, interface => ⟨.general, 0, "interface", decodeString, (·.general.interface), (·.interface)⟩
  | _, logLevel => ⟨.general, 1, "log_level", decodeString, (·.general.logLevel), (·.logLevel)⟩
  | _, logFile => ⟨.general, 2, "log_file", decodeString, (·.general.logFile), fun _ => none⟩
  | _, timeout => ⟨.scan, 0, "timeout_ms", decodeUInt64, (·.scan.timeout), (·.timeout)⟩
  | _, scanType => ⟨.scan, 1, "scan_type", decodeKind, (·.scan.scanType), (·.scanType)⟩
  | _, band =>
      ⟨.scan, 2, "band", fun v => (decodeKind v).map some, (·.scan.band), (·.band.map some)⟩
  | _, channels =>
      ⟨.scan, 3, "channels", decodeList decodeUInt32, (·.scan.channels), (givenList ·.channels)⟩
  | _, hidden =>
      ⟨.scan, 4, "hidden_networks", decodeList decodeString, (·.scan.hidden), (givenList ·.hidden)⟩
  | _, fullResults =>
      ⟨.scan, 5, "full_results", decodeBool, (·.scan.fullResults), (givenSwitch ·.fullResults)⟩
  | _, neighborReports =>
      ⟨.scan, 6, "enable_6ghz_rnr", decodeBool, (·.scan.neighborReports),
        (givenSwitch ·.neighborReports)⟩
  | _, basePeriod =>
      ⟨.scan, 7, "base_period_ms", decodeUInt32, (·.scan.basePeriod), fun _ => none⟩
  | _, fixture => ⟨.replay, 0, "fixture", decodeString, (·.replay.fixture), (·.fixture)⟩
  | _, outcome => ⟨.replay, 1, "outcome", decodeKind, (·.replay.outcome), (·.outcome)⟩
  | _, delay =>
      ⟨.replay, 2, "completion_delay_ms", decodeUInt64, (·.replay.delay), fun _ => none⟩
  | _, capacity =>
      ⟨.replay, 3, "max_scan_ssids", decodeUInt64, (·.replay.capacity), fun _ => none⟩

variable {α : Type} (k : Key α)

/-- The value of a key in a configuration. -/
def get (c : Config) : α := k.facts.get c

/-- The value of a key on a command line, if it gives one. -/
def given? (line : CommandLine) : Option α := k.facts.given? line

/-- What a file says for a key, if the key is present. -/
def present? (entries : Toml.Entries) : Option Value :=
  (entries.lookup k.facts.part.name).bind fun part => field? part k.facts.position k.facts.name

/-- The value that a file gives to a key. -/
def written? (entries : Toml.Entries) : Option α :=
  (k.present? entries).bind k.facts.decode

/-- The value of a key in a file, or the default if the key is missing. Nothing if the key is there
and its value is none of the type. -/
def value? (entries : Toml.Entries) : Option α :=
  match k.present? entries with
  | none => some (k.get {})
  | some v => k.facts.decode v

/-- The value of a key in its section, or the default if the section leaves it out. -/
def valueIn? (part : Value) : Option α :=
  fieldOr part k.facts.position k.facts.name k.facts.decode (k.get {})

end Key

/-! ## What a file says -/

namespace Key

/-- What stands in a file for a value of a key. -/
def Denotes : {α : Type} → Key α → Value → α → Prop
  | _, interface, v, s | _, logLevel, v, s | _, logFile, v, s | _, fixture, v, s => v = .string s
  | _, timeout, v, n | _, delay, v, n | _, capacity, v, n => v = .integer n.toNat
  | _, basePeriod, v, n => v = .integer n.toNat
  | _, fullResults, v, on | _, neighborReports, v, on => v = .boolean on
  | _, channels, v, ns => v = .array (ns.map fun n => .integer n.toNat)
  | _, hidden, v, ssids => v = .array (ssids.map .string)
  | _, scanType, v, a => v ∈ spellings a.name
  | _, outcome, v, a => v ∈ spellings a.name
  | _, band, v, b => ∃ a, b = some a ∧ v ∈ spellings a.name

variable {α : Type} (k : Key α)

/-- The value of a key decodes to what it stands for, and any other value is refused. -/
theorem decode_eq_some_iff {v : Value} {a : α} : k.facts.decode v = some a ↔ k.Denotes v a := by
  cases k with
  | interface | logLevel | logFile | fixture => exact decodeString_eq_some_iff
  | timeout | delay | capacity => exact decodeUInt64_eq_some_iff
  | basePeriod => exact decodeUInt32_eq_some_iff
  | fullResults | neighborReports => exact decodeBool_eq_some_iff
  | channels => exact decodeList_eq_some_iff fun _ _ => decodeUInt32_eq_some_iff
  | hidden => exact decodeList_eq_some_iff fun _ _ => decodeString_eq_some_iff
  | scanType => exact decodeKind_eq_some_iff Named.lawful_scanType
  | outcome => exact decodeKind_eq_some_iff Named.lawful_outcome
  | band =>
      simp only [facts, Option.map_eq_some_iff, decodeKind_eq_some_iff Named.lawful_band, Denotes]
      constructor
      · rintro ⟨b, hb, rfl⟩
        exact ⟨b, rfl, hb⟩
      · rintro ⟨b, rfl, hb⟩
        exact ⟨b, hb, rfl⟩

/-- A file gives a key a value if the key is present and stands for that value. -/
theorem written?_eq_some_iff {entries : Toml.Entries} {a : α} :
    k.written? entries = some a ↔ ∃ v, k.present? entries = some v ∧ k.Denotes v a := by
  simp only [written?, Option.bind_eq_some_iff, decode_eq_some_iff]

end Key

/-! ## Reading a file -/

/-- A section is left out, or it is a section and each of its keys is left out or decodes to its
value in a configuration. -/
structure Section.Reads (s : Section) (entries : Toml.Entries) (c : Config) : Prop where
  isSection : ∀ part, entries.lookup s.name = some part → isSection part = true
  value : ∀ (α : Type) (k : Key α), k.facts.part = s → k.value? entries = some (k.get c)

theorem decodeGeneral_eq_some_iff {v : Value} {g : General} : decodeGeneral v = some g ↔
    isSection v = true ∧
      fieldOr v 0 "interface" decodeString "wlan0" = some g.interface ∧
      fieldOr v 1 "log_level" decodeString "info" = some g.logLevel ∧
      fieldOr v 2 "log_file" decodeString "" = some g.logFile := by
  constructor
  · intro h
    simp only [decodeGeneral, Option.bind_eq_bind, Option.bind_eq_some_iff, Option.guard_eq_some',
      Option.pure_def, Option.some.injEq] at h
    obtain ⟨-, hv, _, h0, _, h1, _, h2, rfl⟩ := h
    exact ⟨hv, h0, h1, h2⟩
  · rintro ⟨hv, h0, h1, h2⟩
    simp [decodeGeneral, guard, hv, h0, h1, h2]

theorem decodeScan_eq_some_iff {v : Value} {s : Scan} : decodeScan v = some s ↔
    isSection v = true ∧
      fieldOr v 0 "timeout_ms" decodeUInt64 15000 = some s.timeout ∧
      fieldOr v 1 "scan_type" decodeKind .lowLatency = some s.scanType ∧
      fieldOr v 2 "band" (fun v => (decodeKind v).map some) (some .ghz24And5) = some s.band ∧
      fieldOr v 3 "channels" (decodeList decodeUInt32) [] = some s.channels ∧
      fieldOr v 4 "hidden_networks" (decodeList decodeString) [] = some s.hidden ∧
      fieldOr v 5 "full_results" decodeBool false = some s.fullResults ∧
      fieldOr v 6 "enable_6ghz_rnr" decodeBool false = some s.neighborReports ∧
      fieldOr v 7 "base_period_ms" decodeUInt32 10000 = some s.basePeriod := by
  constructor
  · intro h
    simp only [decodeScan, Option.bind_eq_bind, Option.bind_eq_some_iff, Option.guard_eq_some',
      Option.pure_def, Option.some.injEq] at h
    obtain ⟨-, hv, _, h0, _, h1, _, h2, _, h3, _, h4, _, h5, _, h6, _, h7, rfl⟩ := h
    exact ⟨hv, h0, h1, h2, h3, h4, h5, h6, h7⟩
  · rintro ⟨hv, h0, h1, h2, h3, h4, h5, h6, h7⟩
    simp [decodeScan, guard, hv, h0, h1, h2, h3, h4, h5, h6, h7]

theorem decodeReplay_eq_some_iff {v : Value} {r : Replay} : decodeReplay v = some r ↔
    isSection v = true ∧
      fieldOr v 0 "fixture" decodeString "" = some r.fixture ∧
      fieldOr v 1 "outcome" decodeKind .results = some r.outcome ∧
      fieldOr v 2 "completion_delay_ms" decodeUInt64 300 = some r.delay ∧
      fieldOr v 3 "max_scan_ssids" decodeUInt64 20 = some r.capacity := by
  constructor
  · intro h
    simp only [decodeReplay, Option.bind_eq_bind, Option.bind_eq_some_iff, Option.guard_eq_some',
      Option.pure_def, Option.some.injEq] at h
    obtain ⟨-, hv, _, h0, _, h1, _, h2, _, h3, rfl⟩ := h
    exact ⟨hv, h0, h1, h2, h3⟩
  · rintro ⟨hv, h0, h1, h2, h3⟩
    simp [decodeReplay, guard, hv, h0, h1, h2, h3]

section

variable {entries : Toml.Entries} {c : Config}

/-- A section is decoded by its keys, if it is there. If it is left out, the keys have their
defaults. -/
theorem Section.reads_iff {σ : Type} (s : Section) {position : Nat}
    {decodeSection : Value → Option σ} (part : Config → σ)
    (hdecode : ∀ v, decodeSection v = some (part c) ↔ Config.isSection v = true ∧
      ∀ (α : Type) (k : Key α), k.facts.part = s → k.valueIn? v = some (k.get c))
    (hempty : decodeSection (.table []) = some (part {})) :
    fieldOr (.table entries) position s.name decodeSection (part {}) = some (part c) ↔
      s.Reads entries c := by
  cases hpart : entries.lookup s.name with
  | none =>
      have hvalue : ∀ (α : Type) (k : Key α), k.facts.part = s →
          k.value? entries = some (k.get {}) := by
        intro α k hk
        simp [Key.value?, Key.present?, hk, hpart]
      simp only [fieldOr, field?, hpart]
      -- The keys that are left out have the values that an empty section gives them.
      rw [← hempty, hdecode]
      constructor
      · rintro ⟨-, h⟩
        exact ⟨by simp [hpart], fun α k hk => (hvalue α k hk).trans (h α k hk)⟩
      · intro h
        exact ⟨rfl, fun α k hk => (hvalue α k hk).symm.trans (h.value α k hk)⟩
  | some v =>
      have hvalue : ∀ (α : Type) (k : Key α), k.facts.part = s →
          k.value? entries = k.valueIn? v := by
        intro α k hk
        simp only [Key.value?, Key.present?, hk, hpart, Option.bind_some]
        rfl
      simp only [fieldOr, field?, hpart, hdecode]
      constructor
      · rintro ⟨hv, h⟩
        exact ⟨by simp [hpart, hv], fun α k hk => (hvalue α k hk).trans (h α k hk)⟩
      · intro h
        exact ⟨h.isSection v hpart, fun α k hk => (hvalue α k hk).symm.trans (h.value α k hk)⟩

theorem general_reads_iff :
    fieldOr (.table entries) 0 "general" decodeGeneral {} = some c.general ↔
      Section.general.Reads entries c := by
  refine Section.reads_iff .general Config.general (fun v => ?_) rfl
  rw [decodeGeneral_eq_some_iff]
  refine and_congr_right fun _ => ⟨?_, fun h => ?_⟩
  · rintro ⟨h0, h1, h2⟩ α k hk
    cases k with
    | interface => exact h0
    | logLevel => exact h1
    | logFile => exact h2
    | _ => cases hk
  · exact ⟨h _ .interface rfl, h _ .logLevel rfl, h _ .logFile rfl⟩

theorem scan_reads_iff :
    fieldOr (.table entries) 1 "scan" decodeScan {} = some c.scan ↔
      Section.scan.Reads entries c := by
  refine Section.reads_iff .scan Config.scan (fun v => ?_) rfl
  rw [decodeScan_eq_some_iff]
  refine and_congr_right fun _ => ⟨?_, fun h => ?_⟩
  · rintro ⟨h0, h1, h2, h3, h4, h5, h6, h7⟩ α k hk
    cases k with
    | timeout => exact h0
    | scanType => exact h1
    | band => exact h2
    | channels => exact h3
    | hidden => exact h4
    | fullResults => exact h5
    | neighborReports => exact h6
    | basePeriod => exact h7
    | _ => cases hk
  · exact ⟨h _ .timeout rfl, h _ .scanType rfl, h _ .band rfl, h _ .channels rfl, h _ .hidden rfl,
      h _ .fullResults rfl, h _ .neighborReports rfl, h _ .basePeriod rfl⟩

theorem replay_reads_iff :
    fieldOr (.table entries) 2 "replay" decodeReplay {} = some c.replay ↔
      Section.replay.Reads entries c := by
  refine Section.reads_iff .replay Config.replay (fun v => ?_) rfl
  rw [decodeReplay_eq_some_iff]
  refine and_congr_right fun _ => ⟨?_, fun h => ?_⟩
  · rintro ⟨h0, h1, h2, h3⟩ α k hk
    cases k with
    | fixture => exact h0
    | outcome => exact h1
    | delay => exact h2
    | capacity => exact h3
    | _ => cases hk
  · exact ⟨h _ .fixture rfl, h _ .outcome rfl, h _ .delay rfl, h _ .capacity rfl⟩

/-- A file is decoded key by key. -/
theorem decode_eq_some_iff : decode entries = some c ↔ ∀ s : Section, s.Reads entries c := by
  have hparts : decode entries = some c ↔
      fieldOr (.table entries) 0 "general" decodeGeneral {} = some c.general ∧
        fieldOr (.table entries) 1 "scan" decodeScan {} = some c.scan ∧
          fieldOr (.table entries) 2 "replay" decodeReplay {} = some c.replay := by
    constructor
    · intro h
      simp only [decode, Option.bind_eq_bind, Option.bind_eq_some_iff, Option.pure_def,
        Option.some.injEq] at h
      obtain ⟨_, hgeneral, _, hscan, _, hreplay, rfl⟩ := h
      exact ⟨hgeneral, hscan, hreplay⟩
    · rintro ⟨hgeneral, hscan, hreplay⟩
      simp [decode, hgeneral, hscan, hreplay]
  rw [hparts, general_reads_iff, scan_reads_iff, replay_reads_iff]
  constructor
  · rintro ⟨hgeneral, hscan, hreplay⟩ s
    cases s with
    | general => exact hgeneral
    | scan => exact hscan
    | replay => exact hreplay
  · exact fun h => ⟨h .general, h .scan, h .replay⟩

end

/-! ## Files that parse -/

/-- What a file has to obey: a section that is there is one, and a key that is there has a value of
its type. Sections and keys may be left out, and there may be others. -/
structure WellFormed (entries : Toml.Entries) : Prop where
  isSection : ∀ (s : Section) part, entries.lookup s.name = some part → isSection part = true
  decodes : ∀ (α : Type) (k : Key α) v, k.present? entries = some v →
    ∃ a, k.facts.decode v = some a

/-- The configuration with some values for its keys. -/
def ofKeys (value : ∀ α, Key α → α) : Config where
  general :=
    { interface := value _ .interface
      logLevel := value _ .logLevel
      logFile := value _ .logFile }
  scan :=
    { timeout := value _ .timeout
      scanType := value _ .scanType
      band := value _ .band
      channels := value _ .channels
      hidden := value _ .hidden
      fullResults := value _ .fullResults
      neighborReports := value _ .neighborReports
      basePeriod := value _ .basePeriod }
  replay :=
    { fixture := value _ .fixture
      outcome := value _ .outcome
      delay := value _ .delay
      capacity := value _ .capacity }

namespace Key

variable {α : Type} (k : Key α)

@[simp] theorem get_ofKeys (value : ∀ α, Key α → α) : k.get (ofKeys value) = value α k := by
  cases k <;> rfl

/-- A configuration consists of its keys. -/
theorem ofKeys_get (c : Config) : ofKeys (fun _ k => k.get c) = c := rfl

theorem value?_eq_some_iff {entries : Toml.Entries} {a : α} : k.value? entries = some a ↔
    (∀ v, k.present? entries = some v → ∃ a, k.facts.decode v = some a) ∧
      a = (k.written? entries).getD (k.get {}) := by
  rw [value?, written?]
  cases k.present? entries with
  | none => simp [eq_comm]
  | some v => cases hv : k.facts.decode v <;> simp [hv, eq_comm]

end Key

theorem ext_keys {c d : Config} (h : ∀ (α : Type) (k : Key α), k.get c = k.get d) : c = d := by
  rw [← Key.ofKeys_get c, ← Key.ofKeys_get d]
  exact congrArg ofKeys (funext fun α => funext fun k => h α k)

theorem decode_iff {entries : Toml.Entries} {c : Config} : decode entries = some c ↔
    WellFormed entries ∧
      ∀ (α : Type) (k : Key α), k.get c = (k.written? entries).getD (k.get {}) := by
  rw [decode_eq_some_iff]
  constructor
  · intro h
    have hvalue : ∀ (α : Type) (k : Key α), k.value? entries = some (k.get c) :=
      fun α k => (h k.facts.part).value α k rfl
    exact ⟨⟨fun s => (h s).isSection, fun α k => (k.value?_eq_some_iff.mp (hvalue α k)).1⟩,
      fun α k => (k.value?_eq_some_iff.mp (hvalue α k)).2⟩
  · rintro ⟨hwell, hget⟩ s
    exact ⟨hwell.isSection s, fun α k _ =>
      k.value?_eq_some_iff.mpr ⟨hwell.decodes α k, hget α k⟩⟩

theorem exists_decode_iff {entries : Toml.Entries} :
    (∃ c, decode entries = some c) ↔ WellFormed entries := by
  constructor
  · rintro ⟨c, hc⟩
    exact (decode_iff.mp hc).1
  · intro h
    exact ⟨ofKeys fun α k => (k.written? entries).getD (k.get {}),
      decode_iff.mpr ⟨h, fun α k => k.get_ofKeys _⟩⟩

/-! ## The embedded text -/

/-- What the default text says. -/
def embedded : Toml.Entries := [
  ("general", .table [
    ("interface", .string "wlan0"),
    ("log_level", .string "info"),
    ("log_file", .string "")]),
  ("scan", .table [
    ("timeout_ms", .integer 15000),
    ("scan_type", .string "low-latency"),
    ("band", .string "ghz24-and5"),
    ("channels", .array []),
    ("hidden_networks", .array []),
    ("full_results", .boolean false),
    ("enable_6ghz_rnr", .boolean false),
    ("base_period_ms", .integer 10000)]),
  ("replay", .table [
    ("fixture", .string ""),
    ("outcome", .string "results"),
    ("completion_delay_ms", .integer 300),
    ("max_scan_ssids", .integer 20)])]

set_option maxRecDepth 10000 in
/-- The characters of the default text are read off the literal, so that reading them does not
decode it again and again. -/
theorem exists_chars_defaultText : ∃ cs, defaultText.toList = cs ∧ (do
    let lines ← Toml.readLineList cs
    let draft ← lines.foldlM Toml.Draft.take {}
    return Toml.Item.toEntries (← draft.finish)) = some embedded :=
  ⟨_, String.toList_ofList, by cbv⟩

theorem parse_defaultText : Toml.parse defaultText = some embedded := by
  obtain ⟨cs, hcs, hread⟩ := exists_chars_defaultText
  rw [Toml.parse, hcs]
  exact hread

/-- The default text gives every key its default. -/
theorem written?_embedded {α : Type} (k : Key α) : k.written? embedded = some (k.get {}) := by
  cases k <;> rfl

theorem parse?_defaultText : parse? defaultText = some {} := by
  rw [parse?, parse_defaultText]
  rfl

/-! ## The command line -/

theorem getD_givenList {α : Type} (l other : List α) :
    (givenList l).getD other = orList l other := by
  unfold givenList orList
  split <;> rfl

theorem getD_givenSwitch (on other : Bool) : (givenSwitch on).getD other = (on || other) := by
  cases on <;> rfl

/-- The command line overrides the keys that it gives, each by itself. -/
theorem Key.get_override {α : Type} (k : Key α) (c : Config) (line : CommandLine) :
    k.get (c.override line) = (k.given? line).getD (k.get c) := by
  cases k with
  | channels => exact (getD_givenList line.channels c.scan.channels).symm
  | hidden => exact (getD_givenList line.hidden c.scan.hidden).symm
  | fullResults => exact (getD_givenSwitch line.fullResults c.scan.fullResults).symm
  | neighborReports => exact (getD_givenSwitch line.neighborReports c.scan.neighborReports).symm
  | band =>
      cases hband : line.band <;> simp [Key.get, Key.given?, Key.facts, override, hband]
  | _ => rfl

theorem override_override (c : Config) (line : CommandLine) :
    (c.override line).override line = c.override line := by
  refine ext_keys fun α k => ?_
  simp only [Key.get_override]
  cases k.given? line <;> rfl

/-- The keys that stand in the file only. -/
inductive Key.FileOnly : {α : Type} → Key α → Prop
  | logFile : FileOnly .logFile
  | basePeriod : FileOnly .basePeriod
  | delay : FileOnly .delay
  | capacity : FileOnly .capacity

theorem Key.FileOnly.given?_eq {α : Type} {k : Key α} (h : k.FileOnly) (line : CommandLine) :
    k.given? line = none := by
  cases h <;> rfl

/-! ## Loading -/

theorem readText_pathExists {t : FileTree} {path text : String} (h : t.readText path = .ok text) :
    t.pathExists path = true := by
  unfold FileTree.readText at h
  unfold FileTree.pathExists
  cases hlocate : t.locate path with
  | error fault => simp [hlocate, bind, Except.bind] at h
  | ok loc => rfl

theorem loadFrom_of_readText {t : FileTree} {path text : String} (h : t.readText path = .ok text)
    (line : CommandLine) : loadFrom t path line = (readFrom t path line, t) := by
  rw [loadFrom, if_pos (readText_pathExists h)]

theorem readFrom_eq_ok_iff {t : FileTree} {path : String} {line : CommandLine} {c : Config} :
    readFrom t path line = .ok c ↔ ∃ text entries d, t.readText path = .ok text ∧
      Toml.parse text = some entries ∧ decode entries = some d ∧ c = d.override line := by
  unfold readFrom
  cases hread : t.readText path with
  | error fault => simp
  | ok text =>
      cases hparse : Toml.parse text with
      | none => simp [parse?, hparse]
      | some entries =>
          cases hdecode : decode entries with
          | none => simp [parse?, hparse, hdecode]
          | some d => simp [parse?, hparse, hdecode, eq_comm]

/-- What is loaded is read from the file that is there afterwards. -/
theorem readFrom_of_loadFrom {t t' : FileTree} {path : String} {line : CommandLine} {c : Config}
    (h : loadFrom t path line = (.ok c, t')) : readFrom t' path line = .ok c := by
  unfold loadFrom at h
  split at h
  · obtain ⟨hread, rfl⟩ := Prod.mk.inj h
    exact hread
  · split at h
    · cases h
    · obtain ⟨hread, rfl⟩ := Prod.mk.inj h
      exact hread

/-! ## All layers -/

/-- Each key of a configuration has the value that the command line gives, else the one that the
file gives, else the one of another configuration. -/
def Layered (line : CommandLine) (entries : Toml.Entries) (base c : Config) : Prop :=
  ∀ (α : Type) (k : Key α),
    k.get c = (k.given? line).getD ((k.written? entries).getD (k.get base))

theorem layered_of_decode {entries : Toml.Entries} {d : Config} (h : decode entries = some d)
    (line : CommandLine) : Layered line entries {} (d.override line) := by
  intro α k
  rw [k.get_override, (decode_iff.mp h).2 α k]

/-- A key that stands in the file only is not touched by the command line. -/
theorem Layered.fileOnly {line : CommandLine} {entries : Toml.Entries} {base c : Config}
    (h : Layered line entries base c) {α : Type} {k : Key α} (hk : k.FileOnly) :
    k.get c = (k.written? entries).getD (k.get base) := by
  rw [h α k, hk.given?_eq line, Option.getD_none]

theorem targets_settings (c : Config) : c.settings.buckets.map (·.target) =
    (c.scan.band.map Target.band).toList ++
      if c.scan.channels = [] then [] else [.channels c.scan.channels] := by
  cases hband : c.scan.band <;> cases hchannels : c.scan.channels <;>
    simp [settings, hband, hchannels]

theorem periods_settings (c : Config) :
    ∀ b ∈ c.settings.buckets, b.period = c.scan.basePeriod := by
  intro b hb
  rcases List.mem_append.mp hb with hband | hchannels
  · obtain ⟨band, -, rfl⟩ := Option.map_eq_some_iff.mp (Option.mem_toList.mp hband)
    rfl
  · split at hchannels
    · cases hchannels
    · rw [List.mem_singleton.mp hchannels]

/-- The layers of the configuration combine key by key. A file that is TOML is loaded exactly if
its sections are sections and the keys that are there have values of their types. Then each key has
the value of the command line, else that of the file, else that of the default text, which gives
all of them, and four keys never depend on the command line. To apply the command line once more
changes nothing. The scan that is configured has a bucket for the band if there is one and then a
bucket for the channels if there are any, with the base period. -/
theorem layers_combine_key_by_key (t : FileTree) (path : String) (line : CommandLine) :
    ∃ base, parse? defaultText = some base ∧
      (∃ entries, Toml.parse defaultText = some entries ∧
        ∀ (α : Type) (k : Key α), k.written? entries = some (k.get base)) ∧
      (∀ text entries, t.readText path = .ok text → Toml.parse text = some entries →
        ((∃ c, loadFrom t path line = (.ok c, t)) ↔ WellFormed entries)) ∧
      ∀ c t', loadFrom t path line = (.ok c, t') → ∃ text entries,
        t'.readText path = .ok text ∧ Toml.parse text = some entries ∧
        Layered line entries base c ∧
        (∀ (α : Type) (k : Key α), k.FileOnly →
          k.get c = (k.written? entries).getD (k.get base)) ∧
        c.override line = c ∧
        (c.settings.buckets.map (·.target) = (c.scan.band.map Target.band).toList ++
          if c.scan.channels = [] then [] else [.channels c.scan.channels]) ∧
        (∀ b ∈ c.settings.buckets, b.period = c.scan.basePeriod) ∧
        c.settings.basePeriod = c.scan.basePeriod := by
  refine ⟨{}, parse?_defaultText, ⟨embedded, parse_defaultText, fun α k => written?_embedded k⟩,
    ?_, ?_⟩
  · intro text entries hread hparse
    rw [← exists_decode_iff, loadFrom_of_readText hread]
    simp only [Prod.mk.injEq, and_true, readFrom_eq_ok_iff, hread, Except.ok.injEq]
    constructor
    · rintro ⟨c, _, _, d, rfl, hsome, hdecode, -⟩
      obtain rfl := Option.some.inj (hparse.symm.trans hsome)
      exact ⟨d, hdecode⟩
    · rintro ⟨d, hdecode⟩
      exact ⟨_, text, entries, d, rfl, hparse, hdecode, rfl⟩
  · intro c t' hload
    obtain ⟨text, entries, d, hread, hparse, hdecode, rfl⟩ :=
      readFrom_eq_ok_iff.mp (readFrom_of_loadFrom hload)
    have hlayered := layered_of_decode hdecode line
    exact ⟨text, entries, hread, hparse, hlayered, fun α k hk => hlayered.fileOnly hk,
      override_override d line, targets_settings _, periods_settings _, rfl⟩

end WirelessScan.Config

namespace WirelessScan.Sample

/-- A file that gives two keys of one section, one of them also on the command line below. -/
def partialFile : FileTree where
  entries := [(["c.toml"], .file (.text "scan.timeout_ms=1\nscan.band=\"all\""))]

/-- A command line with a timeout and a channel. -/
def timedLine : CommandLine where
  timeout := some 5
  channels := [6]

/-- What is loaded for them. -/
def timedConfig : Config where
  scan := { timeout := 5, band := some .all, channels := [6] }

theorem partialFile_layers :
    Config.loadFrom partialFile "c.toml" timedLine = (.ok timedConfig, partialFile) ∧
      ∃ text entries, partialFile.readText "c.toml" = .ok text ∧
        Toml.parse text = some entries ∧ Config.Layered timedLine entries {} timedConfig ∧
        timedConfig.override timedLine = timedConfig := by
  have hload : Config.loadFrom partialFile "c.toml" timedLine = (.ok timedConfig, partialFile) := by
    cbv
  obtain ⟨base, hbase, -, -, hlayers⟩ :=
    Config.layers_combine_key_by_key partialFile "c.toml" timedLine
  obtain rfl := Option.some.inj (hbase.symm.trans Config.parse?_defaultText)
  obtain ⟨text, entries, hread, hparse, hlayered, -, hagain, -⟩ := hlayers _ _ hload
  exact ⟨hload, text, entries, hread, hparse, hlayered, hagain⟩

end WirelessScan.Sample
