import WirelessScan.Band
import WirelessScan.Replay
import WirelessScan.Text.Decimal

/-!
# The command line

Words are read from left to right. An option takes its value from the same word (`--band=all`,
`-ball`) or from the next one. A value in the next word is looked at when the following option
begins or the words end; if the following word is not an option at all, that is what is reported.
Options may be given once, except for the two that collect a list.
-/

namespace WirelessScan

/-- What the words of a command line ask for. -/
structure CommandLine where
  interface : Option String := none
  logLevel : Option String := none
  config : Option String := none
  printDefaultConfig : Bool := false
  band : Option Band := none
  channels : List UInt32 := []
  hidden : List String := []
  scanType : Option ScanType := none
  fullResults : Bool := false
  neighborReports : Bool := false
  timeout : Option UInt64 := none
  fixture : Option String := none
  outcome : Option Replay.Outcome := none
  /-- The number of cycles of a periodic scan, which is then run instead of a single one. -/
  cycles : Option UInt32 := none
  json : Bool := false
deriving DecidableEq, Repr

namespace CommandLine

instance : Inhabited CommandLine := ⟨{}⟩

/-- Why a command line does not ask for a run. -/
inductive Refusal where
  | unknownArgument
  /-- A value is missing, empty or not one of the names. -/
  | invalidValue
  /-- A value is not a number of the type. -/
  | valueValidation
  /-- An option is given twice. -/
  | argumentConflict
  /-- A switch is given a value. -/
  | tooManyValues
  | displayHelp
  | displayVersion
deriving DecidableEq, Repr

/-- The written name of a refusal. -/
def Refusal.name : Refusal → String
  | unknownArgument => "UnknownArgument"
  | invalidValue => "InvalidValue"
  | valueValidation => "ValueValidation"
  | argumentConflict => "ArgumentConflict"
  | tooManyValues => "TooManyValues"
  | displayHelp => "DisplayHelp"
  | displayVersion => "DisplayVersion"

/-- The options and switches. -/
inductive Flag where
  | interface
  | logLevel
  | config
  | printDefaultConfig
  | band
  | channel
  | hidden
  | scanType
  | fullResults
  | neighborReports
  | timeout
  | fixture
  | outcome
  | batched
  | json
  | help
  | version
deriving DecidableEq, Repr

namespace Flag

/-- The name after two dashes. -/
def name : Flag → String
  | interface => "interface"
  | logLevel => "log-level"
  | config => "config"
  | printDefaultConfig => "print-default-config"
  | band => "band"
  | channel => "channel"
  | hidden => "hidden"
  | scanType => "scan-type"
  | fullResults => "full-results"
  | neighborReports => "rnr"
  | timeout => "timeout-ms"
  | fixture => "fixture"
  | outcome => "outcome"
  | batched => "batched"
  | json => "json"
  | help => "help"
  | version => "version"

instance : Named Flag :=
  ⟨[interface, logLevel, config, printDefaultConfig, band, channel, hidden, scanType, fullResults,
    neighborReports, timeout, fixture, outcome, batched, json, help, version], name⟩

/-- The flag of a letter after one dash. -/
def ofLetter? : Char → Option Flag
  | 'i' => some interface
  | 'l' => some logLevel
  | 'c' => some config
  | 'b' => some band
  | 'h' => some help
  | 'V' => some version
  | _ => none

/-- Whether a value belongs to the flag. -/
def takesValue : Flag → Bool
  | printDefaultConfig | fullResults | neighborReports | json | help | version => false
  | _ => true

/-- Whether the flag collects a list and may be given again. -/
def isRepeatable : Flag → Bool
  | channel | hidden => true
  | _ => false

end Flag

/-! ## Values -/

/-- A path, which may not be empty. -/
def path (value : String) : Except Refusal String :=
  if value.isEmpty then .error .invalidValue else .ok value

/-- A member of a kind, by name. -/
def member {α : Type} [Named α] (value : String) : Except Refusal α :=
  match Named.ofName? value with
  | some a => .ok a
  | none => .error .invalidValue

/-- A number of 32 bits. A sign is allowed as long as the number is in range. -/
def word32 (value : String) : Except Refusal UInt32 :=
  match Text.signed? value.toList with
  | some n => if 0 ≤ n ∧ n < UInt32.size then .ok (.ofNat n.toNat) else .error .valueValidation
  | none => .error .valueValidation

/-- A number of 64 bits without a minus sign. -/
def word64 (value : String) : Except Refusal UInt64 :=
  match Text.unsigned? value.toList with
  | some n => if n < UInt64.size then .ok (.ofNat n) else .error .valueValidation
  | none => .error .valueValidation

/-! ## Reading -/

/-- How far a command line has been read. -/
structure Progress where
  line : CommandLine := {}
  /-- The flags that were taken so far. -/
  given : List Flag := []
  /-- An option whose value is in a word of its own, with the value once that word was read. -/
  pending : Option (Flag × Option String) := none

namespace Progress

/-- Notes that a flag is given. -/
def give (p : Progress) (f : Flag) : Except Refusal Progress :=
  if f ∈ p.given && !f.isRepeatable then .error .argumentConflict
  else .ok { p with given := f :: p.given }

/-- Takes an option with its value. -/
def store (p : Progress) (f : Flag) (value : String) : Except Refusal Progress := do
  let p ← p.give f
  let line ← match f with
    | .interface => pure { p.line with interface := some value }
    | .logLevel => pure { p.line with logLevel := some value }
    | .config => do pure { p.line with config := some (← path value) }
    | .band => do pure { p.line with band := some (← member value) }
    | .channel => do pure { p.line with channels := p.line.channels ++ [← word32 value] }
    | .hidden => pure { p.line with hidden := p.line.hidden ++ [value] }
    | .scanType => do pure { p.line with scanType := some (← member value) }
    | .timeout => do pure { p.line with timeout := some (← word64 value) }
    | .fixture => do pure { p.line with fixture := some (← path value) }
    | .outcome => do pure { p.line with outcome := some (← member value) }
    | .batched => do pure { p.line with cycles := some (← word32 value) }
    | _ => pure p.line
  return { p with line }

/-- Takes a switch. Help and version end the reading. -/
def turnOn (p : Progress) (f : Flag) : Except Refusal Progress :=
  match f with
  | .help => .error .displayHelp
  | .version => .error .displayVersion
  | f => do
    let p ← p.give f
    let line := match f with
      | .printDefaultConfig => { p.line with printDefaultConfig := true }
      | .fullResults => { p.line with fullResults := true }
      | .neighborReports => { p.line with neighborReports := true }
      | .json => { p.line with json := true }
      | _ => p.line
    return { p with line }

/-- Settles an option whose value is in a word of its own. -/
def settle (p : Progress) : Except Refusal Progress :=
  match p.pending with
  | none => .ok p
  | some (_, none) => .error .invalidValue
  | some (f, some value) => { p with pending := none }.store f value

/-- Takes a flag, with the value from its own word if there is one. -/
def take (p : Progress) (f : Flag) (attached : Option String) : Except Refusal Progress :=
  if f.takesValue then do
    let p ← p.settle
    match attached with
    | some value => p.store f value
    | none => return { p with pending := some (f, none) }
  else
    match attached with
    | some _ => .error .tooManyValues
    | none => do
      let p ← p.settle
      p.turnOn f

/-- Reads a word that begins with two dashes and goes on: a name, perhaps with a value after an
equals sign. -/
def readLong (p : Progress) (cs : List Char) : Except Refusal Progress :=
  let name := cs.takeWhile (· ≠ '=')
  let attached := match cs.dropWhile (· ≠ '=') with
    | '=' :: value => some (String.ofList value)
    | _ => none
  match Named.ofName? (String.ofList name) with
  | none => .error .unknownArgument
  | some f => p.take f attached

/-- Reads the letters after one dash. The first letter that takes a value takes the rest of the
word, without an equals sign in front. -/
def readShort (p : Progress) : List Char → Except Refusal Progress
  | [] => .ok p
  | c :: cs =>
    match Flag.ofLetter? c with
    | none => .error .unknownArgument
    | some f =>
      if f.takesValue then
        match cs with
        | [] => p.take f none
        | '=' :: value => p.take f (some (String.ofList value))
        | value => p.take f (some (String.ofList value))
      else do
        let p ← p.take f none
        p.readShort cs

/-- Reads a word that is no option: the value of the option before it, if that waits for one. -/
def readPlain (p : Progress) (word : String) : Except Refusal Progress :=
  match p.pending with
  | some (f, none) => .ok { p with pending := some (f, some word) }
  | _ => .error .unknownArgument

/-- Reads all words. After two dashes alone only plain words could follow, of which there are
none. -/
def readAll (p : Progress) : List String → Except Refusal Progress
  | [] => p.settle
  | word :: rest =>
    match word.toList with
    | ['-', '-'] => if rest.isEmpty then p.settle else .error .unknownArgument
    | '-' :: '-' :: cs => do
      let p ← p.readLong cs
      p.readAll rest
    | '-' :: c :: cs => do
      let p ← p.readShort (c :: cs)
      p.readAll rest
    | _ => do
      let p ← p.readPlain word
      p.readAll rest

end Progress

/-- Reads a command line from its words. -/
def parse (words : List String) : Except Refusal CommandLine := do
  let p ← ({} : Progress).readAll words
  return p.line

end CommandLine

end WirelessScan
