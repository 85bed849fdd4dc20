import WirelessScan.Band

/-!
# Scan settings

What a caller asks for: a list of buckets, each a band or an explicit list of channels with a
period and reporting flags, and parameters that apply to the scan as a whole.
-/

namespace WirelessScan

/-- Reporting flags of a bucket, one bit each. Bits without a meaning are kept. -/
structure ReportFlags where
  bits : UInt32
deriving DecidableEq, Repr

namespace ReportFlags

/-- The value without any bit; every set of flags contains it. -/
def afterBufferFull : ReportFlags := ⟨0⟩
/-- Report when a scan completes. -/
def afterEachScan : ReportFlags := ⟨1⟩
/-- Report every record of a completed scan. -/
def fullScanResult : ReportFlags := ⟨2⟩
/-- Do not report completion of a periodic scan. -/
def noBatch : ReportFlags := ⟨4⟩

instance : Inhabited ReportFlags := ⟨afterBufferFull⟩

/-- The flags of either operand. -/
def union (a b : ReportFlags) : ReportFlags := ⟨a.bits ||| b.bits⟩

/-- Whether every bit of `other` is set. -/
def contains (flags other : ReportFlags) : Bool :=
  flags.bits &&& other.bits == other.bits

/-- Whether completion of a periodic scan is reported. -/
def isBatched (flags : ReportFlags) : Bool :=
  !flags.contains noBatch

end ReportFlags

/-- What a bucket scans: a band or an explicit list of channels, never both. -/
inductive Target where
  | band (band : Band)
  /-- Channel numbers or frequencies, as the channel table understands them. -/
  | channels (channels : List UInt32)
deriving DecidableEq, Repr

/-- A unit of a scan configuration. -/
structure Bucket where
  /-- Milliseconds between two scans of the bucket; only periodic scans look at it. -/
  period : UInt32 := 0
  flags : ReportFlags := .afterBufferFull
  target : Target
deriving DecidableEq, Repr

/-- A scan request as the caller supplies it. -/
structure Settings where
  scanType : ScanType := .lowLatency
  /-- Milliseconds between two cycles of a periodic scan. -/
  basePeriod : UInt32 := 0
  maxResults : UInt32 := 0
  buckets : List Bucket := []
  /-- Names of networks that do not announce themselves and have to be probed for. -/
  hidden : List String := []
  /-- Whether 6 GHz networks are to be discovered through their neighbours. -/
  neighborReports : Bool := false
  /-- Opaque bytes for the radio; absent is not the same as empty. -/
  vendorElements : Option (List UInt8) := none
deriving DecidableEq, Repr

instance : Inhabited Settings := ⟨{}⟩

/-- The flags of any of the buckets. -/
def ReportFlags.ofBuckets (buckets : List Bucket) : ReportFlags :=
  buckets.foldl (fun flags b => flags.union b.flags) .afterBufferFull

namespace Settings

/-- The flags of any bucket of the settings. -/
def flags (s : Settings) : ReportFlags := .ofBuckets s.buckets

/-- Whether some bucket asks for every record of a completed scan. -/
def wantsFullResults (s : Settings) : Bool :=
  s.flags.contains .fullScanResult

/-- The number of buckets that a periodic scan can hold: one for each bit of a bucket mask. -/
def maxBuckets : Nat := 32

/-- Whether the settings can be run periodically: not too many buckets, no zero period, and every
bucket's period a multiple of the base period. -/
def isPeriodic (s : Settings) : Bool :=
  decide (s.buckets.length ≤ maxBuckets) && s.basePeriod != 0 &&
    s.buckets.all fun b => b.period != 0 && b.period % s.basePeriod == 0

end Settings

end WirelessScan
