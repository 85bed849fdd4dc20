import WirelessScan.Named

/-!
# Bands and scan types

The spectrum is divided into five blocks of channels; a band is a named union of blocks. A scan
type trades duration against thoroughness and is only passed on to the radio.
-/

namespace WirelessScan

/-- The mode in which the radio is asked to scan. -/
inductive ScanType where
  | lowLatency
  | lowPower
  | highAccuracy
deriving DecidableEq, Repr

namespace ScanType

instance : Inhabited ScanType := ⟨lowLatency⟩

/-- The written name. -/
def name : ScanType → String
  | lowLatency => "low-latency"
  | lowPower => "low-power"
  | highAccuracy => "high-accuracy"

instance : Named ScanType := ⟨[lowLatency, lowPower, highAccuracy], name⟩

end ScanType

/-- A block of channels in a channel table. -/
inductive SubBand where
  | ghz24
  /-- The channels near 5 GHz that need no radar detection. -/
  | ghz5
  /-- The channels near 5 GHz that share their frequency with radar. -/
  | ghz5Dfs
  | ghz6
  | ghz60
deriving DecidableEq, Repr

namespace SubBand

/-- The written name. -/
def name : SubBand → String
  | ghz24 => "ghz24"
  | ghz5 => "ghz5"
  | ghz5Dfs => "ghz5-dfs"
  | ghz6 => "ghz6"
  | ghz60 => "ghz60"

/-- Every block, from the lowest frequencies to the highest. -/
def all : List SubBand := [ghz24, ghz5, ghz5Dfs, ghz6, ghz60]

instance : Named SubBand := ⟨all, name⟩

theorem mem_all (b : SubBand) : b ∈ all := by
  cases b <;> decide

end SubBand

/-- A named part of the spectrum that a bucket may scan. -/
inductive Band where
  | ghz24
  | ghz5
  | ghz5DfsOnly
  | ghz5WithDfs
  | ghz24And5
  | ghz24And5WithDfs
  | ghz6
  | ghz60
  | all
deriving DecidableEq, Repr

namespace Band

/-- The blocks that a band is made of, in order. -/
def subBands : Band → List SubBand
  | ghz24 => [.ghz24]
  | ghz5 => [.ghz5]
  | ghz5DfsOnly => [.ghz5Dfs]
  | ghz5WithDfs => [.ghz5, .ghz5Dfs]
  | ghz24And5 => [.ghz24, .ghz5]
  | ghz24And5WithDfs => [.ghz24, .ghz5, .ghz5Dfs]
  | ghz6 => [.ghz6]
  | ghz60 => [.ghz60]
  | all => SubBand.all

/-- The written name. -/
def name : Band → String
  | ghz24 => "ghz24"
  | ghz5 => "ghz5"
  | ghz5DfsOnly => "ghz5-dfs-only"
  | ghz5WithDfs => "ghz5-with-dfs"
  | ghz24And5 => "ghz24-and5"
  | ghz24And5WithDfs => "ghz24-and5-with-dfs"
  | ghz6 => "ghz6"
  | ghz60 => "ghz60"
  | all => "all"

instance : Named Band :=
  ⟨[ghz24, ghz5, ghz5DfsOnly, ghz5WithDfs, ghz24And5, ghz24And5WithDfs, ghz6, ghz60, all], name⟩

/-- The text for people. -/
def display : Band → String
  | ghz24 => "2.4 GHz"
  | ghz5 => "5 GHz"
  | ghz5DfsOnly => "5 GHz (DFS only)"
  | ghz5WithDfs => "5 GHz + DFS"
  | ghz24And5 => "2.4 + 5 GHz"
  | ghz24And5WithDfs => "2.4 + 5 GHz + DFS"
  | ghz6 => "6 GHz"
  | ghz60 => "60 GHz"
  | all => "all bands"

end Band

end WirelessScan
