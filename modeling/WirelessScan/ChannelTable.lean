import WirelessScan.Band

/-!
# Channel tables

A channel table answers two questions: which centre frequencies a block of channels holds, and
which frequency an explicitly named channel stands for. Frequencies are in MHz.

The standard table is the 802.11 channel plan. An explicit channel of it is either a channel number
of the 2.4 and 5 GHz blocks or a centre frequency of any block; the latter is the only way to name
a 6 or 60 GHz channel, whose numbers overlap those of the 2.4 GHz block.
-/

namespace WirelessScan

/-- The mapping from blocks and channels to centre frequencies. -/
structure ChannelTable where
  /-- The centre frequencies of a block, in table order. -/
  block : SubBand → List UInt32
  /-- The frequency of an explicit channel, if the table knows the channel. -/
  frequency? : UInt32 → Option UInt32

namespace ChannelTable

/-- A table given by its entries. A block that is not listed is empty and a channel that is not
listed is unknown; of several entries for one key the last one counts. -/
def ofEntries (blocks : List (SubBand × List UInt32)) (channels : List (UInt32 × UInt32)) :
    ChannelTable where
  block b := (blocks.reverse.lookup b).getD []
  frequency? c := channels.reverse.lookup c

end ChannelTable

/-! ## The standard plan -/

namespace Plan

/-- Centre frequency of a 2.4 GHz channel number. Channel 14 stands apart from the grid. -/
def ghz24Frequency (channel : UInt32) : UInt32 :=
  if channel = 14 then 2484 else 2407 + channel * 5

/-- Centre frequency of a 5 GHz channel number. -/
def ghz5Frequency (channel : UInt32) : UInt32 :=
  5000 + channel * 5

/-- Channel numbers of the 2.4 GHz block. -/
def ghz24Channels : List UInt32 := [1, 2, 3, 4, 5, 6, 7, 8, 9, 10, 11, 12, 13, 14]

/-- Channel numbers of the 5 GHz block without radar detection. -/
def ghz5Channels : List UInt32 := [36, 40, 44, 48, 149, 153, 157, 161, 165]

/-- Channel numbers of the 5 GHz block with radar detection. -/
def ghz5DfsChannels : List UInt32 :=
  [52, 56, 60, 64, 100, 104, 108, 112, 116, 120, 124, 128, 132, 136, 140, 144]

/-- The 6 GHz block: the lone channel at 5935, then 59 channels that are 20 MHz apart. -/
def ghz6Frequencies : List UInt32 :=
  5935 :: (List.range 59).map fun i => 5955 + 20 * UInt32.ofNat i

/-- The 60 GHz block. -/
def ghz60Frequencies : List UInt32 := [58320, 60480, 62640, 64800, 66960, 69120]

/-- The frequencies of a block of the plan. -/
def block : SubBand → List UInt32
  | .ghz24 => ghz24Channels.map ghz24Frequency
  | .ghz5 => ghz5Channels.map ghz5Frequency
  | .ghz5Dfs => ghz5DfsChannels.map ghz5Frequency
  | .ghz6 => ghz6Frequencies
  | .ghz60 => ghz60Frequencies

/-- Whether a frequency is the centre frequency of a channel of the plan. -/
def isKnown (frequency : UInt32) : Bool :=
  SubBand.all.any fun b => (block b).contains frequency

/-- The frequency that a number on the 2.4 or 5 GHz grid would have. -/
def gridFrequency? (channel : UInt32) : Option UInt32 :=
  if 1 ≤ channel ∧ channel ≤ 14 then some (ghz24Frequency channel)
  else if 32 ≤ channel ∧ channel ≤ 177 then some (ghz5Frequency channel)
  else none

/-- A known frequency stands for itself; a grid number stands for its frequency if the plan has
a channel there. -/
def frequency? (channel : UInt32) : Option UInt32 :=
  if isKnown channel then some channel else (gridFrequency? channel).filter isKnown

end Plan

/-- The 802.11 channel plan, without regard to any regulatory domain. -/
def ChannelTable.standard : ChannelTable where
  block := Plan.block
  frequency? := Plan.frequency?

end WirelessScan
