import WirelessScan.Json.Reader
import WirelessScan.Json.Value

/-!
# Numbers of fixed width

Readers of whole numbers that fit a machine word, and of bytes.
-/

namespace WirelessScan.Json

/-- Reads an unsigned number of 8 bits. -/
def readUInt8 : Reader UInt8 := fun cs => do
  let (n, cs) ← readInt 0 (UInt8.size - 1) cs
  return (UInt8.ofNat n.toNat, cs)

/-- Reads an unsigned number of 32 bits. -/
def readUInt32 : Reader UInt32 := fun cs => do
  let (n, cs) ← readInt 0 (UInt32.size - 1) cs
  return (UInt32.ofNat n.toNat, cs)

/-- Reads an unsigned number of 64 bits. -/
def readUInt64 : Reader UInt64 := fun cs => do
  let (n, cs) ← readInt 0 (UInt64.size - 1) cs
  return (UInt64.ofNat n.toNat, cs)

/-- Reads a signed number of 32 bits. -/
def readInt32 : Reader Int32 := fun cs => do
  let (n, cs) ← readInt Int32.minValue.toInt Int32.maxValue.toInt cs
  return (Int32.ofInt n, cs)

/-- Reads a signed number of 64 bits. -/
def readInt64 : Reader Int64 := fun cs => do
  let (n, cs) ← readInt Int64.minValue.toInt Int64.maxValue.toInt cs
  return (Int64.ofInt n, cs)

/-- Bytes, written as an array of numbers. -/
def Value.bytes (bs : List UInt8) : Value :=
  .array (bs.map fun b => .number b.toNat)

end WirelessScan.Json
