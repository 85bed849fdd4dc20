/-!
# Decimal numbers in arguments

A whole number given as one word: digits, perhaps after one sign, and nothing else. Leading zeros do
not matter.
-/

namespace WirelessScan.Text

/-- The number that a list of digits stands for. At least one digit is needed. -/
def digits? (cs : List Char) : Option Nat :=
  if cs.isEmpty || !cs.all Char.isDigit then none else some (Nat.ofDigitChars 10 cs 0)

/-- Reads a number that may have a plus sign. -/
def unsigned? (cs : List Char) : Option Nat :=
  match cs with
  | '+' :: ds => digits? ds
  | ds => digits? ds

/-- Reads a number that may have a plus or a minus sign. -/
def signed? (cs : List Char) : Option Int :=
  match cs with
  | '-' :: ds => (digits? ds).map fun n => -(n : Int)
  | ds => (unsigned? ds).map Int.ofNat

end WirelessScan.Text
