/-!
# Blanks

The characters with the Unicode property `White_Space`, and texts without them at both ends.
-/

namespace WirelessScan.Text

/-- Ranges of code points with the property `White_Space`. -/
def blankRanges : List (Nat × Nat) :=
  [(0x09, 0x0d), (0x20, 0x20), (0x85, 0x85), (0xa0, 0xa0), (0x1680, 0x1680), (0x2000, 0x200a),
    (0x2028, 0x2029), (0x202f, 0x202f), (0x205f, 0x205f), (0x3000, 0x3000)]

/-- Whether a character is a blank. -/
def isBlank (c : Char) : Bool :=
  blankRanges.any fun (lo, hi) => lo ≤ c.toNat && c.toNat ≤ hi

/-- The text without blanks at its ends. -/
def trim (s : String) : String :=
  .ofList ((s.toList.dropWhile isBlank).reverse.dropWhile isBlank).reverse

end WirelessScan.Text
