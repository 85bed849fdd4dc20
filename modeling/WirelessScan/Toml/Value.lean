/-!
# TOML values

What a configuration text says, as far as it matters: dates and times and floating-point numbers are
checked for their form, but nothing here reads them.
-/

namespace WirelessScan.Toml

/-- A value of a TOML text. -/
inductive Value where
  | string (s : String)
  | integer (n : Int)
  | boolean (b : Bool)
  | float
  | datetime
  | array (items : List Value)
  | table (entries : List (String × Value))

/-- The entries of a table. -/
abbrev Entries := List (String × Value)

end WirelessScan.Toml
