/-!
# Faults of JSON text

A reader of JSON text stops at the first problem, which is of one of three kinds.
-/

namespace WirelessScan.Json

/-- Why a JSON text could not be read. -/
inductive Fault where
  /-- The text ended too early. -/
  | eof
  /-- The text is not JSON at this point. -/
  | malformed
  /-- The text is JSON of the wrong type or range. -/
  | data
deriving DecidableEq, Repr

/-- The written name of a kind of fault. -/
def Fault.name : Fault → String
  | eof => "eof"
  | malformed => "syntax"
  | data => "data"

end WirelessScan.Json
