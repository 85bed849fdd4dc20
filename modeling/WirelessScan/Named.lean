/-!
# Finite kinds with written names

Several small types of the library (bands, scan types, reasons, …) are written by name in
configuration files, on the command line and in records. A kind lists its members once, gives
each a name, and is read back by looking the name up in that list.
-/

namespace WirelessScan

/-- A finite kind whose members are written by name. -/
class Named (α : Type) where
  /-- Every member, in the order of declaration. -/
  members : List α
  /-- The written form of a member. -/
  name : α → String

/-- The member written as `text`, if there is one. Names are compared exactly. -/
def Named.ofName? {α : Type} [Named α] (text : String) : Option α :=
  (Named.members (α := α)).find? fun a => Named.name a == text

end WirelessScan
