import WirelessScan.Text.Visible

/-!
# Quoted text

The form in which a name appears inside the text of an event or of an error: between double
quotes, with a backslash before a quote or a backslash, short escapes for the common control
characters, and the code point in hexadecimal for every other character without a visible shape.
-/

namespace WirelessScan.Text

/-- The lowercase hexadecimal digits of a number, without leading zeros. -/
def hexDigits (n : Nat) : List Char :=
  Nat.toDigits 16 n

/-- The form of a character between quotes. -/
def quoteChar (c : Char) : List Char :=
  match c with
  | '"' => ['\\', '"']
  | '\\' => ['\\', '\\']
  | '\t' => ['\\', 't']
  | '\n' => ['\\', 'n']
  | '\r' => ['\\', 'r']
  | '\x00' => ['\\', '0']
  | c => if isVisible c then [c] else ['\\', 'u', '\x7b'] ++ hexDigits c.toNat ++ ['\x7d']

/-- A text between double quotes. -/
def quoted (s : String) : String :=
  .ofList (['"'] ++ s.toList.flatMap quoteChar ++ ['"'])

end WirelessScan.Text
