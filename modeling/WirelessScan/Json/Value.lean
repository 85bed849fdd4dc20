import WirelessScan.Text.Quoted

/-!
# JSON values and their written form

The values that the library writes: whole numbers, strings, arrays and objects whose fields keep
their order. A value is written either compactly or with one item a line and two spaces for each
level; `Json.Reader` reads both back.
-/

namespace WirelessScan.Json

/-- A value to be written. -/
inductive Value where
  | number (n : Int)
  | string (s : String)
  | array (items : List Value)
  | object (fields : List (String × Value))

/-- A code unit as four lowercase hexadecimal digits. -/
def hex4 (n : Nat) : List Char :=
  let digits := Text.hexDigits n
  List.replicate (4 - digits.length) '0' ++ digits

/-- The written form of a character between quotes. Only the quote, the backslash and control
characters are escaped. -/
def escapeChar (c : Char) : List Char :=
  match c with
  | '"' => ['\\', '"']
  | '\\' => ['\\', '\\']
  | '\x08' => ['\\', 'b']
  | '\t' => ['\\', 't']
  | '\n' => ['\\', 'n']
  | '\x0c' => ['\\', 'f']
  | '\r' => ['\\', 'r']
  | c => if c.toNat < 0x20 then ['\\', 'u'] ++ hex4 c.toNat else [c]

/-- A string between quotes. -/
def writeString (s : String) : List Char :=
  '"' :: s.toList.flatMap escapeChar ++ ['"']

/-- A whole number in decimal. -/
def writeInt (n : Int) : List Char :=
  if n < 0 then '-' :: Nat.toDigits 10 n.natAbs else Nat.toDigits 10 n.natAbs

/-- How items are laid out: on one line, or on a line each. -/
inductive Layout where
  | compact
  | pretty
deriving DecidableEq, Repr

namespace Layout

/-- What stands before an item at a depth. -/
def newline : Layout → Nat → List Char
  | compact, _ => []
  | pretty, depth => '\n' :: List.replicate (2 * depth) ' '

/-- What stands between a field's name and its value. -/
def colon : Layout → List Char
  | compact => [':']
  | pretty => [':', ' ']

end Layout

mutual

/-- The written form of a value at a depth. Empty arrays and objects are closed at once. -/
def Value.write (layout : Layout) (depth : Nat) : Value → List Char
  | .number n => writeInt n
  | .string s => writeString s
  | .array [] => ['[', ']']
  | .array (v :: rest) =>
    '[' :: layout.newline (depth + 1) ++ v.write layout (depth + 1)
      ++ Value.writeItems layout (depth + 1) rest ++ layout.newline depth ++ [']']
  | .object [] => ['\x7b', '\x7d']
  | .object ((name, v) :: rest) =>
    '\x7b' :: layout.newline (depth + 1) ++ writeString name ++ layout.colon
      ++ v.write layout (depth + 1) ++ Value.writeFields layout (depth + 1) rest
      ++ layout.newline depth ++ ['\x7d']

/-- The items of an array after the first. -/
def Value.writeItems (layout : Layout) (depth : Nat) : List Value → List Char
  | [] => []
  | v :: rest =>
    ',' :: layout.newline depth ++ v.write layout depth ++ Value.writeItems layout depth rest

/-- The fields of an object after the first. -/
def Value.writeFields (layout : Layout) (depth : Nat) : List (String × Value) → List Char
  | [] => []
  | (name, v) :: rest =>
    ',' :: layout.newline depth ++ writeString name ++ layout.colon ++ v.write layout depth
      ++ Value.writeFields layout depth rest

end

/-- The text of a value. -/
def Value.text (layout : Layout) (v : Value) : String :=
  .ofList (v.write layout 0)

end WirelessScan.Json
