import WirelessScan.Json.Fault

/-!
# The tokens of JSON text

Blanks, words, strings and numbers, each read from the front of a list of characters. Reading is
from left to right and the first problem decides the fault.

Numbers are read as whole numbers where they are written as such. A number with a fraction or an
exponent, a negative zero, and a whole number beyond 64 bits is only checked: it must be well formed
and lie within the range of a double.
-/

namespace WirelessScan.Json

/-- A value read from the front of a text, and the rest of the text. -/
abbrev Reader (α : Type) := List Char → Except Fault (α × List Char)

/-- Blanks of JSON text. -/
def isBlank (c : Char) : Bool :=
  c == ' ' || c == '\n' || c == '\t' || c == '\r'

/-- The text without the blanks in front. -/
def skipBlanks (cs : List Char) : List Char :=
  cs.dropWhile isBlank

/-- Reads the letters of a word. -/
def readWord : (word : List Char) → List Char → Except Fault (List Char)
  | [], cs => .ok cs
  | _ :: _, [] => .error .eof
  | w :: word, c :: cs => if w = c then readWord word cs else .error .malformed

/-! ## Strings -/

/-- The value of a hexadecimal digit of either case. -/
def hexValue? (c : Char) : Option Nat :=
  if '0' ≤ c ∧ c ≤ '9' then some (c.toNat - '0'.toNat)
  else if 'a' ≤ c ∧ c ≤ 'f' then some (c.toNat - 'a'.toNat + 10)
  else if 'A' ≤ c ∧ c ≤ 'F' then some (c.toNat - 'A'.toNat + 10)
  else none

/-- Reads four hexadecimal digits. A text that has fewer than four bytes left ended too early. -/
def readHex4 (cs : List Char) : Except Fault (Nat × List Char) :=
  if (String.ofList (cs.take 4)).utf8ByteSize < 4 then .error .eof
  else
    match cs with
    | a :: b :: c :: d :: rest =>
      match hexValue? a, hexValue? b, hexValue? c, hexValue? d with
      | some a, some b, some c, some d => .ok (((a * 16 + b) * 16 + c) * 16 + d, rest)
      | _, _, _, _ => .error .malformed
    | _ => .error .malformed

/-- Whether a code unit is the first half of a surrogate pair. -/
def isHighSurrogate (n : Nat) : Bool := 0xd800 ≤ n && n ≤ 0xdbff

/-- Whether a code unit is the second half of a surrogate pair. -/
def isLowSurrogate (n : Nat) : Bool := 0xdc00 ≤ n && n ≤ 0xdfff

/-- Reads the character of an escape by code unit, after the letter `u`. Surrogates have to come in
pairs. -/
def readUnicodeEscape (cs : List Char) : Except Fault (Char × List Char) := do
  let (n, cs) ← readHex4 cs
  if isLowSurrogate n then throw .malformed
  if !isHighSurrogate n then return (Char.ofNat n, cs)
  match cs with
  | [] => throw .eof
  | '\\' :: cs =>
    match cs with
    | [] => throw .eof
    | 'u' :: cs =>
      let (low, cs) ← readHex4 cs
      if !isLowSurrogate low then throw .malformed
      return (Char.ofNat (0x10000 + (n - 0xd800) * 0x400 + (low - 0xdc00)), cs)
    | _ => throw .malformed
  | _ => throw .malformed

/-- The character of an escape by letter. -/
def letterEscape? : Char → Option Char
  | '"' => some '"'
  | '\\' => some '\\'
  | '/' => some '/'
  | 'b' => some '\x08'
  | 'f' => some '\x0c'
  | 'n' => some '\n'
  | 'r' => some '\r'
  | 't' => some '\t'
  | _ => none

/-- Reads the character of an escape, after the backslash. -/
def readEscape : List Char → Except Fault (Char × List Char)
  | [] => .error .eof
  | 'u' :: cs => readUnicodeEscape cs
  | c :: cs =>
    match letterEscape? c with
    | some e => .ok (e, cs)
    | none => .error .malformed

/-- Reads the characters of a string up to its closing quote, within `fuel` characters. -/
def readChars : (fuel : Nat) → List Char → Except Fault (List Char × List Char)
  | 0, _ => .error .eof
  | _ + 1, [] => .error .eof
  | _ + 1, '"' :: cs => .ok ([], cs)
  | fuel + 1, '\\' :: cs => do
    let (c, cs) ← readEscape cs
    let (s, cs) ← readChars fuel cs
    return (c :: s, cs)
  | fuel + 1, c :: cs =>
    if c.toNat < 0x20 then .error .malformed
    else do
      let (s, cs) ← readChars fuel cs
      return (c :: s, cs)

/-- Reads a string after its opening quote. -/
def readString (cs : List Char) : Except Fault (String × List Char) := do
  let (s, cs) ← readChars (cs.length + 1) cs
  return (.ofList s, cs)

/-- Skips a string after its opening quote, within `fuel` characters. Escapes have to be well
formed, but surrogates may stand alone. -/
def skipChars : (fuel : Nat) → List Char → Except Fault (List Char)
  | 0, _ => .error .eof
  | _ + 1, [] => .error .eof
  | _ + 1, '"' :: cs => .ok cs
  | _ + 1, ['\\'] => .error .eof
  | fuel + 1, '\\' :: 'u' :: cs => do
    let (_, cs) ← readHex4 cs
    skipChars fuel cs
  | fuel + 1, '\\' :: c :: cs =>
    if (letterEscape? c).isSome then skipChars fuel cs else .error .malformed
  | fuel + 1, c :: cs => if c.toNat < 0x20 then .error .malformed else skipChars fuel cs

/-- Skips a string after its opening quote. -/
def skipString (cs : List Char) : Except Fault (List Char) :=
  skipChars (cs.length + 1) cs

/-! ## Numbers -/

/-- A number as far as a reader of whole numbers wants to know it. -/
inductive Number where
  | whole (n : Int)
  /-- Anything that is not written as a whole number of at most 64 bits. -/
  | other
deriving DecidableEq, Repr

/-- The digits in front of a text, and the rest. -/
def takeDigits (cs : List Char) : List Char × List Char :=
  (cs.takeWhile Char.isDigit, cs.dropWhile Char.isDigit)

/-- A decimal number: a significand below `2 ^ 64` times a power of ten. -/
structure Scaled where
  significand : Nat
  exponent : Int

namespace Scaled

/-- The number with a digit more, as long as the significand fits. -/
def extend? (s : Scaled) (digit : Char) : Option Scaled :=
  let n := s.significand * 10 + (digit.toNat - '0'.toNat)
  if n < UInt64.size then some { s with significand := n } else none

/-- Adds digits before the point. From the first one that does not fit on they only count. -/
def addWhole (s : Scaled) : List Char → Scaled
  | [] => s
  | d :: ds =>
    match s.extend? d with
    | some s => s.addWhole ds
    | none => { s with exponent := s.exponent + (ds.length + 1) }

/-- Adds digits after the point. From the first one that does not fit on they are dropped. -/
def addFraction (s : Scaled) : List Char → Scaled
  | [] => s
  | d :: ds =>
    match s.extend? d with
    | some s => { s with exponent := s.exponent - 1 }.addFraction ds
    | none => s

/-- Whether the number lies beyond the range of a double. -/
def isTooLarge (s : Scaled) : Bool :=
  s.significand ≠ 0 && (308 < s.exponent ||
    (0 ≤ s.exponent &&
      (Float.ofNat s.significand * Float.ofScientific 1 false s.exponent.toNat).isInf))

end Scaled

/-- Reads the digits of an exponent, after the letter `e`, and answers the exponent. -/
def readExponent (cs : List Char) : Except Fault (Int × List Char) :=
  let (negative, cs) := match cs with
    | '+' :: cs => (false, cs)
    | '-' :: cs => (true, cs)
    | cs => (false, cs)
  match takeDigits cs with
  | ([], []) => .error .eof
  | ([], _ :: _) => .error .malformed
  | (ds, cs) =>
    let n : Int := Nat.ofDigitChars 10 ds 0
    .ok (if negative then -n else n, cs)

/-- Reads an exponent if there is one. -/
def readScale (cs : List Char) : Except Fault (Int × List Char) :=
  match cs with
  | 'e' :: cs => readExponent cs
  | 'E' :: cs => readExponent cs
  | cs => .ok (0, cs)

/-- Reads what follows the whole part of a number, and checks the range of the number. -/
def readReal (digits : List Char) (cs : List Char) : Except Fault (Number × List Char) := do
  let whole := Scaled.addWhole ⟨0, 0⟩ digits
  let (scaled, cs) ← match cs with
    | '.' :: cs =>
      match takeDigits cs with
      | ([], []) => .error .eof
      | ([], _ :: _) => .error .malformed
      | (ds, cs) => .ok (whole.addFraction ds, cs)
    | cs => .ok (whole, cs)
  let (exponent, cs) ← readScale cs
  if { scaled with exponent := scaled.exponent + exponent : Scaled }.isTooLarge then
    throw .malformed
  return (.other, cs)

/-- Whether a text goes on with a fraction or an exponent. -/
def continuesReal : List Char → Bool
  | c :: _ => c == '.' || c == 'e' || c == 'E'
  | [] => false

/-- Reads the digits of a number after its sign. A leading zero stands alone. -/
def readUnsigned (negative : Bool) (cs : List Char) : Except Fault (Number × List Char) :=
  match takeDigits cs with
  | ([], []) => .error .eof
  | ([], _ :: _) => .error .malformed
  | ('0' :: _ :: _, _) => .error .malformed
  | (ds, cs) =>
    let n := Nat.ofDigitChars 10 ds 0
    if continuesReal cs || UInt64.size ≤ n then readReal ds cs
    else if negative then .ok (if n = 0 then .other else .whole (-n), cs)
    else .ok (.whole n, cs)

/-- Reads a number that begins with a minus sign or a digit. -/
def readNumber (cs : List Char) : Except Fault (Number × List Char) :=
  match cs with
  | '-' :: cs => readUnsigned true cs
  | cs => readUnsigned false cs

/-- Skips the digits of an exponent, after the letter `e`. -/
def skipExponent (cs : List Char) : Except Fault (List Char) :=
  let cs := match cs with
    | '+' :: cs => cs
    | '-' :: cs => cs
    | cs => cs
  match takeDigits cs with
  | ([], _) => .error .malformed
  | (_, cs) => .ok cs

/-- Skips an exponent if there is one. -/
def skipScale (cs : List Char) : Except Fault (List Char) :=
  match cs with
  | 'e' :: cs => skipExponent cs
  | 'E' :: cs => skipExponent cs
  | cs => .ok cs

/-- Skips a number after its sign. It has to be well formed, but its range does not matter, and a
number that ends too early counts as malformed. -/
def skipNumber (cs : List Char) : Except Fault (List Char) :=
  match takeDigits cs with
  | ([], _) => .error .malformed
  | ('0' :: _ :: _, _) => .error .malformed
  | (_, '.' :: cs) =>
    match takeDigits cs with
    | ([], _) => .error .malformed
    | (_, cs) => skipScale cs
  | (_, cs) => skipScale cs

end WirelessScan.Json
