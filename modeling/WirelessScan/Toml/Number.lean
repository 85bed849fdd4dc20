import WirelessScan.Toml.Value

/-!
# Numbers, dates and times in TOML

Readers from the front of a text for the values that begin with a sign or a digit. A reader answers
the value and the rest of the text, or nothing if the front has another form.
-/

namespace WirelessScan.Toml

/-- Something read from the front of a text, and the rest of the text. -/
abbrev Reader (α : Type) := List Char → Option (α × List Char)

/-- Whether a character is a digit of a base of at most sixteen. -/
def isDigitOf (base : Nat) (c : Char) : Bool :=
  (c.isDigit && decide (c.toNat - '0'.toNat < base)) ||
    (decide (base = 16) && (('a' ≤ c && c ≤ 'f') || ('A' ≤ c && c ≤ 'F')))

/-- The value of a digit. -/
def digitValue (c : Char) : Nat :=
  if c.isDigit then c.toNat - '0'.toNat
  else if 'a' ≤ c && c ≤ 'f' then c.toNat - 'a'.toNat + 10
  else c.toNat - 'A'.toNat + 10

/-- The number that digits stand for. -/
def ofDigits (base : Nat) (ds : List Char) : Nat :=
  ds.foldl (fun n d => n * base + digitValue d) 0

/-- Reads digits after the first one. An underscore may stand between two digits, and nowhere
else. -/
def readMoreDigits (base : Nat) : Reader (List Char)
  | '_' :: c :: cs =>
    if isDigitOf base c then do
      let (ds, cs) ← readMoreDigits base cs
      return (c :: ds, cs)
    else none
  | c :: cs =>
    if isDigitOf base c then do
      let (ds, cs) ← readMoreDigits base cs
      return (c :: ds, cs)
    else if c == '_' then none
    else some ([], c :: cs)
  | [] => some ([], [])

/-- Reads one digit or more. -/
def readDigits (base : Nat) : Reader (List Char)
  | c :: cs =>
    if isDigitOf base c then do
      let (ds, cs) ← readMoreDigits base cs
      return (c :: ds, cs)
    else none
  | [] => none

/-- Reads a sign if there is one. The answer is whether it is a minus. -/
def readSign : List Char → Bool × List Char
  | '+' :: cs => (false, cs)
  | '-' :: cs => (true, cs)
  | cs => (false, cs)

/-- Reads the digits of a decimal whole number: a zero alone, or digits without a zero in front. -/
def readDecimal : Reader (List Char)
  | '0' :: cs => some (['0'], cs)
  | cs => readDigits 10 cs

/-! ## Whole numbers -/

/-- A whole number that fits 64 bits with a sign. -/
def word (n : Int) (rest : List Char) : Option (Value × List Char) :=
  if Int64.minValue.toInt ≤ n ∧ n ≤ Int64.maxValue.toInt then some (.integer n, rest) else none

/-- Reads a whole number: in base 16, 8 or 2 without a sign, else in decimal. -/
def readInteger : Reader Value
  | '0' :: 'x' :: cs => do
    let (ds, cs) ← readDigits 16 cs
    word (ofDigits 16 ds) cs
  | '0' :: 'o' :: cs => do
    let (ds, cs) ← readDigits 8 cs
    word (ofDigits 8 ds) cs
  | '0' :: 'b' :: cs => do
    let (ds, cs) ← readDigits 2 cs
    word (ofDigits 2 ds) cs
  | cs => do
    let (negative, cs) := readSign cs
    let (ds, cs) ← readDecimal cs
    let n : Int := ofDigits 10 ds
    word (if negative then -n else n) cs

/-! ## Floating-point numbers -/

/-- Reads an exponent. -/
def readExponent : Reader Int
  | c :: cs =>
    if c == 'e' || c == 'E' then do
      let (negative, cs) := readSign cs
      let (ds, cs) ← readDigits 10 cs
      let n : Int := ofDigits 10 ds
      return (if negative then -n else n, cs)
    else none
  | [] => none

/-- Reads a fraction. -/
def readFraction : Reader (List Char)
  | '.' :: cs => readDigits 10 cs
  | _ => none

/-- Whether a significand, given by its digits, times a power of ten lies beyond the range of a
double. -/
def isBeyondDouble (digits : List Char) (exponent : Int) : Bool :=
  let significant := digits.dropWhile (· == '0')
  let magnitude := significant.length + exponent
  if significant.isEmpty || magnitude < 309 then false
  else if 309 < magnitude then true
  else
    let limit := Nat.pow 2 1024 - Nat.pow 2 970
    if 0 ≤ exponent then limit ≤ ofDigits 10 significant * Nat.pow 10 exponent.toNat
    else limit * Nat.pow 10 exponent.natAbs ≤ ofDigits 10 significant

/-- Reads a floating-point number: a decimal number with a fraction or an exponent or both. A
positive number beyond the range of a double is not one. -/
def readDecimalFloat : Reader Value := fun cs => do
  let (negative, cs) := readSign cs
  let (whole, cs) ← readDecimal cs
  let (fraction, exponent, cs) ← match readFraction cs with
    | some (fraction, cs) =>
      match readExponent cs with
      | some (exponent, cs) => some (fraction, exponent, cs)
      | none =>
        match cs with
        | 'e' :: _ | 'E' :: _ => none
        | cs => some (fraction, (0 : Int), cs)
    | none => (readExponent cs).map fun (exponent, cs) => ([], exponent, cs)
  if !negative && isBeyondDouble (whole ++ fraction) (exponent - fraction.length) then none
  else some (.float, cs)

/-- Reads an infinity or a number that is none. -/
def readSpecialFloat : Reader Value := fun cs =>
  match (readSign cs).2 with
  | 'i' :: 'n' :: 'f' :: cs => some (.float, cs)
  | 'n' :: 'a' :: 'n' :: cs => some (.float, cs)
  | _ => none

/-! ## Dates and times -/

/-- Reads a number of exactly `count` digits between two bounds. -/
def readField (count least greatest : Nat) : Reader Nat := fun cs =>
  let ds := cs.take count
  let n := ofDigits 10 ds
  if ds.length = count ∧ ds.all Char.isDigit ∧ least ≤ n ∧ n ≤ greatest then
    some (n, cs.drop count)
  else none

/-- Reads one character out of a list. -/
def readOneOf (allowed : List Char) : Reader Char
  | c :: cs => if c ∈ allowed then some (c, cs) else none
  | [] => none

/-- The number of days of a month. -/
def daysInMonth (year month : Nat) : Nat :=
  if month = 2 then if year % 4 = 0 ∧ (year % 100 ≠ 0 ∨ year % 400 = 0) then 29 else 28
  else if month ∈ [4, 6, 9, 11] then 30
  else 31

/-- Reads a date. -/
def readDate (cs : List Char) : Option (List Char) := do
  let (year, cs) ← readField 4 0 9999 cs
  let (_, cs) ← readOneOf ['-'] cs
  let (month, cs) ← readField 2 1 12 cs
  let (_, cs) ← readOneOf ['-'] cs
  let (_, cs) ← readField 2 1 (daysInMonth year month) cs
  return cs

/-- Reads a time of the day, perhaps with a fraction of a second. -/
def readTime (cs : List Char) : Option (List Char) := do
  let (_, cs) ← readField 2 0 23 cs
  let (_, cs) ← readOneOf [':'] cs
  let (_, cs) ← readField 2 0 59 cs
  let (_, cs) ← readOneOf [':'] cs
  let (_, cs) ← readField 2 0 60 cs
  match cs with
  | '.' :: c :: rest => if c.isDigit then some (rest.dropWhile Char.isDigit) else some cs
  | cs => some cs

/-- Reads the offset of a time zone. -/
def readOffset (cs : List Char) : Option (List Char) := do
  match cs with
  | 'Z' :: cs => return cs
  | 'z' :: cs => return cs
  | cs =>
    let (_, cs) ← readOneOf ['+', '-'] cs
    let (_, cs) ← readField 2 0 23 cs
    let (_, cs) ← readOneOf [':'] cs
    let (_, cs) ← readField 2 0 59 cs
    return cs

/-- Reads a date with or without a time and an offset, or a time alone. -/
def readDatetime : Reader Value := fun cs =>
  match readDate cs with
  | some cs =>
    match readOneOf ['T', 't', ' '] cs with
    | some (_, afterMark) =>
      match readTime afterMark with
      | some cs => some (.datetime, (readOffset cs).getD cs)
      | none => some (.datetime, cs)
    | none => some (.datetime, cs)
  | none => (readTime cs).map fun cs => (.datetime, cs)

/-- Reads a value that begins with a sign or a digit. -/
def readNumeric : Reader Value := fun cs =>
  readDatetime cs <|> readDecimalFloat cs <|> readSpecialFloat cs <|> readInteger cs

end WirelessScan.Toml
