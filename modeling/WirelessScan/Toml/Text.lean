import WirelessScan.Toml.Number

/-!
# Blanks, comments, strings and keys in TOML

Strings come in four forms: basic ones with escapes and literal ones without, each on one line or
on several. On several lines a line break right after the opening quotes is dropped, a line break
is read as a line feed, and up to two quotes may stand before the closing ones.
-/

namespace WirelessScan.Toml

/-! ## Layout -/

/-- Blanks within a line. -/
def isBlank (c : Char) : Bool := c == ' ' || c == '\t'

/-- The text without the blanks in front. -/
def skipBlanks (cs : List Char) : List Char := cs.dropWhile isBlank

/-- Whether a character may stand in a comment: any but a control character, and the tab. -/
def isPlain (c : Char) : Bool := c == '\t' || (0x20 ≤ c.toNat && c.toNat != 0x7f)

/-- Reads a line break. -/
def readNewline : List Char → Option (List Char)
  | '\n' :: cs => some cs
  | '\r' :: '\n' :: cs => some cs
  | _ => none

/-- The text without a comment in front. -/
def skipComment : List Char → List Char
  | '#' :: cs => cs.dropWhile isPlain
  | cs => cs

/-- Reads the end of a line: blanks, a comment, and a line break or the end of the text. -/
def readLineEnd (cs : List Char) : Option (List Char) :=
  match skipComment (skipBlanks cs) with
  | [] => some []
  | cs => readNewline cs

/-- The text without blanks, line breaks and whole comments in front, within `fuel` steps. -/
def skipLayoutWithin : (fuel : Nat) → List Char → List Char
  | 0, cs => cs
  | fuel + 1, cs =>
    match readNewline (skipComment (skipBlanks cs)) with
    | some cs => skipLayoutWithin fuel cs
    | none => skipBlanks cs

/-- The text without blanks, line breaks and whole comments in front. -/
def skipLayout (cs : List Char) : List Char :=
  skipLayoutWithin (cs.length + 1) cs

/-! ## Strings -/

/-- The character of a code point, written with a number of hexadecimal digits. Surrogates are no
characters. -/
def readCodePoint (count : Nat) : Reader Char := fun cs =>
  let ds := cs.take count
  let n := ofDigits 16 ds
  if ds.length = count ∧ ds.all (isDigitOf 16) ∧ n.isValidChar then
    some (Char.ofNat n, cs.drop count)
  else none

/-- Reads the character of an escape, after the backslash. -/
def readEscape : Reader Char
  | 'b' :: cs => some ('\x08', cs)
  | 't' :: cs => some ('\t', cs)
  | 'n' :: cs => some ('\n', cs)
  | 'f' :: cs => some ('\x0c', cs)
  | 'r' :: cs => some ('\r', cs)
  | '"' :: cs => some ('"', cs)
  | '\\' :: cs => some ('\\', cs)
  | 'u' :: cs => readCodePoint 4 cs
  | 'U' :: cs => readCodePoint 8 cs
  | _ => none

/-- Reads a basic string on one line, after its opening quote. -/
def readBasic : (fuel : Nat) → Reader (List Char)
  | 0, _ => none
  | _ + 1, [] => none
  | _ + 1, '"' :: cs => some ([], cs)
  | fuel + 1, '\\' :: cs => do
    let (c, cs) ← readEscape cs
    let (s, cs) ← readBasic fuel cs
    return (c :: s, cs)
  | fuel + 1, c :: cs =>
    if isPlain c then do
      let (s, cs) ← readBasic fuel cs
      return (c :: s, cs)
    else none

/-- Reads a literal string on one line, after its opening quote. -/
def readLiteral : Reader (List Char)
  | [] => none
  | '\'' :: cs => some ([], cs)
  | c :: cs =>
    if isPlain c then do
      let (s, cs) ← readLiteral cs
      return (c :: s, cs)
    else none

/-- A string on several lines that meets quotes: three to five of them close it, all but the last
three belonging to it, and fewer belong to it. The answer is the number that belong to it and
whether they close it. -/
def quotesMet (quote : Char) (cs : List Char) : Nat × Bool :=
  let run := ((cs.take 5).takeWhile (· == quote)).length
  if run < 3 then (run, false) else (run - 3, true)

/-- The text after a backslash at the end of a line: without blanks and line breaks. Nothing, if the
line goes on. -/
def readContinuation (cs : List Char) : Option (List Char) :=
  (readNewline (skipBlanks cs)).map fun cs =>
    let rec skip : (fuel : Nat) → List Char → List Char
      | 0, cs => cs
      | fuel + 1, cs =>
        match readNewline (skipBlanks cs) with
        | some cs => skip fuel cs
        | none => skipBlanks cs
    skip (cs.length + 1) cs

/-- Reads a string on several lines, after its opening quotes, with or without escapes. -/
def readLines (quote : Char) (escapes : Bool) : (fuel : Nat) → Reader (List Char)
  | 0, _ => none
  | _ + 1, [] => none
  | fuel + 1, c :: cs =>
    if c == quote then
      match quotesMet quote (c :: cs) with
      | (own, true) => some (List.replicate own quote, (c :: cs).drop (own + 3))
      | (own, false) => do
        let (s, cs) ← readLines quote escapes fuel ((c :: cs).drop own)
        return (List.replicate own quote ++ s, cs)
    else if escapes && c == '\\' then
      match readContinuation cs with
      | some cs => readLines quote escapes fuel cs
      | none => do
        let (e, cs) ← readEscape cs
        let (s, cs) ← readLines quote escapes fuel cs
        return (e :: s, cs)
    else
      match readNewline (c :: cs) with
      | some cs => do
        let (s, cs) ← readLines quote escapes fuel cs
        return ('\n' :: s, cs)
      | none =>
        if isPlain c then do
          let (s, cs) ← readLines quote escapes fuel cs
          return (c :: s, cs)
        else none

/-- Reads a string of any form. -/
def readString : Reader String := fun cs =>
  let text : Option (List Char × List Char) :=
    match cs with
    | '"' :: '"' :: '"' :: cs => readLines '"' true (cs.length + 1) ((readNewline cs).getD cs)
    | '"' :: cs => readBasic (cs.length + 1) cs
    | '\'' :: '\'' :: '\'' :: cs => readLines '\'' false (cs.length + 1) ((readNewline cs).getD cs)
    | '\'' :: cs => readLiteral cs
    | _ => none
  text.map fun (s, cs) => (.ofList s, cs)

/-! ## Keys -/

/-- Whether a character may stand in a key without quotes. -/
def isKeyChar (c : Char) : Bool := c.isAlphanum || c == '_' || c == '-'

/-- Reads a key without dots: bare, or a string on one line. -/
def readSimpleKey : Reader String
  | '"' :: cs => do
    let (s, cs) ← readBasic (cs.length + 1) cs
    return (.ofList s, cs)
  | '\'' :: cs => do
    let (s, cs) ← readLiteral cs
    return (.ofList s, cs)
  | cs =>
    let key := cs.takeWhile isKeyChar
    if key.isEmpty then none else some (.ofList key, cs.dropWhile isKeyChar)

/-- Reads a key that may consist of several keys with dots and blanks between. -/
def readDottedKey : (fuel : Nat) → Reader (List String)
  | 0, _ => none
  | fuel + 1, cs => do
    let (key, cs) ← readSimpleKey (skipBlanks cs)
    match skipBlanks cs with
    | '.' :: cs =>
      let (keys, cs) ← readDottedKey fuel cs
      return (key :: keys, cs)
    | cs => return ([key], cs)

/-- The depth at which nested values and keys are refused. -/
def depthLimit : Nat := 80

/-- Reads a key and the blanks around it. A key of too many parts is refused. -/
def readKey : Reader (List String) := fun cs => do
  let (keys, cs) ← readDottedKey (cs.length + 1) cs
  if keys.length < depthLimit then some (keys, cs) else none

end WirelessScan.Toml
