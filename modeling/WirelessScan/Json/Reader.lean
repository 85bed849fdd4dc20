import WirelessScan.Json.Token
import WirelessScan.Named

/-!
# Typed readers of JSON text

A reader knows which type it expects and walks the text from left to right, so of two problems the
first one in the text decides. A value of another type than expected is a fault of the data; a
scalar is read to its end before that is said, an array or object is not.

Records come as objects, with fields in any order, or as arrays, with fields in the order of
declaration. Values that no field asks for are skipped at any depth.
-/

namespace WirelessScan.Json

/-- The fault of a value that was not expected here, at its first character. -/
def unexpected (cs : List Char) : Fault :=
  let afterwards {α : Type} : Except Fault α → Fault
    | .ok _ => .data
    | .error fault => fault
  match cs with
  | [] => .eof
  | 'n' :: cs => afterwards (readWord ['u', 'l', 'l'] cs)
  | 't' :: cs => afterwards (readWord ['r', 'u', 'e'] cs)
  | 'f' :: cs => afterwards (readWord ['a', 'l', 's', 'e'] cs)
  | '"' :: cs => afterwards (readString cs)
  | '[' :: _ => .data
  | '\x7b' :: _ => .data
  | c :: _ => if c == '-' || c.isDigit then afterwards (readNumber cs) else .malformed

/-- Reads a whole number between two bounds. -/
def readInt (least greatest : Int) : Reader Int := fun cs =>
  match skipBlanks cs with
  | [] => .error .eof
  | c :: cs =>
    if c == '-' || c.isDigit then do
      match ← readNumber (c :: cs) with
      | (.whole n, cs) =>
        if least ≤ n ∧ n ≤ greatest then return (n, cs) else throw .data
      | (.other, _) => throw .data
    else .error (unexpected (c :: cs))

/-- Reads a string. -/
def readText : Reader String := fun cs =>
  match skipBlanks cs with
  | '"' :: cs => readString cs
  | cs => .error (unexpected cs)

/-! ## Skipping -/

/-- An array or object that is being skipped. -/
inductive Frame where
  | array
  | object

/-- Skips the name of a field and the colon after it. -/
def skipName (cs : List Char) : Except Fault (List Char) :=
  match skipBlanks cs with
  | [] => .error .eof
  | '"' :: cs => do
    let cs ← skipString cs
    match skipBlanks cs with
    | [] => throw .eof
    | ':' :: cs => return cs
    | _ => throw .malformed
  | _ => .error .malformed

/-- Skips a scalar at its first character. -/
def skipScalar (c : Char) (cs : List Char) : Except Fault (List Char) :=
  match c with
  | 'n' => readWord ['u', 'l', 'l'] cs
  | 't' => readWord ['r', 'u', 'e'] cs
  | 'f' => readWord ['a', 'l', 's', 'e'] cs
  | '"' => skipString cs
  | '-' => skipNumber cs
  | c => if c.isDigit then skipNumber (c :: cs) else .error .malformed

/-- Skips a value (`done` is false) and then what is left of the arrays and objects around it, the
innermost first, within `fuel` steps. -/
def skipWithin : (fuel : Nat) → (done : Bool) → List Frame → List Char → Except Fault (List Char)
  | 0, _, _, _ => .error .eof
  | fuel + 1, false, frames, cs =>
    match skipBlanks cs with
    | [] => .error .eof
    | '[' :: cs =>
      match skipBlanks cs with
      | [] => .error .eof
      | ']' :: cs => skipWithin fuel true frames cs
      | cs => skipWithin fuel false (.array :: frames) cs
    | '\x7b' :: cs =>
      match skipBlanks cs with
      | [] => .error .eof
      | '\x7d' :: cs => skipWithin fuel true frames cs
      | cs => do
        let cs ← skipName cs
        skipWithin fuel false (.object :: frames) cs
    | c :: cs => do
      let cs ← skipScalar c cs
      skipWithin fuel true frames cs
  | _ + 1, true, [], cs => .ok cs
  | fuel + 1, true, .array :: frames, cs =>
    match skipBlanks cs with
    | [] => .error .eof
    | ',' :: cs => skipWithin fuel false (.array :: frames) cs
    | ']' :: cs => skipWithin fuel true frames cs
    | _ => .error .malformed
  | fuel + 1, true, .object :: frames, cs =>
    match skipBlanks cs with
    | [] => .error .eof
    | ',' :: cs => do
      let cs ← skipName cs
      skipWithin fuel false (.object :: frames) cs
    | '\x7d' :: cs => skipWithin fuel true frames cs
    | _ => .error .malformed

/-- Skips a value of any type and depth. -/
def skipValue (cs : List Char) : Except Fault (List Char) :=
  skipWithin (2 * cs.length + 2) false [] cs

/-! ## Arrays -/

/-- Looks for the next item of an array: the text at the item, or nothing at the closing bracket,
which stays in the text. -/
def nextItem (first : Bool) (cs : List Char) : Except Fault (Option (List Char) × List Char) :=
  match skipBlanks cs with
  | [] => .error .eof
  | ']' :: cs => .ok (none, ']' :: cs)
  | c :: cs =>
    if first then .ok (some (c :: cs), cs)
    else if c == ',' then
      match skipBlanks cs with
      | [] => .error .eof
      | ']' :: _ => .error .malformed
      | cs => .ok (some cs, cs)
    else .error .malformed

/-- Reads the closing bracket of an array. -/
def closeArray (cs : List Char) : Except Fault (List Char) :=
  match skipBlanks cs with
  | [] => .error .eof
  | ']' :: cs => .ok cs
  | _ => .error .malformed

/-- Reads the items of an array up to its closing bracket, which stays in the text. -/
def readItems {α : Type} (item : Reader α) : (fuel : Nat) → (first : Bool) → Reader (List α)
  | 0, _, _ => .error .eof
  | fuel + 1, first, cs => do
    match ← nextItem first cs with
    | (none, cs) => return ([], cs)
    | (some cs, _) =>
      let (a, cs) ← item cs
      let (as, cs) ← readItems item fuel false cs
      return (a :: as, cs)

/-- Reads an array of items of one type. -/
def readArray {α : Type} (item : Reader α) : Reader (List α) := fun cs =>
  match skipBlanks cs with
  | '[' :: cs => do
    let (as, cs) ← readItems item (cs.length + 1) true cs
    let cs ← closeArray cs
    return (as, cs)
  | cs => .error (unexpected cs)

/-! ## Records -/

/-- A field of a record that is collected in a draft of type `σ`. -/
structure RecordField (σ : Type) where
  name : String
  /-- Whether the record may leave the field out. -/
  isOptional : Bool := false
  /-- Whether the draft has the field already. -/
  isSet : σ → Bool
  /-- Reads the value of the field into the draft. -/
  read : σ → Reader σ

/-- Reads the fields of a record in the order of declaration, out of an array. -/
def readPositional {σ : Type} : List (RecordField σ) → (first : Bool) → σ → Reader σ
  | [], _, draft, cs => .ok (draft, cs)
  | field :: fields, first, draft, cs => do
    match ← nextItem first cs with
    | (none, cs) => if field.isOptional then readPositional fields first draft cs else throw .data
    | (some cs, _) =>
      let (draft, cs) ← field.read draft cs
      readPositional fields false draft cs

/-- Looks for the next field of an object: the text after the opening quote of its name, or nothing
at the closing brace, which is consumed. -/
def nextName (first : Bool) (cs : List Char) : Except Fault (Option (List Char) × List Char) :=
  match skipBlanks cs with
  | [] => .error .eof
  | '\x7d' :: cs => .ok (none, cs)
  | c :: cs =>
    if first then
      if c == '"' then .ok (some cs, cs) else .error .malformed
    else if c == ',' then
      match skipBlanks cs with
      | [] => .error .eof
      | '"' :: cs => .ok (some cs, cs)
      | _ => .error .malformed
    else .error .malformed

/-- Reads the colon after the name of a field. -/
def readColon (cs : List Char) : Except Fault (List Char) :=
  match skipBlanks cs with
  | [] => .error .eof
  | ':' :: cs => .ok cs
  | _ => .error .malformed

/-- Reads the fields of a record by name, out of an object. A field that the draft has already is a
fault before its value is looked at. -/
def readNamedFields {σ : Type} (fields : List (RecordField σ)) :
    (fuel : Nat) → (first : Bool) → σ → Reader σ
  | 0, _, _, _ => .error .eof
  | fuel + 1, first, draft, cs => do
    match ← nextName first cs with
    | (none, cs) => return (draft, cs)
    | (some cs, _) =>
      let (name, cs) ← readString cs
      match fields.find? fun f => f.name == name with
      | some field =>
        if field.isSet draft then throw .data
        let cs ← readColon cs
        let (draft, cs) ← field.read draft cs
        readNamedFields fields fuel false draft cs
      | none =>
        let cs ← readColon cs
        let cs ← skipValue cs
        readNamedFields fields fuel false draft cs

/-- Reads a record out of an object or an array; `finish` answers nothing if a field is missing. -/
def readRecord {σ α : Type} (fields : List (RecordField σ)) (draft : σ) (finish : σ → Option α) :
    Reader α := fun cs =>
  match skipBlanks cs with
  | '[' :: cs => do
    let (draft, cs) ← readPositional fields true draft cs
    match finish draft with
    | none => throw .data
    | some a =>
      let cs ← closeArray cs
      return (a, cs)
  | '\x7b' :: cs => do
    let (draft, cs) ← readNamedFields fields (cs.length + 1) true draft cs
    match finish draft with
    | none => throw .data
    | some a => return (a, cs)
  | cs => .error (unexpected cs)

/-! ## Kinds -/

/-- The member of a kind that has a name. -/
def ofName {α : Type} [Named α] (name : String) : Except Fault α :=
  match Named.ofName? name with
  | some a => .ok a
  | none => .error .data

/-- Reads a member of a finite kind: its name, or an object with the name as its only field, whose
value is null. -/
def readKind {α : Type} [Named α] : Reader α := fun cs =>
  match skipBlanks cs with
  | [] => .error .eof
  | '"' :: cs => do
    let (name, cs) ← readString cs
    return (← ofName name, cs)
  | '\x7b' :: cs => do
    let (name, cs) ← readText cs
    let a ← ofName name
    let cs ← readColon cs
    match skipBlanks cs with
    | 'n' :: cs =>
      let cs ← readWord ['u', 'l', 'l'] cs
      match skipBlanks cs with
      | [] => throw .eof
      | '\x7d' :: cs => return (a, cs)
      | _ => throw .malformed
    | cs => throw (unexpected cs)
  | _ => .error .malformed

/-- Reads a whole text. Nothing but blanks may follow the value. -/
def read {α : Type} (reader : Reader α) (text : String) : Except Fault α := do
  let (a, cs) ← reader text.toList
  match skipBlanks cs with
  | [] => return a
  | _ => throw .malformed

end WirelessScan.Json
