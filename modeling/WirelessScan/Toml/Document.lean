import WirelessScan.Toml.Table
import WirelessScan.Toml.Text

/-!
# TOML documents

A text is read in two stages: into lines, which are headers and definitions, and from the lines into
the root table. Either stage refuses the text as a whole; there is no partial answer.
-/

namespace WirelessScan.Toml

/-! ## Values -/

mutual

/-- Reads a value at a depth of nesting, within `fuel` steps. -/
def readValue : (fuel depth : Nat) → Reader Value
  | 0, _, _ => none
  | fuel + 1, depth, cs =>
    match cs with
    | [] => none
    | '[' :: cs =>
      if depth + 1 < depthLimit then do
        let (items, cs) ← readArray fuel (depth + 1) cs
        return (.array items, cs)
      else none
    | '\x7b' :: cs =>
      if depth + 1 < depthLimit then
        match skipBlanks cs with
        | '\x7d' :: cs => some (.table [], cs)
        | cs => do
          let (items, cs) ← readInline fuel (depth + 1) [] cs
          return (.table (Item.toEntries items), cs)
      else none
    | 't' :: 'r' :: 'u' :: 'e' :: cs => some (.boolean true, cs)
    | 'f' :: 'a' :: 'l' :: 's' :: 'e' :: cs => some (.boolean false, cs)
    | c :: cs =>
      if c == '"' || c == '\'' then
        (readString (c :: cs)).map fun (s, cs) => (.string s, cs)
      else if c == '+' || c == '-' || c.isDigit then readNumeric (c :: cs)
      else readSpecialFloat (c :: cs)

/-- Reads the items of an array up to its closing bracket. A comma may follow the last one. -/
def readArray : (fuel depth : Nat) → Reader (List Value)
  | 0, _, _ => none
  | fuel + 1, depth, cs =>
    match skipLayout cs with
    | ']' :: cs => some ([], cs)
    | cs => do
      let (v, cs) ← readValue fuel depth cs
      match skipLayout cs with
      | ',' :: cs =>
        let (vs, cs) ← readArray fuel depth cs
        return (v :: vs, cs)
      | ']' :: cs => return ([v], cs)
      | _ => none

/-- Reads the definitions of an inline table up to its closing brace. They stand on one line, and no
comma may follow the last one. -/
def readInline : (fuel depth : Nat) → Items → Reader Items
  | 0, _, _, _ => none
  | fuel + 1, depth, items, cs => do
    let (keys, cs) ← readKey cs
    match cs with
    | '=' :: cs =>
      let (v, cs) ← readValue fuel depth (skipBlanks cs)
      let items ← Items.define items keys v
      match skipBlanks cs with
      | ',' :: cs => readInline fuel depth items cs
      | '\x7d' :: cs => return (items, cs)
      | _ => none
    | _ => none

end

/-! ## Lines -/

/-- A line of a document that says something. -/
inductive Line where
  /-- The header of a table. -/
  | header (path : List String)
  /-- The header of one more table of an array. -/
  | arrayHeader (path : List String)
  | define (keys : List String) (v : Value)

/-- Reads a header, after its first bracket. -/
def readHeader (cs : List Char) : Option (Line × List Char) := do
  match cs with
  | '[' :: cs =>
    let (path, cs) ← readKey cs
    match cs with
    | ']' :: ']' :: cs => return (.arrayHeader path, ← readLineEnd cs)
    | _ => none
  | cs =>
    let (path, cs) ← readKey cs
    match cs with
    | ']' :: cs => return (.header path, ← readLineEnd cs)
    | _ => none

/-- Reads a definition and the end of its line. -/
def readDefinition (cs : List Char) : Option (Line × List Char) := do
  let (keys, cs) ← readKey cs
  match cs with
  | '=' :: cs =>
    let cs := skipBlanks cs
    let (v, cs) ← readValue (2 * cs.length + 2) 0 cs
    return (.define keys v, ← readLineEnd cs)
  | _ => none

/-- Reads the lines of a document, within `fuel` steps. -/
def readLinesWithin : (fuel : Nat) → List Char → Option (List Line)
  | 0, _ => none
  | fuel + 1, cs =>
    match skipBlanks cs with
    | [] => some []
    | '#' :: cs => do
      let cs ← readLineEnd ('#' :: cs)
      readLinesWithin fuel cs
    | '[' :: cs => do
      let (line, cs) ← readHeader cs
      return line :: (← readLinesWithin fuel cs)
    | c :: cs =>
      match readNewline (c :: cs) with
      | some cs => readLinesWithin fuel cs
      | none => do
        let (line, cs) ← readDefinition (c :: cs)
        return line :: (← readLinesWithin fuel cs)

/-- Reads the lines of a document. A byte order mark may stand in front. -/
def readLineList (cs : List Char) : Option (List Line) :=
  match cs with
  | '\ufeff' :: cs => readLinesWithin (cs.length + 1) cs
  | cs => readLinesWithin (cs.length + 1) cs

/-! ## Documents -/

/-- Where the table that is being filled goes to. -/
inductive Place where
  | root
  | table (path : List String)
  | arrayItem (path : List String)

/-- A document as far as its lines have been taken. The table that is being filled is kept apart. -/
structure Draft where
  root : Items := []
  place : Place := .root
  current : Items := []

namespace Draft

/-- Changes the table that holds the last key of a path. -/
def alterParent {α : Type} (root : Items) (path : List String)
    (f : String → Items → Option (α × Items)) : Option (α × Items) := do
  let key ← path.getLast?
  Items.alter false (fun _ items => f key items) path.dropLast .explicit root

/-- Puts the table that is being filled at its place. -/
def finish (d : Draft) : Option Items :=
  match d.place with
  | .root => some d.current
  | .table path =>
    (alterParent d.root path fun key items =>
      match items.lookup key with
      | none => some ((), items ++ [(key, .table .explicit d.current)])
      | some (.table origin _) =>
        if origin.isImplicit then some ((), Items.set items key (.table .explicit d.current))
        else none
      | some _ => none).map (·.2)
  | .arrayItem path =>
    (alterParent d.root path fun key items =>
      match items.lookup key with
      | none => some ((), items ++ [(key, .tables [d.current])])
      | some (.tables ts) => some ((), Items.set items key (.tables (ts ++ [d.current])))
      | some _ => none).map (·.2)

/-- Begins a table at a header. An implicit table gets its header late; any other table that is
there already is refused. -/
def beginTable (root : Items) (path : List String) : Option Draft := do
  let (current, root) ← alterParent root path fun key items =>
    match items.lookup key with
    | none => some ([], items)
    | some (.table origin sub) =>
      if origin.isImplicit && !origin.isDotted then some (sub, items.filter (·.1 ≠ key)) else none
    | some _ => none
  return { root, place := .table path, current }

/-- Begins one more table of an array at a header. -/
def beginArrayItem (root : Items) (path : List String) : Option Draft := do
  let (_, root) ← alterParent root path fun key items =>
    match items.lookup key with
    | none => some ((), items ++ [(key, .tables [])])
    | some (.tables _) => some ((), items)
    | some _ => none
  return { root, place := .arrayItem path }

/-- Takes a line. -/
def take (d : Draft) : Line → Option Draft
  | .header path => do beginTable (← d.finish) path
  | .arrayHeader path => do beginArrayItem (← d.finish) path
  | .define keys v => return { d with current := ← Items.define d.current keys v }

end Draft

/-- Reads a document: the entries of its root table, or nothing if the text is not TOML. -/
def parse (text : String) : Option Entries := do
  let lines ← readLineList text.toList
  let draft ← lines.foldlM Draft.take {}
  return Item.toEntries (← draft.finish)

end WirelessScan.Toml
