import WirelessScan.Toml.Value

/-!
# Tables under construction

While a text is read, a table remembers how it came about: by its own header, implicitly as the
parent of one, or through dotted keys. That decides what may still be added to it: a table has at
most one header, dotted keys extend only tables that dotted keys made, and no key is defined
twice.
-/

namespace WirelessScan.Toml

/-- How a table came about. -/
structure Origin where
  /-- It has no header of its own and is not an inline table. -/
  isImplicit : Bool
  /-- It was made by a dotted key. -/
  isDotted : Bool
deriving DecidableEq, Repr

/-- A table with a header, the root, or an inline table. -/
def Origin.explicit : Origin := ⟨false, false⟩

/-- An entry of a table under construction. -/
inductive Item where
  | value (v : Value)
  | table (origin : Origin) (entries : List (String × Item))
  /-- An array of tables that grows by headers. -/
  | tables (ts : List (List (String × Item)))

/-- The entries of a table under construction. -/
abbrev Items := List (String × Item)

namespace Items

/-- Puts an item under a key, in place of the one that is there. -/
def set (items : Items) (key : String) (item : Item) : Items :=
  match items with
  | [] => [(key, item)]
  | (k, i) :: rest => if k = key then (key, item) :: rest else (k, i) :: set rest key item

/-- Changes the table at a path. Missing tables on the way are made implicitly; an array of tables
stands for its last one. Nothing is answered if something else is in the way, or a table that dotted
keys may not extend. -/
def alter {α : Type} (dotted : Bool) (f : Origin → Items → Option (α × Items)) :
    (path : List String) → Origin → Items → Option (α × Items)
  | [], origin, items => f origin items
  | key :: path, _, items =>
    match items.lookup key with
    | none => do
      let origin := ⟨true, dotted⟩
      let (a, sub) ← alter dotted f path origin []
      return (a, set items key (.table origin sub))
    | some (.value _) => none
    | some (.tables ts) =>
      match ts.getLast? with
      | none => none
      | some last => do
        let (a, sub) ← alter dotted f path .explicit last
        return (a, set items key (.tables (ts.dropLast ++ [sub])))
    | some (.table origin sub) =>
      if dotted && !origin.isImplicit then none
      else do
        let (a, sub) ← alter dotted f path origin sub
        return (a, set items key (.table origin sub))

/-- Defines a key, given by its parts. -/
def define (items : Items) (keys : List String) (v : Value) : Option Items :=
  match keys.getLast? with
  | none => none
  | some key =>
    let path := keys.dropLast
    let add (origin : Origin) (items : Items) : Option (Unit × Items) :=
      if origin.isDotted = path.isEmpty then none
      else
        match items.lookup key with
        | some _ => none
        | none => some ((), items ++ [(key, .value v)])
    (alter true add path .explicit items).map (·.2)

end Items

mutual

/-- The finished value of an item. -/
def Item.toValue : Item → Value
  | .value v => v
  | .table _ entries => .table (Item.toEntries entries)
  | .tables ts => .array (Item.toTables ts)

/-- The finished entries of a table. -/
def Item.toEntries : List (String × Item) → List (String × Value)
  | [] => []
  | (key, item) :: rest => (key, item.toValue) :: Item.toEntries rest

/-- The finished tables of an array. -/
def Item.toTables : List (List (String × Item)) → List Value
  | [] => []
  | t :: rest => .table (Item.toEntries t) :: Item.toTables rest

end

end WirelessScan.Toml
