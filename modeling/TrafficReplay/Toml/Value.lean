import TrafficReplay.Number.Double

namespace TrafficReplay.Toml

/-- How a table came about: named on the way to another one, by its own header, by a dotted key,
    or in braces. -/
inductive Origin where
  | onTheWay
  | header
  | dotted
  | braces
deriving DecidableEq, Repr

inductive Node where
  | text (value : String)
  | integer (value : Int)
  | float (value : Double)
  | bool (value : Bool)
  | moment
  | array (items : List Node)
  | table (origin : Origin) (fields : List (String × Node))
  | tables (items : List (List (String × Node)))
deriving Repr

instance : Inhabited Node := ⟨.moment⟩

abbrev Fields := List (String × Node)

def Fields.put : Fields → String → Node → Fields
  | [], key, node => [(key, node)]
  | (other, old) :: rest, key, node =>
    if other = key then (other, node) :: rest else (other, old) :: Fields.put rest key node

/-- Adds one field, if the table at the end of the path takes it: a table built by dotted keys takes
    fields by dotted keys only, and a dotted key never enters a table with a header of its own. -/
def addField (takes : Bool) (fields : Fields) (path : List String) (key : String) (node : Node) :
    Option Fields :=
  match path with
  | [] =>
    if takes then
      match fields.lookup key with
      | none => some (fields.put key node)
      | some _ => none
    else none
  | first :: rest =>
    match fields.lookup first with
    | none => do
      let inner ← addField true [] rest key node
      return fields.put first (.table .dotted inner)
    | some (.table .dotted inner) => do
      let inner ← addField true inner rest key node
      return fields.put first (.table .dotted inner)
    | some (.table .onTheWay inner) => do
      let inner ← addField (!rest.isEmpty) inner rest key node
      return fields.put first (.table .onTheWay inner)
    | some (.tables items) =>
      match items.getLast? with
      | none => none
      | some last => do
        let inner ← addField (!rest.isEmpty) last rest key node
        return fields.put first (.tables (items.dropLast ++ [inner]))
    | some _ => none

def atHeader (fields : Fields) (path : List String) (change : Fields → Option Fields) :
    Option Fields :=
  match path with
  | [] => change fields
  | first :: rest =>
    match fields.lookup first with
    | none => do
      let inner ← atHeader [] rest change
      return fields.put first (.table .onTheWay inner)
    | some (.table .braces _) => none
    | some (.table origin inner) => do
      let inner ← atHeader inner rest change
      return fields.put first (.table origin inner)
    | some (.tables items) =>
      match items.getLast? with
      | none => none
      | some last => do
        let inner ← atHeader last rest change
        return fields.put first (.tables (items.dropLast ++ [inner]))
    | some _ => none

/-- Opens the table that a header names; only one named on the way may exist before. -/
def openTable (fields : Fields) (path : List String) (key : String) : Option Fields :=
  atHeader fields path fun inner =>
    match inner.lookup key with
    | none => some (inner.put key (.table .header []))
    | some (.table .onTheWay held) => some (inner.put key (.table .header held))
    | some _ => none

def openItem (fields : Fields) (path : List String) (key : String) : Option Fields :=
  atHeader fields path fun inner =>
    match inner.lookup key with
    | none => some (inner.put key (.tables [[]]))
    | some (.tables items) => some (inner.put key (.tables (items ++ [[]])))
    | some _ => none

def addUnder (fields : Fields) (header : List String) (path : List String) (key : String)
    (node : Node) : Option Fields :=
  atHeader fields header fun inner => addField path.isEmpty inner path key node

end TrafficReplay.Toml
