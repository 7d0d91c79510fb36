import TrafficReplay.Number.Double

namespace TrafficReplay

inductive Value where
  | double (value : Double)
  | text (value : String)
  | document (fields : List (String × Value))
  | array (items : List Value)
  | binary (subtype : UInt8) (bytes : List UInt8)
  | undefined
  | objectId (bytes : List UInt8)
  | bool (value : Bool)
  | date (millis : Int64)
  | null
  | regex (pattern options : String)
  | pointer (namespaced : String) (id : List UInt8)
  | code (source : String)
  | symbol (name : String)
  | scopedCode (source : String) (scope : List (String × Value))
  | int32 (value : Int32)
  | timestamp (time increment : UInt32)
  | int64 (value : Int64)
  | decimal (bytes : List UInt8)
  | minKey
  | maxKey
deriving Repr

instance : Inhabited Value := ⟨.null⟩

abbrev Document := List (String × Value)

namespace Document

def get? (doc : Document) (key : String) : Option Value := List.lookup key doc

def contains (doc : Document) (key : String) : Bool := (doc.get? key).isSome

def insert : Document → String → Value → Document
  | [], key, value => [(key, value)]
  | (other, old) :: rest, key, value =>
    if other = key then (other, value) :: rest else (other, old) :: insert rest key value

def ofFields (fields : List (String × Value)) : Document :=
  fields.foldl (fun doc field => doc.insert field.1 field.2) []

def firstKey? (doc : Document) : Option String := (doc.head?).map Prod.fst

def document? (doc : Document) (key : String) : Option Document :=
  match doc.get? key with
  | some (.document inner) => some inner
  | _ => none

def array? (doc : Document) (key : String) : Option (List Value) :=
  match doc.get? key with
  | some (.array items) => some items
  | _ => none

def text? (doc : Document) (key : String) : Option String :=
  match doc.get? key with
  | some (.text value) => some value
  | _ => none

def int64? (doc : Document) (key : String) : Option Int64 :=
  match doc.get? key with
  | some (.int64 value) => some value
  | _ => none

def bool? (doc : Document) (key : String) : Option Bool :=
  match doc.get? key with
  | some (.bool value) => some value
  | _ => none

def generic? (doc : Document) (key : String) : Option (List UInt8) :=
  match doc.get? key with
  | some (.binary 0 bytes) => some bytes
  | _ => none

end Document

mutual

def Value.equal : Value → Value → Bool
  | .double a, .double b => a.equal b
  | .text a, .text b => a = b
  | .document a, .document b => a.length = b.length && fieldsAgree a b
  | .array a, .array b => itemsEqual a b
  | .binary s a, .binary t b => s = t && a = b
  | .undefined, .undefined => true
  | .objectId a, .objectId b => a = b
  | .bool a, .bool b => a = b
  | .date a, .date b => a = b
  | .null, .null => true
  | .regex p o, .regex q r => p = q && o = r
  | .pointer n a, .pointer m b => n = m && a = b
  | .code a, .code b => a = b
  | .symbol a, .symbol b => a = b
  | .scopedCode a s, .scopedCode b t => a = b && s.length = t.length && fieldsAgree s t
  | .int32 a, .int32 b => a = b
  | .timestamp t i, .timestamp u j => t = u && i = j
  | .int64 a, .int64 b => a = b
  | .decimal a, .decimal b => a = b
  | .minKey, .minKey => true
  | .maxKey, .maxKey => true
  | _, _ => false

def fieldsAgree : List (String × Value) → List (String × Value) → Bool
  | [], _ => true
  | (key, value) :: rest, other =>
    (match List.lookup key other with
      | some held => value.equal held
      | none => false) && fieldsAgree rest other

def itemsEqual : List Value → List Value → Bool
  | [], [] => true
  | a :: as, b :: bs => a.equal b && itemsEqual as bs
  | _, _ => false

end

def Document.matches (doc filter : Document) : Bool :=
  filter.all fun (key, value) =>
    match doc.get? key with
    | some held => held.equal value
    | none => false

end TrafficReplay
