import TrafficReplay.Document.Extended

namespace TrafficReplay

def Value.document? : Value → Option Document
  | .document fields => some fields
  | _ => none

mutual

def Item.value? : Item → Option Value
  | .flat value => some value
  | .document fields whole => fieldsValue? [] whole fields
  | .array items whole => if whole then (itemValues? items).map .array else none
  | .scopedCode source fields whole => do
    let scope ← (fieldsValue? [] whole fields).bind Value.document?
    return .scopedCode source scope

def fieldsValue? (read : Document) (whole : Bool) : List (String × Item) → Option Value
  | [] => if whole then some (.document read) else none
  | (key, item) :: rest =>
    if key = "$code" then
      match rest with
      | [] => if whole then item.text?.map .code else none
      | (next, scope) :: _ => do
        if next ≠ "$scope" then none
        return .scopedCode (← item.text?) (← scope.value?.bind Value.document?)
    else if key = "$scope" then
      match rest with
      | [] => none
      | (next, source) :: _ => do
        if next ≠ "$code" then none
        return .scopedCode (← source.text?) (← item.value?.bind Value.document?)
    else
      match Mark.ofKey? key with
      | some mark => mark.value? item
      | none =>
        match item.value? with
        | some value => fieldsValue? (read.insert key value) whole rest
        | none => none

def itemValues? : List Item → Option (List Value)
  | [] => some []
  | item :: rest =>
    match item.value?, itemValues? rest with
    | some value, some values => some (value :: values)
    | _, _ => none

end

/-- An extended form is a value, but not a document. -/
def Document.decode? (bytes : List UInt8) : Option Document := do
  let content ← content? bytes
  let (fields, whole) := readItems content
  (fieldsValue? [] whole fields).bind Value.document?

end TrafficReplay
