import TrafficReplay.Wire.Section

namespace TrafficReplay

inductive OpKind where
  | insert
  | query
  | getMore
  | reply
  | killCursors
  | command
  | update
  | delete
  | other
deriving DecidableEq, Repr

namespace OpKind

def all : List OpKind :=
  [.insert, .query, .getMore, .reply, .killCursors, .command, .update, .delete, .other]

def text : OpKind → String
  | .insert => "insert"
  | .query => "query"
  | .getMore => "getmore"
  | .reply => "reply"
  | .killCursors => "killcursors"
  | .command => "command"
  | .update => "update"
  | .delete => "delete"
  | .other => "other"

def name : OpKind → String
  | .insert => "Insert"
  | .query => "Query"
  | .getMore => "GetMore"
  | .reply => "Reply"
  | .killCursors => "KillCursors"
  | .command => "Command"
  | .update => "Update"
  | .delete => "Delete"
  | .other => "Other"

def ofText? (text : String) : Option OpKind := all.find? (·.text = text)

end OpKind

namespace Frame

def commandSuffix : String := ".$cmd"

def isCommandNamespace (ns : String) : Bool := ns.endsWith commandSuffix

def namespace? (frame : Frame) : Option String :=
  match frame.opCode with
  | .insert | .query | .getMore | .update | .delete =>
    (readCString frame.body 4).toOption.map Prod.fst
  | .command => (readCString frame.body 0).toOption.map fun (db, _) => db ++ commandSuffix
  | .msg => do
    let doc ← frame.messageDocument.toOption
    let db ← doc.text? "$db"
    return db ++ commandSuffix
  | _ => none

/-- A query on a command namespace is a command, as the server itself treats it. -/
def isCommandQuery (frame : Frame) : Bool :=
  frame.opCode = .query && (frame.namespace?.map isCommandNamespace).getD false

def kind (frame : Frame) : OpKind :=
  match frame.opCode with
  | .insert => .insert
  | .query => if frame.isCommandQuery then .command else .query
  | .getMore => .getMore
  | .reply | .commandReply => .reply
  | .killCursors => .killCursors
  | .command | .msg => .command
  | .update => .update
  | .delete => .delete
  | .unknown _ => .other

def queryDocument (frame : Frame) : Except FrameFault Document := do
  if frame.opCode ≠ .query then throw (.noQueryDocument frame.opCode)
  let (_, next) ← readCString frame.body 4
  let (doc, _) ← readDocument frame.body (next + 8)
  return doc

/-- First key of a command document, or of the document that a query wrapper holds. -/
def commandKey? (doc : Document) : Option String := do
  let first ← doc.firstKey?
  if first = "$query" ∨ first = "query" then
    match doc.document? first with
    | some inner => inner.firstKey?
    | none => return first
  else return first

def commandName? (frame : Frame) : Option String :=
  match frame.opCode with
  | .query =>
    if frame.isCommandQuery then do
      let doc ← frame.queryDocument.toOption
      commandKey? doc
    else none
  | .command => do
    let (_, next) ← (readCString frame.body 0).toOption
    let (name, _) ← (readCString frame.body next).toOption
    return name
  | .msg => do
    let doc ← frame.messageDocument.toOption
    doc.firstKey?
  | _ => none

def numberToReturn? (frame : Frame) : Option Int32 := do
  let (_, next) ← (readCString frame.body 4).toOption
  match frame.opCode with
  | .query => (readInt32 frame.body (next + 4)).toOption
  | .getMore => (readInt32 frame.body next).toOption
  | _ => none

end Frame

end TrafficReplay
