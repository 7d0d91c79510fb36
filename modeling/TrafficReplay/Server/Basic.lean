import TrafficReplay.Net.Fault
import TrafficReplay.Text.Cut
import TrafficReplay.Wire.CursorField
import TrafficReplay.Wire.Reply
import TrafficReplay.Wire.Request

namespace TrafficReplay

structure ServerUser where
  userName : String
  password : String
deriving DecidableEq, Repr

structure Server where
  collections : List (String × List Document)
  cursors : List (Int64 × List Document)
  lastCursor : Int64
  lastRequest : Int32
  received : List Frame
  user : Option ServerUser
  refusing : Bool
  silent : Bool
  connections : Nat
  authentications : Nat

namespace Server

def defaultBatch : Nat := 101

def cursorBase : Int64 := 0x5eed00000000

def cursorStride : Int64 := 7919

def unauthorizedCode : Int32 := 13

def empty : Server where
  collections := []
  cursors := []
  lastCursor := cursorBase
  lastRequest := 0
  received := []
  user := none
  refusing := false
  silent := false
  connections := 0
  authentications := 0

instance : Inhabited Server := ⟨empty⟩

def documents (server : Server) (ns : String) : List Document :=
  (server.collections.lookup ns).getD []

def connect? (server : Server) (address : String) : Except LinkFault Server :=
  if server.refusing then
    .error ⟨.connectionRefused, "stub refused connection to " ++ address⟩
  else .ok { server with connections := server.connections + 1 }

def openCursors (server : Server) : List Int64 :=
  (server.cursors.map Prod.fst).mergeSort fun a b => decide (a ≤ b)

def receivedOf (server : Server) (opCode : OpCode) : List Frame :=
  server.received.filter fun frame => frame.opCode = opCode

def record (server : Server) (frame : Frame) : Server :=
  { server with received := server.received ++ [frame] }

def nextRequest (server : Server) : Int32 := server.lastRequest + 1

def countRequest (server : Server) : Server := { server with lastRequest := server.nextRequest }

def appendTo (ns : String) (docs : List Document) :
    List (String × List Document) → List (String × List Document)
  | [] => [(ns, docs)]
  | (other, held) :: rest =>
    if other = ns then (other, held ++ docs) :: rest else (other, held) :: appendTo ns docs rest

def store (server : Server) (ns : String) (docs : List Document) : Server :=
  { server with collections := appendTo ns docs server.collections }

def closeCursor (server : Server) (id : Int64) : Server :=
  { server with cursors := server.cursors.filter fun entry => entry.1 ≠ id }

def openCursor (server : Server) (id : Int64) (docs : List Document) : Server :=
  { server with cursors := (server.closeCursor id).cursors ++ [(id, docs)] }

abbrev Outcome := Server × Except FrameFault (Option Frame)

/-- All documents from an offset to the end; fuel bounds their number. -/
def readDocuments (bytes : List UInt8) : (fuel offset : Nat) → Except FrameFault (List Document)
  | 0, _ => .ok []
  | fuel + 1, offset =>
    if offset < bytes.length then do
      let (doc, next) ← readDocument bytes offset
      let docs ← readDocuments bytes fuel next
      return doc :: docs
    else .ok []

def insertion (frame : Frame) : Except FrameFault (String × List Document) := do
  let (ns, next) ← readCString frame.body 4
  let docs ← readDocuments frame.body frame.body.length next
  return (ns, docs)

/-- How many documents a batch has and whether the cursor closes after it. -/
def batchLimit (limit : Int32) : Nat × Bool :=
  if limit = 0 then (defaultBatch, false)
  else if limit = 1 then (1, true)
  else (limit.toInt.natAbs, limit < 0)

def batch (server : Server) (responseTo : Int32) (docs : List Document) (limit : Int32)
    (cursor : Option Int64) : Outcome :=
  let (size, single) := batchLimit limit
  let rest := docs.drop size
  let (id, server) :=
    if single || rest.isEmpty then (0, server)
    else
      match cursor with
      | some id => (id, server.openCursor id rest)
      | none =>
        let id := server.lastCursor + cursorStride
        (id, { server.openCursor id rest with lastCursor := id })
  (server.countRequest,
    (Frame.reply server.nextRequest responseTo 0 id 0 (docs.take size)).map some)

structure QueryParts where
  ns : String
  skip : Nat
  limit : Int32
  filter : Document

def queryParts (frame : Frame) : Except FrameFault QueryParts := do
  let (ns, next) ← readCString frame.body 4
  let skip ← readInt32 frame.body next
  let limit ← readInt32 frame.body (next + 4)
  let (query, _) ← readDocument frame.body (next + 8)
  return ⟨ns, skip.toNatClampNeg, limit, (query.document? "$query").getD query⟩

def matched (server : Server) (query : QueryParts) : List Document :=
  ((server.documents query.ns).filter (·.matches query.filter)).drop query.skip

def query (server : Server) (frame : Frame) : Outcome :=
  match queryParts frame with
  | .error fault => (server, .error fault)
  | .ok query => server.batch frame.requestId (server.matched query) query.limit none

def success : Document := [("ok", .double .one)]

def commandAnswer (name : String) : Document :=
  if Text.sameLetters name "getLastError" then
    [("n", .int32 0), ("err", .null), ("ok", .double .one)]
  else success

def command (server : Server) (frame : Frame) : Outcome :=
  (server.countRequest, (Frame.reply server.nextRequest frame.requestId 0 0 0
    [commandAnswer (frame.commandName?.getD "")]).map some)

def moreParts (frame : Frame) : Except FrameFault (Int32 × Int64) := do
  let (_, next) ← readCString frame.body 4
  let limit ← readInt32 frame.body next
  let ids ← frame.cursorIds
  return (limit, ids.head?.getD 0)

def getMore (server : Server) (frame : Frame) : Outcome :=
  match moreParts frame with
  | .error fault => (server, .error fault)
  | .ok (limit, id) =>
    match server.cursors.lookup id with
    | some rest => (server.closeCursor id).batch frame.requestId rest limit (some id)
    | none => (server.countRequest,
        (Frame.reply server.nextRequest frame.requestId cursorNotFoundFlag 0 0 []).map some)

def apply (server : Server) (frame : Frame) : Outcome :=
  match frame.opCode with
  | .insert =>
    match insertion frame with
    | .error fault => (server, .error fault)
    | .ok (ns, docs) => (server.store ns docs, .ok none)
  | .query => if frame.isCommandQuery then server.command frame else server.query frame
  | .getMore => server.getMore frame
  | .killCursors =>
    match frame.cursorIds with
    | .error fault => (server, .error fault)
    | .ok ids => (ids.foldl closeCursor server, .ok none)
  | .command => (server.countRequest,
      (Frame.commandReply server.nextRequest frame.requestId success).map some)
  | .msg => (server.countRequest,
      (Frame.msg server.nextRequest frame.requestId success).map some)
  | _ => (server, .ok none)

def handle (server : Server) (frame : Frame) : Outcome := (server.record frame).apply frame

def refusal : Document :=
  [("ok", .double .zero), ("errmsg", .text "command requires authentication"),
    ("code", .int32 unauthorizedCode)]

def refuse (server : Server) (frame : Frame) : Outcome :=
  let server := (server.record frame).countRequest
  (server, match frame.opCode with
    | .query | .getMore =>
      (Frame.reply server.lastRequest frame.requestId queryFailureFlag 0 0
        [[("$err", .text "not authorized"), ("code", .int32 unauthorizedCode)]]).map some
    | .command => (Frame.commandReply server.lastRequest frame.requestId refusal).map some
    | .msg => (Frame.msg server.lastRequest frame.requestId refusal).map some
    | _ => .ok none)

end Server

end TrafficReplay
