import TrafficReplay.Wire.Field
import TrafficReplay.Wire.Header

namespace TrafficReplay

structure Frame where
  requestId : Int32
  responseTo : Int32
  opCode : OpCode
  body : List UInt8
  body_le : headerLength + body.length ≤ frameLimit
deriving DecidableEq

namespace Frame

theorem empty_body_le : headerLength + ([] : List UInt8).length ≤ frameLimit := by decide

def length (frame : Frame) : Nat := headerLength + frame.body.length

def header (frame : Frame) : Header where
  length := Int32.ofNat frame.length
  requestId := frame.requestId
  responseTo := frame.responseTo
  opCode := frame.opCode

def bytes (frame : Frame) : List UInt8 := frame.header.bytes ++ frame.body

def ofBytes (bytes : List UInt8) : Except FrameFault Frame := do
  let header ← Header.parse bytes
  let length ← header.frameLength
  if length ≠ bytes.length then throw (.lengthMismatch length bytes.length)
  let body := bytes.drop headerLength
  if fits : headerLength + body.length ≤ frameLimit then
    return ⟨header.requestId, header.responseTo, header.opCode, body, fits⟩
  else throw (.lengthAboveLimit length)

def summaryText (frame : Frame) : String :=
  "RawOp \x7b op_code: " ++ frame.opCode.name ++
    s!", request_id: {frame.requestId.toInt}, response_to: {frame.responseTo.toInt}" ++
    s!", len: {frame.length} \x7d"

inductive Part where
  | byte (value : UInt8)
  | int32 (value : Int32)
  | int64 (value : Int64)
  | text (value : String)
  | document (value : Document)
  | raw (bytes : List UInt8)

def Part.encode? : Part → Option (List UInt8)
  | .byte value => some [value]
  | .int32 value => some (int32Bytes value)
  | .int64 value => some (int64Bytes value)
  | .text value => some (Utf8.encode value ++ [0])
  | .document value => value.encode?
  | .raw bytes => some bytes

def encodeParts? : List Part → Option (List UInt8)
  | [] => some []
  | part :: rest => do
    let bytes ← part.encode?
    let rest ← encodeParts? rest
    return bytes ++ rest

def ofParts (opCode : OpCode) (requestId responseTo : Int32) (parts : List Part) :
    Except FrameFault Frame :=
  match encodeParts? parts with
  | none => .error .documentNotEncodable
  | some body =>
    if 2 ^ 31 ≤ headerLength + body.length then .error (.bodyTooLarge (headerLength + body.length))
    else if fits : headerLength + body.length ≤ frameLimit then
      .ok ⟨requestId, responseTo, opCode, body, fits⟩
    else .error (.lengthAboveLimit (headerLength + body.length))

def insert (requestId : Int32) (ns : String) (docs : List Document) : Except FrameFault Frame :=
  ofParts .insert requestId 0 (.int32 0 :: .text ns :: docs.map .document)

def query (requestId : Int32) (ns : String) (skip limit : Int32) (query : Document) :
    Except FrameFault Frame :=
  ofParts .query requestId 0 [.int32 0, .text ns, .int32 skip, .int32 limit, .document query]

def getMore (requestId : Int32) (ns : String) (limit : Int32) (cursor : Int64) :
    Except FrameFault Frame :=
  ofParts .getMore requestId 0 [.int32 0, .text ns, .int32 limit, .int64 cursor]

def killCursors (requestId : Int32) (cursors : List Int64) : Except FrameFault Frame :=
  ofParts .killCursors requestId 0
    (.int32 0 :: .int32 (Int32.ofNat cursors.length) :: cursors.map .int64)

def reply (requestId responseTo flags : Int32) (cursor : Int64) (start : Int32)
    (docs : List Document) : Except FrameFault Frame :=
  ofParts .reply requestId responseTo
    (.int32 flags :: .int64 cursor :: .int32 start :: .int32 (Int32.ofNat docs.length) ::
      docs.map .document)

def command (requestId : Int32) (db name : String) (arguments : Document) :
    Except FrameFault Frame :=
  ofParts .command requestId 0 [.text db, .text name, .document [], .document arguments]

def commandReply (requestId responseTo : Int32) (reply : Document) : Except FrameFault Frame :=
  ofParts .commandReply requestId responseTo [.document reply, .document []]

def msg (requestId responseTo : Int32) (body : Document) : Except FrameFault Frame :=
  ofParts .msg requestId responseTo [.int32 0, .byte 0, .document body]

end Frame

end TrafficReplay
