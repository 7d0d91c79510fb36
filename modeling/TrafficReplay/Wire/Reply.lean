import TrafficReplay.Wire.Section

namespace TrafficReplay

structure ReplySummary where
  cursorId : Int64
  numberReturned : Int32
  failed : Bool
deriving DecidableEq, Repr

def cursorNotFoundFlag : Int32 := 1

def queryFailureFlag : Int32 := 2

/-- A command failed when its `ok` field is a number equal to zero or is false. -/
def Document.saysFailed (doc : Document) : Bool :=
  match doc.get? "ok" with
  | some (.double ok) => ok.isZero
  | some (.int32 ok) => ok = 0
  | some (.int64 ok) => ok = 0
  | some (.bool ok) => !ok
  | _ => false

/-- A command succeeded when its `ok` field is a number other than zero or is true. -/
def Document.saysOk (doc : Document) : Bool :=
  match doc.get? "ok" with
  | some (.double ok) => !ok.isZero
  | some (.int32 ok) => ok ≠ 0
  | some (.int64 ok) => ok ≠ 0
  | some (.bool ok) => ok
  | _ => false

def ReplySummary.ofCommand (doc : Document) : ReplySummary :=
  let failed := doc.saysFailed
  match doc.document? "cursor" with
  | none => ⟨0, 0, failed⟩
  | some cursor =>
    let batch := (cursor.array? "firstBatch").orElse fun _ => cursor.array? "nextBatch"
    let size := (batch.map List.length).getD 0
    ⟨(cursor.int64? "id").getD 0, Int32.ofNat (min size (2 ^ 31 - 1)), failed⟩

namespace Frame

/-- The result of a command stands before its metadata, unless only the second document tells
    whether the command succeeded. -/
def replySummary (frame : Frame) : Except FrameFault ReplySummary :=
  match frame.opCode with
  | .reply => do
    let flags ← readInt32 frame.body 0
    let cursor ← readInt64 frame.body 4
    let number ← readInt32 frame.body 16
    return ⟨cursor, number, flags &&& (cursorNotFoundFlag ||| queryFailureFlag) ≠ 0⟩
  | .msg => do
    let doc ← frame.messageDocument
    return .ofCommand doc
  | .commandReply => do
    let (first, next) ← readDocument frame.body 0
    if first.contains "ok" then return .ofCommand first
    let (second, _) ← readDocument frame.body next
    return .ofCommand second
  | opCode => .error (.notResponse opCode)

def replyDocument (frame : Frame) : Except FrameFault Document :=
  match frame.opCode with
  | .reply => do
    let number ← readInt32 frame.body 16
    if number < 1 then throw .noReplyDocument
    let (doc, _) ← readDocument frame.body 20
    return doc
  | .msg => frame.messageDocument
  | .commandReply => do
    let (doc, _) ← readDocument frame.body 0
    return doc
  | opCode => .error (.notResponse opCode)

end Frame

end TrafficReplay
