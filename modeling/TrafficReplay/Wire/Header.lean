import TrafficReplay.Number.LittleEndian
import TrafficReplay.Wire.Fault

namespace TrafficReplay

structure Header where
  length : Int32
  requestId : Int32
  responseTo : Int32
  opCode : OpCode
deriving DecidableEq, Repr

namespace Header

def bytes (header : Header) : List UInt8 :=
  int32Bytes header.length ++ int32Bytes header.requestId ++ int32Bytes header.responseTo ++
    int32Bytes header.opCode.code

def frameLength (header : Header) : Except FrameFault Nat :=
  if header.length < 0 then .error (.negativeLength header.length)
  else
    let length := header.length.toNatClampNeg
    if length < headerLength then .error (.lengthBelowHeader length)
    else if frameLimit < length then .error (.lengthAboveLimit length)
    else .ok length

def ofFields (bytes : List UInt8) : Header where
  length := int32OfBytes (bytes.take 4)
  requestId := int32OfBytes ((bytes.drop 4).take 4)
  responseTo := int32OfBytes ((bytes.drop 8).take 4)
  opCode := .ofCode (int32OfBytes ((bytes.drop 12).take 4))

def parse (bytes : List UInt8) : Except FrameFault Header := do
  if bytes.length < headerLength then throw (.headerCut bytes.length)
  let header := ofFields bytes
  let _ ← header.frameLength
  return header

@[simp] theorem length_bytes (header : Header) : header.bytes.length = headerLength := by
  simp [bytes, headerLength]

end Header

end TrafficReplay
