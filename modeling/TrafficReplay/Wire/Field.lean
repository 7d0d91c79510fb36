import TrafficReplay.Document.Decoding
import TrafficReplay.Wire.Fault

namespace TrafficReplay

def slice? (bytes : List UInt8) (offset size : Nat) : Option (List UInt8) :=
  if offset + size ≤ bytes.length then some ((bytes.drop offset).take size) else none

def readInt32 (bytes : List UInt8) (offset : Nat) : Except FrameFault Int32 :=
  match slice? bytes offset 4 with
  | some field => .ok (int32OfBytes field)
  | none => .error (.truncated offset)

def readInt64 (bytes : List UInt8) (offset : Nat) : Except FrameFault Int64 :=
  match slice? bytes offset 8 with
  | some field => .ok (int64OfBytes field)
  | none => .error (.truncated offset)

def readCString (bytes : List UInt8) (offset : Nat) : Except FrameFault (String × Nat) :=
  if bytes.length < offset then .error (.truncated offset)
  else
    match splitAtZero? (bytes.drop offset) with
    | none => .error (.unterminatedText offset)
    | some (content, _) =>
      match Utf8.decode content with
      | .error fault => .error (.textNotUtf8 offset fault)
      | .ok text => .ok (text, offset + content.length + 1)

def readDocument (bytes : List UInt8) (offset : Nat) : Except FrameFault (Document × Nat) := do
  let length ← readInt32 bytes offset
  if length < 0 then throw (.negativeDocumentLength offset)
  match slice? bytes offset length.toNatClampNeg with
  | none => throw (.truncated offset)
  | some content =>
    match Document.decode? content with
    | none => throw (.badDocument offset)
    | some doc => return (doc, offset + length.toNatClampNeg)

end TrafficReplay
