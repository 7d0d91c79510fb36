import TrafficReplay.Net.Fault
import TrafficReplay.Wire.Frame

namespace TrafficReplay

structure FrameBuffer where
  bytes : List UInt8
deriving DecidableEq

namespace FrameBuffer

def empty : FrameBuffer := ⟨[]⟩

instance : Inhabited FrameBuffer := ⟨empty⟩

def append (buffer : FrameBuffer) (bytes : List UInt8) : FrameBuffer := ⟨buffer.bytes ++ bytes⟩

def next (buffer : FrameBuffer) : Except FrameFault (Option (Frame × FrameBuffer)) := do
  if buffer.bytes.length < headerLength then return none
  let header ← Header.parse (buffer.bytes.take headerLength)
  let length ← header.frameLength
  if buffer.bytes.length < length then return none
  let frame ← Frame.ofBytes (buffer.bytes.take length)
  return some (frame, ⟨buffer.bytes.drop length⟩)

end FrameBuffer

end TrafficReplay
