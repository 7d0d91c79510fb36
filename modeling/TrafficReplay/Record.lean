import TrafficReplay.Time
import TrafficReplay.Wire.Frame

namespace TrafficReplay

structure Record where
  frame : Frame
  seen : Timestamp
  source : String
  destination : String
deriving DecidableEq

namespace Record

def requestId (record : Record) : Int32 := record.frame.requestId

def responseTo (record : Record) : Int32 := record.frame.responseTo

/-- Clients never answer anything, so a frame that does was sent by the server even when its code
    is one that both sides use. -/
def isResponse (record : Record) : Bool :=
  record.frame.opCode.isResponse || record.responseTo ≠ 0

end Record

/-- Two endpoints, the lower one first. -/
structure LaneId where
  low : String
  high : String
  low_le_high : low ≤ high
deriving DecidableEq

namespace LaneId

def ofEndpoints (a b : String) : LaneId :=
  if h : a ≤ b then ⟨a, b, h⟩
  else ⟨b, a, (String.le_total a b).resolve_left h⟩

def text (lane : LaneId) : String := lane.low ++ "<->" ++ lane.high

def compare (a b : LaneId) : Ordering :=
  (compareOfLessAndEq a.low b.low).then (compareOfLessAndEq a.high b.high)

end LaneId

def Record.lane (record : Record) : LaneId := .ofEndpoints record.source record.destination

def Record.sameLane (a b : Record) : Bool := a.lane = b.lane

end TrafficReplay
