import TrafficReplay.Cursor
import TrafficReplay.Pacing
import TrafficReplay.Stat.Basic
import TrafficReplay.Wire.CursorField
import TrafficReplay.Wire.Reply

namespace TrafficReplay

structure LaneMemory where
  home : CursorHome
  /-- Live cursors by recorded request id, until the recorded reply to the request shows up. -/
  liveCursors : List (Int32 × Int64)
  clock : LaneClock
  seq : Nat
  failures : UInt32
deriving DecidableEq

structure Prepared where
  frame : Except OpError Frame
  miss : Bool

namespace LaneMemory

def fresh (scope : CursorScope) : LaneMemory where
  home := .ofScope scope
  liveCursors := []
  clock := .fresh
  seq := 0
  failures := 0

instance : Inhabited LaneMemory := ⟨fresh .lane⟩

/-- Cursor id zero stands for no cursor and is never looked up. -/
def lookup (memory : LaneMemory) (common : CursorTable) (recorded : Int64) : CursorLookup :=
  if recorded = 0 then .bound 0 else (memory.home.table common).resolve recorded

def namesCursors (frame : Frame) : Bool := frame.opCode = .getMore || frame.opCode = .killCursors

def prepare (memory : LaneMemory) (common : CursorTable) (policy : CursorMissPolicy)
    (frame : Frame) : Prepared :=
  if namesCursors frame then
    match frame.cursorIds with
    | .error _ => ⟨.error .malformedRequest, false⟩
    | .ok ids =>
      let lookups := ids.map (memory.lookup common)
      let miss := lookups.any CursorLookup.isMiss
      if miss && policy = .fail then ⟨.error .staleCursor, true⟩
      else
        match frame.withCursorIds (lookups.map CursorLookup.liveId) with
        | .ok frame => ⟨.ok frame, miss⟩
        | .error _ => ⟨.error .malformedRequest, miss⟩
  else ⟨.ok frame, false⟩

def issued (memory : LaneMemory) (captured : Timestamp) (now : Instant) : LaneMemory :=
  { memory with clock := memory.clock.issued captured now }

def forget (memory : LaneMemory) (requestId : Int32) : LaneMemory :=
  { memory with liveCursors := memory.liveCursors.filter fun entry => entry.1 ≠ requestId }

def remember (memory : LaneMemory) (requestId : Int32) (live : Int64) : LaneMemory :=
  { memory with liveCursors := (requestId, live) :: (memory.forget requestId).liveCursors }

def releaseIds (memory : LaneMemory) (common : CursorTable) (ids : List Int64) :
    LaneMemory × CursorTable :=
  ids.foldl (fun (memory, common) id =>
    let (home, common) := memory.home.release common id
    ({ memory with home := home }, common)) (memory, common)

def releaseCursors (memory : LaneMemory) (common : CursorTable) (frame : Frame) :
    LaneMemory × CursorTable :=
  match frame.cursorIds with
  | .ok ids => memory.releaseIds common ids
  | .error _ => (memory, common)

/-- After the live reply to a request. A bound request for more keeps its binding until the cursor
    is exhausted; any other reply that leaves a cursor open has it remembered. -/
def onReply (memory : LaneMemory) (common : CursorTable) (frame : Frame) (miss : Bool)
    (cursorId : Int64) : LaneMemory × CursorTable :=
  if frame.opCode = .getMore && !miss then
    if cursorId = 0 then memory.releaseCursors common frame else (memory, common)
  else if cursorId = 0 then (memory, common)
  else (memory.remember frame.requestId cursorId, common)

/-- What a recorded reply binds: its cursor id to the live cursor of its request. -/
def binding? (memory : LaneMemory) (reply : Frame) : Option (Int64 × Int64) :=
  match memory.liveCursors.lookup reply.responseTo, reply.replySummary with
  | some live, .ok summary => if summary.cursorId = 0 then none else some (summary.cursorId, live)
  | _, _ => none

/-- After a recorded reply. Whatever it binds, it uses up the cursor of its request. -/
def correlate (memory : LaneMemory) (common : CursorTable) (lane : LaneId) (reply : Frame) :
    LaneMemory × CursorTable :=
  let forgotten := memory.forget reply.responseTo
  match memory.binding? reply with
  | none => (forgotten, common)
  | some (recorded, live) =>
    let (home, common) := memory.home.bind common lane recorded live
    ({ forgotten with home := home }, common)

def releaseLane (memory : LaneMemory) (common : CursorTable) (lane : LaneId) :
    LaneMemory × CursorTable :=
  let (home, common) := memory.home.releaseLane common lane
  ({ memory with home := home, liveCursors := [] }, common)

def succeed (memory : LaneMemory) : LaneMemory := { memory with failures := 0 }

def fail (memory : LaneMemory) : LaneMemory := { memory with failures := memory.failures + 1 }

/-- Whether there are more failures in a row than a limit allows; zero is no limit. -/
def tooManyFailures (memory : LaneMemory) (limit : UInt32) : Bool :=
  0 < limit && limit < memory.failures

end LaneMemory

end TrafficReplay
