import TrafficReplay.Net.FrameBuffer

namespace TrafficReplay

inductive Settled (α : Type) where
  | done (value : α)
  | pending
deriving DecidableEq, Repr

inductive Wait where
  | read (bytes : List UInt8)
  | abandoned
deriving DecidableEq, Repr

namespace FrameBuffer

/-- One call, over the waits that are to come; gives back those that it does not need. Where there
    are no more of them, the peer has closed the connection or sends nothing. -/
def receive (closed : Bool) (buffer : FrameBuffer) (waits : List Wait) :
    Settled (Except ReceiveFault Frame) × FrameBuffer × List Wait :=
  match buffer.next with
  | .error fault => (.done (.error (.frame fault)), buffer, waits)
  | .ok (some (frame, rest)) => (.done (.ok frame), rest, waits)
  | .ok none =>
    match waits with
    | [] => (if closed then .done (.error (.link .closedByPeer)) else .pending, buffer, [])
    | .abandoned :: later => (.pending, buffer, later)
    | .read bytes :: later => receive closed (buffer.append bytes) later

end FrameBuffer

end TrafficReplay
