import TrafficReplay.Rehearsal.Login
import TrafficReplay.Rehearsal.Peer
import TrafficReplay.Run.Basic

namespace TrafficReplay

structure Timeouts where
  connect : Nat
  response : Nat
deriving DecidableEq

structure Seat where
  attempted : Bool
  line : Option Nat
  login : Option Login
  deadline : Option Nat

def Seat.fresh : Seat := ⟨false, none, none, none⟩

instance : Inhabited Seat := ⟨Seat.fresh⟩

/-- A sleep that ends at no expressible time lasts thirty years. -/
def farFuture : Nat := 30 * 365 * 86400 * 1000

def sleepTime (delay : Duration) : Nat :=
  if 2 ^ 63 ≤ delay.seconds then farFuture else (delay.nanos + 999999) / 1000000

def timeoutIn (timeouts : Timeouts) (effects : List LaneEffect) : WorkerPhase → Option Nat
  | .connecting | .authenticating => some timeouts.connect
  | .sending _ _ | .awaiting _ => some timeouts.response
  | .pacing _ => effects.findSome? fun
    | .waits _ delay => some (sleepTime delay)
    | _ => none
  | _ => none

/-- Whether two phases are one wait. -/
def sameWait : WorkerPhase → WorkerPhase → Bool
  | .connecting, .connecting | .authenticating, .authenticating | .sending _ _, .sending _ _
  | .awaiting _, .awaiting _ | .pacing _, .pacing _ => true
  | _, _ => false

def Seat.afterStep (seat : Seat) (timeouts : Timeouts) (now : Nat) (before after : WorkerPhase)
    (effects : List LaneEffect) : Seat :=
  if sameWait before after then seat
  else { seat with deadline := (timeoutIn timeouts effects after).map (now + ·) }

def Seat.isDue (seat : Seat) (now : Nat) : Bool := seat.deadline.any fun time => time ≤ now

end TrafficReplay
