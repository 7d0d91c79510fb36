import TrafficReplay.Lane.Memory
import TrafficReplay.Net.Fault

namespace TrafficReplay

inductive LaneAbort where
  | connectFailed
  | connectionLost
  | consecutiveFailures
deriving DecidableEq, Repr

inductive LaneEvent where
  | connected (lane : LaneId)
  | connectFailed (lane : LaneId) (fault : LinkFault)
  | aborted (lane : LaneId) (reason : LaneAbort)
deriving DecidableEq

structure LaneReport where
  played : Nat
  failed : Nat
  skipped : Nat
  misses : Nat
  abort : Option LaneAbort
  yielded : Bool
deriving DecidableEq

def LaneReport.empty : LaneReport where
  played := 0
  failed := 0
  skipped := 0
  misses := 0
  abort := none
  yielded := false

instance : Inhabited LaneReport := ⟨.empty⟩

structure OpOutcome where
  playedAt : Timestamp
  latency : Duration
  numReturned : Int32
  error : Option OpError
  miss : Bool
deriving DecidableEq

def OpOutcome.failed (error : OpError) (playedAt : Timestamp) (miss : Bool) : OpOutcome where
  playedAt := playedAt
  latency := .zero
  numReturned := 0
  error := some error
  miss := miss

def Stat.ofOutcome (lane : LaneId) (seq : Nat) (record : Record) (outcome : OpOutcome) : Stat where
  lane := lane.text
  seq := seq
  kind := record.frame.kind
  ns := record.frame.namespace?
  command := record.frame.commandName?
  numReturned := outcome.numReturned
  latency := outcome.latency
  requestId := record.requestId
  playedAt := outcome.playedAt
  error := outcome.error
  miss := outcome.miss

def LaneReport.count (report : LaneReport) (outcome : OpOutcome) : LaneReport :=
  { report with
    played := report.played + 1
    failed := report.failed + if outcome.error.isSome then 1 else 0 }

end TrafficReplay
