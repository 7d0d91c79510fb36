import TrafficReplay.Time
import TrafficReplay.Wire.Request

namespace TrafficReplay

inductive OpError where
  | malformedRequest
  | transmit
  | responseTimeout
  | malformedResponse
  | connectionClosed
  | serverError
  | staleCursor
  | laneAborted
  | cancelled
deriving DecidableEq, Repr

namespace OpError

def all : List OpError :=
  [.malformedRequest, .transmit, .responseTimeout, .malformedResponse, .connectionClosed,
    .serverError, .staleCursor, .laneAborted, .cancelled]

def text : OpError → String
  | .malformedRequest => "malformed_request"
  | .transmit => "transmit"
  | .responseTimeout => "response_timeout"
  | .malformedResponse => "malformed_response"
  | .connectionClosed => "connection_closed"
  | .serverError => "server_error"
  | .staleCursor => "stale_cursor"
  | .laneAborted => "lane_aborted"
  | .cancelled => "cancelled"

def name : OpError → String
  | .malformedRequest => "MalformedRequest"
  | .transmit => "Transmit"
  | .responseTimeout => "ResponseTimeout"
  | .malformedResponse => "MalformedResponse"
  | .connectionClosed => "ConnectionClosed"
  | .serverError => "ServerError"
  | .staleCursor => "StaleCursor"
  | .laneAborted => "LaneAborted"
  | .cancelled => "Cancelled"

def ofText? (text : String) : Option OpError := all.find? (·.text = text)

end OpError

structure Stat where
  lane : String
  seq : Nat
  kind : OpKind
  ns : Option String
  command : Option String
  numReturned : Int32
  latency : Duration
  requestId : Int32
  playedAt : Timestamp
  error : Option OpError
  miss : Bool
deriving DecidableEq, Repr

def Stat.succeeded (stat : Stat) : Bool := stat.error.isNone

end TrafficReplay
