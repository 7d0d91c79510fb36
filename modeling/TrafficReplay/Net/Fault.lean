import TrafficReplay.Wire.Fault

namespace TrafficReplay

inductive LinkFaultKind where
  | brokenPipe
  | connectionReset
  | connectionAborted
  | connectionRefused
  | notConnected
  | unexpectedEnd
  | timedOut
  | writeZero
  | permissionDenied
  | invalidData
  | other
deriving DecidableEq, Repr

namespace LinkFaultKind

def name : LinkFaultKind → String
  | .brokenPipe => "BrokenPipe"
  | .connectionReset => "ConnectionReset"
  | .connectionAborted => "ConnectionAborted"
  | .connectionRefused => "ConnectionRefused"
  | .notConnected => "NotConnected"
  | .unexpectedEnd => "UnexpectedEof"
  | .timedOut => "TimedOut"
  | .writeZero => "WriteZero"
  | .permissionDenied => "PermissionDenied"
  | .invalidData => "InvalidData"
  | .other => "Other"

def losesLink : LinkFaultKind → Bool
  | .brokenPipe | .connectionReset | .connectionAborted | .notConnected | .unexpectedEnd
  | .timedOut | .writeZero => true
  | .connectionRefused | .permissionDenied | .invalidData | .other => false

end LinkFaultKind

structure LinkFault where
  kind : LinkFaultKind
  text : String
deriving DecidableEq, Repr

namespace LinkFault

def brokenPipe : LinkFault := ⟨.brokenPipe, "broken pipe"⟩

def closedByPeer : LinkFault := ⟨.unexpectedEnd, "connection closed by peer"⟩

def writeTimedOut : LinkFault := ⟨.timedOut, "write timed out"⟩

end LinkFault

inductive ReceiveFault where
  | link (fault : LinkFault)
  | frame (fault : FrameFault)
deriving DecidableEq, Repr

end TrafficReplay
