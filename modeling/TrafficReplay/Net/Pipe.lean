import TrafficReplay.Net.Reception

namespace TrafficReplay

/-- Bytes on their way in one direction. A closed pipe takes no more bytes; what it holds can
    still be read. -/
structure Pipe where
  capacity : Nat
  held : List UInt8
  closed : Bool
deriving DecidableEq

namespace Pipe

def ofCapacity (capacity : Nat) : Pipe := ⟨capacity, [], false⟩

def room (pipe : Pipe) : Nat := pipe.capacity - pipe.held.length

def write (pipe : Pipe) (bytes : List UInt8) : Pipe × List UInt8 :=
  ({ pipe with held := pipe.held ++ bytes.take pipe.room }, bytes.drop pipe.room)

def read (pipe : Pipe) (most : Nat) : List UInt8 × Pipe :=
  (pipe.held.take most, { pipe with held := pipe.held.drop most })

def close (pipe : Pipe) : Pipe := { pipe with closed := true }

def ended (pipe : Pipe) : Bool := pipe.closed && pipe.held.isEmpty

end Pipe

/-- A connection over two pipes, seen from its client. -/
structure Link where
  received : FrameBuffer
  toPeer : Pipe
  toClient : Pipe
deriving DecidableEq

namespace Link

def defaultCapacity : Nat := 65536

def ofCapacity (capacity : Nat) : Link := ⟨.empty, .ofCapacity capacity, .ofCapacity capacity⟩

def waits (link : Link) : List Wait :=
  if link.toClient.held.isEmpty then [] else [.read link.toClient.held]

/-- The next frame. Bytes are read only when the buffer holds no whole frame. -/
def receive (link : Link) : Settled (Except ReceiveFault Frame) × Link :=
  let (outcome, received, left) := link.received.receive link.toClient.closed link.waits
  (outcome, { link with
    received := received
    toClient := { link.toClient with held := if left.isEmpty then [] else link.toClient.held } })

def send (link : Link) (bytes : List UInt8) : Except LinkFault (List UInt8) × Link :=
  if bytes.isEmpty then (.ok [], link)
  else if link.toPeer.closed then (.error .brokenPipe, link)
  else
    let (pipe, rest) := link.toPeer.write bytes
    (.ok rest, { link with toPeer := pipe })

def shutdown (link : Link) : Link := { link with toPeer := link.toPeer.close }

/-- Either end may be dropped; then neither direction takes any more bytes. -/
def drop (link : Link) : Link :=
  { link with toPeer := link.toPeer.close, toClient := link.toClient.close }

def isDropped (link : Link) : Bool := link.toClient.closed

def writeFromPeer (link : Link) (bytes : List UInt8) : Settled Unit × Link :=
  let (pipe, rest) := link.toClient.write bytes
  (if rest.isEmpty then .done () else .pending, { link with toClient := pipe })

def readAtPeer (link : Link) (most : Nat) : Settled (Option (List UInt8)) × Link :=
  if link.toPeer.held.isEmpty then (if link.toPeer.closed then .done none else .pending, link)
  else
    let (bytes, pipe) := link.toPeer.read most
    (.done (some bytes), { link with toPeer := pipe })

end Link

end TrafficReplay
