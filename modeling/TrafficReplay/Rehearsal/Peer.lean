import TrafficReplay.Net.Pipe
import TrafficReplay.Server.Session

namespace TrafficReplay

structure ScriptAction where
  delay : Nat
  bytes : List UInt8
  hangsUp : Bool
deriving DecidableEq

inductive ReplyShape where
  | reply
  | msg
  | commandReply
deriving DecidableEq, Repr

def ReplyShape.frame (shape : ReplyShape) (requestId responseTo : Int32) (body : Document) :
    Except FrameFault Frame :=
  match shape with
  | .reply => Frame.reply requestId responseTo 0 0 0 [body]
  | .msg => Frame.msg requestId responseTo body
  | .commandReply => Frame.commandReply requestId responseTo body

structure Verifier where
  account : Scram.Account
  shape : ReplyShape
  first : Document
  final : Document
  finish : Option Document
  tampers : Bool
  /-- Whether it answers every proof as if it were right. -/
  lenient : Bool

namespace Verifier

def requestId : Int32 := 9

def salt : List UInt8 := Utf8.encode "rehearsed-salt"

def iterations : Nat := 64

def overlay (body fields : Document) : Document :=
  fields.foldl (fun doc field => doc.insert field.1 field.2) body

def binaryText (text : List Char) : Value := .binary 0 (Utf8.encodeChars text)

def refused : Document := [("ok", .double .zero), ("errmsg", .text "client-first refused")]

def badProof : Document := [("ok", .int32 0), ("$err", .text "bad proof")]

def challengeBody (text : List Char) : Document :=
  [("conversationId", .int32 1), ("done", .bool false), ("payload", binaryText text),
    ("ok", .double .one)]

def verdictBody (text : List Char) : Document :=
  [("conversationId", .int32 1), ("payload", binaryText text), ("ok", .double .one)]

def forgedText : List Char := ['v', '='] ++ List.replicate 43 'A' ++ ['=']

end Verifier

inductive VerifierStage where
  | opening
  | challenged (challenge : Scram.Challenge)
  | finishing

inductive PeerRole where
  | session (stage : SessionStage)
  | script (actions : List ScriptAction)
  | verifier (verifier : Verifier) (stage : VerifierStage)
  | absent

structure Peer where
  role : PeerRole
  buffer : FrameBuffer
  outgoing : List UInt8
  hangsUp : Bool
  wake : Option Nat
  heard : List Frame
  gone : Bool

namespace Peer

def nonce : List Char := "bPOGSJwV3yjRD0cvhQ86s1K5".toList

def ofRole (role : PeerRole) (greeting : List UInt8) : Peer where
  role := role
  buffer := .empty
  outgoing := greeting
  hangsUp := false
  wake := none
  heard := []
  gone := false

/-- The in-memory server at the other end of a connection that it has just accepted. -/
def ofServer (server : Server) : Peer := ofRole (.session (Session.openingStage server)) []

def leave (peer : Peer) (link : Link) : Peer × Link := ({ peer with gone := true }, link.drop)

def say (peer : Peer) (frame : Except FrameFault Frame) : Peer :=
  match frame with
  | .ok frame => { peer with outgoing := frame.bytes }
  | .error _ => { peer with hangsUp := true }

def message? (frame : Frame) : Option (List Char) :=
  (Session.payload frame).toOption

def challenge (account : Scram.Account) (frame : Frame) : Except Scram.Unfit Scram.Challenge := do
  let text ← (Session.payload frame).mapError fun _ => .refused
  account.challenge nonce text

def verify (peer : Peer) (verifier : Verifier) (stage : VerifierStage) (frame : Frame) : Peer :=
  let say (peer : Peer) (body : Document) : Peer :=
    peer.say (verifier.shape.frame Verifier.requestId frame.requestId body)
  match stage with
  | .opening =>
    match challenge verifier.account frame with
    | .error .brokenOff => { peer with hangsUp := true }
    | .error .refused => { say peer Verifier.refused with hangsUp := true }
    | .ok challenge =>
      say { peer with role := .verifier verifier (.challenged challenge) }
        (Verifier.overlay (Verifier.challengeBody challenge.text) verifier.first)
  | .challenged challenge =>
    let peer := { peer with role := .verifier verifier .finishing }
    let verdict := ((message? frame).bind challenge.verdict?).getD .unproved
    if verdict.isProved || verifier.lenient then
      let text := if verifier.tampers then Verifier.forgedText else verdict.text
      say peer (Verifier.overlay (Verifier.verdictBody text) verifier.final)
    else say peer Verifier.badProof
  | .finishing =>
    match verifier.finish with
    | some body => say peer body
    | none => { peer with hangsUp := true }

def react (server : Server) (now : Nat) (peer : Peer) (frame : Frame) : Server × Peer :=
  let peer := { peer with heard := peer.heard ++ [frame] }
  match peer.role with
  | .session stage =>
    let (server, stage, answer) := Session.receive server stage nonce frame
    let peer := { peer with role := .session stage }
    match answer with
    | .nothing => (server, peer)
    | .reply frame => (server, { peer with outgoing := frame.bytes })
    | .hangUp => (server, { peer with hangsUp := true })
  | .script [] => (server, peer)
  | .script (action :: rest) =>
    (server, { peer with
      role := .script rest
      outgoing := action.bytes
      hangsUp := action.hangsUp
      wake := if action.delay = 0 then none else some (now + action.delay) })
  | .verifier verifier stage => (server, peer.verify verifier stage frame)
  | .absent => (server, peer)

def delivered (server : Server) (peer : Peer) : Server × Peer :=
  match peer.role with
  | .session stage =>
    let (server, stage) := Session.delivered server stage
    (server, { peer with role := .session stage })
  | _ => (server, peer)

def proceed : (fuel : Nat) → Server → Nat → Peer → Link → Server × Peer × Link
  | 0, server, _, peer, link => (server, peer, link)
  | fuel + 1, server, now, peer, link =>
    if peer.gone then (server, peer, link)
    else if peer.wake.any fun time => now < time then (server, peer, link)
    else
      match peer.role with
      | .absent => (server, peer, link)
      | _ =>
        if !peer.outgoing.isEmpty then
          if link.toClient.closed then (server, peer.leave link)
          else
            let (pipe, rest) := link.toClient.write peer.outgoing
            let link := { link with toClient := pipe }
            let peer := { peer with outgoing := rest, wake := none }
            if rest.isEmpty then
              let (server, peer) := peer.delivered server
              proceed fuel server now peer link
            else (server, peer, link)
        else if peer.hangsUp then (server, peer.leave link)
        else
          match peer.buffer.next with
          | .error _ => (server, peer.leave link)
          | .ok (some (frame, buffer)) =>
            let peer := { peer with buffer := buffer, wake := none }
            let (server, peer) := peer.react server now frame
            proceed fuel server now peer link
          | .ok none =>
            if link.toPeer.held.isEmpty then
              if link.toPeer.closed then (server, peer.leave link) else (server, peer, link)
            else
              let peer := { peer with buffer := peer.buffer.append link.toPeer.held }
              proceed fuel server now peer
                { link with toPeer := { link.toPeer with held := [] } }

/-- Every frame takes a few steps: to read it, to take it and to write the answer. -/
def advance (server : Server) (now : Nat) (peer : Peer) (link : Link) : Server × Peer × Link :=
  proceed (peer.buffer.bytes.length + link.toPeer.held.length + 4) server now peer link

def isStarved (peer : Peer) (link : Link) : Bool :=
  link.toPeer.held.isEmpty && !link.toPeer.closed &&
    match peer.buffer.next with
    | .ok none => true
    | _ => false

def isReady (now : Nat) (peer : Peer) (link : Link) : Bool :=
  if peer.gone || (peer.wake.any fun time => now < time) then false
  else
    match peer.role with
    | .absent => false
    | _ =>
      if !peer.outgoing.isEmpty then link.toClient.closed || 0 < link.toClient.room
      else peer.hangsUp || !peer.isStarved link

end Peer

end TrafficReplay
