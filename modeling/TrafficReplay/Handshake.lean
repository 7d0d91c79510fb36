import TrafficReplay.Config.Target
import TrafficReplay.Net.Fault
import TrafficReplay.Scram.Client
import TrafficReplay.Wire.Reply
import TrafficReplay.Wire.Request

namespace TrafficReplay

inductive HandshakeFault where
  | link (fault : LinkFault)
  | frame (fault : FrameFault)
  | refused (reason : String)
  | noConversation
  | noPayload
  | payloadNotUtf8 (fault : Utf8.Fault)
  | badServerFirst
  | badSignature
  | incomplete
deriving DecidableEq, Repr

namespace HandshakeFault

def ofReceive : ReceiveFault → HandshakeFault
  | .link fault => .link fault
  | .frame fault => .frame fault

def message : HandshakeFault → String
  | .link fault => "I/O error: " ++ fault.text
  | .frame fault => "Invalid frame: " ++ fault.message
  | .refused reason => "Authentication failed: " ++ reason
  | .noConversation => "Authentication failed: saslStart reply has no conversationId"
  | .noPayload => "Authentication failed: Reply has no SASL payload"
  | .payloadNotUtf8 fault =>
    "Authentication failed: SASL payload is not UTF-8: " ++ fault.message
  | .badServerFirst => "Authentication failed: Bad server-first message"
  | .badSignature => "Authentication failed: Server signature rejected"
  | .incomplete => "Authentication failed: SASL conversation did not complete"

end HandshakeFault

inductive HandshakeStage where
  | opening
  | proving (conversation : Value) (signature : List UInt8)
  | finishing
deriving Repr

structure Handshake where
  source : String
  client : Scram.Client
  stage : HandshakeStage

namespace Handshake

/-- Request ids of the handshake. It is over before any recorded request is sent. -/
def firstRequestId : Int32 := 2147483639

def requestId (handshake : Handshake) : Int32 :=
  match handshake.stage with
  | .opening => firstRequestId
  | .proving _ _ => firstRequestId + 1
  | .finishing => firstRequestId + 2

def payload (text : List Char) : Value := .binary 0 (Utf8.encodeChars text)

def request (source : String) (requestId : Int32) (command : Document) :
    Except HandshakeFault Frame :=
  (Frame.query requestId (source ++ Frame.commandSuffix) 0 (-1) command).mapError .frame

def ofCredentials (credentials : Credentials) (nonce : List Char) : Handshake where
  source := credentials.source
  client := ⟨credentials.userName, credentials.password, nonce⟩
  stage := .opening

def opening (handshake : Handshake) : Except HandshakeFault Frame :=
  request handshake.source firstRequestId
    [("saslStart", .int32 1), ("mechanism", .text scramMechanism),
      ("payload", payload handshake.client.first.text), ("autoAuthorize", .int32 1),
      ("options", .document [("skipEmptyExchange", .bool true)])]

def continuation (conversation : Value) (text : List Char) : Document :=
  [("saslContinue", .int32 1), ("conversationId", conversation), ("payload", payload text)]

inductive Progress where
  | waiting
  | asks (question : Frame) (next : Handshake)
  | authenticated

def answer (frame : Frame) : Except HandshakeFault Document := do
  let doc ← frame.replyDocument.mapError .frame
  let summary ← frame.replySummary.mapError .frame
  if summary.failed || !doc.saysOk then
    throw (.refused (((doc.text? "errmsg").orElse fun _ => doc.text? "$err").getD
      "no reason given"))
  return doc

def answerPayload (doc : Document) : Except HandshakeFault (List Char) :=
  match doc.generic? "payload" with
  | none => .error .noPayload
  | some bytes => (Utf8.decodeChars 0 bytes).mapError .payloadNotUtf8

def isDone (doc : Document) : Bool := (doc.bool? "done").getD false

def receive (handshake : Handshake) (frame : Frame) : Except HandshakeFault Progress := do
  if frame.responseTo ≠ handshake.requestId then return .waiting
  let doc ← answer frame
  match handshake.stage with
  | .opening =>
    match doc.get? "conversationId" with
    | none => throw .noConversation
    | some conversation =>
      let text ← answerPayload doc
      match handshake.client.answer? text with
      | none => throw .badServerFirst
      | some (final, signature) =>
        let question ← request handshake.source (firstRequestId + 1)
          (continuation conversation final.text)
        return .asks question { handshake with stage := .proving conversation signature }
  | .proving conversation signature =>
    let text ← answerPayload doc
    if !Scram.Client.accepts signature text then throw .badSignature
    if isDone doc then return .authenticated
    let question ← request handshake.source (firstRequestId + 2) (continuation conversation [])
    return .asks question { handshake with stage := .finishing }
  | .finishing =>
    if isDone doc then return .authenticated
    throw .incomplete

end Handshake

end TrafficReplay
