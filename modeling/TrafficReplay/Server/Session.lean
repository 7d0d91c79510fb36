import TrafficReplay.Scram.Server
import TrafficReplay.Server.Basic

namespace TrafficReplay

inductive SessionStage where
  | guarded
  | challenged (challenge : Scram.Challenge)
  /-- The proof is accepted, the answer that says so is not written yet. -/
  | granting
  | serving
deriving DecidableEq, Repr

inductive SessionAnswer where
  | nothing
  | reply (frame : Frame)
  | hangUp
deriving DecidableEq

namespace Session

def salt : List UInt8 :=
  [0x6d, 0x6f, 0x6e, 0x67, 0x6f, 0x74, 0x61, 0x70, 0x65, 0x2d, 0x73, 0x74,
    0x75, 0x62, 0x2d, 0x73, 0x61, 0x6c, 0x74]

def iterations : Nat := 4096

def account (user : ServerUser) : Scram.Account := ⟨user.userName, user.password, salt, iterations⟩

/-- Whether a connection is guarded is settled when it is opened. -/
def openingStage (server : Server) : SessionStage :=
  if server.user.isNone then .serving else .guarded

def isCommand (frame : Frame) (name : String) : Bool :=
  frame.opCode = .query && frame.commandName? = some name

def payload (frame : Frame) : Except FrameFault (List Char) := do
  let command ← frame.queryDocument
  match command.generic? "payload" with
  | none => throw .noSaslPayload
  | some bytes => (Utf8.decodeChars 0 bytes).mapError .saslPayloadNotUtf8

def authFailed : Document :=
  [("ok", .double .zero), ("errmsg", .text "Authentication failed."), ("code", .int32 18)]

def saslStep (done : Bool) (text : List Char) : Document :=
  [("conversationId", .int32 1), ("done", .bool done),
    ("payload", .binary 0 (Utf8.encodeChars text)), ("ok", .double .one)]

abbrev Result := Server × SessionStage × SessionAnswer

def say (server : Server) (stage : SessionStage) (request : Frame) (body : Document) : Result :=
  let server := server.countRequest
  match Frame.reply server.lastRequest request.requestId 0 0 0 [body] with
  | .ok frame => (server, stage, .reply frame)
  | .error _ => (server, stage, .hangUp)

def start (server : Server) (nonce : List Char) (frame : Frame) : Result :=
  match server.user with
  | none => (server, .serving, .nothing)
  | some user =>
    match payload frame with
    | .error _ => (server, .guarded, .hangUp)
    | .ok text =>
      match (account user).challenge nonce text with
      | .error .brokenOff => (server, .guarded, .hangUp)
      | .error .refused => say server .guarded frame authFailed
      | .ok challenge => say server (.challenged challenge) frame (saslStep false challenge.text)

def conclude (server : Server) (challenge : Scram.Challenge) (frame : Frame) : Result :=
  if isCommand frame "saslContinue" then
    match payload frame with
    | .error _ => (server, .guarded, .hangUp)
    | .ok text =>
      match challenge.verdict? text with
      | some (.proved signature) =>
        say server .granting frame (saslStep true (Scram.verifierText signature))
      | _ => say server .guarded frame authFailed
  else say server .guarded frame authFailed

def served (stage : SessionStage) (outcome : Server.Outcome) : Result :=
  let (server, answer) := outcome
  match answer with
  | .ok (some frame) => (server, stage, if server.silent then .nothing else .reply frame)
  | _ => (server, stage, .nothing)

def receive (server : Server) (stage : SessionStage) (nonce : List Char) (frame : Frame) :
    Result :=
  match stage with
  | .guarded =>
    if isCommand frame "saslStart" then start server nonce frame
    else served .guarded (server.refuse frame)
  | .challenged challenge => conclude server challenge frame
  | .granting | .serving => served .serving (server.handle frame)

/-- What follows once the answer is written. -/
def delivered (server : Server) : SessionStage → Server × SessionStage
  | .granting => ({ server with authentications := server.authentications + 1 }, .serving)
  | stage => (server, stage)

end Session

end TrafficReplay
