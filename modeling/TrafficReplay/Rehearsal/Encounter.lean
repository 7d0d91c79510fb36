import TrafficReplay.Rehearsal.Login
import TrafficReplay.Rehearsal.Peer

namespace TrafficReplay

structure Encounter where
  server : Server
  now : Nat
  link : Link
  peer : Peer

namespace Encounter

def ofPeer (server : Server) (capacity : Nat) (peer : Peer) : Encounter :=
  ⟨server, 0, .ofCapacity capacity, peer⟩

def ofServer (server : Server) : Encounter := ofPeer server Link.defaultCapacity (.ofServer server)

def withPeer (encounter : Encounter) : Encounter :=
  let (server, peer, link) := encounter.peer.advance encounter.server encounter.now encounter.link
  { encounter with server := server, peer := peer, link := link }

def peerIsReady (encounter : Encounter) : Bool :=
  encounter.peer.isReady encounter.now encounter.link

def nextTime? (encounter : Encounter) : Option Nat :=
  encounter.peer.wake.filter fun time => encounter.now < time

def patience : Nat := 1000000000000

def loginLimit : Nat := 1000

def loginLoop : (fuel : Nat) → Encounter → Login → Login.Outcome × Encounter
  | 0, encounter, _ => (.pending, encounter)
  | fuel + 1, encounter, login =>
    let (outcome, login, link) := login.advance encounter.link
    let encounter := { encounter with link := link }
    match outcome with
    | .done result => (.done result, encounter.withPeer)
    | .pending =>
      if encounter.peerIsReady then loginLoop fuel encounter.withPeer login
      else
        match encounter.nextTime? with
        | none => (.pending, encounter)
        | some time =>
          if time < loginLimit then loginLoop fuel { encounter with now := time } login
          else (.pending, encounter)

def login (encounter : Encounter) (credentials : Credentials) : Login.Outcome × Encounter :=
  match Login.ofCredentials credentials with
  | .error fault => (.done (.error fault), encounter)
  | .ok login => loginLoop patience encounter login

def sendLoop : (fuel : Nat) → Encounter → List UInt8 → Except LinkFault Unit × Encounter
  | 0, encounter, _ => (.ok (), encounter)
  | fuel + 1, encounter, bytes =>
    match encounter.link.send bytes with
    | (.error fault, link) => (.error fault, { encounter with link := link })
    | (.ok rest, link) =>
      let encounter := { encounter with link := link }
      if rest.isEmpty then (.ok (), encounter)
      else if encounter.peerIsReady then sendLoop fuel encounter.withPeer rest
      else (.ok (), encounter)

def send (encounter : Encounter) (frame : Frame) : Except LinkFault Unit × Encounter :=
  sendLoop patience encounter frame.bytes

def collectLoop : (fuel : Nat) → Encounter → List (Except ReceiveFault Frame) × Encounter
  | 0, encounter => ([], encounter)
  | fuel + 1, encounter =>
    let (outcome, link) := encounter.link.receive
    let encounter := { encounter with link := link }
    match outcome with
    | .done (.ok frame) =>
      let (rest, encounter) := collectLoop fuel encounter
      (.ok frame :: rest, encounter)
    | .done (.error fault) => ([.error fault], encounter)
    | .pending =>
      if encounter.peerIsReady then collectLoop fuel encounter.withPeer else ([], encounter)

def collect (encounter : Encounter) : List (Except ReceiveFault Frame) × Encounter :=
  collectLoop patience encounter

def hangUp (encounter : Encounter) : Encounter := { encounter with link := encounter.link.drop }

end Encounter

end TrafficReplay
