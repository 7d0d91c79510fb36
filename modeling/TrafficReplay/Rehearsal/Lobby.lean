import TrafficReplay.Rehearsal.Encounter

namespace TrafficReplay

structure Lobby where
  server : Server
  lines : List (String × Link × Peer)

namespace Lobby

def empty : Lobby := ⟨.empty, []⟩

def encounter? (lobby : Lobby) (name : String) : Option Encounter :=
  (lobby.lines.lookup name).map fun (link, peer) => ⟨lobby.server, 0, link, peer⟩

def keep (lobby : Lobby) (name : String) (encounter : Encounter) : Lobby :=
  ⟨encounter.server,
    (name, encounter.link, encounter.peer) :: lobby.lines.filter fun line => line.1 ≠ name⟩

def connect (lobby : Lobby) (address name : String) : Except LinkFault Lobby :=
  (lobby.server.connect? address).map fun server => lobby.keep name (.ofServer server)

def hangUp (lobby : Lobby) (name : String) : Lobby :=
  match lobby.encounter? name with
  | some encounter => lobby.keep name encounter.hangUp.withPeer
  | none => lobby

def send? (lobby : Lobby) (name : String) (frame : Frame) :
    Option (Except LinkFault (List (Except ReceiveFault Frame)) × Lobby) :=
  (lobby.encounter? name).map fun encounter =>
    match encounter.send frame with
    | (.error fault, encounter) => (.error fault, lobby.keep name encounter)
    | (.ok (), encounter) =>
      let (frames, encounter) := encounter.collect
      (.ok frames, lobby.keep name encounter)

def login? (lobby : Lobby) (name : String) (credentials : Credentials) :
    Option (Login.Outcome × Lobby) :=
  (lobby.encounter? name).map fun encounter =>
    let (outcome, encounter) := encounter.login credentials
    (outcome, lobby.keep name encounter)

end Lobby

end TrafficReplay
