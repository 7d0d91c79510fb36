import TrafficReplay.Handshake
import TrafficReplay.Net.Pipe

namespace TrafficReplay

structure Login where
  handshake : Handshake
  unsent : List UInt8

namespace Login

def nonce : List Char := "fyko+d2lbbFgONRv9qkxdawL".toList

def ofCredentials (credentials : Credentials) : Except HandshakeFault Login :=
  let handshake := Handshake.ofCredentials credentials nonce
  handshake.opening.map fun question => ⟨handshake, question.bytes⟩

abbrev Outcome := Settled (Except HandshakeFault Unit)

def proceed : (fuel : Nat) → Login → Link → Outcome × Login × Link
  | 0, login, link => (.pending, login, link)
  | fuel + 1, login, link =>
    if login.unsent.isEmpty then
      match link.receive with
      | (.pending, link) => (.pending, login, link)
      | (.done (.error fault), link) => (.done (.error (.ofReceive fault)), login, link)
      | (.done (.ok frame), link) =>
        match login.handshake.receive frame with
        | .error fault => (.done (.error fault), login, link)
        | .ok .authenticated => (.done (.ok ()), login, link)
        | .ok .waiting => proceed fuel login link
        | .ok (.asks question next) => proceed fuel ⟨next, question.bytes⟩ link
    else
      match link.send login.unsent with
      | (.error fault, link) => (.done (.error (.link fault)), login, link)
      | (.ok rest, link) =>
        if rest.isEmpty then proceed fuel { login with unsent := [] } link
        else (.pending, { login with unsent := rest }, link)

/-- Every frame takes a step to receive and one to answer. -/
def advance (login : Login) (link : Link) : Outcome × Login × Link :=
  login.proceed (link.received.bytes.length + link.toClient.held.length + 2) link

end Login

end TrafficReplay
