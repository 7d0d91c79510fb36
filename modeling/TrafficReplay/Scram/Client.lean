import TrafficReplay.Scram.Message

namespace TrafficReplay.Scram

structure Client where
  userName : String
  password : String
  nonce : List Char
deriving DecidableEq, Repr

namespace Client

def first (client : Client) : ClientFirst := .ofUser client.userName client.nonce

/-- The client's last message and the signature it expects in return. A server that does not
    extend the client's nonce is refused. -/
def answer? (client : Client) (serverFirst : List Char) : Option (ClientFinal × List UInt8) := do
  let server ← ServerFirst.parse? serverFirst
  if !client.nonce.isPrefixOf server.nonce then none
  let keys := Keys.ofSalted (saltedPassword client.password server.salt server.iterations)
  let said := conversation client.first serverFirst server.nonce
  some (⟨client.first.binding, server.nonce, keys.clientProof said⟩, keys.serverSignature said)

def accepts (expected : List UInt8) (serverFinal : List Char) : Bool :=
  signature? serverFinal = some expected

end Client

end TrafficReplay.Scram
