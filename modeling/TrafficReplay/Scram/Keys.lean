import TrafficReplay.Crypto.Hmac
import TrafficReplay.Text.Utf8

namespace TrafficReplay.Scram

def saltedPassword (password : String) (salt : List UInt8) (iterations : Nat) : List UInt8 :=
  Hmac.stretch (Utf8.encode password) salt iterations

structure Keys where
  client : List UInt8
  server : List UInt8
deriving DecidableEq, Repr

def Keys.ofSalted (salted : List UInt8) : Keys where
  client := Hmac.sign salted (Utf8.encode "Client Key")
  server := Hmac.sign salted (Utf8.encode "Server Key")

def Keys.clientProof (keys : Keys) (conversation : List UInt8) : List UInt8 :=
  xorBytes keys.client (Hmac.sign (Sha256.digest keys.client) conversation)

def Keys.serverSignature (keys : Keys) (conversation : List UInt8) : List UInt8 :=
  Hmac.sign keys.server conversation

end TrafficReplay.Scram
