import TrafficReplay.Scram.Message

namespace TrafficReplay.Scram

structure Account where
  userName : String
  password : String
  salt : List UInt8
  iterations : Nat
deriving DecidableEq, Repr

structure Challenge where
  keys : Keys
  first : ClientFirst
  server : ServerFirst
deriving DecidableEq, Repr

inductive Verdict where
  | proved (signature : List UInt8)
  | unproved
deriving DecidableEq, Repr

namespace Account

/-- Only a well-formed message of the one known user begins a conversation. -/
def challenge (account : Account) (nonce : List Char) (clientFirst : List Char) :
    Except Unfit Challenge := do
  let first ← ClientFirst.parse clientFirst
  if first.userName ≠ account.userName.toList then throw .refused
  let salted := saltedPassword account.password account.salt account.iterations
  return ⟨.ofSalted salted, first, ⟨first.nonce ++ nonce, account.salt, account.iterations⟩⟩

end Account

namespace Challenge

def text (challenge : Challenge) : List Char := challenge.server.text

/-- A message for another conversation, or one that is not well formed, gets no verdict. -/
def verdict? (challenge : Challenge) (clientFinal : List Char) : Option Verdict :=
  match parts clientFinal with
  | binding :: nonce :: proof :: _ => do
    let binding ← part? 'c' binding
    let nonce ← part? 'r' nonce
    let proof ← part? 'p' proof
    if binding ≠ Base64.encode (Utf8.encodeChars challenge.first.binding) then none
    if nonce ≠ challenge.server.nonce then none
    let proof ← Base64.decode? proof
    let said := conversation challenge.first challenge.text challenge.server.nonce
    if proof = challenge.keys.clientProof said then
      some (.proved (challenge.keys.serverSignature said))
    else some .unproved
  | _ => none

end Challenge

namespace Verdict

def text : Verdict → List Char
  | .proved signature => verifierText signature
  | .unproved => refusalText

def isProved : Verdict → Bool
  | .proved _ => true
  | .unproved => false

end Verdict

end TrafficReplay.Scram
