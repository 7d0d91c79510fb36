import TrafficReplay.Crypto.Sha256

namespace TrafficReplay

def xorBytes (a b : List UInt8) : List UInt8 := List.zipWith (· ^^^ ·) a b

@[simp] theorem length_xorBytes (a b : List UInt8) :
    (xorBytes a b).length = min a.length b.length := by simp [xorBytes]

namespace Hmac

structure Key where
  inner : Sha256.Mix
  outer : Sha256.Mix
deriving DecidableEq, Repr

def keyBlock (secret : List UInt8) : List UInt8 :=
  let short := if Sha256.blockLength < secret.length then Sha256.digest secret else secret
  short ++ List.replicate (Sha256.blockLength - short.length) 0

def pad (byte : UInt8) (block : List UInt8) : List UInt8 := block.map (· ^^^ byte)

def Key.ofBytes (secret : List UInt8) : Key where
  inner := Sha256.absorb .initial (pad 0x36 (keyBlock secret))
  outer := Sha256.absorb .initial (pad 0x5c (keyBlock secret))

def Key.sign (key : Key) (message : List UInt8) : List UInt8 :=
  Sha256.finish key.outer Sha256.blockLength
    (Sha256.finish key.inner Sha256.blockLength message)

def sign (secret message : List UInt8) : List UInt8 := (Key.ofBytes secret).sign message

@[simp] theorem length_sign (secret message : List UInt8) :
    (sign secret message).length = Sha256.digestLength := rfl

def iterate (key : Key) : (rounds : Nat) → (last mixed : List UInt8) → List UInt8
  | 0, _, mixed => mixed
  | rounds + 1, last, mixed =>
    let next := key.sign last
    iterate key rounds next (xorBytes mixed next)

def stretch (password salt : List UInt8) (iterations : Nat) : List UInt8 :=
  let key := Key.ofBytes password
  let first := key.sign (salt ++ [0, 0, 0, 1])
  iterate key (iterations - 1) first first

end Hmac

end TrafficReplay
