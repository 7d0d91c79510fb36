-- A power is that of the core library, also where another one is in scope.
attribute [instance(1100), default_instance 10001] instPowNat

namespace TrafficReplay.Sha256

structure Mix where
  a : UInt32
  b : UInt32
  c : UInt32
  d : UInt32
  e : UInt32
  f : UInt32
  g : UInt32
  h : UInt32
deriving DecidableEq, Repr

def Mix.initial : Mix where
  a := 0x6a09e667
  b := 0xbb67ae85
  c := 0x3c6ef372
  d := 0xa54ff53a
  e := 0x510e527f
  f := 0x9b05688c
  g := 0x1f83d9ab
  h := 0x5be0cd19

instance : Inhabited Mix := ⟨.initial⟩

def roundConstants : List UInt32 :=
  [0x428a2f98, 0x71374491, 0xb5c0fbcf, 0xe9b5dba5, 0x3956c25b, 0x59f111f1, 0x923f82a4, 0xab1c5ed5,
    0xd807aa98, 0x12835b01, 0x243185be, 0x550c7dc3, 0x72be5d74, 0x80deb1fe, 0x9bdc06a7, 0xc19bf174,
    0xe49b69c1, 0xefbe4786, 0x0fc19dc6, 0x240ca1cc, 0x2de92c6f, 0x4a7484aa, 0x5cb0a9dc, 0x76f988da,
    0x983e5152, 0xa831c66d, 0xb00327c8, 0xbf597fc7, 0xc6e00bf3, 0xd5a79147, 0x06ca6351, 0x14292967,
    0x27b70a85, 0x2e1b2138, 0x4d2c6dfc, 0x53380d13, 0x650a7354, 0x766a0abb, 0x81c2c92e, 0x92722c85,
    0xa2bfe8a1, 0xa81a664b, 0xc24b8b70, 0xc76c51a3, 0xd192e819, 0xd6990624, 0xf40e3585, 0x106aa070,
    0x19a4c116, 0x1e376c08, 0x2748774c, 0x34b0bcb5, 0x391c0cb3, 0x4ed8aa4a, 0x5b9cca4f, 0x682e6ff3,
    0x748f82ee, 0x78a5636f, 0x84c87814, 0x8cc70208, 0x90befffa, 0xa4506ceb, 0xbef9a3f7, 0xc67178f2]

def rotateRight (word count : UInt32) : UInt32 :=
  (word >>> count) ||| (word <<< (32 - count))

def spread0 (word : UInt32) : UInt32 := rotateRight word 7 ^^^ rotateRight word 18 ^^^ (word >>> 3)

def spread1 (word : UInt32) : UInt32 :=
  rotateRight word 17 ^^^ rotateRight word 19 ^^^ (word >>> 10)

def wordBytes (word : UInt32) : List UInt8 :=
  [(word >>> 24).toUInt8, (word >>> 16).toUInt8, (word >>> 8).toUInt8, word.toUInt8]

def wordOfBytes (a b c d : UInt8) : UInt32 :=
  (a.toUInt32 <<< 24) ||| (b.toUInt32 <<< 16) ||| (c.toUInt32 <<< 8) ||| d.toUInt32

def words : List UInt8 → List UInt32
  | a :: b :: c :: d :: rest => wordOfBytes a b c d :: words rest
  | _ => []

def schedule (block : List UInt8) : Array UInt32 :=
  (List.range 48).foldl (fun made i =>
    made.push (spread1 (made.getD (i + 14) 0) + made.getD (i + 9) 0 +
      spread0 (made.getD (i + 1) 0) + made.getD i 0)) (words block).toArray

def mixWord (mix : Mix) (constant word : UInt32) : Mix :=
  let sum1 := rotateRight mix.e 6 ^^^ rotateRight mix.e 11 ^^^ rotateRight mix.e 25
  let choice := (mix.e &&& mix.f) ^^^ (~~~mix.e &&& mix.g)
  let first := mix.h + sum1 + choice + constant + word
  let sum0 := rotateRight mix.a 2 ^^^ rotateRight mix.a 13 ^^^ rotateRight mix.a 22
  let majority := (mix.a &&& mix.b) ^^^ (mix.a &&& mix.c) ^^^ (mix.b &&& mix.c)
  ⟨first + (sum0 + majority), mix.a, mix.b, mix.c, mix.d + first, mix.e, mix.f, mix.g⟩

def Mix.add (x y : Mix) : Mix :=
  ⟨x.a + y.a, x.b + y.b, x.c + y.c, x.d + y.d, x.e + y.e, x.f + y.f, x.g + y.g, x.h + y.h⟩

def mixWords (mix : Mix) : List UInt32 → List UInt32 → Mix
  | constant :: constants, word :: rest => mixWords (mixWord mix constant word) constants rest
  | _, _ => mix

def compress (mix : Mix) (block : List UInt8) : Mix :=
  mix.add (mixWords mix roundConstants (schedule block).toList)

def blockLength : Nat := 64

def absorb (mix : Mix) (bytes : List UInt8) : Mix :=
  if blockLength ≤ bytes.length then
    absorb (compress mix (bytes.take blockLength)) (bytes.drop blockLength)
  else mix
termination_by bytes.length
decreasing_by
  simp only [List.length_drop, blockLength] at *
  omega

def padding (length : Nat) : List UInt8 :=
  0x80 :: List.replicate ((119 - length % blockLength) % blockLength) 0 ++
    wordBytes (UInt32.ofNat (length * 8 / 2 ^ 32)) ++ wordBytes (UInt32.ofNat (length * 8))

def Mix.bytes (mix : Mix) : List UInt8 :=
  wordBytes mix.a ++ wordBytes mix.b ++ wordBytes mix.c ++ wordBytes mix.d ++
    wordBytes mix.e ++ wordBytes mix.f ++ wordBytes mix.g ++ wordBytes mix.h

def finish (mix : Mix) (before : Nat) (rest : List UInt8) : List UInt8 :=
  (absorb mix (rest ++ padding (before + rest.length))).bytes

def digest (message : List UInt8) : List UInt8 := finish .initial 0 message

def digestLength : Nat := 32

end TrafficReplay.Sha256
