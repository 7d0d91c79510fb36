import TrafficReplay.Number.Double

namespace TrafficReplay

def nanosPerSecond : Nat := 1000000000

structure Duration where
  nanos : Nat
  nanos_lt : nanos < 2 ^ 64 * nanosPerSecond
deriving DecidableEq, Repr

namespace Duration

def ofNanos (nanos : Nat) : Duration :=
  if h : nanos < 2 ^ 64 * nanosPerSecond then ⟨nanos, h⟩
  else ⟨2 ^ 64 * nanosPerSecond - 1, by decide⟩

def zero : Duration := ⟨0, by decide⟩

def max : Duration := ⟨2 ^ 64 * nanosPerSecond - 1, by decide⟩

instance : Inhabited Duration := ⟨zero⟩

def ofMillis (millis : UInt64) : Duration := ofNanos (millis.toNat * 1000000)

def seconds (d : Duration) : Nat := d.nanos / nanosPerSecond

def subsecond (d : Duration) : Nat := d.nanos % nanosPerSecond

def isZero (d : Duration) : Bool := d.nanos = 0

def monus (a b : Duration) : Duration :=
  ⟨a.nanos - b.nanos, Nat.lt_of_le_of_lt (Nat.sub_le ..) a.nanos_lt⟩

def micros (d : Duration) : UInt64 := UInt64.ofNat (min (d.nanos / 1000) (2 ^ 64 - 1))

def toSeconds (d : Duration) : Double :=
  (Double.ofNat d.seconds).addMagnitudes (Double.ofRatio d.subsecond nanosPerSecond)

/-- The nearest duration to a nonnegative number of seconds, ties to even. -/
def ofSeconds (x : Double) : Duration :=
  if x.isFinite then ofNanos (roundHalfEven (x.units * nanosPerSecond) Double.unit) else max

end Duration

/-- A point of capture time, in nanoseconds since the epoch. -/
structure Timestamp where
  nanos : Int
deriving DecidableEq, Repr

namespace Timestamp

def epoch : Timestamp := ⟨0⟩

instance : Inhabited Timestamp := ⟨epoch⟩

def seconds (t : Timestamp) : Int := Int.fdiv t.nanos nanosPerSecond

def subsecond (t : Timestamp) : Nat := (Int.fmod t.nanos nanosPerSecond).toNat

def since? (later earlier : Timestamp) : Option Duration :=
  if earlier.nanos ≤ later.nanos then some (.ofNanos (later.nanos - earlier.nanos).toNat)
  else none

end Timestamp

/-- A reading of the monotonic clock, in nanoseconds after an arbitrary origin. -/
structure Instant where
  nanos : Nat
deriving DecidableEq, Repr

namespace Instant

instance : Inhabited Instant := ⟨⟨0⟩⟩

def elapsedSince (later earlier : Instant) : Duration := .ofNanos (later.nanos - earlier.nanos)

end Instant

end TrafficReplay
