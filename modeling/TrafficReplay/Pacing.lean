import TrafficReplay.Time

namespace TrafficReplay

structure Throttle where
  speed : Double
deriving DecidableEq, Repr

namespace Throttle

def unthrottled : Throttle := ⟨.infinity⟩

instance : Inhabited Throttle := ⟨⟨.one⟩⟩

def isUnthrottled (throttle : Throttle) : Bool :=
  !(throttle.speed.isFinite && throttle.speed.isPositive)

/-- Zero for capture times that are out of order. -/
def delay (throttle : Throttle) (last next : Timestamp) : Duration :=
  if throttle.isUnthrottled then .zero
  else
    match next.since? last with
    | none => .zero
    | some gap => .ofSeconds (gap.toSeconds.divMagnitudes throttle.speed)

end Throttle

/-- Capture time and issue time of the last operation issued. -/
structure LaneClock where
  last : Option (Timestamp × Instant)
deriving DecidableEq, Repr

namespace LaneClock

def fresh : LaneClock := ⟨none⟩

instance : Inhabited LaneClock := ⟨fresh⟩

def waitBefore (clock : LaneClock) (throttle : Throttle) (next : Timestamp) (now : Instant) :
    Duration :=
  match clock.last with
  | none => .zero
  | some (captured, issued) => (throttle.delay captured next).monus (now.elapsedSince issued)

def issued (_clock : LaneClock) (captured : Timestamp) (now : Instant) : LaneClock :=
  ⟨some (captured, now)⟩

end LaneClock

end TrafficReplay
