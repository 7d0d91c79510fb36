import TrafficReplay.Stat.Basic
import TrafficReplay.Text.Json

namespace TrafficReplay.Stat

/-- A point in time has a form only from the epoch on. -/
def timeJson? (time : Timestamp) : Option Json :=
  if time.nanos < 0 then none
  else some (.object [("secs_since_epoch", .int time.seconds),
    ("nanos_since_epoch", .int time.subsecond)])

def orNull {α : Type} (form : α → Json) : Option α → Json
  | some a => form a
  | none => .null

def jsonFields (stat : Stat) : List (String × Option Json) :=
  [("lane", some (.text stat.lane)),
    ("seq", some (.int stat.seq)),
    ("op_type", some (.text stat.kind.text)),
    ("ns", some (orNull .text stat.ns)),
    ("command", some (orNull .text stat.command)),
    ("num_returned", some (.int stat.numReturned.toInt)),
    ("latency_us", some (.int stat.latency.micros.toNat)),
    ("request_id", some (.int stat.requestId.toInt)),
    ("played_at", timeJson? stat.playedAt),
    ("error", some (orNull (fun error => .text error.text) stat.error)),
    ("translation_miss", some (.bool stat.miss))]

/-- Fields of an object up to one that has no form, and whether all were written. -/
def writeFields : List (String × Option Json) → List Char × Bool
  | [] => ([], true)
  | (key, none) :: _ => (Json.renderText key ++ [':'], false)
  | (key, some value) :: rest =>
    let head := Json.renderText key ++ ':' :: value.render
    if rest.isEmpty then (head, true)
    else
      let (tail, whole) := writeFields rest
      (head ++ ',' :: tail, whole)

def jsonLine (stat : Stat) : List Char :=
  let (fields, whole) := writeFields stat.jsonFields
  if whole then '\x7b' :: fields ++ ['\x7d', '\n'] else '\x7b' :: fields

def jsonLines (stats : List Stat) : List Char := stats.flatMap jsonLine

/-- What a writer with room for so many bytes holds: it takes what fits and then refuses. -/
def jsonWithin (room : Nat) (stats : List Stat) : List UInt8 :=
  (Utf8.encodeChars (jsonLines stats)).take room

end TrafficReplay.Stat
