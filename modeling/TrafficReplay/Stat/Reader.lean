import TrafficReplay.Stat.Json
import TrafficReplay.Text.Json.Reader

namespace TrafficReplay

namespace Json

def text? : Json → Option String
  | .text value => some value
  | _ => none

def bool? : Json → Option Bool
  | .bool value => some value
  | _ => none

def int? : Json → Option Int
  | .int value => some value
  | _ => none

def natural? (json : Json) : Option Nat := json.int?.bind Int.toNat?

def int32? (json : Json) : Option Int32 := do
  let n ← json.int?
  if -2 ^ 31 ≤ n ∧ n < 2 ^ 31 then some (.ofInt n) else none

def orNull? {α : Type} (form : Json → Option α) : Json → Option (Option α)
  | .null => some none
  | json => (form json).map some

end Json

namespace Stat

def time? : Json → Option Timestamp
  | .object fields => do
    let seconds ← (← fields.lookup "secs_since_epoch").natural?
    let subsecond ← (← fields.lookup "nanos_since_epoch").natural?
    if subsecond < nanosPerSecond then some ⟨seconds * nanosPerSecond + subsecond⟩ else none
  | _ => none

def error? (json : Json) : Option OpError := json.text?.bind OpError.ofText?

def ofFields? (fields : List (String × Json)) : Option Stat := do
  let lane ← (← fields.lookup "lane").text?
  let seq ← (← fields.lookup "seq").natural?
  let kind ← (← fields.lookup "op_type").text?.bind OpKind.ofText?
  let ns ← (← fields.lookup "ns").orNull? Json.text?
  let command ← (← fields.lookup "command").orNull? Json.text?
  let numReturned ← (← fields.lookup "num_returned").int32?
  let micros ← (← fields.lookup "latency_us").natural?
  let requestId ← (← fields.lookup "request_id").int32?
  let playedAt ← time? (← fields.lookup "played_at")
  let error ← (← fields.lookup "error").orNull? error?
  let miss ← (← fields.lookup "translation_miss").bool?
  return {
    lane := lane
    seq := seq
    kind := kind
    ns := ns
    command := command
    numReturned := numReturned
    latency := .ofNanos (1000 * micros)
    requestId := requestId
    playedAt := playedAt
    error := error
    miss := miss }

def ofLine? (line : List Char) : Option Stat := (Json.readFields? line).bind ofFields?

end Stat

end TrafficReplay
