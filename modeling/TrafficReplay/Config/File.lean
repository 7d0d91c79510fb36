import TrafficReplay.Config.Play
import TrafficReplay.Toml.Reader

namespace TrafficReplay.PlayConfig

open Toml (Node Fields)

def textSetting? : Node → Option String
  | .text value => some value
  | _ => none

def speedSetting? : Node → Option Double
  | .float x => some x
  | .integer n =>
    some (if n < 0 then (Double.ofNat n.natAbs).neg else Double.ofNat n.natAbs)
  | _ => none

def countSetting? (limit : Nat) : Node → Option Nat
  | .integer n => if 0 ≤ n ∧ n < limit then some n.toNat else none
  | _ => none

/-- A spelling is a text, or the only key of a table that holds nothing else. -/
def spelledSetting? {α : Type} (spellings : List (Spelled α)) : Node → Option α
  | .text value | .table _ [(value, .table _ [])] | .table _ [(value, .array [])] =>
    (Spelled.ofText? spellings value).map Spelled.value
  | _ => none

def setting? {α : Type} (fields : Fields) (key : String) (read : Node → Option α) (default : α) :
    Option α :=
  match fields.lookup key with
  | some node => read node
  | none => some default

def ofFields? (fields : Fields) : Option PlayConfig := do
  let target ← fields.lookup "target" >>= textSetting?
  let base := ofTarget target
  let speed ← setting? fields "speed" speedSetting? base.speed
  let laneLimit ← setting? fields "lane_limit" (countSetting? (2 ^ 64)) base.laneLimit
  let queueDepth ← setting? fields "queue_depth" (countSetting? (2 ^ 64)) base.queueDepth
  let responseTimeout ← setting? fields "response_timeout_ms" (countSetting? (2 ^ 64))
    base.responseTimeoutMs.toNat
  let connectTimeout ← setting? fields "connect_timeout_ms" (countSetting? (2 ^ 64))
    base.connectTimeoutMs.toNat
  let failures ← setting? fields "max_consecutive_failures" (countSetting? (2 ^ 32))
    base.maxConsecutiveFailures.toNat
  let scope ← setting? fields "cursor_scope" (spelledSetting? CursorScope.spellings)
    base.cursorScope
  let miss ← setting? fields "cursor_miss" (spelledSetting? CursorMissPolicy.spellings)
    base.cursorMiss
  let connectFailure ← setting? fields "connect_failure"
    (spelledSetting? ConnectFailurePolicy.spellings) base.connectFailure
  return {
    target, speed, laneLimit, queueDepth
    responseTimeoutMs := UInt64.ofNat responseTimeout
    connectTimeoutMs := UInt64.ofNat connectTimeout
    maxConsecutiveFailures := UInt32.ofNat failures
    cursorScope := scope
    cursorMiss := miss
    connectFailure }

def ofText? (text : String) : Option PlayConfig := Toml.read? text >>= ofFields?

def ofFile (text : Option String) : Except ConfigFault PlayConfig := do
  match text with
  | none => throw .unreadable
  | some text =>
    match ofText? text with
    | none => throw .notParsed
    | some config =>
      config.validate
      return config

end TrafficReplay.PlayConfig
