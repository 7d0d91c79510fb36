import TrafficReplay.Config.Target
import TrafficReplay.Cursor
import TrafficReplay.Number.Decimal

namespace TrafficReplay

inductive ConnectFailurePolicy where
  | closeLane
  | abortRun
deriving DecidableEq, Repr

structure Spelled (α : Type) where
  value : α
  text : String
  name : String

def CursorScope.spellings : List (Spelled CursorScope) :=
  [⟨.lane, "lane", "Lane"⟩, ⟨.global, "global", "Global"⟩]

def CursorMissPolicy.spellings : List (Spelled CursorMissPolicy) :=
  [⟨.passThrough, "pass_through", "PassThrough"⟩, ⟨.fail, "fail", "Fail"⟩]

def ConnectFailurePolicy.spellings : List (Spelled ConnectFailurePolicy) :=
  [⟨.closeLane, "close_lane", "CloseLane"⟩, ⟨.abortRun, "abort_run", "AbortRun"⟩]

def Spelled.ofText? {α : Type} (spellings : List (Spelled α)) (text : String) :
    Option (Spelled α) :=
  spellings.find? fun spelled => spelled.text = text

def Spelled.textOf {α : Type} [DecidableEq α] (spellings : List (Spelled α)) (value : α) : String :=
  match spellings.find? fun spelled => spelled.value = value with
  | some spelled => spelled.text
  | none => ""

structure PlayConfig where
  target : String
  speed : Double
  laneLimit : Nat
  queueDepth : Nat
  responseTimeoutMs : UInt64
  connectTimeoutMs : UInt64
  maxConsecutiveFailures : UInt32
  cursorScope : CursorScope
  cursorMiss : CursorMissPolicy
  connectFailure : ConnectFailurePolicy
deriving DecidableEq, Repr

inductive ConfigFault where
  | target (target : String) (fault : TargetFault)
  | speed (speed : Double)
  | notPositive (setting : String)
  | unreadable
  | notParsed
deriving DecidableEq, Repr

def ConfigFault.message : ConfigFault → String
  | .target text fault => fault.message text
  | .speed value => s!"speed must be >= 0, got {value.positional}"
  | .notPositive setting => s!"{setting} must be > 0"
  | .unreadable => "Failed to read config file"
  | .notParsed => "Failed to parse config"

namespace PlayConfig

def ofTarget (target : String) : PlayConfig where
  target := target
  speed := .one
  laneLimit := 64
  queueDepth := 1000
  responseTimeoutMs := 30000
  connectTimeoutMs := 1000
  maxConsecutiveFailures := 0
  cursorScope := .lane
  cursorMiss := .passThrough
  connectFailure := .closeLane

/-- Keeps the target and what shapes the load; the rest gets its defaults. -/
def essentials (config : PlayConfig) : PlayConfig :=
  { ofTarget config.target with
    speed := config.speed
    laneLimit := config.laneLimit
    queueDepth := config.queueDepth }

def responseTimeout (config : PlayConfig) : Duration := .ofMillis config.responseTimeoutMs

def connectTimeout (config : PlayConfig) : Duration := .ofMillis config.connectTimeoutMs

def address (config : PlayConfig) : Except ConfigFault Address :=
  (Target.address config.target).mapError (.target config.target)

def credentials (config : PlayConfig) : Except ConfigFault (Option Credentials) :=
  (Target.credentials config.target).mapError (.target config.target)

def validate (config : PlayConfig) : Except ConfigFault Unit := do
  let _ ← config.address
  let _ ← config.credentials
  if config.speed.isNaN || config.speed.isBelowZero then throw (.speed config.speed)
  if config.laneLimit = 0 then throw (.notPositive "lane_limit")
  if config.queueDepth = 0 then throw (.notPositive "queue_depth")
  if config.responseTimeoutMs = 0 then throw (.notPositive "response_timeout_ms")
  if config.connectTimeoutMs = 0 then throw (.notPositive "connect_timeout_ms")

end PlayConfig

end TrafficReplay
