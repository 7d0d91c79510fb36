import TrafficReplay.Config.Play
import TrafficReplay.Lane.Worker

namespace TrafficReplay

structure PlaySummary where
  lanesOpened : Nat
  lanesConnected : Nat
  lanesAborted : Nat
  played : Nat
  failed : Nat
  skipped : Nat
  misses : Nat
deriving DecidableEq, Repr

def PlaySummary.empty : PlaySummary where
  lanesOpened := 0
  lanesConnected := 0
  lanesAborted := 0
  played := 0
  failed := 0
  skipped := 0
  misses := 0

instance : Inhabited PlaySummary := ⟨.empty⟩

def PlaySummary.add (summary : PlaySummary) (report : LaneReport) : PlaySummary :=
  { summary with
    lanesAborted := summary.lanesAborted + if report.abort.isSome then 1 else 0
    played := summary.played + report.played
    failed := summary.failed + report.failed
    skipped := summary.skipped + report.skipped
    misses := summary.misses + report.misses }

inductive PlayFault where
  | config (fault : ConfigFault)
  | connect (address : String) (fault : LinkFault)
  | cancelled
  | noLaneConnected (attempted : Nat)
  | stream (text : String)
deriving DecidableEq, Repr

def PlayFault.message : PlayFault → String
  | .config fault => "Configuration error: " ++ fault.message
  | .connect address fault => s!"Failed to connect to {address}: {fault.text}"
  | .cancelled => "Replay cancelled"
  | .noLaneConnected attempted =>
    s!"No lane could connect to the target ({attempted} attempted)"
  | .stream text => "Operation stream failed: " ++ text

structure RunSettings where
  address : String
  laneLimit : Nat
  queueDepth : Nat
  scope : CursorScope
  connectFailure : ConnectFailurePolicy
  lane : LaneSettings
deriving DecidableEq

inductive RouterMode where
  | routing
  | waiting
deriving DecidableEq, Repr

inductive RouterPhase where
  | looking (mode : RouterMode)
  | choosing (mode : RouterMode)
  | delivering (record : Record)
  /-- The run has failed and its workers are being stopped. -/
  | stopping (fault : PlayFault)
  | finished (result : Except PlayFault PlaySummary)

inductive StreamItem where
  | record (record : Record)
  | failure (text : String)
  | finish
deriving DecidableEq

structure Run where
  settings : RunSettings
  shared : Shared
  workers : List Worker
  joined : List WorkerId
  /-- The worker that each lane's records go to. Whoever holds the handle may take over the
      lane's state. -/
  handles : List (LaneId × WorkerId)
  attempted : List LaneId
  connected : List LaneId
  summary : PlaySummary
  router : RouterPhase

inductive RouterAction where
  | look
  | again
  | event
  | join (id : WorkerId)
  | next (item : StreamItem)
  | deliver
  | giveUp
  | settle
deriving DecidableEq

inductive RunAction where
  | router (action : RouterAction)
  | worker (id : WorkerId) (action : WorkerAction)
  | cancel
deriving DecidableEq

namespace Run

def start (settings : RunSettings) (signal : CancelSignal) : Run where
  settings := settings
  shared := ⟨.ofLimit settings.laneLimit, .empty, [], signal⟩
  workers := []
  joined := []
  handles := []
  attempted := []
  connected := []
  summary := .empty
  router := .looking .routing

instance : Inhabited Run :=
  ⟨start ⟨"", 1, 1, .lane, .closeLane, ⟨default, 0, .passThrough, false⟩⟩ .fresh⟩

def settingsOf (config : PlayConfig) (address : Address) (credentials : Option Credentials) :
    RunSettings where
  address := address.text
  laneLimit := config.laneLimit
  queueDepth := config.queueDepth
  scope := config.cursorScope
  connectFailure := config.connectFailure
  lane := {
    throttle := ⟨config.speed⟩
    maxFailures := config.maxConsecutiveFailures
    onMiss := config.cursorMiss
    authenticates := credentials.isSome }

def ofConfig (config : PlayConfig) : Except ConfigFault Run := do
  config.validate
  let address ← config.address
  let credentials ← config.credentials
  return start (settingsOf config address credentials) .fresh

def refused (fault : ConfigFault) : Run :=
  { (default : Run) with router := .stopping (.config fault) }

def isFinished (run : Run) : Bool :=
  match run.router with
  | .finished _ => true
  | _ => false

def result? (run : Run) : Option (Except PlayFault PlaySummary) :=
  match run.router with
  | .finished result => some result
  | _ => none

def isFed (run : Run) (id : WorkerId) : Bool := run.handles.any fun handle => handle.2 = id

def hasHeir (run : Run) (id : WorkerId) : Bool :=
  run.isFed id || run.workers.any fun worker => worker.phase = .succeeding id

def legacyOf (run : Run) (worker : Worker) : Handoff :=
  match worker.phase with
  | .succeeding predecessor =>
    match run.workers[predecessor]? with
    | some predecessor => predecessor.handoff
    | none => .dropped
  | _ => .dropped

def surroundings (run : Run) (reading : Reading) (id : WorkerId) (worker : Worker) :
    Surroundings where
  id := id
  settings := run.settings.lane
  reading := reading
  fed := run.isFed id
  hasHeir := run.hasHeir id
  legacy := run.legacyOf worker

def markTaken (worker : Worker) : Worker :=
  match worker.handoff with
  | .passed _ => { worker with handoff := .taken }
  | _ => worker

/-- A legacy is taken once, by the worker that waited for it. -/
def takeLegacy (workers : List Worker) (before after : Worker) : List Worker :=
  match before.phase, after.phase with
  | .succeeding predecessor, .acquiring _ => workers.modify predecessor markTaken
  | _, _ => workers

def workerStep? (run : Run) (reading : Reading) (id : WorkerId) (action : WorkerAction) :
    Option (Run × List LaneEffect) :=
  match run.workers[id]? with
  | none => none
  | some worker =>
    match worker.step? (run.surroundings reading id worker) run.shared action with
    | none => none
    | some (after, shared, effects) =>
      some ({ run with
        shared := shared
        workers := (takeLegacy run.workers worker after).set id after }, effects)

def openWorker (run : Run) (lane : LaneId) (predecessor : Option WorkerId) : Run :=
  { run with
    workers := run.workers ++ [.opened lane run.settings.scope predecessor]
    handles := (lane, run.workers.length) :: run.handles.filter fun handle => handle.1 ≠ lane
    attempted := if lane ∈ run.attempted then run.attempted else run.attempted ++ [lane] }

def fail (run : Run) (fault : PlayFault) : Run :=
  { run with
    shared := { run.shared with signal := run.shared.signal.cancel }
    handles := []
    router := .stopping fault }

def note (run : Run) (event : LaneEvent) : Except PlayFault Run :=
  match event with
  | .connected lane =>
    .ok { run with
      connected := if lane ∈ run.connected then run.connected else run.connected ++ [lane] }
  | .connectFailed _ fault =>
    if run.settings.connectFailure = .abortRun then .error (.connect run.settings.address fault)
    else .ok run
  | .aborted _ _ => .ok run

def noteAll (run : Run) : List LaneEvent → Except PlayFault Run
  | [] => .ok run
  | event :: rest =>
    match run.note event with
    | .ok run => run.noteAll rest
    | .error fault => .error fault

def outcome (run : Run) : Except PlayFault PlaySummary :=
  if !run.attempted.isEmpty && run.connected.isEmpty then
    .error (.noLaneConnected run.attempted.length)
  else
    .ok { run.summary with
      lanesOpened := run.attempted.length
      lanesConnected := run.connected.length }

def join? (run : Run) (id : WorkerId) : Option Run :=
  match run.workers[id]? with
  | none => none
  | some worker =>
    if worker.phase = .ended ∧ id ∉ run.joined then
      some { run with
        joined := run.joined ++ [id]
        summary := run.summary.add worker.report }
    else none

def allJoined (run : Run) : Bool := run.joined.length = run.workers.length

/-- Hands a record to its lane's worker. A lane without one gets one; a worker that takes no more
    records gets a successor; a full queue makes the router wait. -/
def deliver? (run : Run) (record : Record) : Option Run :=
  let lane := record.lane
  match run.handles.lookup lane with
  | none => some (run.openWorker lane none)
  | some id =>
    match run.workers[id]? with
    | none => none
    | some worker =>
      if !worker.accepting then some (run.openWorker lane (some id))
      else if worker.queue.length < run.settings.queueDepth then
        some { run with
          workers := run.workers.set id { worker with queue := worker.queue ++ [record] }
          router := .looking .routing }
      else none

def take (run : Run) : StreamItem → Run
  | .record record => { run with router := .delivering record }
  | .failure text => run.fail (.stream text)
  | .finish => { run with handles := [], router := .looking .waiting }

def routerStep? (run : Run) (action : RouterAction) : Option Run :=
  match action, run.router with
  | .look, .looking mode =>
    if run.shared.signal.fired then some (run.fail .cancelled)
    else some { run with router := .choosing mode }
  | .again, .choosing mode => some { run with router := .looking mode }
  | .event, .choosing mode =>
    match run.shared.events with
    | [] => none
    | event :: rest =>
      let run := { run with shared := { run.shared with events := rest } }
      match run.note event with
      | .ok run => some { run with router := .looking mode }
      | .error fault => some (run.fail fault)
  | .join id, .choosing mode => (run.join? id).map fun run => { run with router := .looking mode }
  | .join id, .stopping _ => run.join? id
  | .next item, .choosing .routing => some (run.take item)
  | .deliver, .delivering record => run.deliver? record
  | .giveUp, .delivering _ =>
    if run.shared.signal.fired then some (run.fail .cancelled) else none
  | .settle, .choosing .waiting =>
    if run.allJoined then
      match { run with shared := { run.shared with events := [] } }.noteAll run.shared.events with
      | .ok run => some { run with router := .finished run.outcome }
      | .error fault => some (run.fail fault)
    else none
  | .settle, .stopping fault =>
    if run.allJoined then some { run with router := .finished (.error fault) } else none
  | _, _ => none

def cancel (run : Run) : Run :=
  { run with shared := { run.shared with signal := run.shared.signal.cancel } }

abbrev Effects := List (WorkerId × LaneEffect)

def step? (run : Run) (reading : Reading) : RunAction → Option (Run × Effects)
  | .router action => (run.routerStep? action).map fun run => (run, [])
  | .worker id action => (run.workerStep? reading id action).map fun (run, effects) =>
      (run, effects.map fun effect => (id, effect))
  | .cancel => some (run.cancel, [])

end Run

end TrafficReplay
