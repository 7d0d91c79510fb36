import TrafficReplay.Lane.Report
import TrafficReplay.Pool.Basic
import TrafficReplay.Signal

namespace TrafficReplay

abbrev WorkerId := Nat

structure LaneSettings where
  throttle : Throttle
  maxFailures : UInt32
  onMiss : CursorMissPolicy
  authenticates : Bool
deriving DecidableEq

/-- Steps towards a slot, each of them atomic. -/
inductive AcquireStage where
  | trying
  | counting
  | announcing
  | queueing
  | queued
deriving DecidableEq, Repr

inductive LaneEnding where
  | done
  | cancelled
  | refused (fault : LinkFault)
  | aborted (reason : LaneAbort)
deriving DecidableEq

structure Issue where
  record : Record
  miss : Bool
  playedAt : Timestamp
  issuedAt : Instant
deriving DecidableEq

inductive WorkerPhase where
  | succeeding (predecessor : WorkerId)
  | acquiring (stage : AcquireStage)
  | connecting
  | authenticating
  | polling
  | idle
  /-- Watches for contention from a reading of the announcements on. -/
  | watching (stamp : Nat)
  | yielding (stamp : Nat)
  | parked (stamp : Nat)
  | holding (record : Record)
  | pacing (record : Record)
  | due (record : Record)
  | sending (issue : Issue) (unsent : List UInt8)
  | awaiting (issue : Issue)
  | closing (ending : LaneEnding)
  | leaving (ending : LaneEnding)
  | concluding (ending : LaneEnding)
  | draining
  | ended
deriving DecidableEq

namespace WorkerPhase

def isConnected : WorkerPhase → Bool
  | .authenticating | .polling | .idle | .watching _ | .yielding _ | .parked _ | .holding _
  | .pacing _ | .due _ | .sending _ _ | .awaiting _ | .closing _ => true
  | .succeeding _ | .acquiring _ | .connecting | .leaving _ | .concluding _ | .draining
  | .ended => false

def holdsSlot : WorkerPhase → Bool
  | .connecting | .leaving _ => true
  | phase => phase.isConnected

end WorkerPhase

inductive Handoff where
  | undecided
  | passed (memory : LaneMemory)
  | taken
  | dropped
deriving DecidableEq

structure Worker where
  lane : LaneId
  queue : List Record
  accepting : Bool
  memory : LaneMemory
  report : LaneReport
  handoff : Handoff
  phase : WorkerPhase
deriving DecidableEq

structure Shared where
  pool : SlotPool WorkerId
  common : CursorTable
  events : List LaneEvent
  signal : CancelSignal
deriving DecidableEq

structure Reading where
  now : Instant
  wall : Timestamp
deriving DecidableEq

/-- What a worker sees of its surroundings in a step. -/
structure Surroundings where
  id : WorkerId
  settings : LaneSettings
  reading : Reading
  fed : Bool
  hasHeir : Bool
  legacy : Handoff

inductive WorkerAction where
  | advance
  | giveUp
  /-- A wait for operations ends because of contention. -/
  | wake
  | connected
  | refused (fault : LinkFault)
  | timedOut
  | authenticated
  | denied (reason : String)
  | elapsed
  | wrote (count : Nat)
  | sent
  | sendFailed (fault : LinkFault)
  | received (frame : Frame)
  | receiveFailed (fault : ReceiveFault)
deriving DecidableEq

inductive LaneEffect where
  | took (record : Record)
  | connects
  | waits (record : Record) (delay : Duration)
  | transmits (record : Record) (frame : Frame)
  | wrote (bytes : List UInt8)
  | binds (recorded live : Int64)
  | reports (stat : Stat)
  | hangsUp
deriving DecidableEq

namespace LinkFault

def connectTimedOut : LinkFault := ⟨.timedOut, "connect timed out"⟩

def denied (reason : String) : LinkFault := ⟨.permissionDenied, reason⟩

end LinkFault

def authenticationTimedOut : String := "authentication timed out"

namespace Worker

def opened (lane : LaneId) (scope : CursorScope) (predecessor : Option WorkerId) : Worker where
  lane := lane
  queue := []
  accepting := true
  memory := .fresh scope
  report := .empty
  handoff := .undecided
  phase := match predecessor with
    | none => .acquiring .trying
    | some predecessor => .succeeding predecessor

instance : Inhabited Worker := ⟨opened (.ofEndpoints "" "") .lane none⟩

abbrev Outcome := Worker × Shared × List LaneEffect

def enter (worker : Worker) (phase : WorkerPhase) : Worker := { worker with phase := phase }

def emit (worker : Worker) (record : Record) (outcome : OpOutcome) : Worker × LaneEffect :=
  ({ worker with
      memory := { worker.memory with seq := worker.memory.seq + 1 }
      report := worker.report.count outcome },
    .reports (.ofOutcome worker.lane worker.memory.seq record outcome))

def finish (worker : Worker) : Worker :=
  { worker with
    accepting := false
    handoff := if worker.handoff = .undecided then .dropped else worker.handoff
    phase := .ended }

/-- What is still queued is counted as skipped. -/
def finishCancelled (worker : Worker) : Worker :=
  { worker with report := { worker.report with
      skipped := worker.report.skipped + worker.queue.length } }.finish

def afterSuccess (worker : Worker) : Worker :=
  { worker with memory := worker.memory.succeed, phase := .polling }

def afterFailure (settings : LaneSettings) (worker : Worker) : Worker :=
  let memory := worker.memory.fail
  { worker with
    memory := memory
    phase := if memory.tooManyFailures settings.maxFailures
      then .closing (.aborted .consecutiveFailures) else .polling }

def isStarved (worker : Worker) (fed : Bool) : Bool :=
  worker.queue.isEmpty && !(worker.accepting && fed)

def take? (worker : Worker) : Option (Record × Worker) :=
  match worker.queue with
  | [] => none
  | record :: rest => some (record, { worker with queue := rest })

/-- Passes the lane's state on, or releases its bindings when nobody will take it over. -/
def handOff (hasHeir : Bool) (worker : Worker) (shared : Shared) : Worker × Shared :=
  if hasHeir then ({ worker with handoff := .passed worker.memory }.finish, shared)
  else
    let (memory, common) := worker.memory.releaseLane shared.common worker.lane
    ({ worker with memory := memory }.finish, { shared with common := common })

/-- Reads what can be read of the pool, one atomic step at a time. -/
def acquire? (stage : AcquireStage) (around : Surroundings) (worker : Worker) (shared : Shared) :
    Option Outcome :=
  let pool := shared.pool
  match stage with
  | .trying =>
    match pool.tryAcquire? with
    | some pool => some (worker.enter .connecting, { shared with pool := pool }, [.connects])
    | none => some (worker.enter (.acquiring .counting), shared, [])
  | .counting =>
    some (worker.enter (.acquiring .announcing), { shared with pool := pool.count }, [])
  | .announcing =>
    some (worker.enter (.acquiring .queueing), { shared with pool := pool.announce }, [])
  | .queueing =>
    some (worker.enter (.acquiring .queued), { shared with pool := pool.enqueue around.id }, [])
  | .queued =>
    match pool.take? around.id with
    | some pool => some (worker.enter .connecting, { shared with pool := pool }, [.connects])
    | none => none

def consider (around : Surroundings) (record : Record) (worker : Worker) (shared : Shared) :
    Outcome :=
  if record.isResponse then
    let (memory, common) := worker.memory.correlate shared.common worker.lane record.frame
    ({ worker with memory := memory, phase := .polling }, { shared with common := common },
      ((worker.memory.binding? record.frame).map fun (recorded, live) =>
        .binds recorded live).toList)
  else
    let wait := worker.memory.clock.waitBefore around.settings.throttle record.seen
      around.reading.now
    if wait.isZero then (worker.enter (.due record), shared, [])
    else (worker.enter (.pacing record), shared, [.waits record wait])

def issue (around : Surroundings) (record : Record) (worker : Worker) (shared : Shared) :
    Outcome :=
  let prepared := worker.memory.prepare shared.common around.settings.onMiss record.frame
  let worker := { worker with report := { worker.report with
    misses := worker.report.misses + if prepared.miss then 1 else 0 } }
  match prepared.frame with
  | .error error =>
    let (worker, stat) := worker.emit record
      (.failed error around.reading.wall (error = .staleCursor))
    (afterFailure around.settings worker, shared, [stat])
  | .ok frame =>
    ({ worker with
        memory := worker.memory.issued record.seen around.reading.now
        phase := .sending ⟨record, prepared.miss, around.reading.wall, around.reading.now⟩
          frame.bytes },
      shared, [.transmits record frame])

def failed (around : Surroundings) (issue : Issue) (error : OpError) (worker : Worker)
    (shared : Shared) : Outcome :=
  let (worker, stat) := worker.emit issue.record (.failed error issue.playedAt issue.miss)
  (afterFailure around.settings worker, shared, [stat])

def stopped (issue : Issue) (error : OpError) (ending : LaneEnding) (worker : Worker)
    (shared : Shared) : Outcome :=
  let (worker, stat) := worker.emit issue.record (.failed error issue.playedAt issue.miss)
  (worker.enter (.closing ending), shared, [stat])

def sendFailed (around : Surroundings) (issue : Issue) (fault : LinkFault) (worker : Worker)
    (shared : Shared) : Outcome :=
  if fault.kind.losesLink then stopped issue .transmit (.aborted .connectionLost) worker shared
  else failed around issue .transmit worker shared

def sent (around : Surroundings) (issue : Issue) (worker : Worker) (shared : Shared) : Outcome :=
  let frame := issue.record.frame
  if frame.opCode.expectsReply then (worker.enter (.awaiting issue), shared, [])
  else
    let (memory, common) :=
      if frame.opCode = .killCursors then worker.memory.releaseCursors shared.common frame
      else (worker.memory, shared.common)
    let (worker, stat) := { worker with memory := memory }.emit issue.record
      ⟨issue.playedAt, around.reading.now.elapsedSince issue.issuedAt, 0, none, issue.miss⟩
    (worker.afterSuccess, { shared with common := common }, [stat])

/-- Answers to other requests come late and are passed over. -/
def received (around : Surroundings) (issue : Issue) (reply : Frame) (worker : Worker)
    (shared : Shared) : Outcome :=
  if reply.responseTo ≠ issue.record.requestId then (worker, shared, [])
  else
    match reply.replySummary with
    | .error _ => failed around issue .malformedResponse worker shared
    | .ok summary =>
      let (memory, common) := worker.memory.onReply shared.common issue.record.frame issue.miss
        summary.cursorId
      let (worker, stat) := { worker with memory := memory }.emit issue.record
        ⟨issue.playedAt, around.reading.now.elapsedSince issue.issuedAt, summary.numberReturned,
          if summary.failed then some .serverError else none, issue.miss⟩
      (if summary.failed then afterFailure around.settings worker else worker.afterSuccess,
        { shared with common := common }, [stat])

def receiveFailed (issue : Issue) (fault : ReceiveFault) (worker : Worker) (shared : Shared) :
    Outcome :=
  match fault with
  | .link _ => stopped issue .connectionClosed (.aborted .connectionLost) worker shared
  | .frame _ => stopped issue .malformedResponse (.aborted .connectionLost) worker shared

/-- A lane whose state is handed over keeps its bindings. -/
def handsOver (worker : Worker) (ending : LaneEnding) : Bool :=
  ending = .done && worker.report.yielded

def close (ending : LaneEnding) (worker : Worker) (shared : Shared) : Outcome :=
  let (memory, common) :=
    if worker.handsOver ending then (worker.memory, shared.common)
    else worker.memory.releaseLane shared.common worker.lane
  ({ worker with memory := memory, phase := .leaving ending }, { shared with common := common },
    [.hangsUp])

def conclude (around : Surroundings) (ending : LaneEnding) (worker : Worker) (shared : Shared) :
    Outcome :=
  match ending with
  | .done =>
    if worker.report.yielded then
      let (worker, shared) := handOff around.hasHeir worker shared
      (worker, shared, [])
    else (worker.finish, shared, [])
  | .cancelled => (worker.finishCancelled, shared, [])
  | .refused fault =>
    (worker.enter (.concluding (.aborted .connectFailed)),
      { shared with events := shared.events ++ [.connectFailed worker.lane fault] }, [])
  | .aborted reason =>
    let (memory, common) := worker.memory.releaseLane shared.common worker.lane
    ({ worker with
        memory := memory
        report := { worker.report with abort := some reason }
        phase := .draining },
      { shared with
        common := common
        events := shared.events ++ [.aborted worker.lane reason] }, [])

def drain? (around : Surroundings) (worker : Worker) (shared : Shared) : Option Outcome :=
  match worker.take? with
  | some (record, worker) =>
    if record.isResponse then some (worker, shared, [.took record])
    else
      let (worker, stat) := worker.emit record
        (.failed .laneAborted around.reading.wall false)
      some (worker, shared, [.took record, stat])
  | none => if worker.isStarved around.fed then some (worker.finish, shared, []) else none

def connectedTo (worker : Worker) (shared : Shared) : Outcome :=
  (worker.enter .polling,
    { shared with events := shared.events ++ [.connected worker.lane] }, [])

def advance? (around : Surroundings) (worker : Worker) (shared : Shared) : Option Outcome :=
  match worker.phase with
  | .succeeding _ =>
    match around.legacy with
    | .undecided => none
    | .passed memory =>
      some ({ worker with memory := memory, phase := .acquiring .trying }, shared, [])
    | .taken | .dropped => some (worker.enter (.acquiring .trying), shared, [])
  | .acquiring stage => acquire? stage around worker shared
  | .polling =>
    if shared.signal.fired then some (worker.enter (.closing .cancelled), shared, [])
    else
      match worker.take? with
      | some (record, worker) => some (worker.enter (.holding record), shared, [.took record])
      | none =>
        if worker.isStarved around.fed then some (worker.enter (.closing .done), shared, [])
        else some (worker.enter .idle, shared, [])
  | .idle => some (worker.enter (.watching shared.pool.announced), shared, [])
  | .watching stamp =>
    if !worker.report.yielded && shared.pool.hasWaiters then
      some ({ worker with
        report := { worker.report with yielded := true }
        phase := .yielding stamp }, shared, [])
    else some (worker.enter (.parked stamp), shared, [])
  | .yielding stamp => some ({ worker with accepting := false, phase := .parked stamp }, shared, [])
  | .parked _ =>
    match worker.take? with
    | some (record, worker) => some (worker.enter (.holding record), shared, [.took record])
    | none =>
      if worker.isStarved around.fed then some (worker.enter (.closing .done), shared, [])
      else none
  | .holding record => some (consider around record worker shared)
  | .due record => some (issue around record worker shared)
  | .closing ending => some (close ending worker shared)
  | .leaving ending =>
    some (worker.enter (.concluding ending), { shared with pool := shared.pool.release }, [])
  | .concluding ending => some (conclude around ending worker shared)
  | .draining => drain? around worker shared
  | .connecting | .authenticating | .pacing _ | .sending _ _ | .awaiting _ | .ended => none

def giveUp? (around : Surroundings) (worker : Worker) (shared : Shared) : Option Outcome :=
  if !shared.signal.fired then none
  else
    match worker.phase with
    | .succeeding _ | .draining => some (worker.finishCancelled, shared, [])
    | .acquiring .trying => some (worker.enter (.concluding .cancelled), shared, [])
    | .acquiring .queued =>
      some (worker.enter (.concluding .cancelled),
        { shared with pool := shared.pool.withdraw around.id }, [])
    | .connecting => some (worker.enter (.leaving .cancelled), shared, [])
    | .authenticating => some (worker.enter (.leaving .cancelled), shared, [.hangsUp])
    | .parked _ => some (worker.enter (.closing .cancelled), shared, [])
    | .pacing _ =>
      some ({ worker with
        report := { worker.report with skipped := worker.report.skipped + 1 }
        phase := .closing .cancelled }, shared, [])
    | .sending issue _ | .awaiting issue =>
      some (stopped issue .cancelled .cancelled worker shared)
    | _ => none

def step? (around : Surroundings) (worker : Worker) (shared : Shared) (action : WorkerAction) :
    Option Outcome :=
  match action, worker.phase with
  | .advance, _ => worker.advance? around shared
  | .giveUp, _ => worker.giveUp? around shared
  | .wake, .parked stamp =>
    if !worker.report.yielded && shared.pool.contendedSince stamp then
      some (worker.enter .polling, shared, [])
    else none
  | .connected, .connecting =>
    if around.settings.authenticates then some (worker.enter .authenticating, shared, [])
    else some (worker.connectedTo shared)
  | .refused fault, .connecting => some (worker.enter (.leaving (.refused fault)), shared, [])
  | .timedOut, .connecting =>
    some (worker.enter (.leaving (.refused .connectTimedOut)), shared, [])
  | .authenticated, .authenticating => some (worker.connectedTo shared)
  | .denied reason, .authenticating =>
    some (worker.enter (.leaving (.refused (.denied reason))), shared, [.hangsUp])
  | .timedOut, .authenticating =>
    some (worker.enter (.leaving (.refused (.denied authenticationTimedOut))), shared,
      [.hangsUp])
  | .elapsed, .pacing record => some (worker.enter (.due record), shared, [])
  | .wrote count, .sending issue unsent =>
    if 0 < count ∧ count ≤ unsent.length then
      some (worker.enter (.sending issue (unsent.drop count)), shared,
        [.wrote (unsent.take count)])
    else none
  | .sent, .sending issue [] => some (sent around issue worker shared)
  | .sendFailed fault, .sending issue _ => some (sendFailed around issue fault worker shared)
  | .timedOut, .sending issue _ =>
    some (sendFailed around issue .writeTimedOut worker shared)
  | .received reply, .awaiting issue => some (received around issue reply worker shared)
  | .receiveFailed fault, .awaiting issue => some (receiveFailed issue fault worker shared)
  | .timedOut, .awaiting issue => some (failed around issue .responseTimeout worker shared)
  | _, _ => none

end Worker

end TrafficReplay
