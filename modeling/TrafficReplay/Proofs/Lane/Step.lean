import TrafficReplay.Lane.Worker

namespace TrafficReplay.Worker

inductive Shift (around : Surroundings) (worker : Worker) (shared : Shared) :
    WorkerAction → WorkerPhase → Shared → List LaneEffect → Prop
  | succeeds {predecessor : WorkerId} (phase : worker.phase = .succeeding predecessor)
      (nothing : around.legacy = .taken ∨ around.legacy = .dropped) :
      Shift around worker shared .advance (.acquiring .trying) shared []
  | getsSlot {pool : SlotPool WorkerId} (phase : worker.phase = .acquiring .trying)
      (slot : shared.pool.tryAcquire? = some pool) :
      Shift around worker shared .advance .connecting { shared with pool := pool } [.connects]
  | findsNoSlot (phase : worker.phase = .acquiring .trying)
      (none : shared.pool.tryAcquire? = none) :
      Shift around worker shared .advance (.acquiring .counting) shared []
  | countsItself (phase : worker.phase = .acquiring .counting) :
      Shift around worker shared .advance (.acquiring .announcing)
        { shared with pool := shared.pool.count } []
  | announcesItself (phase : worker.phase = .acquiring .announcing) :
      Shift around worker shared .advance (.acquiring .queueing)
        { shared with pool := shared.pool.announce } []
  | queuesUp (phase : worker.phase = .acquiring .queueing) :
      Shift around worker shared .advance (.acquiring .queued)
        { shared with pool := shared.pool.enqueue around.id } []
  | takesSlot {pool : SlotPool WorkerId} (phase : worker.phase = .acquiring .queued)
      (slot : shared.pool.take? around.id = some pool) :
      Shift around worker shared .advance .connecting { shared with pool := pool } [.connects]
  | seesSignal (phase : worker.phase = .polling) (fired : shared.signal.fired = true) :
      Shift around worker shared .advance (.closing .cancelled) shared []
  | runsOut (phase : worker.phase = .polling ∧ shared.signal.fired = false ∨
        ∃ stamp, worker.phase = .parked stamp)
      (starved : worker.isStarved around.fed = true) :
      Shift around worker shared .advance (.closing .done) shared []
  | idles (phase : worker.phase = .polling) (quiet : shared.signal.fired = false)
      (empty : worker.queue = []) (hopeful : worker.isStarved around.fed = false) :
      Shift around worker shared .advance .idle shared []
  | watches (phase : worker.phase = .idle) :
      Shift around worker shared .advance (.watching shared.pool.announced) shared []
  | parks {stamp : Nat} (phase : worker.phase = .watching stamp)
      (uncontended : (!worker.report.yielded && shared.pool.hasWaiters) = false) :
      Shift around worker shared .advance (.parked stamp) shared []
  | isDue {record : Record} (phase : worker.phase = .holding record)
      (request : record.isResponse = false)
      (now : (worker.memory.clock.waitBefore around.settings.throttle record.seen
        around.reading.now).isZero = true) :
      Shift around worker shared .advance (.due record) shared []
  | paces {record : Record} (phase : worker.phase = .holding record)
      (request : record.isResponse = false)
      (later : (worker.memory.clock.waitBefore around.settings.throttle record.seen
        around.reading.now).isZero = false) :
      Shift around worker shared .advance (.pacing record) shared
        [.waits record (worker.memory.clock.waitBefore around.settings.throttle record.seen
          around.reading.now)]
  | leaves {ending : LaneEnding} (phase : worker.phase = .leaving ending) :
      Shift around worker shared .advance (.concluding ending)
        { shared with pool := shared.pool.release } []
  | reportsRefusal {fault : LinkFault} (phase : worker.phase = .concluding (.refused fault)) :
      Shift around worker shared .advance (.concluding (.aborted .connectFailed))
        { shared with events := shared.events ++ [.connectFailed worker.lane fault] } []
  | givesUpTrying (fired : shared.signal.fired = true)
      (phase : worker.phase = .acquiring .trying) :
      Shift around worker shared .giveUp (.concluding .cancelled) shared []
  | givesUpQueueing (fired : shared.signal.fired = true)
      (phase : worker.phase = .acquiring .queued) :
      Shift around worker shared .giveUp (.concluding .cancelled)
        { shared with pool := shared.pool.withdraw around.id } []
  | givesUpConnecting (fired : shared.signal.fired = true) (phase : worker.phase = .connecting) :
      Shift around worker shared .giveUp (.leaving .cancelled) shared []
  | givesUpAuthenticating (fired : shared.signal.fired = true)
      (phase : worker.phase = .authenticating) :
      Shift around worker shared .giveUp (.leaving .cancelled) shared [.hangsUp]
  | givesUpWaiting {stamp : Nat} (fired : shared.signal.fired = true)
      (phase : worker.phase = .parked stamp) :
      Shift around worker shared .giveUp (.closing .cancelled) shared []
  | wakes {stamp : Nat} (phase : worker.phase = .parked stamp)
      (contended : (!worker.report.yielded && shared.pool.contendedSince stamp) = true) :
      Shift around worker shared .wake .polling shared []
  | authenticates (phase : worker.phase = .connecting)
      (guarded : around.settings.authenticates = true) :
      Shift around worker shared .connected .authenticating shared []
  | connects {action : WorkerAction}
      (phase : action = .connected ∧ worker.phase = .connecting ∧
          around.settings.authenticates = false ∨
        action = .authenticated ∧ worker.phase = .authenticating) :
      Shift around worker shared action .polling
        { shared with events := shared.events ++ [.connected worker.lane] } []
  | isRefused {action : WorkerAction} {fault : LinkFault} (phase : worker.phase = .connecting)
      (cause : action = .refused fault ∨ action = .timedOut ∧ fault = .connectTimedOut) :
      Shift around worker shared action (.leaving (.refused fault)) shared []
  | isDenied {action : WorkerAction} {reason : String} (phase : worker.phase = .authenticating)
      (cause : action = .denied reason ∨
        action = .timedOut ∧ reason = authenticationTimedOut) :
      Shift around worker shared action (.leaving (.refused (.denied reason))) shared [.hangsUp]
  | waited {record : Record} (phase : worker.phase = .pacing record) :
      Shift around worker shared .elapsed (.due record) shared []
  | writes {issue : Issue} {unsent : List UInt8} {count : Nat}
      (phase : worker.phase = .sending issue unsent)
      (some : 0 < count ∧ count ≤ unsent.length) :
      Shift around worker shared (.wrote count) (.sending issue (unsent.drop count)) shared
        [.wrote (unsent.take count)]
  | awaits {issue : Issue} (phase : worker.phase = .sending issue [])
      (answered : issue.record.frame.opCode.expectsReply = true) :
      Shift around worker shared .sent (.awaiting issue) shared []
  | passesOver {issue : Issue} {reply : Frame} (phase : worker.phase = .awaiting issue)
      (late : reply.responseTo ≠ issue.record.requestId) :
      Shift around worker shared (.received reply) (.awaiting issue) shared []

inductive Fails (phase : WorkerPhase) : WorkerAction → Issue → OpError → Prop
  | sending {issue : Issue} {unsent : List UInt8} {fault : LinkFault}
      (at_phase : phase = .sending issue unsent) (kept : fault.kind.losesLink = false) :
      Fails phase (.sendFailed fault) issue .transmit
  | waiting {issue : Issue} (at_phase : phase = .awaiting issue) :
      Fails phase .timedOut issue .responseTimeout
  | reading {issue : Issue} {reply : Frame} {fault : FrameFault}
      (at_phase : phase = .awaiting issue) (own : reply.responseTo = issue.record.requestId)
      (unreadable : reply.replySummary = .error fault) :
      Fails phase (.received reply) issue .malformedResponse

inductive Stops (phase : WorkerPhase) (fired : Bool) :
    WorkerAction → Issue → OpError → LaneEnding → Prop
  | cancelled {issue : Issue} (on : fired = true)
      (at_phase : (∃ unsent, phase = .sending issue unsent) ∨ phase = .awaiting issue) :
      Stops phase fired .giveUp issue .cancelled .cancelled
  | sending {action : WorkerAction} {issue : Issue} {unsent : List UInt8}
      (at_phase : phase = .sending issue unsent)
      (cause : action = .timedOut ∨
        ∃ fault, action = .sendFailed fault ∧ fault.kind.losesLink = true) :
      Stops phase fired action issue .transmit (.aborted .connectionLost)
  | closed {issue : Issue} {fault : LinkFault} (at_phase : phase = .awaiting issue) :
      Stops phase fired (.receiveFailed (.link fault)) issue .connectionClosed
        (.aborted .connectionLost)
  | garbled {issue : Issue} {fault : FrameFault} (at_phase : phase = .awaiting issue) :
      Stops phase fired (.receiveFailed (.frame fault)) issue .malformedResponse
        (.aborted .connectionLost)

def withMemory (worker : Worker) (memory : LaneMemory) : Worker := { worker with memory := memory }

def afterSending (worker : Worker) (common : CursorTable) (frame : Frame) :
    LaneMemory × CursorTable :=
  if frame.opCode = .killCursors then worker.memory.releaseCursors common frame
  else (worker.memory, common)

inductive Step (around : Surroundings) (worker : Worker) (shared : Shared) :
    WorkerAction → Outcome → Prop
  | shifts {action : WorkerAction} {phase : WorkerPhase} {after : Shared}
      {effects : List LaneEffect} (shift : Shift around worker shared action phase after effects) :
      Step around worker shared action (worker.enter phase, after, effects)
  | resumes {predecessor : WorkerId} {memory : LaneMemory}
      (phase : worker.phase = .succeeding predecessor) (legacy : around.legacy = .passed memory) :
      Step around worker shared .advance
        ({ worker with memory := memory, phase := .acquiring .trying }, shared, [])
  | takes {record : Record} {rest : List Record}
      (phase : worker.phase = .polling ∧ shared.signal.fired = false ∨
        ∃ stamp, worker.phase = .parked stamp)
      (queue : worker.queue = record :: rest) :
      Step around worker shared .advance
        ({ worker with queue := rest, phase := .holding record }, shared, [.took record])
  | yields {stamp : Nat} (phase : worker.phase = .watching stamp)
      (contended : (!worker.report.yielded && shared.pool.hasWaiters) = true) :
      Step around worker shared .advance
        ({ worker with
          report := { worker.report with yielded := true }
          phase := .yielding stamp }, shared, [])
  | shutsQueue {stamp : Nat} (phase : worker.phase = .yielding stamp) :
      Step around worker shared .advance
        ({ worker with accepting := false, phase := .parked stamp }, shared, [])
  | correlates {record : Record} (phase : worker.phase = .holding record)
      (response : record.isResponse = true) :
      Step around worker shared .advance
        ({ worker with
            memory := (worker.memory.correlate shared.common worker.lane record.frame).1
            phase := .polling },
          { shared with
            common := (worker.memory.correlate shared.common worker.lane record.frame).2 },
          ((worker.memory.binding? record.frame).map fun (recorded, live) =>
            .binds recorded live).toList)
  | withholds {record : Record} {error : OpError} {miss : Bool} (phase : worker.phase = .due record)
      (prepared : worker.memory.prepare shared.common around.settings.onMiss record.frame =
        ⟨.error error, miss⟩) :
      Step around worker shared .advance
        (afterFailure around.settings
          ({ worker with report := { worker.report with
            misses := worker.report.misses + if miss then 1 else 0 } }.emit record
            (.failed error around.reading.wall (error = OpError.staleCursor))).1,
          shared,
          [.reports (.ofOutcome worker.lane worker.memory.seq record
            (.failed error around.reading.wall (error = OpError.staleCursor)))])
  | transmits {record : Record} {frame : Frame} {miss : Bool} (phase : worker.phase = .due record)
      (prepared : worker.memory.prepare shared.common around.settings.onMiss record.frame =
        ⟨.ok frame, miss⟩) :
      Step around worker shared .advance
        ({ worker with
          report := { worker.report with
            misses := worker.report.misses + if miss then 1 else 0 }
          memory := worker.memory.issued record.seen around.reading.now
          phase := .sending ⟨record, miss, around.reading.wall, around.reading.now⟩
            frame.bytes }, shared, [.transmits record frame])
  | skips {record : Record} (fired : shared.signal.fired = true)
      (phase : worker.phase = .pacing record) :
      Step around worker shared .giveUp
        ({ worker with
          report := { worker.report with skipped := worker.report.skipped + 1 }
          phase := .closing .cancelled }, shared, [])
  | fails {action : WorkerAction} {issue : Issue} {error : OpError}
      (cause : Fails worker.phase action issue error) :
      Step around worker shared action
        (afterFailure around.settings
          (worker.emit issue.record (.failed error issue.playedAt issue.miss)).1,
          shared,
          [.reports (.ofOutcome worker.lane worker.memory.seq issue.record
            (.failed error issue.playedAt issue.miss))])
  | stops {action : WorkerAction} {issue : Issue} {error : OpError} {ending : LaneEnding}
      (cause : Stops worker.phase shared.signal.fired action issue error ending) :
      Step around worker shared action
        ((worker.emit issue.record (.failed error issue.playedAt issue.miss)).1.enter
            (.closing ending),
          shared,
          [.reports (.ofOutcome worker.lane worker.memory.seq issue.record
            (.failed error issue.playedAt issue.miss))])
  | plays {issue : Issue} {outcome : OpOutcome} {told : LaneMemory × CursorTable}
      (phase : worker.phase = .sending issue [])
      (unanswered : issue.record.frame.opCode.expectsReply = false)
      (learnt : worker.afterSending shared.common issue.record.frame = told)
      (played : outcome = ⟨issue.playedAt, around.reading.now.elapsedSince issue.issuedAt, 0, none,
        issue.miss⟩) :
      Step around worker shared .sent
        (((worker.withMemory told.1).emit issue.record outcome).1.afterSuccess,
          { shared with common := told.2 },
          [.reports (.ofOutcome worker.lane told.1.seq issue.record outcome)])
  | hears {issue : Issue} {reply : Frame} {summary : ReplySummary} {outcome : OpOutcome}
      {told : LaneMemory × CursorTable} (phase : worker.phase = .awaiting issue)
      (own : reply.responseTo = issue.record.requestId)
      (readable : reply.replySummary = .ok summary)
      (learnt : worker.memory.onReply shared.common issue.record.frame issue.miss
        summary.cursorId = told)
      (played : outcome = ⟨issue.playedAt, around.reading.now.elapsedSince issue.issuedAt,
        summary.numberReturned, if summary.failed then some .serverError else none, issue.miss⟩) :
      Step around worker shared (.received reply)
        (if summary.failed then
            afterFailure around.settings ((worker.withMemory told.1).emit issue.record outcome).1
          else ((worker.withMemory told.1).emit issue.record outcome).1.afterSuccess,
          { shared with common := told.2 },
          [.reports (.ofOutcome worker.lane told.1.seq issue.record outcome)])
  | closes {ending : LaneEnding} (phase : worker.phase = .closing ending) :
      Step around worker shared .advance (close ending worker shared)
  | bequeaths (phase : worker.phase = .concluding .done) (yielded : worker.report.yielded = true)
      (heir : around.hasHeir = true) :
      Step around worker shared .advance
        ({ worker with handoff := .passed worker.memory }.finish, shared, [])
  | diesOut (phase : worker.phase = .concluding .done) (yielded : worker.report.yielded = true)
      (noHeir : around.hasHeir = false) :
      Step around worker shared .advance
        ((worker.withMemory (worker.memory.releaseLane shared.common worker.lane).1).finish,
          { shared with common := (worker.memory.releaseLane shared.common worker.lane).2 }, [])
  | concludes (phase : worker.phase = .concluding .done) (kept : worker.report.yielded = false) :
      Step around worker shared .advance (worker.finish, shared, [])
  | endsCancelled {action : WorkerAction}
      (phase : action = .advance ∧ worker.phase = .concluding .cancelled ∨
        action = .giveUp ∧ shared.signal.fired = true ∧
          ((∃ predecessor, worker.phase = .succeeding predecessor) ∨ worker.phase = .draining)) :
      Step around worker shared action (worker.finishCancelled, shared, [])
  | aborts {reason : LaneAbort} (phase : worker.phase = .concluding (.aborted reason)) :
      Step around worker shared .advance
        ({ worker with
            memory := (worker.memory.releaseLane shared.common worker.lane).1
            report := { worker.report with abort := some reason }
            phase := .draining },
          { shared with
            common := (worker.memory.releaseLane shared.common worker.lane).2
            events := shared.events ++ [.aborted worker.lane reason] }, [])
  | drainsReply {record : Record} {rest : List Record} (phase : worker.phase = .draining)
      (queue : worker.queue = record :: rest) (response : record.isResponse = true) :
      Step around worker shared .advance
        ({ worker with queue := rest }, shared, [.took record])
  | drains {record : Record} {rest : List Record} {outcome : OpOutcome}
      (phase : worker.phase = .draining)
      (queue : worker.queue = record :: rest) (request : record.isResponse = false)
      (lost : outcome = .failed .laneAborted around.reading.wall false) :
      Step around worker shared .advance
        (({ worker with queue := rest }.emit record outcome).1, shared,
          [.took record, .reports (.ofOutcome worker.lane worker.memory.seq record outcome)])
  | drainsDry (phase : worker.phase = .draining) (starved : worker.isStarved around.fed = true) :
      Step around worker shared .advance (worker.finish, shared, [])

variable {around : Surroundings} {worker : Worker} {shared : Shared} {action : WorkerAction}
  {outcome : Outcome}

theorem enter_phase (worker : Worker) : worker.enter worker.phase = worker := rfl

theorem acquire?_step {stage : AcquireStage} (phase : worker.phase = .acquiring stage)
    (step : acquire? stage around worker shared = some outcome) :
    Step around worker shared .advance outcome := by
  cases stage with
  | trying =>
    simp only [acquire?] at step
    split at step
    · rename_i pool slot
      cases step
      exact .shifts (.getsSlot phase slot)
    · rename_i none
      cases step
      exact .shifts (.findsNoSlot phase none)
  | counting => cases step; exact .shifts (.countsItself phase)
  | announcing => cases step; exact .shifts (.announcesItself phase)
  | queueing => cases step; exact .shifts (.queuesUp phase)
  | queued =>
    simp only [acquire?] at step
    split at step
    · rename_i pool slot
      cases step
      exact .shifts (.takesSlot phase slot)
    · cases step

theorem consider_step {record : Record} (phase : worker.phase = .holding record) :
    Step around worker shared .advance (consider around record worker shared) := by
  unfold consider
  split
  · rename_i response
    exact .correlates phase response
  · rename_i request
    simp only [Bool.not_eq_true] at request
    dsimp only
    split
    · rename_i now
      exact .shifts (.isDue phase request now)
    · rename_i later
      exact .shifts (.paces phase request (Bool.not_eq_true _ ▸ later))

theorem issue_step {record : Record} (phase : worker.phase = .due record) :
    Step around worker shared .advance (issue around record worker shared) := by
  unfold issue
  cases prepared : worker.memory.prepare shared.common around.settings.onMiss record.frame with
  | mk frame miss =>
    cases frame with
    | error error => exact .withholds phase prepared
    | ok frame => exact .transmits phase prepared

theorem conclude_step {ending : LaneEnding} (phase : worker.phase = .concluding ending) :
    Step around worker shared .advance (conclude around ending worker shared) := by
  cases ending with
  | done =>
    simp only [conclude]
    split
    · rename_i yielded
      unfold handOff
      cases heir : around.hasHeir with
      | true => exact .bequeaths phase yielded heir
      | false => exact .diesOut phase yielded heir
    · rename_i kept
      exact .concludes phase (Bool.not_eq_true _ ▸ kept)
  | cancelled => exact .endsCancelled (.inl ⟨rfl, phase⟩)
  | refused fault => exact .shifts (.reportsRefusal phase)
  | aborted reason => exact .aborts phase

theorem drain?_step (phase : worker.phase = .draining)
    (step : worker.drain? around shared = some outcome) :
    Step around worker shared .advance outcome := by
  unfold drain? take? at step
  cases queue : worker.queue with
  | nil =>
    simp only [queue] at step
    split at step
    · rename_i starved
      cases step
      exact .drainsDry phase starved
    · cases step
  | cons record rest =>
    simp only [queue] at step
    split at step
    · rename_i response
      cases step
      exact .drainsReply phase queue response
    · rename_i request
      cases step
      exact .drains phase queue (Bool.not_eq_true _ ▸ request) rfl

theorem advance?_step (step : worker.advance? around shared = some outcome) :
    Step around worker shared .advance outcome := by
  unfold advance? at step
  split at step
  case h_1 predecessor phase =>
    split at step
    · cases step
    · rename_i memory legacy
      cases step
      exact .resumes phase legacy
    · rename_i legacy
      cases step
      exact .shifts (.succeeds phase (.inl legacy))
    · rename_i legacy
      cases step
      exact .shifts (.succeeds phase (.inr legacy))
  case h_2 stage phase => exact acquire?_step phase step
  case h_3 phase =>
    split at step
    · rename_i fired
      cases step
      exact .shifts (.seesSignal phase fired)
    · rename_i quiet
      simp only [Bool.not_eq_true] at quiet
      unfold take? at step
      cases queue : worker.queue with
      | nil =>
        simp only [queue] at step
        split at step
        · rename_i starved
          cases step
          exact .shifts (.runsOut (.inl ⟨phase, quiet⟩) starved)
        · rename_i hopeful
          cases step
          exact .shifts (.idles phase quiet queue (Bool.not_eq_true _ ▸ hopeful))
      | cons record rest =>
        simp only [queue] at step
        cases step
        exact .takes (.inl ⟨phase, quiet⟩) queue
  case h_4 phase => cases step; exact .shifts (.watches phase)
  case h_5 stamp phase =>
    split at step
    · rename_i contended
      cases step
      exact .yields phase contended
    · rename_i uncontended
      cases step
      exact .shifts (.parks phase (Bool.not_eq_true _ ▸ uncontended))
  case h_6 stamp phase => cases step; exact .shutsQueue phase
  case h_7 stamp phase =>
    unfold take? at step
    cases queue : worker.queue with
    | nil =>
      simp only [queue] at step
      split at step
      · rename_i starved
        cases step
        exact .shifts (.runsOut (.inr ⟨stamp, phase⟩) starved)
      · cases step
    | cons record rest =>
      simp only [queue] at step
      cases step
      exact .takes (.inr ⟨stamp, phase⟩) queue
  case h_8 record phase => cases step; exact consider_step phase
  case h_9 record phase => cases step; exact issue_step phase
  case h_10 ending phase => cases step; exact .closes phase
  case h_11 ending phase => cases step; exact .shifts (.leaves phase)
  case h_12 ending phase => cases step; exact conclude_step phase
  case h_13 phase => exact drain?_step phase step
  all_goals cases step

theorem giveUp?_step (step : worker.giveUp? around shared = some outcome) :
    Step around worker shared .giveUp outcome := by
  unfold giveUp? at step
  split at step
  · cases step
  · rename_i unfired
    have fired : shared.signal.fired = true := by simpa using unfired
    split at step
    case h_1 predecessor phase =>
      cases step
      exact .endsCancelled (.inr ⟨rfl, fired, .inl ⟨predecessor, phase⟩⟩)
    case h_2 phase => cases step; exact .endsCancelled (.inr ⟨rfl, fired, .inr phase⟩)
    case h_3 phase => cases step; exact .shifts (.givesUpTrying fired phase)
    case h_4 phase => cases step; exact .shifts (.givesUpQueueing fired phase)
    case h_5 phase => cases step; exact .shifts (.givesUpConnecting fired phase)
    case h_6 phase => cases step; exact .shifts (.givesUpAuthenticating fired phase)
    case h_7 stamp phase => cases step; exact .shifts (.givesUpWaiting fired phase)
    case h_8 record phase => cases step; exact .skips fired phase
    case h_9 issue unsent phase =>
      cases step
      exact .stops (.cancelled fired (.inl ⟨unsent, phase⟩))
    case h_10 issue phase => cases step; exact .stops (.cancelled fired (.inr phase))
    all_goals cases step

theorem sendFailed_step {issue : Issue} {unsent : List UInt8} {fault : LinkFault}
    (phase : worker.phase = .sending issue unsent)
    (cause : action = .sendFailed fault ∨ action = .timedOut ∧ fault = .writeTimedOut) :
    Step around worker shared action (sendFailed around issue fault worker shared) := by
  unfold sendFailed
  split
  · rename_i lost
    rcases cause with named | ⟨named, _⟩
    · exact .stops (.sending phase (.inr ⟨fault, named, lost⟩))
    · exact .stops (.sending phase (.inl named))
  · rename_i kept
    rcases cause with rfl | ⟨_, rfl⟩
    · exact .fails (.sending phase (Bool.not_eq_true _ ▸ kept))
    · exact absurd rfl kept

theorem received_step {issue : Issue} {reply : Frame} (phase : worker.phase = .awaiting issue) :
    Step around worker shared (.received reply) (received around issue reply worker shared) := by
  unfold received
  split
  · rename_i late
    have same : worker.enter (.awaiting issue) = worker := by rw [← phase, enter_phase]
    have step : Step around worker shared (.received reply)
        (worker.enter (.awaiting issue), shared, []) := .shifts (.passesOver phase late)
    rwa [same] at step
  · rename_i own
    have own : reply.responseTo = issue.record.requestId := by simpa using own
    split
    · rename_i fault unreadable
      exact .fails (.reading phase own unreadable)
    · rename_i summary readable
      exact .hears phase own readable rfl rfl

theorem sent_step {issue : Issue} (phase : worker.phase = .sending issue []) :
    Step around worker shared .sent (sent around issue worker shared) := by
  unfold sent
  dsimp only
  split
  · rename_i answered
    exact .shifts (.awaits phase answered)
  · rename_i unanswered
    exact .plays phase (Bool.not_eq_true _ ▸ unanswered) rfl rfl

/-- Whatever step a worker takes is one of those listed. -/
theorem step_of_step? (step : worker.step? around shared action = some outcome) :
    Step around worker shared action outcome := by
  unfold step? at step
  split at step
  case h_1 => exact advance?_step step
  case h_2 => exact giveUp?_step step
  case h_3 stamp phase =>
    split at step
    · rename_i contended
      cases step
      exact .shifts (.wakes phase contended)
    · cases step
  case h_4 phase =>
    split at step
    · rename_i guarded
      cases step
      exact .shifts (.authenticates phase guarded)
    · rename_i unguarded
      cases step
      exact .shifts (.connects (.inl ⟨rfl, phase, Bool.not_eq_true _ ▸ unguarded⟩))
  case h_5 fault phase => cases step; exact .shifts (.isRefused phase (.inl rfl))
  case h_6 phase => cases step; exact .shifts (.isRefused phase (.inr ⟨rfl, rfl⟩))
  case h_7 phase => cases step; exact .shifts (.connects (.inr ⟨rfl, phase⟩))
  case h_8 reason phase => cases step; exact .shifts (.isDenied phase (.inl rfl))
  case h_9 phase => cases step; exact .shifts (.isDenied phase (.inr ⟨rfl, rfl⟩))
  case h_10 record phase => cases step; exact .shifts (.waited phase)
  case h_11 count issue unsent phase =>
    split at step
    · rename_i some
      cases step
      exact .shifts (.writes phase some)
    · cases step
  case h_12 issue phase => cases step; exact sent_step phase
  case h_13 fault issue unsent phase => cases step; exact sendFailed_step phase (.inl rfl)
  case h_14 issue unsent phase => cases step; exact sendFailed_step phase (.inr ⟨rfl, rfl⟩)
  case h_15 reply issue phase => cases step; exact received_step phase
  case h_16 fault issue phase =>
    cases step
    cases fault with
    | link fault => exact .stops (.closed phase)
    | frame fault => exact .stops (.garbled phase)
  case h_17 issue phase => cases step; exact .fails (.waiting phase)
  all_goals cases step

end TrafficReplay.Worker
