import TrafficReplay.Proofs.Lane.Lifecycle

namespace TrafficReplay

def LaneEffect.sent? : LaneEffect → Option Frame
  | .transmits _ frame => some frame
  | _ => none

def transmitted (effects : List LaneEffect) : List Frame := effects.filterMap LaneEffect.sent?

theorem transmitted_append (first second : List LaneEffect) :
    transmitted (first ++ second) = transmitted first ++ transmitted second :=
  List.filterMap_append

theorem transmitted_binds (found : Option (Int64 × Int64)) :
    transmitted (found.map fun (recorded, live) => .binds recorded live).toList = [] := by
  cases found <;> rfl

/-- What happens to a worker when nothing is cancelled, refused or lost and nothing takes too long.
    Frames that it receives are left out. -/
def WorkerAction.isSmooth : WorkerAction → Bool
  | .advance | .giveUp | .wake | .connected | .elapsed | .wrote _ | .sent => true
  | _ => false

/-- Settings under which nothing is withheld and nothing ends a lane. -/
structure LaneSettings.Lenient (settings : LaneSettings) : Prop where
  passes : settings.onMiss = .passThrough
  unlimited : settings.maxFailures = 0
  trusts : settings.authenticates = false

def WorkerPhase.isFree : WorkerPhase → Bool
  | .acquiring .trying | .connecting | .polling | .idle | .watching _ | .parked _ => true
  | _ => false

def WorkerPhase.isPlain : WorkerPhase → Bool
  | .holding _ | .pacing _ | .due _ | .sending _ _ | .awaiting _ | .closing .done | .leaving .done
  | .concluding .done | .ended => true
  | phase => phase.isFree

def WorkerPhase.hasBegun : WorkerPhase → Bool
  | .succeeding _ | .acquiring _ | .connecting | .authenticating => false
  | _ => true

namespace Worker

/-- A worker that shares its run with no other: nothing is cancelled, and nobody waits for a slot. -/
structure Undisturbed (worker : Worker) (settings : LaneSettings) (shared : Shared) : Prop where
  lenient : settings.Lenient
  quiet : shared.signal.fired = false
  uncontended : shared.pool.hasWaiters = false
  slot : worker.phase = .acquiring .trying → 0 < shared.pool.free
  accepting : worker.phase ≠ .ended → worker.accepting = true
  unyielded : worker.report.yielded = false

inductive Smooth (around : Surroundings) (worker : Worker) (shared : Shared) :
    WorkerAction → Outcome → Prop
  | roams {action : WorkerAction} {phase : WorkerPhase} {after : Shared} {effects : List LaneEffect}
      (was : worker.phase.isFree = true) (is : phase.isFree = true)
      (reports : reported effects = []) (sends : transmitted effects = []) :
      Smooth around worker shared action (worker.enter phase, after, effects)
  | runsOut (was : worker.phase.isFree = true) (starved : worker.isStarved around.fed = true) :
      Smooth around worker shared .advance (worker.enter (.closing .done), shared, [])
  | takes {record : Record} {rest : List Record} (was : worker.phase.isFree = true)
      (queue : worker.queue = record :: rest) :
      Smooth around worker shared .advance
        ({ worker with queue := rest, phase := .holding record }, shared, [.took record])
  | correlates {record : Record} {after : Shared} {effects : List LaneEffect}
      (was : worker.phase = .holding record) (response : record.isResponse = true)
      (reports : reported effects = []) (sends : transmitted effects = []) :
      Smooth around worker shared .advance
        ({ worker with
            memory := (worker.memory.correlate shared.common worker.lane record.frame).1
            phase := .polling }, after, effects)
  | bides {action : WorkerAction} {record : Record} {phase : WorkerPhase} {effects : List LaneEffect}
      (was : worker.phase = .holding record ∧ record.isResponse = false ∨
        worker.phase = .pacing record)
      (is : phase = .pacing record ∨ phase = .due record)
      (reports : reported effects = []) (sends : transmitted effects = []) :
      Smooth around worker shared action (worker.enter phase, shared, effects)
  | withholds {record : Record} {error : OpError} {miss : Bool} {outcome : Outcome}
      (was : worker.phase = .due record)
      (prepared : worker.memory.prepare shared.common around.settings.onMiss record.frame =
        ⟨.error error, miss⟩) : Smooth around worker shared .advance outcome
  | transmits {record : Record} {frame : Frame} {miss : Bool} {issue : Issue} {after : Worker}
      (was : worker.phase = .due record)
      (prepared : worker.memory.prepare shared.common around.settings.onMiss record.frame =
        ⟨.ok frame, miss⟩)
      (issued : issue.record = record ∧ issue.miss = miss)
      (is : after.phase = .sending issue frame.bytes) (queue : after.queue = worker.queue)
      (home : after.memory.home = worker.memory.home)
      (live : after.memory.liveCursors = worker.memory.liveCursors) :
      Smooth around worker shared .advance (after, shared, [.transmits record frame])
  | writes {action : WorkerAction} {issue : Issue} {unsent rest written : List UInt8}
      (was : worker.phase = .sending issue unsent) :
      Smooth around worker shared action (worker.enter (.sending issue rest), shared,
        [.wrote written])
  | awaits {issue : Issue} (was : worker.phase = .sending issue [])
      (answered : issue.record.frame.opCode.expectsReply = true) :
      Smooth around worker shared .sent (worker.enter (.awaiting issue), shared, [])
  | plays {issue : Issue} {played : OpOutcome} {after : Worker} {later : Shared} {seq : Nat}
      (was : worker.phase = .sending issue [])
      (unanswered : issue.record.frame.opCode.expectsReply = false)
      (told : played.numReturned = 0 ∧ played.error = none ∧ played.miss = issue.miss)
      (is : after.phase = .polling) (queue : after.queue = worker.queue)
      (home : after.memory.home =
        (worker.afterSending shared.common issue.record.frame).1.home)
      (live : after.memory.liveCursors =
        (worker.afterSending shared.common issue.record.frame).1.liveCursors) :
      Smooth around worker shared .sent
        (after, later, [.reports (.ofOutcome worker.lane seq issue.record played)])
  | ends {after : Worker} {later : Shared} {effects : List LaneEffect}
      (was : worker.phase = .closing .done ∨ worker.phase = .leaving .done ∨
        worker.phase = .concluding .done)
      (is : after.phase = .leaving .done ∨ after.phase = .concluding .done ∨ after.phase = .ended)
      (queue : after.queue = worker.queue) (reports : reported effects = [])
      (sends : transmitted effects = []) :
      Smooth around worker shared .advance (after, later, effects)

variable {around : Surroundings} {worker : Worker} {shared : Shared} {action : WorkerAction}
  {outcome : Outcome}

theorem Shift.smooth {phase : WorkerPhase} {after : Shared} {effects : List LaneEffect}
    (shift : Shift around worker shared action phase after effects)
    (undisturbed : worker.Undisturbed around.settings shared) (plain : worker.phase.isPlain = true)
    (smooth : action.isSmooth = true) :
    Smooth around worker shared action (worker.enter phase, after, effects) := by
  have quiet := undisturbed.quiet
  cases shift with
  | getsSlot at_phase | watches at_phase | wakes at_phase | idles at_phase | parks at_phase =>
    exact .roams (by rw [at_phase]; rfl) rfl rfl rfl
  | findsNoSlot at_phase none =>
    have room := undisturbed.slot at_phase
    simp [SlotPool.tryAcquire?, room] at none
  | runsOut at_phase starved =>
    refine .runsOut ?_ starved
    rcases at_phase with ⟨at_phase, _⟩ | ⟨_, at_phase⟩ <;> rw [at_phase] <;> rfl
  | connects at_phase =>
    rcases at_phase with ⟨_, at_phase, _⟩ | ⟨_, at_phase⟩
    · exact .roams (by rw [at_phase]; rfl) rfl rfl rfl
    · rw [at_phase] at plain
      cases plain
  | isDue at_phase request => exact .bides (.inl ⟨at_phase, request⟩) (.inr rfl) rfl rfl
  | paces at_phase request => exact .bides (.inl ⟨at_phase, request⟩) (.inl rfl) rfl rfl
  | waited at_phase => exact .bides (.inr at_phase) (.inr rfl) rfl rfl
  | writes at_phase => exact .writes at_phase
  | awaits at_phase answered => exact .awaits at_phase answered
  | @leaves ending at_phase =>
    have done : ending = .done := by
      rw [at_phase] at plain
      cases ending <;> first | rfl | cases plain
    subst done
    exact .ends (.inr (.inl at_phase)) (.inr (.inl rfl)) rfl rfl rfl
  | authenticates at_phase guarded => exact absurd guarded (by simp [undisturbed.lenient.trusts])
  | isRefused _ cause | isDenied _ cause =>
    rcases cause with rfl | ⟨rfl, _⟩ <;> cases smooth
  | passesOver => cases smooth
  | seesSignal _ fired | givesUpTrying fired | givesUpQueueing fired | givesUpConnecting fired
  | givesUpAuthenticating fired | givesUpWaiting fired =>
    rw [quiet] at fired
    cases fired
  | succeeds at_phase | countsItself at_phase | announcesItself at_phase | queuesUp at_phase
  | takesSlot at_phase | reportsRefusal at_phase =>
    rw [at_phase] at plain
    cases plain

/-- Whatever a worker does smoothly when nothing disturbs it is one of the steps listed. -/
theorem Step.smooth (step : Step around worker shared action outcome)
    (undisturbed : worker.Undisturbed around.settings shared) (plain : worker.phase.isPlain = true)
    (smooth : action.isSmooth = true) : Smooth around worker shared action outcome := by
  have quiet := undisturbed.quiet
  cases step with
  | shifts shift => exact shift.smooth undisturbed plain smooth
  | takes at_phase queue =>
    refine .takes ?_ queue
    rcases at_phase with ⟨at_phase, _⟩ | ⟨_, at_phase⟩ <;> rw [at_phase] <;> rfl
  | correlates at_phase response =>
    exact .correlates at_phase response (reported_binds _) (transmitted_binds _)
  | withholds at_phase prepared => exact .withholds at_phase prepared
  | transmits at_phase prepared => exact .transmits at_phase prepared ⟨rfl, rfl⟩ rfl rfl rfl rfl
  | plays at_phase unanswered learnt played =>
    subst learnt played
    exact .plays at_phase unanswered ⟨rfl, rfl, rfl⟩ rfl rfl rfl rfl
  | @closes ending at_phase =>
    have done : ending = .done := by
      rw [at_phase] at plain
      cases ending <;> first | rfl | cases plain
    subst done
    exact .ends (.inl at_phase) (.inl rfl) rfl rfl rfl
  | concludes at_phase =>
    exact .ends (.inr (.inr at_phase)) (.inr (.inr rfl)) rfl rfl rfl
  | yields _ contended =>
    rw [undisturbed.uncontended, Bool.and_false] at contended
    cases contended
  | bequeaths _ yielded | diesOut _ yielded =>
    rw [undisturbed.unyielded] at yielded
    cases yielded
  | skips fired =>
    rw [quiet] at fired
    cases fired
  | fails cause => cases cause <;> cases smooth
  | stops cause =>
    cases cause with
    | cancelled on =>
      rw [quiet] at on
      cases on
    | sending _ cause => rcases cause with rfl | ⟨_, rfl, _⟩ <;> cases smooth
    | closed | garbled => cases smooth
  | hears => cases smooth
  | endsCancelled at_phase =>
    rcases at_phase with ⟨_, at_phase⟩ | ⟨_, fired, _⟩
    · rw [at_phase] at plain
      cases plain
    · rw [quiet] at fired
      cases fired
  | resumes at_phase | shutsQueue at_phase | aborts at_phase | drainsReply at_phase
  | drains at_phase | drainsDry at_phase =>
    rw [at_phase] at plain
    cases plain

end Worker

def WorkerAction.isFine (action : WorkerAction) : Prop :=
  action.isSmooth = true ∨ ∃ reply, action = .received reply

namespace SlotPool

variable {pool after : SlotPool WorkerId}

theorem hasWaiters_tryAcquire? (slot : pool.tryAcquire? = some after) :
    after.hasWaiters = pool.hasWaiters := by
  unfold tryAcquire? at slot
  split at slot
  · cases slot
    rfl
  · cases slot

theorem hasWaiters_release (pool : SlotPool WorkerId) :
    pool.release.hasWaiters = pool.hasWaiters := by
  unfold release passSlot
  split <;> rfl

end SlotPool

namespace Worker

variable {around : Surroundings} {worker : Worker} {shared : Shared} {action : WorkerAction}
  {outcome : Outcome}

theorem Step.uncontended (step : Step around worker shared action outcome)
    (plain : worker.phase.isPlain = true) :
    outcome.2.1.pool.hasWaiters = shared.pool.hasWaiters := by
  cases step with
  | shifts shift =>
    cases shift with
    | getsSlot _ slot => exact SlotPool.hasWaiters_tryAcquire? slot
    | leaves => exact SlotPool.hasWaiters_release _
    | countsItself phase | announcesItself phase | queuesUp phase | takesSlot phase =>
      rw [phase] at plain
      cases plain
    | givesUpQueueing _ phase =>
      rw [phase] at plain
      cases plain
    | _ => rfl
  | _ => rfl

theorem Step.unyielded (step : Step around worker shared action outcome)
    (uncontended : shared.pool.hasWaiters = false) (unyielded : worker.report.yielded = false) :
    outcome.1.report.yielded = false := by
  cases step with
  | yields _ contended =>
    rw [uncontended, Bool.and_false] at contended
    cases contended
  | hears => dsimp only; split <;> exact unyielded
  | _ => exact unyielded

theorem Step.not_trying (step : Step around worker shared action outcome)
    (plain : worker.phase.isPlain = true) : outcome.1.phase ≠ .acquiring .trying := by
  cases step with
  | shifts shift =>
    cases shift with
    | succeeds phase =>
      rw [phase] at plain
      cases plain
    | _ => exact nofun
  | resumes phase =>
    rw [phase] at plain
    cases plain
  | withholds | fails =>
    rcases afterFailure_phase around.settings _ with phase | phase <;> rw [phase] <;> exact nofun
  | hears =>
    dsimp only
    split
    · rcases afterFailure_phase around.settings _ with phase | phase <;> rw [phase] <;> exact nofun
    · exact nofun
  | drainsReply phase | drains phase =>
    rw [phase] at plain
    cases plain
  | _ => exact nofun

theorem Step.undisturbed (step : Step around worker shared action outcome)
    (plain : worker.phase.isPlain = true)
    (undisturbed : worker.Undisturbed around.settings shared) :
    outcome.1.Undisturbed around.settings outcome.2.1 where
  lenient := undisturbed.lenient
  quiet := by rw [step.signal, undisturbed.quiet]
  uncontended := by rw [step.uncontended plain, undisturbed.uncontended]
  slot trying := absurd trying (step.not_trying plain)
  accepting going := by
    cases takes : outcome.1.accepting with
    | true => rfl
    | false =>
      rcases step.shuts (undisturbed.accepting step.not_ended) takes with ⟨stamp, phase⟩ | ended
      · rw [phase] at plain
        cases plain
      · exact absurd ended going
  unyielded := step.unyielded undisturbed.uncontended undisturbed.unyielded

theorem Step.events (step : Step around worker shared action outcome)
    (plain : worker.phase.isPlain = true) : outcome.2.1.events = shared.events ∨
      outcome.2.1.events = shared.events ++ [.connected worker.lane] := by
  cases step with
  | shifts shift =>
    cases shift with
    | connects => exact .inr rfl
    | reportsRefusal phase =>
      rw [phase] at plain
      cases plain
    | _ => exact .inl rfl
  | aborts phase =>
    rw [phase] at plain
    cases plain
  | _ => exact .inl rfl

theorem Step.announces (step : Step around worker shared action outcome)
    (plain : worker.phase.isPlain = true) (fine : action.isFine)
    (undisturbed : worker.Undisturbed around.settings shared)
    (new : worker.phase.hasBegun = false) (begun : outcome.1.phase.hasBegun = true) :
    outcome.2.1.events = shared.events ++ [.connected worker.lane] := by
  have starting : worker.phase = .acquiring .trying ∨ worker.phase = .connecting := by
    generalize worker.phase = phase at plain new
    cases phase with
    | acquiring stage => cases stage <;> first | exact .inl rfl | cases plain
    | connecting => exact .inr rfl
    | succeeding | authenticating => cases plain
    | _ => cases new
  cases step with
  | shifts shift =>
    cases shift with
    | connects => rfl
    | getsSlot | findsNoSlot => cases begun
    | authenticates _ guarded => exact absurd guarded (by simp [undisturbed.lenient.trusts])
    | isRefused _ cause =>
      rcases fine with smooth | ⟨reply, received⟩
      · rcases cause with rfl | ⟨rfl, _⟩ <;> cases smooth
      · rcases cause with other | ⟨other, _⟩ <;> cases other.symm.trans received
    | givesUpTrying fired | givesUpConnecting fired =>
      rw [undisturbed.quiet] at fired
      cases fired
    | _ => rcases starting with starting | starting <;> simp_all
  | fails cause | stops cause =>
    cases cause <;> rcases starting with starting | starting <;> simp_all
  | _ => rcases starting with starting | starting <;> simp_all

end Worker

end TrafficReplay
