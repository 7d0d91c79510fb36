import TrafficReplay.Proofs.Lane.Accounting
import TrafficReplay.Proofs.Run.Cancellation

namespace TrafficReplay

namespace Worker

variable {fed : Bool} {around : Surroundings} {worker : Worker} {shared : Shared}
  {action : WorkerAction} {outcome : Outcome} {effects : List LaneEffect}

def leftover (worker : Worker) : List Record :=
  if worker.phase = .ended then worker.queue else []

theorem leftover_of_going (going : worker.phase ≠ .ended) : worker.leftover = [] := if_neg going

theorem leftover_finish (worker : Worker) : worker.finish.leftover = worker.queue := if_pos rfl

theorem Step.of_giveUp_pacing (step : Step around worker shared .giveUp outcome) {record : Record}
    (pacing : worker.phase = .pacing record) :
    outcome = ({ worker with
      report := { worker.report with skipped := worker.report.skipped + 1 }
      phase := .closing .cancelled }, shared, []) := by
  cases step with
  | skips => rfl
  | shifts shift => cases shift <;> simp_all
  | fails cause => cases cause
  | stops cause => cases cause <;> simp_all
  | endsCancelled => simp_all

/-- Otherwise a worker skips what is queued when it ends, and nothing before. -/
theorem Step.skipped_of_kept (step : Step around worker shared action outcome)
    (kept : action = .giveUp → ∀ record, worker.phase ≠ .pacing record)
    (sound : worker.Sound around.fed) :
    outcome.1.report.skipped = worker.report.skipped + outcome.1.leftover.length := by
  have empty : worker.isStarved around.fed = true → worker.queue = [] := fun starved =>
    (isStarved_iff.mp starved).1
  cases step with
  | shifts shift => rw [leftover_of_going shift.not_ended]; rfl
  | @skips record _ phase => exact absurd phase (kept rfl record)
  | endsCancelled => rw [finishCancelled, leftover_finish]; rfl
  | bequeaths phase | diesOut phase | concludes phase =>
    have none : worker.queue = [] := empty (sound.starved (by rw [phase]; rfl))
    rw [leftover_finish]
    simp [withMemory, finish, none]
  | drainsDry _ starved => rw [leftover_finish, empty starved]; rfl
  | withholds | fails =>
    rw [leftover_of_going (afterFailure_not_ended _ _)]
    rfl
  | hears =>
    dsimp only
    split
    · rw [leftover_of_going (afterFailure_not_ended _ _)]
      rfl
    · rfl
  | drainsReply phase | drains phase =>
    have draining : worker.phase = .draining := phase
    rw [leftover_of_going (by simp [emit, draining])]
    rfl
  | _ => rfl

theorem Step.of_cancelled (step : Step around worker shared action outcome)
    (cancelled : worker.phase.ending? = some .cancelled) :
    taken outcome.2.2 = [] ∧ reported outcome.2.2 = [] ∧
      (outcome.1.phase.ending? = some .cancelled ∨ outcome.1.phase = .ended) := by
  cases step with
  | shifts shift =>
    refine ⟨shift.taken, shift.reported, .inl ?_⟩
    cases shift with
    | leaves phase =>
      rw [phase] at cancelled
      exact cancelled
    | runsOut phase =>
      rcases phase with ⟨phase, _⟩ | ⟨_, phase⟩ <;> simp [phase, WorkerPhase.ending?] at cancelled
    | connects phase =>
      rcases phase with ⟨_, phase, _⟩ | ⟨_, phase⟩ <;> simp [phase, WorkerPhase.ending?] at cancelled
    | _ => simp_all [WorkerPhase.ending?]
  | closes phase =>
    rw [phase] at cancelled
    exact ⟨rfl, rfl, .inl cancelled⟩
  | endsCancelled => exact ⟨rfl, rfl, .inr rfl⟩
  | takes phase =>
    rcases phase with ⟨phase, _⟩ | ⟨_, phase⟩ <;> simp [phase, WorkerPhase.ending?] at cancelled
  | fails cause => cases cause <;> simp_all [WorkerPhase.ending?]
  | stops cause =>
    cases cause with
    | cancelled _ phase =>
      rcases phase with ⟨_, phase⟩ | phase <;> simp [phase, WorkerPhase.ending?] at cancelled
    | _ => simp_all [WorkerPhase.ending?]
  | _ => simp_all [WorkerPhase.ending?]

/-- The requests that a worker has taken, in order: those it reported, one that it skipped, if any,
    and the one in hand. -/
structure Reckons (effects : List LaneEffect) (worker : Worker) : Prop where
  played : worker.report.played = (reported effects).length
  served : ∃ served skipped, requests (taken effects) =
      served ++ skipped ++ requests worker.phase.held?.toList ∧
    List.Forall₂ (DescribesOn worker.lane) (reported effects) served ∧
    worker.report.skipped = skipped.length + worker.leftover.length ∧
    (skipped = [] ∨ worker.phase.ending? = some .cancelled ∨ worker.phase = .ended)

theorem Reckons.opened (lane : LaneId) (scope : CursorScope) (predecessor : Option WorkerId) :
    Reckons [] (opened lane scope predecessor) := by
  cases predecessor <;> exact ⟨rfl, [], [], rfl, .nil, rfl, .inl rfl⟩

theorem Step.reckons (step : Step around worker shared action outcome)
    (sound : worker.Sound around.fed) (reckons : worker.Reckons effects) :
    outcome.1.Reckons (effects ++ outcome.2.2) := by
  obtain ⟨served, skipped, split, described, counted, last⟩ := reckons.served
  rw [leftover_of_going step.not_ended, List.length_nil, Nat.add_zero] at counted
  by_cases gives : action = .giveUp ∧ ∃ record, worker.phase = .pacing record
  · obtain ⟨rfl, record, pacing⟩ := gives
    have request : record.isResponse = false := sound.asked record (by rw [pacing]; rfl)
    have none : skipped = [] := by
      rcases last with none | cancelled | ended
      · exact none
      · rw [pacing] at cancelled
        cases cancelled
      · exact absurd ended step.not_ended
    subst none
    have held : requests worker.phase.held?.toList = [record] := by
      rw [pacing]
      simp [requests, WorkerPhase.held?, WorkerPhase.pending?, request]
    rw [held] at split
    rw [step.of_giveUp_pacing pacing, List.append_nil]
    refine ⟨reckons.played, served, [record], ?_, described, congrArg (· + 1) counted, .inr (.inl rfl)⟩
    rw [split, List.append_nil]
    exact (List.append_nil _).symm
  have kept : action = .giveUp → ∀ record, worker.phase ≠ .pacing record :=
    fun giveUp record pacing => gives ⟨giveUp, record, pacing⟩
  have posts := step.posts_of_kept kept sound
  have skips := step.skipped_of_kept kept sound
  obtain ⟨new, moved, new_described⟩ := posts.served
  rw [requests_append] at moved
  refine ⟨?_, ?_⟩
  · rw [reported_append, List.length_append, posts.played, reckons.played]
  rw [taken_append, requests_append, split, reported_append, step.lane, skips, counted]
  rcases last with rfl | cancelled | ended
  · refine ⟨served ++ new, [], ?_, List.rel_append described new_described, rfl, .inl rfl⟩
    rw [List.append_nil, List.append_nil, List.append_assoc, moved, List.append_assoc]
  -- Once the worker is on its way out nothing is added to what it has dealt with.
  · obtain ⟨took, told, leaves⟩ := step.of_cancelled cancelled
    rw [told] at new_described ⊢
    rw [took] at moved ⊢
    cases new_described
    refine ⟨served, skipped, ?_, by rwa [List.append_nil], rfl, .inr leaves⟩
    rw [List.append_assoc, moved, List.nil_append]
  · exact absurd ended step.not_ended

theorem Reckons.markTaken (reckons : worker.Reckons effects) :
    (Run.markTaken worker).Reckons effects := by
  obtain ⟨handoff, marked⟩ := Run.markTaken_fields worker
  rw [marked]
  exact ⟨reckons.played, reckons.served⟩

theorem Reckons.push (reckons : worker.Reckons effects) (sound : worker.Sound fed)
    (accepting : worker.accepting = true) (record : Record) :
    Reckons effects { worker with queue := worker.queue ++ [record] } := by
  have going : worker.phase ≠ .ended := by
    intro ended
    exact absurd accepting (by simp [sound.closed ended])
  obtain ⟨served, skipped, split, described, counted, last⟩ := reckons.served
  rw [leftover_of_going going] at counted
  refine ⟨reckons.played, served, skipped, split, described, ?_, last⟩
  rw [leftover_of_going (by exact going)]
  exact counted

end Worker

def replies (records : List Record) : List Record := records.filter fun record => record.isResponse

theorem length_requests_add_replies (records : List Record) :
    (requests records).length + (replies records).length = records.length := by
  have parts := List.length_eq_length_filter_add (l := records) fun record => record.isResponse
  rw [requests, replies, parts, Nat.add_comm]

namespace Run

variable {run : Run} {settings : RunSettings} {actions : List RunAction} {effects : Effects}

theorem reckoning : WorkerInvariant false fun fed effects worker =>
    worker.Sound fed ∧ worker.Reckons effects where
  opened fed lane scope predecessor :=
    ⟨Worker.Sound.opened fed lane scope predecessor, Worker.Reckons.opened lane scope predecessor⟩
  unfed less both := ⟨both.1.unfed less, both.2⟩
  bequeathed both := ⟨both.1.markTaken, both.2.markTaken⟩
  pushed record accepting both :=
    ⟨both.1.push accepting record, both.2.push both.1 accepting record⟩
  worked step _ both := ⟨step.sound both.1, step.reckons both.1 both.2⟩

/-- Of the requests that were given to a worker that has ended, whenever and however it did, the
    first ones have one stat record each, in order, and the others are counted once as skipped. The
    recorded replies left in its queue are counted with them, and nothing else is. -/
theorem Trace.ended_accounted (trace : Trace settings actions effects run) {id : Nat}
    {worker : Worker} (at_id : run.workers[id]? = some worker) (ended : worker.phase = .ended) :
    (∃ served skipped, requests (run.givenTo effects id) = served ++ skipped ∧
      List.Forall₂ (DescribesOn worker.lane) (reported (effects.ofWorker id)) served ∧
      worker.report.played = served.length ∧
      worker.report.skipped = skipped.length + (replies worker.queue).length) ∧
    worker.report.played + worker.report.skipped =
      (requests (run.givenTo effects id)).length + (replies worker.queue).length := by
  obtain ⟨_, played, served, skipped, split, described, counted, _⟩ :=
    trace.each reckoning nofun at_id
  have left : worker.leftover = worker.queue := if_pos ended
  have given : requests (run.givenTo effects id) = served ++ (skipped ++ requests worker.queue) := by
    rw [givenTo, queueOf_of_worker at_id, requests_append, split, ended]
    simp [requests, WorkerPhase.held?, WorkerPhase.pending?]
  have parts := length_requests_add_replies worker.queue
  have one_each := described.length_eq
  rw [left] at counted
  refine ⟨⟨served, skipped ++ requests worker.queue, given, described, ?_, ?_⟩, ?_⟩
  · rw [played, one_each]
  · rw [List.length_append, counted]
    omega
  · rw [given, List.length_append, List.length_append, played, counted, one_each]
    omega

def interruptedRun (queued : Record) : List RunAction :=
  List.flatten [draws SampleLane.query, [.router .deliver, .worker 0 .advance, .worker 0 .connected],
    List.replicate 3 (.worker 0 .advance), [.worker 0 (.wrote 16), .worker 0 .sent], draws queued,
    [.cancel, .worker 0 .giveUp], List.replicate 3 (.worker 0 .advance)]

def moreLeft : Run × Effects :=
  ((start unpaced .fresh).steps? ⟨default, default⟩ (interruptedRun SampleLane.more)).get (by decide)

def answerLeft : Run × Effects :=
  ((start unpaced .fresh).steps? ⟨default, default⟩ (interruptedRun SampleLane.answer)).get
    (by decide)

/-- The query has its record, and the request behind it is skipped. -/
theorem moreLeft_accounted :
    ∃ worker, moreLeft.1.workers[0]? = some worker ∧ worker.phase = .ended ∧
      requests (moreLeft.1.givenTo moreLeft.2 0) = [SampleLane.query, SampleLane.more] ∧
      worker.report.played + worker.report.skipped = 2 := by
  have trace : Trace unpaced (interruptedRun SampleLane.more) moreLeft.2 moreLeft.1 :=
    trace_of_steps? (Option.some_get _).symm
  have ended : moreLeft.1.workers[0]?.map Worker.phase = some .ended := by decide
  obtain ⟨worker, at_id, phase⟩ := Option.map_eq_some_iff.mp ended
  have given : requests (moreLeft.1.givenTo moreLeft.2 0) = [SampleLane.query, SampleLane.more] := by
    decide
  have queue : moreLeft.1.workers[0]?.map Worker.queue = some [SampleLane.more] := by decide
  rw [at_id] at queue
  obtain ⟨_, counted⟩ := trace.ended_accounted at_id phase
  rw [given, Option.some.inj queue] at counted
  exact ⟨worker, at_id, phase, given, counted⟩

/-- A recorded reply that is left in the queue is counted as a skipped request. -/
theorem answerLeft_overcounted :
    Trace unpaced (interruptedRun SampleLane.answer) answerLeft.2 answerLeft.1 ∧
      answerLeft.1.shared.signal.fired = true ∧
      requests (answerLeft.1.givenTo answerLeft.2 0) = [SampleLane.query] ∧
      answerLeft.1.workers[0]?.map (fun worker =>
        (worker.phase, worker.report.played, worker.report.skipped)) = some (.ended, 1, 1) :=
  ⟨trace_of_steps? (Option.some_get _).symm, by decide, by decide, by decide⟩

end Run

end TrafficReplay
