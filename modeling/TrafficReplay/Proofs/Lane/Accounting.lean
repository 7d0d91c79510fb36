import Mathlib.Data.List.Forall2
import TrafficReplay.Proofs.Lane.Lifecycle
import TrafficReplay.Proofs.Lane.Prepared
import TrafficReplay.Proofs.Lane.Recall

namespace TrafficReplay

/-- The records among some that are replayed; the others are what the server once answered. -/
def requests (records : List Record) : List Record :=
  records.filter fun record => !record.isResponse

theorem requests_append (first second : List Record) :
    requests (first ++ second) = requests first ++ requests second := List.filter_append ..

/-- A stat record that a lane emits is about a request, whatever became of it. -/
def DescribesOn (lane : LaneId) (stat : Stat) (record : Record) : Prop :=
  ∃ seq outcome, stat = .ofOutcome lane seq record outcome

def WorkerPhase.missed : WorkerPhase → Bool
  | .sending issue _ | .awaiting issue => issue.miss
  | _ => false

theorem WorkerPhase.missed_eq (phase : WorkerPhase) :
    phase.missed = phase.business.issue?.any Issue.miss := by
  cases phase <;> rfl

namespace Worker

variable {fed : Bool} {around : Surroundings} {worker after : Worker} {shared : Shared}
  {action : WorkerAction} {outcome : Outcome} {effects new : List LaneEffect}

theorem afterSending_seq (worker : Worker) (common : CursorTable) (frame : Frame) :
    (worker.afterSending common frame).1.seq = worker.memory.seq := by
  unfold afterSending
  split
  · rw [LaneMemory.releaseCursors_same]
  · rfl

/-- How a step changes a worker's account: by the stat records that it emits. -/
structure Posts (before after : Worker) (effects : List LaneEffect) : Prop where
  played : after.report.played = before.report.played + (reported effects).length
  failed : after.report.failed =
    before.report.failed + (reported effects).countP fun stat => stat.error.isSome
  misses : after.report.misses + (if before.phase.missed then 1 else 0) =
    before.report.misses + (reported effects).countP (fun stat => stat.miss) +
      if after.phase.missed then 1 else 0
  served : ∃ served, requests (before.phase.held?.toList ++ taken effects) =
      served ++ requests after.phase.held?.toList ∧
    List.Forall₂ (DescribesOn before.lane) (reported effects) served

theorem Posts.of_stat {before : Worker} {record : Record} {outcome : OpOutcome} {seq : Nat}
    (one : reported effects = [.ofOutcome before.lane seq record outcome])
    (played : after.report.played = before.report.played + 1)
    (failed : after.report.failed =
      before.report.failed + if outcome.error.isSome then 1 else 0)
    (misses : after.report.misses + (if before.phase.missed then 1 else 0) =
      before.report.misses + if outcome.miss then 1 else 0)
    (held : before.phase.held?.toList ++ taken effects = [record])
    (request : record.isResponse = false) (free : after.phase.held? = none)
    (sent : after.phase.missed = false) : Posts before after effects := by
  refine ⟨by rw [one]; exact played, ?_, ?_, [record], ?_, ?_⟩
  · rw [one, failed]
    simp [Stat.ofOutcome, List.countP_cons]
  · rw [one, misses, sent]
    simp [Stat.ofOutcome, List.countP_cons]
  · rw [held, free]
    simp [requests, request]
  · rw [one]
    exact .cons ⟨seq, outcome, rfl⟩ .nil

theorem Posts.of_nothing {before : Worker} (nothing : reported effects = [])
    (played : after.report.played = before.report.played)
    (failed : after.report.failed = before.report.failed)
    (misses : after.report.misses + (if before.phase.missed then 1 else 0) =
      before.report.misses + if after.phase.missed then 1 else 0)
    (held : requests (before.phase.held?.toList ++ taken effects) =
      requests after.phase.held?.toList) : Posts before after effects := by
  refine ⟨by rw [nothing]; exact played, by rw [nothing]; exact failed, ?_, [], held, ?_⟩
  · rw [nothing]
    exact misses
  · rw [nothing]
    exact .nil

theorem Shift.held {phase : WorkerPhase} {later : Shared} {effects : List LaneEffect}
    (shift : Shift around worker shared action phase later effects) :
    phase.held? = worker.phase.held? ∧ phase.missed = worker.phase.missed := by
  simp only [WorkerPhase.held?_eq, WorkerPhase.missed_eq, shift.business, and_self]

theorem Fails.held {phase : WorkerPhase} {issue : Issue} {error : OpError}
    (cause : Fails phase action issue error) :
    phase.held? = some issue.record ∧ phase.pending? = some issue.record ∧
      phase.missed = issue.miss := by
  cases cause with
  | sending at_phase | waiting at_phase | reading at_phase => rw [at_phase]; exact ⟨rfl, rfl, rfl⟩

theorem Stops.held {phase : WorkerPhase} {fired : Bool} {issue : Issue} {error : OpError}
    {ending : LaneEnding} (cause : Stops phase fired action issue error ending) :
    phase.held? = some issue.record ∧ phase.pending? = some issue.record ∧
      phase.missed = issue.miss := by
  cases cause with
  | cancelled _ at_phase =>
    rcases at_phase with ⟨_, at_phase⟩ | at_phase <;> rw [at_phase] <;> exact ⟨rfl, rfl, rfl⟩
  | sending at_phase | closed at_phase | garbled at_phase =>
    rw [at_phase]
    exact ⟨rfl, rfl, rfl⟩

theorem afterFailure_free (settings : LaneSettings) (worker : Worker) :
    (afterFailure settings worker).phase.held? = none ∧
      (afterFailure settings worker).phase.missed = false := by
  rcases afterFailure_phase settings worker with phase | phase <;> rw [phase] <;> exact ⟨rfl, rfl⟩

/-- A wait ends early only once a cancellation is requested. -/
theorem Step.fired_of_giveUp (step : Step around worker shared .giveUp outcome) :
    shared.signal.fired = true := by
  cases step with
  | shifts shift =>
    cases shift with
    | connects phase => rcases phase with ⟨other, _⟩ | ⟨other, _⟩ <;> cases other
    | isRefused _ cause | isDenied _ cause => rcases cause with other | ⟨other, _⟩ <;> cases other
    | _ => assumption
  | fails cause => cases cause
  | stops cause =>
    cases cause with
    | cancelled on => exact on
    | sending _ cause => rcases cause with other | ⟨_, other, _⟩ <;> cases other
  | skips fired => exact fired
  | endsCancelled phase =>
    rcases phase with ⟨other, _⟩ | ⟨_, fired, _⟩
    · cases other
    · exact fired

/-- Only a request that waits for its time is given up without a stat record. -/
theorem Step.posts_of_kept (step : Step around worker shared action outcome)
    (kept : action = .giveUp → ∀ record, worker.phase ≠ .pacing record)
    (sound : worker.Sound around.fed) : Posts worker outcome.1 outcome.2.2 := by
  cases step with
  | shifts shift =>
    obtain ⟨held, missed⟩ := shift.held
    refine .of_nothing shift.reported rfl rfl ?_ ?_
    · simp only [enter, missed]
    · simp only [enter, held, shift.taken, List.append_nil]
  | @skips record _ phase => exact absurd phase (kept rfl record)
  | takes phase =>
    refine .of_nothing rfl rfl rfl ?_ ?_
    · rcases phase with ⟨phase, _⟩ | ⟨_, phase⟩ <;> rw [phase] <;> rfl
    · rcases phase with ⟨phase, _⟩ | ⟨_, phase⟩ <;> rw [phase] <;> rfl
  | @correlates record phase response =>
    refine .of_nothing (reported_binds _) rfl rfl (by rw [phase]; rfl) ?_
    rw [taken_binds, phase]
    simp [requests, WorkerPhase.held?, WorkerPhase.pending?, response]
  | @withholds record error miss phase prepared =>
    obtain ⟨free, sent⟩ := afterFailure_free around.settings
      (emit { worker with report := { worker.report with
        misses := worker.report.misses + if miss then 1 else 0 } } record
        (.failed error around.reading.wall (error = OpError.staleCursor))).1
    refine .of_stat rfl rfl rfl ?_ (by rw [phase]; rfl) (sound.asked record (by rw [phase]; rfl))
      free sent
    rw [phase, LaneMemory.miss_of_prepare_error prepared]
    rfl
  | @transmits record frame miss phase =>
    refine .of_nothing rfl rfl rfl ?_ (by rw [phase]; rfl)
    rw [phase]
    rfl
  | fails cause =>
    obtain ⟨held, pending, missed⟩ := cause.held
    obtain ⟨free, sent⟩ := afterFailure_free around.settings _
    refine .of_stat rfl rfl rfl ?_ (by rw [held]; rfl) (sound.asked _ pending) free sent
    rw [missed]
    rfl
  | stops cause =>
    obtain ⟨held, pending, missed⟩ := cause.held
    refine .of_stat rfl rfl rfl ?_ (by rw [held]; rfl) (sound.asked _ pending) rfl rfl
    rw [missed]
    rfl
  | plays phase _ _ played =>
    refine .of_stat rfl rfl rfl ?_ (by rw [phase]; rfl) (sound.asked _ (by rw [phase]; rfl)) rfl rfl
    rw [phase, played]
    rfl
  | @hears issue reply summary outcome told phase _ _ _ played =>
    have asked := sound.asked issue.record (by rw [phase]; rfl)
    have misses : worker.report.misses + (if worker.phase.missed then 1 else 0) =
        worker.report.misses + if outcome.miss then 1 else 0 := by
      rw [phase, played]
      rfl
    have held : worker.phase.held?.toList ++ [] = [issue.record] := by
      rw [phase]
      rfl
    dsimp only
    split
    · obtain ⟨free, sent⟩ := afterFailure_free around.settings _
      exact .of_stat rfl rfl rfl misses held asked free sent
    · exact .of_stat rfl rfl rfl misses held asked rfl rfl
  | @drains record rest outcome phase _ request lost =>
    refine .of_stat rfl rfl rfl ?_ (by rw [phase]; rfl) request ?_ ?_
    · rw [phase, lost]
      rfl
    · rw [show _ = _ from phase]
      rfl
    · rw [show _ = _ from phase]
      rfl
  | @drainsReply record rest phase _ response =>
    refine .of_nothing rfl rfl rfl rfl ?_
    rw [phase]
    simp [requests, WorkerPhase.held?, WorkerPhase.pending?, taken, LaneEffect.taken?, response]
  | endsCancelled phase =>
    have none : worker.phase.held? = none ∧ worker.phase.missed = false := by
      rcases phase with ⟨_, phase⟩ | ⟨_, _, ⟨_, phase⟩ | phase⟩ <;> rw [phase] <;> exact ⟨rfl, rfl⟩
    refine .of_nothing rfl rfl rfl ?_ ?_
    · rw [none.2]
      rfl
    · rw [none.1]
      rfl
  | resumes phase | yields phase | shutsQueue phase | closes phase | bequeaths phase
  | diesOut phase | concludes phase | aborts phase | drainsDry phase =>
    refine .of_nothing rfl rfl rfl ?_ ?_
    · rw [phase]
      rfl
    · rw [phase]
      rfl

theorem Step.posts (step : Step around worker shared action outcome)
    (quiet : shared.signal.fired = false) (sound : worker.Sound around.fed) :
    Posts worker outcome.1 outcome.2.2 := by
  refine step.posts_of_kept ?_ sound
  rintro rfl
  exact absurd step.fired_of_giveUp (by simp [quiet])

structure Accounts (effects : List LaneEffect) (worker : Worker) : Prop where
  played : worker.report.played = (reported effects).length
  failed : worker.report.failed = (reported effects).countP fun stat => stat.error.isSome
  misses : worker.report.misses = (reported effects).countP (fun stat => stat.miss) +
    if worker.phase.missed then 1 else 0
  served : ∃ served, requests (taken effects) = served ++ requests worker.phase.held?.toList ∧
    List.Forall₂ (DescribesOn worker.lane) (reported effects) served

theorem Accounts.opened (lane : LaneId) (scope : CursorScope) (predecessor : Option WorkerId) :
    Accounts [] (opened lane scope predecessor) := by
  cases predecessor <;> exact ⟨rfl, rfl, rfl, [], rfl, .nil⟩

theorem Accounts.post (accounts : worker.Accounts effects) (posts : Posts worker after new)
    (same : after.lane = worker.lane) : after.Accounts (effects ++ new) := by
  obtain ⟨before, kept, described⟩ := accounts.served
  obtain ⟨served, moved, new_described⟩ := posts.served
  refine ⟨?_, ?_, ?_, before ++ served, ?_, ?_⟩
  · rw [reported_append, List.length_append, posts.played, accounts.played]
  · rw [reported_append, List.countP_append, posts.failed, accounts.failed]
  · have misses := posts.misses
    rw [accounts.misses] at misses
    rw [reported_append, List.countP_append]
    omega
  · rw [taken_append, requests_append, kept, List.append_assoc, ← requests_append, moved,
      List.append_assoc]
  · rw [reported_append, same]
    exact List.rel_append described new_described

theorem Step.seq (step : Step around worker shared action outcome)
    (going : ∀ predecessor, worker.phase ≠ .succeeding predecessor) :
    (reported outcome.2.2).map Stat.seq =
        List.range' worker.memory.seq (reported outcome.2.2).length ∧
      outcome.1.memory.seq = worker.memory.seq + (reported outcome.2.2).length := by
  cases step with
  | shifts shift =>
    rw [shift.reported]
    exact ⟨rfl, rfl⟩
  | resumes phase => exact absurd phase (going _)
  | correlates =>
    rw [reported_binds]
    exact ⟨rfl, by rw [LaneMemory.correlate_same]; rfl⟩
  | plays _ _ learnt =>
    have same : _ = worker.memory.seq := learnt ▸ worker.afterSending_seq ..
    refine ⟨?_, congrArg (· + 1) same⟩
    simp [reported, LaneEffect.stat?, Stat.ofOutcome, same]
  | @hears _ _ _ _ told _ _ _ learnt =>
    have same : told.1.seq = worker.memory.seq := by
      rw [← learnt, LaneMemory.onReply_same]
    refine ⟨?_, ?_⟩
    · simp [reported, LaneEffect.stat?, Stat.ofOutcome, same]
    · dsimp only
      split <;> exact congrArg (· + 1) same
  | closes =>
    refine ⟨rfl, ?_⟩
    unfold close
    dsimp only
    split <;> rfl
  | _ => exact ⟨rfl, rfl⟩

end Worker

end TrafficReplay
