import TrafficReplay.Proofs.Lane.Smooth

namespace TrafficReplay

def WorkerPhase.rank : WorkerPhase → Nat
  | .succeeding _ => 60
  | .acquiring .trying => 55
  | .acquiring .counting => 54
  | .acquiring .announcing => 53
  | .acquiring .queueing => 52
  | .acquiring .queued => 51
  | .connecting => 50
  | .authenticating => 49
  | .holding _ => 42
  | .pacing _ => 41
  | .due _ => 40
  | .sending _ unsent => if unsent = [] then 36 else 37
  | .awaiting _ => 35
  | .polling => 20
  | .idle => 19
  | .watching _ => 18
  | .yielding _ => 17
  | .parked _ => 16
  | .closing _ => 12
  | .leaving _ => 11
  | .concluding (.refused _) => 10
  | .concluding _ => 9
  | .draining => 8
  | .ended => 0

/-- An action that a worker does not have to repeat before it can go on. -/
def WorkerAction.isDecisive (phase : WorkerPhase) : WorkerAction → Prop
  | .wake => False
  | .wrote count => ∀ issue unsent, phase = .sending issue unsent → count = unsent.length
  | .received reply => ∀ issue, phase = .awaiting issue → reply.responseTo = issue.record.requestId
  | _ => True

namespace Worker

/-- A queued record weighs more than any way from taking it to looking for the next one. -/
def rank (worker : Worker) : Nat := 60 * worker.queue.length + worker.phase.rank

variable {around : Surroundings} {worker : Worker} {shared : Shared} {action : WorkerAction}
  {outcome : Outcome}

theorem Shift.descends {phase : WorkerPhase} {after : Shared} {effects : List LaneEffect}
    (shift : Shift around worker shared action phase after effects)
    (decisive : action.isDecisive worker.phase) : phase.rank < worker.phase.rank := by
  cases shift with
  | runsOut at_phase =>
    rcases at_phase with ⟨at_phase, _⟩ | ⟨_, at_phase⟩ <;> rw [at_phase] <;>
      simp [WorkerPhase.rank]
  | leaves at_phase =>
    rename_i ending
    rw [at_phase]
    cases ending <;> simp [WorkerPhase.rank]
  | connects at_phase =>
    rcases at_phase with ⟨_, at_phase, _⟩ | ⟨_, at_phase⟩ <;> rw [at_phase] <;>
      simp [WorkerPhase.rank]
  | wakes => exact decisive.elim
  | passesOver at_phase late => exact absurd (decisive _ at_phase) late
  | @writes issue unsent count at_phase some =>
    obtain rfl := decisive issue unsent at_phase
    rw [at_phase]
    have nonempty : unsent ≠ [] := by
      rintro rfl
      exact absurd some.1 (by decide)
    simp [WorkerPhase.rank, nonempty]
  | succeeds at_phase | getsSlot at_phase | findsNoSlot at_phase | countsItself at_phase
  | announcesItself at_phase | queuesUp at_phase | takesSlot at_phase | seesSignal at_phase
  | idles at_phase | watches at_phase | parks at_phase | isDue at_phase | paces at_phase
  | reportsRefusal at_phase | givesUpTrying _ at_phase | givesUpQueueing _ at_phase
  | givesUpConnecting _ at_phase | givesUpAuthenticating _ at_phase | givesUpWaiting _ at_phase
  | authenticates at_phase | isRefused at_phase | isDenied at_phase | waited at_phase
  | awaits at_phase =>
    rw [at_phase]
    simp [WorkerPhase.rank]

theorem rank_sending (issue : Issue) (unsent : List UInt8) :
    20 < (WorkerPhase.sending issue unsent).rank := by
  dsimp only [WorkerPhase.rank]
  split <;> decide

theorem rank_awaiting (issue : Issue) : 20 < (WorkerPhase.awaiting issue).rank := by
  simp [WorkerPhase.rank]

theorem Fails.rank {phase : WorkerPhase} {issue : Issue} {error : OpError}
    (fails : Fails phase action issue error) : 20 < phase.rank := by
  cases fails with
  | sending at_phase => exact at_phase ▸ rank_sending ..
  | waiting at_phase | reading at_phase => exact at_phase ▸ rank_awaiting ..

theorem Stops.rank {phase : WorkerPhase} {fired : Bool} {issue : Issue} {error : OpError}
    {ending : LaneEnding} (stops : Stops phase fired action issue error ending) :
    20 < phase.rank := by
  cases stops with
  | cancelled _ at_phase =>
    rcases at_phase with ⟨unsent, at_phase⟩ | at_phase
    · exact at_phase ▸ rank_sending ..
    · exact at_phase ▸ rank_awaiting ..
  | sending at_phase => exact at_phase ▸ rank_sending ..
  | closed at_phase | garbled at_phase => exact at_phase ▸ rank_awaiting ..

theorem rank_afterFailure (settings : LaneSettings) (worker : Worker) :
    (afterFailure settings worker).rank ≤ 60 * worker.queue.length + 20 := by
  rcases afterFailure_phase settings worker with phase | phase <;>
    simp [rank, phase, WorkerPhase.rank]

theorem Step.descends (step : Step around worker shared action outcome)
    (decisive : action.isDecisive worker.phase) : outcome.1.rank < worker.rank := by
  cases step with
  | shifts shift =>
    have lower := shift.descends decisive
    exact Nat.add_lt_add_left lower _
  | takes at_phase queue =>
    rcases at_phase with ⟨at_phase, _⟩ | ⟨_, at_phase⟩ <;>
      simp [rank, WorkerPhase.rank, at_phase, queue] <;> omega
  | drainsReply at_phase queue => simp [rank, queue]
  | drains at_phase queue => simp [rank, queue, emit]
  | withholds at_phase =>
    refine Nat.lt_of_le_of_lt (rank_afterFailure _ _) ?_
    simp [rank, emit, at_phase, WorkerPhase.rank]
  | fails cause =>
    have higher := cause.rank
    refine Nat.lt_of_le_of_lt (rank_afterFailure _ _) ?_
    simp [rank, emit, higher]
  | @stops _ _ _ ending cause =>
    have higher := cause.rank
    have lower : (WorkerPhase.closing ending).rank < worker.phase.rank :=
      Nat.lt_trans (by simp [WorkerPhase.rank]) higher
    exact Nat.add_lt_add_left lower _
  | hears at_phase =>
    dsimp only
    split
    · refine Nat.lt_of_le_of_lt (rank_afterFailure _ _) ?_
      simp [rank, emit, withMemory, at_phase, WorkerPhase.rank]
    · simp [rank, afterSuccess, emit, withMemory, at_phase, WorkerPhase.rank]
  | plays at_phase =>
    simp [rank, afterSuccess, emit, withMemory, at_phase, WorkerPhase.rank]
  | transmits at_phase =>
    simp only [rank, at_phase, WorkerPhase.rank]
    split <;> omega
  | endsCancelled at_phase =>
    rcases at_phase with ⟨_, at_phase⟩ | ⟨_, _, ⟨_, at_phase⟩ | at_phase⟩ <;>
      simp [rank, finishCancelled, finish, at_phase, WorkerPhase.rank]
  | closes at_phase | bequeaths at_phase | diesOut at_phase | concludes at_phase
  | aborts at_phase | drainsDry at_phase | resumes at_phase | yields at_phase
  | shutsQueue at_phase | correlates at_phase | skips _ at_phase =>
    simp [rank, close, finish, withMemory, at_phase, WorkerPhase.rank]

/-- A worker that waits neither for its connection nor for an answer nor for records can go on by
    itself. -/
theorem goes_on (plain : worker.phase.isPlain = true) (going : worker.phase ≠ .ended)
    (connected : worker.phase ≠ .connecting) (heard : ∀ issue, worker.phase ≠ .awaiting issue)
    (supplied : ∀ stamp, worker.phase = .parked stamp →
      worker.queue ≠ [] ∨ worker.isStarved around.fed = true) :
    ∃ action outcome, (action.isSmooth = true ∧ action ≠ .connected) ∧
      action.isDecisive worker.phase ∧ worker.step? around shared action = some outcome := by
  have advances {phase : WorkerPhase} (possible : (worker.advance? around shared).isSome = true) :
      ∃ action outcome, (action.isSmooth = true ∧ action ≠ .connected) ∧
        action.isDecisive phase ∧ worker.step? around shared action = some outcome := by
    obtain ⟨outcome, step⟩ := Option.isSome_iff_exists.mp possible
    exact ⟨.advance, outcome, ⟨rfl, (by simp)⟩, trivial, step⟩
  have took : worker.take?.isSome = true ↔ worker.queue ≠ [] := by
    unfold take?
    cases worker.queue <;> simp
  cases at_phase : worker.phase with
  | acquiring stage =>
    cases stage with
    | trying =>
      apply advances
      simp only [advance?, at_phase, acquire?]
      split <;> rfl
    | _ =>
      rw [at_phase] at plain
      cases plain
  | polling =>
    apply advances
    simp only [advance?, at_phase]
    repeat (split; rfl)
    rfl
  | watching =>
    apply advances
    simp only [advance?, at_phase]
    split <;> rfl
  | parked stamp =>
    apply advances
    simp only [advance?, at_phase]
    split
    · rfl
    · rename_i none
      rcases supplied stamp at_phase with queue | starved
      · exact absurd (took.mpr queue) (by simp [none])
      · rw [if_pos starved]
        rfl
  | idle | holding | due | closing | leaving | concluding =>
    apply advances
    simp only [advance?, at_phase, Option.isSome_some]
  | pacing record =>
    have step : worker.step? around shared .elapsed =
        some (worker.enter (.due record), shared, []) := by
      simp only [step?, at_phase]
    exact ⟨.elapsed, _, ⟨rfl, (by simp)⟩, trivial, step⟩
  | sending issue unsent =>
    cases unsent with
    | nil =>
      have step : worker.step? around shared .sent = some (sent around issue worker shared) := by
        simp only [step?, at_phase]
      exact ⟨.sent, _, ⟨rfl, (by simp)⟩, trivial, step⟩
    | cons byte more =>
      have step : ∃ outcome, worker.step? around shared (.wrote (byte :: more).length) =
          some outcome := by
        simp [step?, at_phase]
      obtain ⟨outcome, step⟩ := step
      refine ⟨.wrote (byte :: more).length, outcome, ⟨rfl, (by simp)⟩, ?_, step⟩
      rintro _ _ ⟨⟩
      rfl
  | connecting => exact absurd at_phase connected
  | awaiting issue => exact absurd at_phase (heard issue)
  | ended => exact absurd at_phase going
  | succeeding | authenticating | yielding | draining =>
    rw [at_phase] at plain
    cases plain

end Worker

end TrafficReplay
