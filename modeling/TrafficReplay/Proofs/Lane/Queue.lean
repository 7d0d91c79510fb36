import TrafficReplay.Proofs.Lane.Step

namespace TrafficReplay

def LaneEffect.taken? : LaneEffect → Option Record
  | .took record => some record
  | _ => none

def LaneEffect.stat? : LaneEffect → Option Stat
  | .reports stat => some stat
  | _ => none

def taken (effects : List LaneEffect) : List Record := effects.filterMap LaneEffect.taken?

def reported (effects : List LaneEffect) : List Stat := effects.filterMap LaneEffect.stat?

theorem taken_append (first second : List LaneEffect) :
    taken (first ++ second) = taken first ++ taken second := List.filterMap_append

theorem reported_append (first second : List LaneEffect) :
    reported (first ++ second) = reported first ++ reported second := List.filterMap_append

theorem taken_binds (found : Option (Int64 × Int64)) :
    taken (found.map fun (recorded, live) => .binds recorded live).toList = [] := by
  cases found <;> rfl

theorem reported_binds (found : Option (Int64 × Int64)) :
    reported (found.map fun (recorded, live) => .binds recorded live).toList = [] := by
  cases found <;> rfl

def WorkerPhase.isUnderway : WorkerPhase → Bool
  | .succeeding _ | .ended => false
  | _ => true

namespace Worker

variable {around : Surroundings} {worker : Worker} {shared : Shared} {action : WorkerAction}
  {outcome : Outcome}

@[simp] theorem afterFailure_lane (settings : LaneSettings) (worker : Worker) :
    (afterFailure settings worker).lane = worker.lane := rfl

@[simp] theorem afterFailure_queue (settings : LaneSettings) (worker : Worker) :
    (afterFailure settings worker).queue = worker.queue := rfl

@[simp] theorem afterFailure_accepting (settings : LaneSettings) (worker : Worker) :
    (afterFailure settings worker).accepting = worker.accepting := rfl

@[simp] theorem afterFailure_handoff (settings : LaneSettings) (worker : Worker) :
    (afterFailure settings worker).handoff = worker.handoff := rfl

@[simp] theorem afterFailure_report (settings : LaneSettings) (worker : Worker) :
    (afterFailure settings worker).report = worker.report := rfl

theorem afterFailure_phase (settings : LaneSettings) (worker : Worker) :
    (afterFailure settings worker).phase = .closing (.aborted .consecutiveFailures) ∨
      (afterFailure settings worker).phase = .polling := by
  unfold afterFailure
  dsimp only
  split
  · exact .inl rfl
  · exact .inr rfl

theorem afterFailure_not_ended (settings : LaneSettings) (worker : Worker) :
    (afterFailure settings worker).phase ≠ .ended := by
  rcases afterFailure_phase settings worker with phase | phase <;> rw [phase] <;> exact nofun

theorem Shift.taken {phase : WorkerPhase} {after : Shared} {effects : List LaneEffect}
    (shift : Shift around worker shared action phase after effects) : taken effects = [] := by
  cases shift <;> rfl

theorem Shift.reported {phase : WorkerPhase} {after : Shared} {effects : List LaneEffect}
    (shift : Shift around worker shared action phase after effects) : reported effects = [] := by
  cases shift <;> rfl

theorem Shift.signal {phase : WorkerPhase} {after : Shared} {effects : List LaneEffect}
    (shift : Shift around worker shared action phase after effects) :
    after.signal = shared.signal := by
  cases shift <;> rfl

theorem Step.lane (step : Step around worker shared action outcome) :
    outcome.1.lane = worker.lane := by
  cases step with
  | hears => dsimp only; split <;> rfl
  | _ => rfl

theorem Step.queue (step : Step around worker shared action outcome) :
    worker.queue = taken outcome.2.2 ++ outcome.1.queue := by
  cases step with
  | shifts shift => rw [shift.taken]; rfl
  | takes _ queue => exact queue
  | drainsReply _ queue _ => exact queue
  | drains _ queue _ _ => exact queue
  | correlates => rw [taken_binds]; rfl
  | hears => dsimp only; split <;> rfl
  | _ => rfl

theorem Step.accepting (step : Step around worker shared action outcome)
    (open_after : outcome.1.accepting = true) : worker.accepting = true := by
  cases step with
  | hears => revert open_after; dsimp only; split <;> exact id
  | shutsQueue | bequeaths | diesOut | concludes | endsCancelled | drainsDry => cases open_after
  | _ => exact open_after

theorem Step.signal (step : Step around worker shared action outcome) :
    outcome.2.1.signal = shared.signal := by
  cases step with
  | shifts shift => exact shift.signal
  | _ => rfl

theorem Step.not_ended (step : Step around worker shared action outcome) :
    worker.phase ≠ .ended := by
  intro ended
  cases step with
  | shifts shift => cases shift <;> simp_all
  | fails cause => cases cause <;> simp_all
  | stops cause => cases cause <;> simp_all
  | _ => simp_all

theorem Step.not_succeeding (step : Step around worker shared action outcome)
    (predecessor : WorkerId) : outcome.1.phase ≠ .succeeding predecessor := by
  cases step with
  | shifts shift => cases shift <;> exact nofun
  | withholds | fails =>
    intro back
    rcases afterFailure_phase around.settings _ with after | after <;>
      exact absurd (after.symm.trans back) nofun
  | hears =>
    dsimp only
    split
    · intro back
      rcases afterFailure_phase around.settings _ with after | after <;>
        exact absurd (after.symm.trans back) nofun
    · exact nofun
  | drainsReply phase | drains phase => rw [show _ = _ from phase]; exact nofun
  | _ => exact nofun

/-- What becomes of a worker that waits for its predecessor. -/
inductive Succeeds (around : Surroundings) (worker : Worker) (shared : Shared) :
    WorkerAction → Outcome → Prop
  | resumes {memory : LaneMemory} (legacy : around.legacy = .passed memory) :
      Succeeds around worker shared .advance
        ({ worker with memory := memory, phase := .acquiring .trying }, shared, [])
  | startsAnew (nothing : around.legacy = .taken ∨ around.legacy = .dropped) :
      Succeeds around worker shared .advance (worker.enter (.acquiring .trying), shared, [])
  | givesUp (fired : shared.signal.fired = true) :
      Succeeds around worker shared .giveUp (worker.finishCancelled, shared, [])

theorem Step.of_succeeding (step : Step around worker shared action outcome)
    {predecessor : WorkerId} (waiting : worker.phase = .succeeding predecessor) :
    Succeeds around worker shared action outcome := by
  cases step with
  | resumes _ legacy => exact .resumes legacy
  | endsCancelled phase =>
    rcases phase with ⟨_, phase⟩ | ⟨rfl, fired, _⟩
    · exact absurd (waiting.symm.trans phase) nofun
    · exact .givesUp fired
  | shifts shift =>
    cases shift with
    | succeeds _ nothing => exact .startsAnew nothing
    | _ => simp_all
  | fails cause => cases cause <;> simp_all
  | stops cause => cases cause <;> simp_all
  | _ => simp_all

end Worker

end TrafficReplay
