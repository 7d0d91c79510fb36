import Mathlib.Data.List.DropRight
import TrafficReplay.Proofs.Lane.Lifecycle
import TrafficReplay.Proofs.Lane.Translation
import TrafficReplay.Proofs.Latest

namespace TrafficReplay

/-- Whether the operation that a step completes has failed. Nothing is said of a step that completes
    none, and of one that ends the lane because the link is lost or the run cancelled. -/
def LaneStep.failed? (step : LaneStep) : Option Bool :=
  match step.action, step.before.phase with
  | .advance, .due _ => if (reported step.effects).isEmpty then none else some true
  | .sent, .sending issue [] =>
    if issue.record.frame.opCode.expectsReply then none else some false
  | .sendFailed fault, .sending _ _ => if fault.kind.losesLink then none else some true
  | .timedOut, .awaiting _ => some true
  | .received reply, .awaiting issue =>
    if reply.responseTo = issue.record.requestId then
      match reply.replySummary with
      | .ok summary => some summary.failed
      | .error _ => some true
    else none
  | _, _ => none

def failuresInRow (log : List LaneStep) : Nat :=
  ((log.filterMap LaneStep.failed?).rtakeWhile id).length

section failuresInRow

variable {log : List LaneStep} {step : LaneStep}

theorem failuresInRow_of_none (nothing : step.failed? = none) :
    failuresInRow (log ++ [step]) = failuresInRow log := by
  simp [failuresInRow, nothing]

theorem failuresInRow_of_failure (failure : step.failed? = some true) :
    failuresInRow (log ++ [step]) = failuresInRow log + 1 := by
  simp [failuresInRow, failure]

theorem failuresInRow_of_success (success : step.failed? = some false) :
    failuresInRow (log ++ [step]) = 0 := by
  simp [failuresInRow, success]

/-- Some operation was one failure in a row too many. -/
def Exceeded (limit : UInt32) (log : List LaneStep) : Prop :=
  ∃ before step after, log = before ++ step :: after ∧ step.failed? = some true ∧
    failuresInRow (before ++ [step]) = limit.toNat + 1

theorem exceeded_concat {limit : UInt32} : Exceeded limit (log ++ [step]) ↔
    Exceeded limit log ∨
      step.failed? = some true ∧ failuresInRow (log ++ [step]) = limit.toNat + 1 := by
  constructor
  · rintro ⟨before, other, after, split, failure, many⟩
    rcases concat_split split with ⟨rfl, rfl, rfl⟩ | ⟨front, rfl, rfl⟩
    · exact .inr ⟨failure, many⟩
    · exact .inl ⟨before, other, front, rfl, failure, many⟩
  · rintro (⟨before, other, after, rfl, failure, many⟩ | ⟨failure, many⟩)
    · exact ⟨before, other, after ++ [step], by simp, failure, many⟩
    · exact ⟨log, step, [], rfl, failure, many⟩

end failuresInRow

namespace Worker

def AbortsFor (reason : LaneAbort) (worker : Worker) : Prop :=
  worker.phase.ending? = some (.aborted reason) ∨ worker.report.abort = some reason

/-- What becomes of the failures in a row in a step, by what the step completes. -/
inductive Tally (limit : UInt32) (worker after : Worker) : Option Bool → Prop
  | apart (same : after.memory.failures = worker.memory.failures)
      (stays : after.AbortsFor .consecutiveFailures ↔ worker.AbortsFor .consecutiveFailures) :
      Tally limit worker after none
  | succeeds {record : Record} (busy : worker.phase.held? = some record)
      (restarts : after.memory.failures = 0) (goes_on : after.phase = .polling)
      (unaborted : after.report.abort = worker.report.abort) :
      Tally limit worker after (some false)
  | fails {record : Record} (busy : worker.phase.held? = some record)
      (more : after.memory.failures = worker.memory.failures + 1)
      (phase : after.phase = if 0 < limit ∧ limit < after.memory.failures
        then .closing (.aborted .consecutiveFailures) else .polling)
      (unaborted : after.report.abort = worker.report.abort) :
      Tally limit worker after (some true)

variable {around : Surroundings} {worker : Worker} {shared : Shared} {action : WorkerAction}
  {outcome : Outcome}

theorem afterFailure_phase_eq (settings : LaneSettings) (worker : Worker) :
    (afterFailure settings worker).phase =
      if 0 < settings.maxFailures ∧ settings.maxFailures < (afterFailure settings worker).memory.failures
        then .closing (.aborted .consecutiveFailures) else .polling := by
  simp [afterFailure, LaneMemory.tooManyFailures]

theorem Shift.failed? {phase : WorkerPhase} {after : Shared} {effects : List LaneEffect}
    (shift : Shift around worker shared action phase after effects) :
    LaneStep.failed? ⟨worker, action, effects⟩ = none := by
  cases shift with
  | runsOut at_phase =>
    rcases at_phase with ⟨at_phase, _⟩ | ⟨_, at_phase⟩ <;> simp [LaneStep.failed?, at_phase]
  | connects at_phase => rcases at_phase with ⟨rfl, _⟩ | ⟨rfl, _⟩ <;> simp [LaneStep.failed?]
  | isRefused at_phase cause | isDenied at_phase cause =>
    rcases cause with rfl | ⟨rfl, _⟩ <;> simp [LaneStep.failed?, at_phase]
  | _ => simp_all [LaneStep.failed?]

theorem Shift.aborting {phase : WorkerPhase} {after : Shared} {effects : List LaneEffect}
    (shift : Shift around worker shared action phase after effects) :
    phase.ending? = some (.aborted .consecutiveFailures) ↔
      worker.phase.ending? = some (.aborted .consecutiveFailures) := by
  constructor
  · intro ends
    rcases shift.ending ends with before | ⟨other, _⟩ | ⟨other, _⟩ | ⟨_, other⟩ | other
    · exact before
    all_goals cases other
  · intro ends
    cases shift with
    | leaves at_phase =>
      rw [at_phase] at ends
      exact ends
    | runsOut at_phase =>
      rcases at_phase with ⟨at_phase, _⟩ | ⟨_, at_phase⟩ <;> rw [at_phase] at ends <;> cases ends
    | connects at_phase =>
      rcases at_phase with ⟨_, at_phase, _⟩ | ⟨_, at_phase⟩ <;> rw [at_phase] at ends <;> cases ends
    | _ => simp_all [WorkerPhase.ending?]

theorem Fails.failed? {issue : Issue} {error : OpError} {effects : List LaneEffect}
    (cause : Fails worker.phase action issue error) :
    LaneStep.failed? ⟨worker, action, effects⟩ = some true ∧
      worker.phase.held? = some issue.record := by
  cases cause with
  | sending at_phase kept =>
    exact ⟨by simp [LaneStep.failed?, at_phase, kept], by rw [at_phase]; rfl⟩
  | waiting at_phase => exact ⟨by simp [LaneStep.failed?, at_phase], by rw [at_phase]; rfl⟩
  | reading at_phase own unreadable =>
    exact ⟨by simp [LaneStep.failed?, at_phase, own, unreadable], by rw [at_phase]; rfl⟩

theorem Stops.failed? {fired : Bool} {issue : Issue} {error : OpError} {ending : LaneEnding}
    {effects : List LaneEffect} (cause : Stops worker.phase fired action issue error ending) :
    LaneStep.failed? ⟨worker, action, effects⟩ = none ∧
      ending ≠ .aborted .consecutiveFailures ∧ worker.phase.ending? = none := by
  cases cause with
  | cancelled _ at_phase =>
    rcases at_phase with ⟨_, at_phase⟩ | at_phase <;>
      exact ⟨rfl, nofun, by rw [at_phase]; rfl⟩
  | sending at_phase cause =>
    rcases cause with rfl | ⟨_, rfl, lost⟩
    · exact ⟨by simp [LaneStep.failed?, at_phase], nofun, by rw [at_phase]; rfl⟩
    · exact ⟨by simp [LaneStep.failed?, at_phase, lost], nofun, by rw [at_phase]; rfl⟩
  | closed at_phase | garbled at_phase =>
    exact ⟨rfl, nofun, by rw [at_phase]; rfl⟩

theorem close_same (ending : LaneEnding) (worker : Worker) (shared : Shared) :
    (close ending worker shared).1.memory.failures = worker.memory.failures ∧
      (close ending worker shared).1.phase = .leaving ending ∧
      (close ending worker shared).1.report = worker.report := by
  unfold close
  dsimp only
  split <;> exact ⟨rfl, rfl, rfl⟩

/-- A worker goes on with the failures it has, but for the operations that it completes. -/
theorem Step.tally (step : Step around worker shared action outcome)
    (own : ∀ memory, around.legacy ≠ .passed memory) (out : worker.OutOnceAborted) :
    Tally around.settings.maxFailures worker outcome.1
      (LaneStep.failed? ⟨worker, action, outcome.2.2⟩) := by
  -- A step between phases in which the lane does not stop for its failures.
  have between (nothing : LaneStep.failed? ⟨worker, action, outcome.2.2⟩ = none)
      (same : outcome.1.memory.failures = worker.memory.failures)
      (before : worker.phase.ending? ≠ some (.aborted .consecutiveFailures))
      (after : outcome.1.phase.ending? ≠ some (.aborted .consecutiveFailures))
      (unaborted : outcome.1.report.abort = worker.report.abort) :
      Tally around.settings.maxFailures worker outcome.1
        (LaneStep.failed? ⟨worker, action, outcome.2.2⟩) := by
    rw [nothing]
    apply Tally.apart same
    unfold AbortsFor
    simp only [before, after, unaborted, false_or]
  cases step with
  | shifts shift =>
    rw [shift.failed?]
    refine .apart rfl ?_
    exact or_congr shift.aborting Iff.rfl
  | resumes _ legacy => exact absurd legacy (own _)
  | takes phase =>
    rcases phase with ⟨phase, _⟩ | ⟨_, phase⟩ <;>
      exact between (by simp [LaneStep.failed?, phase]) rfl (by rw [phase]; exact nofun) nofun rfl
  | yields phase | shutsQueue phase =>
    exact between (by simp [LaneStep.failed?, phase]) rfl (by rw [phase]; exact nofun) nofun rfl
  | correlates phase =>
    exact between (by simp [LaneStep.failed?, phase]) (by rw [LaneMemory.correlate_same])
      (by rw [phase]; exact nofun) nofun rfl
  | withholds phase =>
    rw [show LaneStep.failed? _ = some true by simp [LaneStep.failed?, phase, reported,
      LaneEffect.stat?]]
    exact .fails (by rw [phase]; rfl) rfl (afterFailure_phase_eq ..) rfl
  | transmits phase =>
    exact between (by simp [LaneStep.failed?, phase, reported, LaneEffect.stat?]) rfl
      (by rw [phase]; exact nofun) nofun rfl
  | skips _ phase => exact between rfl rfl (by rw [phase]; exact nofun) nofun rfl
  | fails cause =>
    obtain ⟨failure, busy⟩ := cause.failed?
    rw [failure]
    exact .fails busy rfl (afterFailure_phase_eq ..) rfl
  | stops cause =>
    obtain ⟨nothing, other, before⟩ := cause.failed?
    exact between nothing rfl (by rw [before]; exact nofun)
      (fun ends => other (Option.some.inj ends)) rfl
  | plays phase unanswered learnt =>
    rw [show LaneStep.failed? _ = some false by simp [LaneStep.failed?, phase, unanswered]]
    exact .succeeds (by rw [phase]; rfl) rfl rfl rfl
  | @hears issue reply summary played told phase own readable learnt =>
    rw [show LaneStep.failed? _ = some summary.failed by
      simp [LaneStep.failed?, phase, own, readable]]
    have same : told.1.failures = worker.memory.failures := by
      rw [← learnt, LaneMemory.onReply_same]
    dsimp only
    cases summary.failed with
    | true =>
      refine .fails (by rw [phase]; rfl) ?_ (afterFailure_phase_eq ..) rfl
      exact congrArg (· + 1) same
    | false => exact .succeeds (by rw [phase]; rfl) rfl rfl rfl
  | @closes ending phase =>
    rw [show LaneStep.failed? _ = none by simp [LaneStep.failed?, phase]]
    have same := close_same ending worker shared
    refine .apart same.1 ?_
    unfold AbortsFor
    rw [same.2.1, same.2.2, phase]
    exact Iff.rfl
  | bequeaths phase | diesOut phase | concludes phase =>
    exact between (by simp [LaneStep.failed?, phase]) rfl (by rw [phase]; exact nofun) nofun rfl
  | endsCancelled phase =>
    rcases phase with ⟨rfl, phase⟩ | ⟨rfl, _, ⟨_, phase⟩ | phase⟩ <;>
      exact between (by simp [LaneStep.failed?, phase]) rfl (by rw [phase]; exact nofun) nofun rfl
  | aborts phase =>
    rw [show LaneStep.failed? _ = none by simp [LaneStep.failed?, phase]]
    refine .apart rfl ?_
    have fresh : worker.report.abort = none :=
      out.abort_eq_none (by rw [phase]; exact nofun) (by rw [phase]; exact nofun)
    simp [AbortsFor, phase, fresh, WorkerPhase.ending?]
  | drainsReply phase | drains phase =>
    have draining : worker.phase = .draining := phase
    refine between (by simp [LaneStep.failed?, draining]) rfl (by rw [draining]; exact nofun) ?_ rfl
    rw [show _ = _ from phase]
    exact nofun
  | drainsDry phase =>
    exact between (by simp [LaneStep.failed?, phase]) rfl (by rw [phase]; exact nofun) nofun rfl

theorem Step.passes (step : Step around worker shared action outcome)
    (undecided : worker.handoff = .undecided) (out : worker.OutOnceAborted) (memory : LaneMemory)
    (passed : outcome.1.handoff = .passed memory) : outcome.1.report.abort = none := by
  cases step with
  | bequeaths phase => exact out.abort_eq_none (by simp [phase]) (by simp [phase])
  | diesOut | concludes | drainsDry | endsCancelled =>
    simp [finish, finishCancelled, withMemory, undecided] at passed
  | hears =>
    revert passed
    dsimp only
    split
    all_goals
      intro passed
      cases undecided.symm.trans passed
  | _ => cases undecided.symm.trans passed

theorem Step.completes_nothing (step : Step around worker shared action outcome)
    {predecessor : WorkerId} (waiting : worker.phase = .succeeding predecessor) :
    LaneStep.failed? ⟨worker, action, outcome.2.2⟩ = none ∧
      outcome.1.phase.ending? = none ∧ outcome.1.report.abort = worker.report.abort := by
  cases step.of_succeeding waiting <;> exact ⟨by simp [LaneStep.failed?, waiting], rfl, rfl⟩

theorem remembers_of_held {record : Record} (held : worker.phase.held? = some record) :
    worker.Remembers := by
  unfold Remembers
  cases phase : worker.phase with
  | leaving | concluding | draining | ended =>
    rw [phase] at held
    cases held
  | _ => trivial

theorem abort_of_held {record : Record} (held : worker.phase.held? = some record)
    (out : worker.OutOnceAborted) : worker.report.abort = none := by
  apply out.abort_eq_none
  · intro phase
    rw [phase] at held
    cases held
  · intro phase
    rw [phase] at held
    cases held

theorem not_abortsFor_of_held {record : Record} (held : worker.phase.held? = some record)
    (out : worker.OutOnceAborted) (reason : LaneAbort) : ¬worker.AbortsFor reason := by
  rintro (ending | aborted)
  · cases phase : worker.phase with
    | closing | leaving | concluding =>
      rw [phase] at held
      cases held
    | _ =>
      rw [phase] at ending
      cases ending
  · exact absurd ((abort_of_held held out).symm.trans aborted) nofun

end Worker

inductive LimitedRun (limit : UInt32) (scope : CursorScope) : List LaneStep → Worker → Prop
  | opened (lane : LaneId) (predecessor : Option WorkerId) :
      LimitedRun limit scope [] (.opened lane scope predecessor)
  | fed {log : List LaneStep} {worker : Worker} (run : LimitedRun limit scope log worker)
      (record : Record) :
      LimitedRun limit scope log { worker with queue := worker.queue ++ [record] }
  | steps {log : List LaneStep} {worker : Worker} {around : Surroundings} {shared : Shared}
      {action : WorkerAction} {outcome : Worker.Outcome} (run : LimitedRun limit scope log worker)
      (limited : around.settings.maxFailures = limit)
      (own : ∀ memory, around.legacy ≠ .passed memory)
      (step : Worker.Step around worker shared action outcome) :
      LimitedRun limit scope (log ++ [⟨worker, action, outcome.2.2⟩]) outcome.1
  | inherits {log : List LaneStep} {old worker : Worker} {memory : LaneMemory}
      {around : Surroundings} {shared : Shared} {action : WorkerAction} {outcome : Worker.Outcome}
      (run : LimitedRun limit scope log old) (passed : old.handoff = .passed memory)
      {predecessor : WorkerId} (heir : LimitedRun limit scope [] worker)
      (same : worker.lane = old.lane) (waiting : worker.phase = .succeeding predecessor)
      (limited : around.settings.maxFailures = limit) (legacy : around.legacy = .passed memory)
      (step : Worker.Step around worker shared action outcome) :
      LimitedRun limit scope (log ++ [⟨worker, action, outcome.2.2⟩]) outcome.1

namespace LimitedRun

variable {limit : UInt32} {scope : CursorScope} {log : List LaneStep} {worker : Worker}

theorem laneRun (run : LimitedRun limit scope log worker) : LaneRun scope log worker := by
  induction run with
  | opened lane predecessor => exact .opened lane predecessor
  | fed _ record ih => exact ih.fed record
  | steps _ _ own step ih => exact ih.steps own step
  | inherits _ passed _ same waiting _ legacy step ih heir =>
    exact ih.inherits passed heir same waiting legacy step

theorem outOnceAborted (run : LimitedRun limit scope log worker) :
    worker.OutOnceAborted ∧ ∀ memory, worker.handoff = .passed memory → worker.report.abort = none := by
  induction run with
  | opened lane predecessor => exact ⟨nofun, fun _ _ => rfl⟩
  | fed _ _ ih => exact ih
  | steps run _ _ step ih =>
    have undecided := run.laneRun.bequest.1 step.not_ended
    exact ⟨step.outOnceAborted ih.1, step.passes undecided ih.1⟩
  | inherits _ _ heir _ _ _ _ step _ ih =>
    have undecided := heir.laneRun.bequest.1 step.not_ended
    exact ⟨step.outOnceAborted ih.1, step.passes undecided ih.1⟩

end LimitedRun

/-- What a lane has counted is what its history says, and it stops as soon as there are too many. -/
structure Counted (limit : UInt32) (log : List LaneStep) (worker : Worker) : Prop where
  count : worker.Remembers → worker.memory.failures.toNat = failuresInRow log
  within : ¬Exceeded limit log → failuresInRow log ≤ limit.toNat
  aborts : worker.AbortsFor .consecutiveFailures ↔ Exceeded limit log
  prompt : ∀ before step, log = before ++ [step] → step.failed? = some true →
    failuresInRow log = limit.toNat + 1 →
    worker.phase = .closing (.aborted .consecutiveFailures)
  last : ∀ before step after, log = before ++ step :: after → step.failed? = some true →
    failuresInRow (before ++ [step]) = limit.toNat + 1 → ∀ later ∈ after, later.failed? = none

namespace Counted

variable {limit : UInt32} {log : List LaneStep} {step : LaneStep} {worker after : Worker}

theorem apart (counted : Counted limit log worker) (nothing : step.failed? = none)
    (count : after.Remembers → worker.Remembers ∧ after.memory.failures = worker.memory.failures)
    (aborts : after.AbortsFor .consecutiveFailures ↔ worker.AbortsFor .consecutiveFailures) :
    Counted limit (log ++ [step]) after := by
  have unchanged : Exceeded limit (log ++ [step]) ↔ Exceeded limit log := by
    rw [exceeded_concat]
    simp only [nothing, reduceCtorEq, false_and, or_false]
  constructor
  · intro remembers
    obtain ⟨before, same⟩ := count remembers
    rw [same, failuresInRow_of_none nothing, counted.count before]
  · rw [unchanged, failuresInRow_of_none nothing]
    exact counted.within
  · rw [unchanged, aborts]
    exact counted.aborts
  · intro before other split failure
    obtain ⟨_, single⟩ := List.append_inj' split rfl
    cases single
    rw [nothing] at failure
    cases failure
  · intro before other rest split failure many later member
    rcases concat_split split with ⟨rfl, rfl, rfl⟩ | ⟨front, rfl, rfl⟩
    · cases member
    · rcases List.mem_append.mp member with earlier | final
      · exact counted.last before other front rfl failure many later earlier
      · rw [List.mem_singleton.mp final]
        exact nothing

theorem last_of_not_exceeded (unreached : ¬Exceeded limit log) (before : List LaneStep)
    (other : LaneStep) (rest : List LaneStep) (split : log ++ [step] = before ++ other :: rest)
    (failure : other.failed? = some true)
    (many : failuresInRow (before ++ [other]) = limit.toNat + 1) : rest = [] := by
  rcases concat_split split with ⟨rfl, rfl, rfl⟩ | ⟨front, rfl, rfl⟩
  · rfl
  · exact absurd ⟨before, other, front, rfl, failure, many⟩ unreached

theorem succeeds (unreached : ¬Exceeded limit log) (success : step.failed? = some false)
    (restarts : after.memory.failures = 0) (unaborted : ¬after.AbortsFor .consecutiveFailures) :
    Counted limit (log ++ [step]) after := by
  have still : ¬Exceeded limit (log ++ [step]) := by
    rw [exceeded_concat, success]
    rintro (reached | ⟨other, _⟩)
    · exact unreached reached
    · cases other
  constructor
  · intro _
    rw [restarts, failuresInRow_of_success success]
    rfl
  · intro _
    rw [failuresInRow_of_success success]
    exact Nat.zero_le _
  · exact iff_of_false unaborted still
  · intro before other split failure many
    exact absurd ⟨before, other, [], split, failure, split ▸ many⟩ still
  · intro before other rest split failure many later member
    rw [last_of_not_exceeded unreached before other rest split failure many] at member
    cases member

theorem fails (counted : Counted limit log worker) (limited : 0 < limit)
    (bounded : limit.toNat + 1 < 2 ^ 32) (unreached : ¬Exceeded limit log)
    (remembers : worker.Remembers) (failure : step.failed? = some true)
    (more : after.memory.failures = worker.memory.failures + 1)
    (phase : after.phase = if 0 < limit ∧ limit < after.memory.failures
      then .closing (.aborted .consecutiveFailures) else .polling)
    (unaborted : after.report.abort = none) : Counted limit (log ++ [step]) after := by
  have few := counted.within unreached
  have row : failuresInRow (log ++ [step]) = failuresInRow log + 1 :=
    failuresInRow_of_failure failure
  have count : after.memory.failures.toNat = failuresInRow log + 1 := by
    rw [more, UInt32.toNat_add, counted.count remembers]
    have one : (1 : UInt32).toNat = 1 := rfl
    rw [one]
    exact Nat.mod_eq_of_lt (by omega)
  have many : limit < after.memory.failures ↔ failuresInRow (log ++ [step]) = limit.toNat + 1 := by
    rw [UInt32.lt_iff_toNat_lt, count, row]
    omega
  have reached : Exceeded limit (log ++ [step]) ↔
      failuresInRow (log ++ [step]) = limit.toNat + 1 := by
    rw [exceeded_concat]
    simp only [unreached, failure, true_and, false_or]
  constructor
  · exact fun _ => count.trans row.symm
  · rw [reached]
    omega
  · rw [reached, ← many]
    unfold Worker.AbortsFor
    rw [phase, unaborted]
    by_cases exceeds : limit < after.memory.failures
    · simp [limited, exceeds, WorkerPhase.ending?]
    · simp [exceeds, WorkerPhase.ending?]
  · intro _ _ _ _ exceeds
    rw [phase, if_pos ⟨limited, many.mpr exceeds⟩]
  · intro before other rest split failed exceeds later member
    rw [last_of_not_exceeded unreached before other rest split failed exceeds] at member
    cases member

end Counted

namespace LimitedRun

variable {limit : UInt32} {scope : CursorScope} {log : List LaneStep} {worker : Worker}

theorem begins_unaborted (heir : LimitedRun limit scope log worker) {around : Surroundings}
    {shared : Shared} {action : WorkerAction} {outcome : Worker.Outcome} {predecessor : WorkerId}
    (waiting : worker.phase = .succeeding predecessor)
    (step : Worker.Step around worker shared action outcome) (reason : LaneAbort) :
    ¬outcome.1.AbortsFor reason := by
  obtain ⟨_, ending, unaborted⟩ := step.completes_nothing waiting
  have fresh : worker.report.abort = none :=
    heir.outOnceAborted.1.abort_eq_none (by rw [waiting]; exact nofun)
      (by rw [waiting]; exact nofun)
  unfold Worker.AbortsFor
  rw [ending, unaborted, fresh]
  rintro (ending | aborted)
  · cases ending
  · cases aborted

theorem counted (run : LimitedRun limit scope log worker) (limited : 0 < limit)
    (bounded : limit.toNat + 1 < 2 ^ 32) : Counted limit log worker := by
  induction run with
  | opened lane predecessor =>
    have unreached : ¬Exceeded limit [] := by
      rintro ⟨before, step, after, split, _⟩
      exact absurd split (by simp)
    refine ⟨fun _ => rfl, fun _ => Nat.zero_le _, iff_of_false ?_ unreached, ?_, ?_⟩
    · cases predecessor <;> exact nofun
    · intro before step split
      exact absurd split (by simp)
    · intro before step after split
      exact absurd split (by simp)
  | fed _ _ ih => exact ⟨ih.count, ih.within, ih.aborts, ih.prompt, ih.last⟩
  | @steps log worker around shared action outcome run limit_eq own step ih =>
    have out := run.outOnceAborted.1
    have undecided := run.laneRun.bequest.1 step.not_ended
    have tally := step.tally own out
    rw [limit_eq] at tally
    generalize completed : LaneStep.failed? ⟨worker, action, outcome.2.2⟩ = failed at tally
    cases tally with
    | apart same stays =>
      exact ih.apart completed (fun remembers => ⟨step.remembered undecided remembers, same⟩) stays
    | succeeds busy restarts goes_on unaborted =>
      have still := Worker.not_abortsFor_of_held busy out .consecutiveFailures
      refine .succeeds (mt ih.aborts.mpr still) completed restarts ?_
      rintro (ending | aborted)
      · rw [goes_on] at ending
        cases ending
      · exact still (.inr (unaborted.symm.trans aborted))
    | fails busy more phase unaborted =>
      have still := Worker.not_abortsFor_of_held busy out .consecutiveFailures
      have fresh := Worker.abort_of_held busy out
      exact ih.fails limited bounded (mt ih.aborts.mpr still) (Worker.remembers_of_held busy)
        completed more phase (unaborted.trans fresh)
  | @inherits log old worker memory around shared action outcome run passed _ heir _ waiting _
      legacy step ih _ =>
    obtain ⟨nothing, _⟩ := step.completes_nothing waiting
    obtain ⟨remembers, same⟩ := run.laneRun.bequest.2 memory passed
    have undecided := heir.laneRun.bequest.1 step.not_ended
    -- The heir begins with the count of a worker that has not been aborted.
    apply ih.apart nothing
    · intro goes_on
      obtain ⟨took, _⟩ := step.inherits undecided waiting legacy goes_on
      exact ⟨remembers, by rw [took, same]⟩
    · have ended : old.phase = .ended := by
        by_contra going
        exact absurd ((run.laneRun.bequest.1 going).symm.trans passed) nofun
      apply iff_of_false
      · exact heir.begins_unaborted waiting step .consecutiveFailures
      · unfold Worker.AbortsFor
        rw [run.outOnceAborted.2 memory passed, ended]
        rintro (ending | aborted)
        · cases ending
        · cases aborted

theorem unlimited (run : LimitedRun limit scope log worker) (none_set : limit = 0) :
    ¬worker.AbortsFor .consecutiveFailures := by
  subst none_set
  induction run with
  | opened lane predecessor => cases predecessor <;> exact nofun
  | fed _ _ ih => exact ih
  | @steps log worker around shared action outcome run limited own step ih =>
    have tally := step.tally own run.outOnceAborted.1
    rw [limited] at tally
    have fresh := run.outOnceAborted.1
    generalize LaneStep.failed? ⟨worker, action, outcome.2.2⟩ = failed at tally
    unfold Worker.AbortsFor
    cases tally with
    | apart _ stays => exact fun aborts => ih (stays.mp aborts)
    | succeeds busy _ phase unaborted | fails busy _ phase unaborted =>
      rw [phase, unaborted, Worker.abort_of_held busy fresh]
      exact nofun
  | inherits _ _ heir _ waiting _ legacy step =>
    exact heir.begins_unaborted waiting step .consecutiveFailures

/-- A lane with a limit stops right after the first operation that is one failure in a row too many,
    and only then; a lane without one does not stop. A success restarts the count, and recorded replies
    leave it alone. -/
theorem failure_threshold (run : LimitedRun limit scope log worker) :
    (0 < limit → limit.toNat < 2 ^ 32 - 1 → Counted limit log worker) ∧
      (limit = 0 → ¬worker.AbortsFor .consecutiveFailures) ∧
      ∀ around shared action outcome, (∀ memory, around.legacy ≠ .passed memory) →
        Worker.Step around worker shared action outcome →
        (LaneStep.failed? ⟨worker, action, outcome.2.2⟩ = some false →
            outcome.1.memory.failures = 0) ∧
          ∀ record, worker.phase = .holding record →
            outcome.1.memory.failures = worker.memory.failures := by
  refine ⟨fun limited bounded => run.counted limited (by omega), run.unlimited, ?_⟩
  intro around shared action outcome own step
  have tally := step.tally own run.outOnceAborted.1
  constructor
  · intro success
    rw [success] at tally
    cases tally with
    | succeeds _ restarts => exact restarts
  · intro record holding
    rw [show LaneStep.failed? _ = none by simp [LaneStep.failed?, holding]] at tally
    cases tally with
    | apart same => exact same

theorem walk {more : List LaneStep} {last : Worker} {around : Surroundings} {shared : Shared}
    {actions : List WorkerAction} (run : LimitedRun limit scope log worker)
    (limited : around.settings.maxFailures = limit) (own : ∀ memory, around.legacy ≠ .passed memory)
    (walk : worker.walk? around shared actions = some (last, more)) :
    LimitedRun limit scope (log ++ more) last := by
  apply Worker.walk?_induction walk
  · rw [List.append_nil]
    exact run
  · intro steps worker shared action outcome before step
    rw [← List.append_assoc]
    exact before.steps limited own step

end LimitedRun

namespace SampleLane

def strict : Surroundings := { around with settings := { around.settings with maxFailures := 1 } }

def waited : List WorkerAction := [.advance, .advance, .advance, .wrote 16, .sent, .timedOut]

def walkedInVain : Option (Worker × List LaneStep) :=
  Worker.walk? strict { queued with queue := [query, query] } shared
    ([.advance, .connected] ++ waited ++ waited)

def inVain : Worker × List LaneStep := walkedInVain.get (by decide)

theorem limitedRun : LimitedRun 1 .lane inVain.2 inVain.1 := by
  have steps : walkedInVain = some inVain := (Option.some_get _).symm
  have fed : LimitedRun 1 .lane [] { queued with queue := [query, query] } :=
    ((LimitedRun.opened query.lane none).fed query).fed query
  exact fed.walk rfl (fun _ => Handoff.noConfusion) steps

end SampleLane

/-- The second query in a row that gets no reply is one too many. -/
theorem sampleLane_gives_up :
    LimitedRun 1 .lane SampleLane.inVain.2 SampleLane.inVain.1 ∧
      failuresInRow SampleLane.inVain.2 = 2 ∧
      SampleLane.inVain.1.phase = .closing (.aborted .consecutiveFailures) := by
  have row : failuresInRow SampleLane.inVain.2 = 2 := by rfl
  have split : SampleLane.inVain.2 = SampleLane.inVain.2.dropLast ++
      [SampleLane.inVain.2.getLast (by decide)] := (List.dropLast_append_getLast _).symm
  have failure : (SampleLane.inVain.2.getLast (by decide)).failed? = some true := by rfl
  obtain ⟨counted, _⟩ := SampleLane.limitedRun.failure_threshold
  have stops := (counted (by decide) (by decide)).prompt _ _ split failure row
  exact ⟨SampleLane.limitedRun, row, stops⟩

end TrafficReplay
