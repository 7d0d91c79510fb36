import Mathlib.Data.List.Perm.Subperm
import TrafficReplay.Proofs.Lane.Lifecycle
import TrafficReplay.Proofs.Run.Succession

namespace TrafficReplay.Run

namespace Effects

def ofWorker (effects : Effects) (id : Nat) : List LaneEffect :=
  effects.filterMap fun effect => if effect.1 = id then some effect.2 else none

theorem ofWorker_append (first second : Effects) (id : Nat) :
    Effects.ofWorker (first ++ second) id = first.ofWorker id ++ second.ofWorker id :=
  List.filterMap_append

theorem ofWorker_self (effects : List LaneEffect) (id : Nat) :
    Effects.ofWorker (effects.map fun effect => (id, effect)) id = effects := by
  simp [ofWorker, List.filterMap_map]

theorem ofWorker_other {id other : Nat} (effects : List LaneEffect) (different : other ≠ id) :
    Effects.ofWorker (effects.map fun effect => (id, effect)) other = [] := by
  simp [ofWorker, List.filterMap_map, different.symm]

end Effects

inductive Change (run after : Run) (id : Nat) : Worker → List LaneEffect → Prop
  | opened {record : Record} {predecessor : Option WorkerId} (new : id = run.workers.length)
      (opens : run.Opens record predecessor) :
      Change run after id (.opened record.lane run.settings.scope predecessor) []
  | kept {worker : Worker} (was : run.workers[id]? = some worker) : Change run after id worker []
  | bequeathed {old heir : Worker} {by_id : Nat} (was : run.workers[id]? = some old)
      (heir_was : run.workers[by_id]? = some heir) (waiting : heir.phase = .succeeding id)
      (gone : ∀ worker : Worker, after.workers[by_id]? = some worker →
        ∀ predecessor, worker.phase ≠ .succeeding predecessor) :
      Change run after id (markTaken old) []
  | pushed {old : Worker} {record : Record} (was : run.workers[id]? = some old)
      (fed : run.isFed id = true) (accepting : old.accepting = true) :
      Change run after id { old with queue := old.queue ++ [record] } []
  | worked {old : Worker} {reading : Reading} {action : WorkerAction} {outcome : Worker.Outcome}
      (was : run.workers[id]? = some old)
      (step : Worker.Step (run.surroundings reading id old) old run.shared action outcome) :
      Change run after id outcome.1 outcome.2.2

theorem isFed_iff {run : Run} {id : Nat} :
    run.isFed id = true ↔ ∃ lane, (lane, id) ∈ run.handles := by
  simp [isFed]

theorem RouterStep.change {run after : Run} {action : RouterAction}
    (step : RouterStep run action after) {id : Nat} {worker : Worker}
    (at_id : after.workers[id]? = some worker) : Change run after id worker [] := by
  cases step with
  | opens phase absent =>
    rcases getElem?_openWorker at_id with ⟨was, _⟩ | ⟨rfl, rfl⟩
    · exact .kept was
    · exact .opened rfl ⟨phase, absent, nofun⟩
  | replaces phase handle at_old shut =>
    rcases getElem?_openWorker at_id with ⟨was, _⟩ | ⟨rfl, rfl⟩
    · exact .kept was
    · refine .opened rfl ⟨phase, handle, ?_⟩
      intro old same
      cases same
      exact ⟨_, at_old, shut⟩
  | @delivers record fed old phase handle at_fed unshut room =>
    rcases getElem?_set_some at_id with ⟨rfl, rfl⟩ | ⟨_, was⟩
    · exact .pushed at_fed (isFed_iff.mpr ⟨_, mem_of_lookup handle⟩) unshut
    · exact .kept was
  | _ => exact .kept at_id

/-- Whatever a step does to a worker is one of the changes listed. -/
theorem Step.change {run after : Run} {action : RunAction} {effects : Effects}
    (step : Step run action after effects) {id : Nat} {worker : Worker}
    (at_id : after.workers[id]? = some worker) : Change run after id worker (effects.ofWorker id) := by
  cases step with
  | routes step => exact step.change at_id
  | @works by_id heir _ _ outcome at_by step =>
    rcases getElem?_works at_id with ⟨rfl, rfl⟩ | ⟨different, was | ⟨waiting, old, was, rfl⟩⟩
    · rw [Effects.ofWorker_self]
      exact .worked at_by step
    · rw [Effects.ofWorker_other _ different]
      exact .kept was
    · rw [Effects.ofWorker_other _ different]
      refine .bequeathed was at_by waiting ?_
      intro worker at_heir
      rw [List.getElem?_set_self (by rw [length_takeLegacy]; exact lt_of_worker at_by)] at at_heir
      cases at_heir
      exact step.not_succeeding
  | cancels => exact .kept at_id

theorem Step.length_le {run after : Run} {action : RunAction} {effects : Effects}
    (step : Step run action after effects) : run.workers.length ≤ after.workers.length := by
  rcases step.carries_or_opens with carries | ⟨record, predecessor, _, rfl⟩
  · exact Nat.le_of_eq carries.size.symm
  · simp [openWorker]

theorem Step.stays {run after : Run} {action : RunAction} {effects : Effects}
    (step : Step run action after effects) {id : Nat} {old : Worker}
    (was : run.workers[id]? = some old) : ∃ worker, after.workers[id]? = some worker :=
  ⟨_, List.getElem?_eq_getElem (Nat.lt_of_lt_of_le (lt_of_worker was) step.length_le)⟩

theorem Step.lane {run after : Run} {action : RunAction} {effects : Effects}
    (step : Step run action after effects) {id : Nat} {old worker : Worker}
    (was : run.workers[id]? = some old) (at_id : after.workers[id]? = some worker) :
    worker.lane = old.lane := by
  rcases step.carries_or_opens with carries | ⟨record, predecessor, _, rfl⟩
  · obtain ⟨found, at_found, follows⟩ := carries.follows id worker at_id
    rw [was] at at_found
    cases at_found
    exact follows.lane
  · rw [getElem?_openWorker_old was] at at_id
    cases at_id
    rfl

theorem Step.fed {run after : Run} {action : RunAction} {effects : Effects}
    (step : Step run action after effects) {id : Nat} (old : id < run.workers.length)
    (fed : after.isFed id = true) : run.isFed id = true := by
  obtain ⟨lane, member⟩ := isFed_iff.mp fed
  rcases step.carries_or_opens with carries | ⟨record, predecessor, _, rfl⟩
  · exact isFed_iff.mpr ⟨lane, carries.handles _ member⟩
  · rcases List.mem_cons.mp member with new | kept
    · cases new
      exact absurd old (Nat.lt_irrefl _)
    · exact isFed_iff.mpr ⟨lane, (List.mem_filter.mp kept).1⟩

theorem Step.ended {run after : Run} {action : RunAction} {effects : Effects}
    (step : Step run action after effects) {id : Nat} {old : Worker}
    (was : run.workers[id]? = some old) (ended : old.phase = .ended) :
    effects.ofWorker id = [] ∧ ∃ worker, after.workers[id]? = some worker ∧
      worker.phase = .ended ∧ worker.report = old.report ∧ worker.lane = old.lane := by
  obtain ⟨worker, at_id⟩ := step.stays was
  have change := step.change at_id
  generalize effects.ofWorker id = done at change
  rw [at_id]
  cases change with
  | opened new => exact absurd (lt_of_worker was) (by omega)
  | kept found =>
    rw [was] at found
    cases found
    exact ⟨rfl, _, rfl, ended, rfl, rfl⟩
  | bequeathed found =>
    rw [was] at found
    cases found
    obtain ⟨handoff, marked⟩ := markTaken_fields old
    rw [marked]
    exact ⟨rfl, _, rfl, ended, rfl, rfl⟩
  | pushed found =>
    rw [was] at found
    cases found
    exact ⟨rfl, _, rfl, ended, rfl, rfl⟩
  | worked found step =>
    rw [was] at found
    cases found
    exact absurd ended step.not_ended

/-- Reports are taken in once, from workers that have ended. -/
structure Joins (run : Run) : Prop where
  nodup : run.joined.Nodup
  ended : ∀ id ∈ run.joined, ∃ worker : Worker, run.workers[id]? = some worker ∧
    worker.phase = .ended

theorem Joins.step {run after : Run} {action : RunAction} {effects : Effects} (joins : run.Joins)
    (step : Step run action after effects) : after.Joins := by
  have stays : ∀ id ∈ run.joined, ∃ worker : Worker, after.workers[id]? = some worker ∧
      worker.phase = .ended := by
    intro id member
    obtain ⟨old, was, ended⟩ := joins.ended id member
    obtain ⟨_, worker, at_id, ended, _⟩ := step.ended was ended
    exact ⟨worker, at_id, ended⟩
  cases step with
  | routes step =>
    cases step with
    | joins _ at_id ended fresh =>
      refine ⟨List.nodup_append.mpr ⟨joins.nodup, by simp, ?_⟩, ?_⟩
      · intro id member other same
        rw [List.mem_singleton.mp same]
        rintro rfl
        exact fresh member
      · intro id member
        rcases List.mem_append.mp member with old | new
        · exact stays id old
        · rw [List.mem_singleton.mp new]
          exact ⟨_, at_id, ended⟩
    | _ => exact ⟨joins.nodup, stays⟩
  | works => exact ⟨joins.nodup, stays⟩
  | cancels => exact ⟨joins.nodup, stays⟩

theorem Trace.joins {settings : RunSettings} {actions : List RunAction} {effects : Effects}
    {run : Run} (trace : Trace settings actions effects run) : run.Joins := by
  induction trace with
  | start => exact ⟨List.nodup_nil, nofun⟩
  | step _ step ih => exact ih.step (step_of_step? step)

theorem Joins.subset_range {run : Run} (joins : run.Joins) :
    run.joined ⊆ List.range run.workers.length := by
  intro id member
  obtain ⟨worker, at_id, _⟩ := joins.ended id member
  exact List.mem_range.mpr (lt_of_worker at_id)

theorem Joins.length_le {run : Run} (joins : run.Joins) : run.joined.length ≤ run.workers.length := by
  have upper := (List.subperm_of_subset joins.nodup joins.subset_range).length_le
  rwa [List.length_range] at upper

theorem Joins.perm_range {run : Run} (joins : run.Joins) (all : run.allJoined = true) :
    run.joined.Perm (List.range run.workers.length) := by
  have size : run.joined.length = run.workers.length := by simpa [allJoined] using all
  refine (List.subperm_of_subset joins.nodup joins.subset_range).perm_of_length_le ?_
  rw [List.length_range]
  exact Nat.le_of_eq size.symm

theorem Joins.all_ended {run : Run} (joins : run.Joins) (all : run.allJoined = true) {id : Nat}
    {worker : Worker} (at_id : run.workers[id]? = some worker) : worker.phase = .ended := by
  have member : id ∈ run.joined :=
    (joins.perm_range all).mem_iff.mpr (List.mem_range.mpr (lt_of_worker at_id))
  obtain ⟨found, at_found, ended⟩ := joins.ended id member
  rw [at_id] at at_found
  cases at_found
  exact ended

/-- Nothing has been cancelled, or only after every worker had ended. -/
def isCalm (run : Run) : Bool :=
  !run.shared.signal.fired || run.allJoined &&
    match run.router with
    | .choosing _ | .finished (.ok _) => true
    | _ => false

theorem isCalm_of_quiet {run : Run} (quiet : run.shared.signal.fired = false) :
    run.isCalm = true := by
  simp [isCalm, quiet]

theorem Step.calm {run after : Run} {action : RunAction} {effects : Effects}
    (step : Step run action after effects) (calm : after.isCalm = true) : run.isCalm = true := by
  cases step with
  | routes step =>
    cases step with
    | looks _ quiet => exact isCalm_of_quiet quiet
    | stops | breaksOff | meetsFailure | givesUp | breaksOffLate =>
      simp [isCalm, fail, CancelSignal.cancel] at calm
    | looksAgain | notes | draws | meetsEnd | delivers | settlesStopped | opens | replaces =>
      exact isCalm_of_quiet (by simpa [isCalm, openWorker, *] using calm)
    | joins phase =>
      rcases phase with ⟨mode, _, rfl⟩ | ⟨fault, _, rfl⟩ <;>
        exact isCalm_of_quiet (by simpa [isCalm] using calm)
    | settles phase all => simp [isCalm, phase, all]
  | @works id worker reading action outcome at_id step =>
    simpa [isCalm, allJoined, step.signal, length_takeLegacy] using calm
  | cancels =>
    simp only [isCalm, cancel, CancelSignal.cancel, Bool.not_true, Bool.false_or] at calm
    simp only [isCalm, Bool.or_eq_true]
    exact .inr calm

theorem Joins.quiet {run : Run} (joins : run.Joins) (calm : run.isCalm = true) {id : Nat}
    {worker : Worker} (at_id : run.workers[id]? = some worker) (going : worker.phase ≠ .ended) :
    run.shared.signal.fired = false := by
  simp only [isCalm, Bool.or_eq_true, Bool.not_eq_true', Bool.and_eq_true] at calm
  rcases calm with quiet | ⟨all, _⟩
  · exact quiet
  · exact absurd (joins.all_ended all at_id) going

/-- A property of a worker that feeds on records, has done something and goes on, preserved by
    every change; with `quiet`, by every change before a cancellation. -/
structure WorkerInvariant (quiet : Bool) (holds : Bool → List LaneEffect → Worker → Prop) :
    Prop where
  opened : ∀ fed lane scope predecessor, holds fed [] (.opened lane scope predecessor)
  unfed : ∀ {fed after : Bool} {effects : List LaneEffect} {worker : Worker},
    (after = true → fed = true) → holds fed effects worker → holds after effects worker
  bequeathed : ∀ {fed : Bool} {effects : List LaneEffect} {worker : Worker},
    holds fed effects worker → holds fed effects (markTaken worker)
  pushed : ∀ {effects : List LaneEffect} {worker : Worker} (record : Record),
    worker.accepting = true → holds true effects worker →
      holds true effects { worker with queue := worker.queue ++ [record] }
  worked : ∀ {around : Surroundings} {worker : Worker} {shared : Shared} {action : WorkerAction}
    {outcome : Worker.Outcome} {effects : List LaneEffect},
    Worker.Step around worker shared action outcome →
      (quiet = true → shared.signal.fired = false) → holds around.fed effects worker →
        holds around.fed (effects ++ outcome.2.2) outcome.1

theorem Trace.ofWorker_none {settings : RunSettings} {actions : List RunAction} {effects : Effects}
    {run : Run} (trace : Trace settings actions effects run) {id : Nat}
    (none : run.workers[id]? = none) : effects.ofWorker id = [] := by
  induction trace with
  | start => rfl
  | step trace step ih =>
    have step := step_of_step? step
    rw [Effects.ofWorker_append]
    have before := List.getElem?_eq_none
      (Nat.le_trans step.length_le (List.getElem?_eq_none_iff.mp none))
    rw [ih before]
    cases step with
    | routes | cancels => rfl
    | works at_by =>
      refine Effects.ofWorker_other _ ?_
      rintro rfl
      rw [at_by] at before
      cases before

theorem Trace.each {quiet : Bool} {holds : Bool → List LaneEffect → Worker → Prop}
    (invariant : WorkerInvariant quiet holds) {settings : RunSettings} {actions : List RunAction}
    {effects : Effects} {run : Run} (trace : Trace settings actions effects run)
    (calm : quiet = true → run.isCalm = true) {id : Nat} {worker : Worker}
    (at_id : run.workers[id]? = some worker) :
    holds (run.isFed id) (effects.ofWorker id) worker := by
  induction trace generalizing id worker with
  | start => cases at_id
  | @step actions effects new run after reading action trace step ih =>
    have step := step_of_step? step
    have calm_before : quiet = true → run.isCalm = true := fun on => step.calm (calm on)
    have change := step.change at_id
    rw [Effects.ofWorker_append]
    generalize new.ofWorker id = done at change
    cases change with
    | opened new =>
      rw [trace.ofWorker_none (List.getElem?_eq_none (Nat.le_of_eq new.symm))]
      exact invariant.opened _ _ _ _
    | kept was =>
      rw [List.append_nil]
      exact invariant.unfed (step.fed (lt_of_worker was)) (ih calm_before was)
    | bequeathed was =>
      have before := invariant.bequeathed (ih calm_before was)
      rw [List.append_nil]
      exact invariant.unfed (step.fed (lt_of_worker was)) before
    | pushed was fed accepting =>
      have before := ih calm_before was
      rw [fed] at before
      rw [List.append_nil]
      exact invariant.unfed (fun _ => rfl) (invariant.pushed _ accepting before)
    | @worked old reading action outcome was move =>
      have before := ih calm_before was
      -- As long as nothing is cancelled, no signal reaches a worker that has not ended.
      have quiet_now : quiet = true → run.shared.signal.fired = false := fun on =>
        trace.joins.quiet (calm_before on) was move.not_ended
      have around_fed : (run.surroundings reading id old).fed = run.isFed id := rfl
      have moved := invariant.worked move quiet_now (around_fed ▸ before)
      exact invariant.unfed (step.fed (lt_of_worker was)) (around_fed ▸ moved)

end TrafficReplay.Run
