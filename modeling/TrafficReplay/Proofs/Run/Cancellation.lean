import TrafficReplay.Proofs.Lane.Course
import TrafficReplay.Proofs.Run.Abort
import TrafficReplay.Proofs.Run.Slots

namespace TrafficReplay

namespace WorkerPhase

/-- May begin to transmit something without a look at the signal. -/
def isPoised : WorkerPhase → Bool
  | .idle | .watching _ | .yielding _ | .parked _ | .holding _ | .pacing _ | .due _ => true
  | _ => false

/-- Waits for something from outside, or for the signal. -/
def isSuspended : WorkerPhase → Bool
  | .succeeding _ | .acquiring .queued | .connecting | .authenticating | .parked _ | .pacing _
  | .sending _ _ | .awaiting _ | .draining => true
  | _ => false

theorem isUnderway_of_isPoised {phase : WorkerPhase} (poised : phase.isPoised = true) :
    phase.isUnderway = true := by
  cases phase <;> first | rfl | cases poised

end WorkerPhase

namespace Worker

variable {around : Surroundings} {worker : Worker} {shared : Shared} {action : WorkerAction}
  {outcome : Outcome}

theorem giveUp?_of_suspended (fired : shared.signal.fired = true)
    (suspended : worker.phase.isSuspended = true) :
    ∃ outcome, worker.step? around shared .giveUp = some outcome ∧
      (outcome.1.phase.ending? = some .cancelled ∨ outcome.1.phase = .ended) := by
  simp only [step?, giveUp?, fired, Bool.not_true, Bool.false_eq_true, if_false]
  cases phase : worker.phase with
  | acquiring stage =>
    cases stage with
    | queued => exact ⟨_, rfl, .inl rfl⟩
    | trying | counting | announcing | queueing => rw [phase] at suspended; cases suspended
  | succeeding | draining => exact ⟨_, rfl, .inr rfl⟩
  | connecting | authenticating | parked | pacing | sending | awaiting =>
    exact ⟨_, rfl, .inl rfl⟩
  | polling | idle | watching | yielding | holding | due | closing | leaving | concluding | ended =>
    rw [phase] at suspended
    cases suspended

theorem advance?_of_unsuspended (unsuspended : worker.phase.isSuspended = false)
    (going : worker.phase ≠ .ended) :
    ∃ outcome, worker.step? around shared .advance = some outcome := by
  simp only [step?, advance?]
  cases phase : worker.phase with
  | ended => exact absurd phase going
  | acquiring stage =>
    cases stage with
    | queued => rw [phase] at unsuspended; cases unsuspended
    | trying =>
      simp only [acquire?]
      split <;> exact ⟨_, rfl⟩
    | counting | announcing | queueing => exact ⟨_, rfl⟩
  | polling | watching =>
    simp only
    repeat' split
    all_goals exact ⟨_, rfl⟩
  | idle | yielding | holding | due | closing | leaving | concluding => exact ⟨_, rfl⟩
  | succeeding | connecting | authenticating | parked | pacing | sending | awaiting | draining =>
    rw [phase] at unsuspended
    cases unsuspended

def Spends (before : WorkerPhase) (effects : List LaneEffect) (after : WorkerPhase) : Prop :=
  (transmitted effects).length + (if after.isPoised then 1 else 0) ≤
    if before.isPoised then 1 else 0

theorem Spends.of_unpoised {before after : WorkerPhase} {effects : List LaneEffect}
    (nothing : transmitted effects = []) (unpoised : after.isPoised = false) :
    Spends before effects after := by
  rw [Spends, nothing, unpoised]
  exact Nat.zero_le _

theorem Spends.of_poised {before after : WorkerPhase} {effects : List LaneEffect}
    (nothing : transmitted effects = []) (poised : before.isPoised = true) :
    Spends before effects after := by
  rw [Spends, nothing, poised]
  cases after.isPoised <;> decide

theorem afterFailure_unpoised (settings : LaneSettings) (worker : Worker) :
    (afterFailure settings worker).phase.isPoised = false := by
  rcases afterFailure_phase settings worker with phase | phase <;> rw [phase] <;> rfl

theorem Shift.spends {phase : WorkerPhase} {after : Shared} {effects : List LaneEffect}
    (shift : Shift around worker shared action phase after effects)
    (fired : shared.signal.fired = true) : Spends worker.phase effects phase := by
  cases shift with
  | idles _ quiet => exact absurd fired (by simp [quiet])
  | watches at_phase | parks at_phase | isDue at_phase | paces at_phase | waited at_phase =>
    exact .of_poised rfl (by rw [at_phase]; rfl)
  | _ => exact .of_unpoised rfl rfl

theorem Step.spends (step : Step around worker shared action outcome)
    (fired : shared.signal.fired = true) : Spends worker.phase outcome.2.2 outcome.1.phase := by
  have failed := afterFailure_unpoised around.settings
  cases step with
  | shifts shift => exact shift.spends fired
  | takes phase =>
    rcases phase with ⟨_, quiet⟩ | ⟨_, phase⟩
    · exact absurd fired (by simp [quiet])
    · exact .of_poised rfl (by rw [phase]; rfl)
  | yields phase | shutsQueue phase => exact .of_poised rfl (by rw [phase]; rfl)
  | correlates => exact .of_unpoised (transmitted_binds _) rfl
  | withholds | fails => exact .of_unpoised rfl (failed _)
  | transmits phase =>
    rw [phase]
    exact Nat.le_refl 1
  | hears =>
    dsimp only
    split
    · exact .of_unpoised rfl (failed _)
    · exact .of_unpoised rfl rfl
  | drainsReply phase | drains phase =>
    have draining : worker.phase = .draining := phase
    refine .of_unpoised rfl ?_
    simp only [emit, draining]
    rfl
  | _ => exact .of_unpoised rfl rfl

end Worker

namespace Run

variable {settings : RunSettings} {actions more : List RunAction} {effects new : Effects}
  {run after : Run} {lane : LaneId}

theorem answered : WorkerInvariant false fun _ effects worker =>
    Answered worker.lane effects worker.phase where
  opened _ _ _ _ := by
    intro front record frame back split
    simp at split
  unfed _ before := before
  bequeathed {_ _ worker} before := by
    obtain ⟨handoff, marked⟩ := markTaken_fields worker
    rw [marked]
    exact before
  pushed _ _ before := before
  worked step _ before := by
    rw [step.lane]
    exact before.move step.op_move

def postures (run : Run) : List (LaneId × WorkerPhase) :=
  run.workers.map fun worker => (worker.lane, worker.phase)

/-- How many workers of a lane are poised to transmit something. -/
def poisedOn (run : Run) (lane : LaneId) : Nat :=
  run.postures.countP fun posture => posture.1 = lane && posture.2.isPoised

theorem RouterStep.poisedOn {action : RouterAction} (step : RouterStep run action after)
    (lane : LaneId) : after.poisedOn lane = run.poisedOn lane := by
  unfold Run.poisedOn postures
  obtain ⟨_, same | ⟨opened, scope, predecessor, more⟩⟩ :=
    step.map (fun worker => (worker.lane, worker.phase)) (fun _ _ => rfl)
  · rw [same]
  · rw [more, List.countP_append, List.countP_singleton]
    cases predecessor <;> simp [Worker.opened, WorkerPhase.isPoised]

theorem Step.poisedOn {action : RunAction} (step : Step run action after new)
    (fired : run.shared.signal.fired = true) (lane : LaneId) :
    (transmitted (run.laneEffects new lane)).length + after.poisedOn lane ≤ run.poisedOn lane := by
  have idle : transmitted (run.laneEffects [] lane) = [] := rfl
  cases step with
  | cancels =>
    rw [idle]
    exact Nat.le_of_eq (Nat.zero_add _)
  | routes routed =>
    rw [idle, routed.poisedOn]
    exact Nat.le_of_eq (Nat.zero_add _)
  | @works id worker _ _ outcome at_id move =>
    have spends := move.spends fired
    have same : run.workersOn lane = run.workersOn lane := rfl
    have effects := laneEffects_works [] outcome.2.2 at_id same
    have nothing : run.laneEffects [] lane = [] := rfl
    rw [List.nil_append, nothing, List.nil_append] at effects
    have at_posture : run.postures[id]? = some (worker.lane, worker.phase) := by
      rw [postures, List.getElem?_map, at_id]
      rfl
    have count := Slots.countP_set at_posture
      (fun posture => posture.1 = lane && posture.2.isPoised) (worker.lane, outcome.1.phase)
    unfold Worker.Spends at spends
    rw [effects]
    unfold Run.poisedOn
    rw [postures, map_works (fun worker => (worker.lane, worker.phase)) fun _ _ => rfl, move.lane]
    change _ + (run.postures.set id _).countP _ ≤ run.postures.countP _
    by_cases of_lane : worker.lane = lane
    · simp only [of_lane, decide_true, Bool.true_and, if_true] at count ⊢
      omega
    · simp only [of_lane, decide_false, Bool.false_and, Bool.false_eq_true, if_false] at count ⊢
      exact Nat.le_of_eq ((Nat.zero_add _).trans count)

theorem Exclusive.poisedOn_le_one (exclusive : run.Exclusive) (lane : LaneId) :
    run.poisedOn lane ≤ 1 := by
  unfold Run.poisedOn
  by_cases somebody : 0 < run.postures.countP fun posture => posture.1 = lane && posture.2.isPoised
  · obtain ⟨posture, member, holds⟩ := List.countP_pos_iff.mp somebody
    obtain ⟨index, at_index⟩ := List.getElem?_of_mem member
    refine Nat.le_of_eq (countP_eq_one at_index holds fun other found at_other other_holds => ?_)
    rw [postures, List.getElem?_map] at at_index at_other
    obtain ⟨worker, at_id, rfl⟩ := Option.map_eq_some_iff.mp at_index
    obtain ⟨second, at_second, rfl⟩ := Option.map_eq_some_iff.mp at_other
    simp only [Bool.and_eq_true, decide_eq_true_eq] at holds other_holds
    exact exclusive.one_underway at_second at_id (other_holds.1.trans holds.1.symm)
      (WorkerPhase.isUnderway_of_isPoised other_holds.2)
      (WorkerPhase.isUnderway_of_isPoised holds.2)
  · omega

theorem Trace.poisedOn_le_one (trace : Trace settings actions effects run) (lane : LaneId) :
    run.poisedOn lane ≤ 1 := by
  induction trace with
  | start => exact Nat.zero_le 1
  | @step actions effects new run after reading action trace step ih =>
    -- The workers of a lane exclude each other only while the run is calm. From the moment on at
    -- which the signal fires, the bound is kept since no step adds to it.
    cases fired : after.shared.signal.fired with
    | false =>
      exact ((trace.step step).exclusive (isCalm_of_quiet fired)).poisedOn_le_one lane
    | true =>
      have move := step_of_step? step
      cases move with
      | cancels => exact ih
      | routes routed =>
        rw [routed.poisedOn]
        exact ih
      | works at_id worked =>
        have fired_before : run.shared.signal.fired = true := by rwa [← worked.signal]
        have fewer := (step_of_step? step).poisedOn fired_before lane
        omega

theorem Step.stays_fired {action : RunAction} (step : Step run action after new)
    (fired : run.shared.signal.fired = true) : after.shared.signal.fired = true := by
  cases step with
  | cancels => rfl
  | works _ move => rwa [move.signal]
  | routes routed => cases routed <;> first | rfl | exact fired

theorem Onward.stays_fired (onward : run.Onward more new after)
    (fired : run.shared.signal.fired = true) : after.shared.signal.fired = true := by
  induction onward with
  | here => exact fired
  | step _ step ih => exact (step_of_step? step).stays_fired ih

/-- What a lane has done after a step is what it had done before and what it does in the step. -/
theorem Step.laneEffects {action : RunAction} {later : Effects} (step : Step run action after later)
    (fresh : new.ofWorker run.workers.length = []) (lane : LaneId) :
    after.laneEffects (new ++ later) lane =
      run.laneEffects new lane ++ run.laneEffects later lane := by
  cases step with
  | cancels => exact laneEffects_onward rfl new []
  | works at_id move => exact laneEffects_onward ((Carries.works at_id move).workersOn lane) new _
  | routes routed =>
    rcases routed.carries_or_opens with carries | ⟨record, predecessor, _, rfl⟩
    · exact laneEffects_onward (carries.workersOn lane) new []
    · have nothing : run.laneEffects [] lane = [] := rfl
      rw [List.append_nil, nothing, List.append_nil]
      exact laneEffects_opens fresh record.lane lane predecessor

/-- After a cancellation a lane begins no more transmissions than it has workers poised for one. -/
theorem Trace.transmits_poised (trace : Trace settings actions effects run)
    (onward : run.Onward more new after) (fired : run.shared.signal.fired = true) (lane : LaneId) :
    (transmitted (after.laneEffects new lane)).length + after.poisedOn lane ≤
      run.poisedOn lane := by
  induction onward with
  | here => exact Nat.le_of_eq (Nat.zero_add _)
  | @step _ early later middle last _ _ onward step ih =>
    have move := step_of_step? step
    -- A worker that is opened in the step has done nothing so far.
    have fresh : early.ofWorker middle.workers.length = [] := by
      have whole := (trace.onward onward).ofWorker_none (List.getElem?_eq_none (Nat.le_refl _))
      rw [Effects.ofWorker_append] at whole
      exact (List.append_eq_nil_iff.mp whole).2
    have spent := move.poisedOn (onward.stays_fired fired) lane
    rw [move.laneEffects fresh, transmitted_append, List.length_append]
    omega

theorem RouterStep.not_finished {action : RouterAction} (step : RouterStep run action after) :
    run.isFinished = false := by
  unfold isFinished
  cases step with
  | joins phase => rcases phase with ⟨_, phase, _⟩ | ⟨_, phase, _⟩ <;> rw [phase]
  | stops phase | looks phase | looksAgain phase | notes phase | breaksOff phase | draws phase
  | meetsFailure phase | meetsEnd phase | opens phase | replaces phase | delivers phase
  | givesUp phase | settles phase | breaksOffLate phase | settlesStopped phase => rw [phase]

/-- No worker of the run is going, and nothing happens in it any more. -/
structure IsOver (run : Run) : Prop where
  ended : ∀ worker ∈ run.workers, worker.phase = .ended
  silent : ∀ more new last, run.Onward more new last → new = []

theorem Trace.ended_of_finished (trace : Trace settings actions effects run)
    (finished : run.isFinished = true) : ∀ worker ∈ run.workers, worker.phase = .ended := by
  intro worker member
  obtain ⟨id, at_id⟩ := List.getElem?_of_mem member
  exact trace.joins.all_ended (trace.joined_of_finished finished) at_id

theorem Trace.isOver (trace : Trace settings actions effects run)
    (finished : run.isFinished = true) : run.IsOver := by
  refine ⟨trace.ended_of_finished finished, fun more new last onward => ?_⟩
  have nothing : new = [] ∧ last.isFinished = true := by
    induction onward with
    | here => exact ⟨rfl, finished⟩
    | step onward step ih =>
      obtain ⟨rfl, still⟩ := ih
      have reached := trace.onward onward
      cases step_of_step? step with
      | cancels => exact ⟨rfl, still⟩
      | routes routed => exact absurd (still.symm.trans routed.not_finished) nofun
      | works at_id move =>
        have ended := reached.ended_of_finished still _ (List.mem_of_getElem? at_id)
        exact absurd ended move.not_ended
  exact nothing.1

theorem router_stops (fired : run.shared.signal.fired = true) (reading : Reading)
    (going : run.isFinished = false) (unstopped : ∀ fault, run.router ≠ .stopping fault) :
    ∃ waits : List RouterAction,
      run.steps? reading (waits.map .router) = some (run.fail .cancelled, []) := by
  cases router : run.router with
  | stopping fault => exact absurd router (unstopped fault)
  | finished result => simp [isFinished, router] at going
  | looking mode =>
    refine ⟨[.look], ?_⟩
    simp [steps?, step?, routerStep?, router, fired]
  | choosing mode =>
    refine ⟨[.again, .look], ?_⟩
    simp [steps?, step?, routerStep?, router, fired, fail]
  | delivering record =>
    refine ⟨[.giveUp], ?_⟩
    simp [steps?, step?, routerStep?, router, fired]

theorem step?_worker {id : Nat} {worker : Worker} {reading : Reading} {action : WorkerAction}
    {outcome : Worker.Outcome} (at_id : run.workers[id]? = some worker)
    (move : worker.step? (run.surroundings reading id worker) run.shared action = some outcome) :
    ∃ next, run.step? reading (.worker id action) = some next ∧
      next.1.workers[id]? = some outcome.1 := by
  refine ⟨_, by simp only [step?, workerStep?, at_id, move]; rfl, ?_⟩
  exact List.getElem?_set_self (by rw [length_takeLegacy]; exact lt_of_worker at_id)

structure Heeds (run : Run) (new : Effects) (after : Run) : Prop where
  stays : after.shared.signal.fired = true
  resolves : after.shared.signal.resolves = true
  wakes : ∀ (reading : Reading) (id : Nat) (worker : Worker), after.workers[id]? = some worker →
    worker.phase.isSuspended = true →
      ∃ next gone, after.step? reading (.worker id .giveUp) = some next ∧
        next.1.workers[id]? = some gone ∧
          (gone.phase.ending? = some .cancelled ∨ gone.phase = .ended)
  advances : ∀ (reading : Reading) (id : Nat) (worker : Worker),
    after.workers[id]? = some worker → worker.phase.isSuspended = false → worker.phase ≠ .ended →
      ∃ next, after.step? reading (.worker id .advance) = some next
  stops : ∀ reading, after.isFinished = false → (∀ fault, after.router ≠ .stopping fault) →
    ∃ waits : List RouterAction,
      after.steps? reading (waits.map .router) = some (after.fail .cancelled, [])
  one_more : ∀ lane, (transmitted (after.laneEffects new lane)).length ≤ 1
  too_late : ∀ summary, after.router = .finished (.ok summary) →
    ∀ worker ∈ run.workers, worker.phase = .ended

theorem Trace.heeds (trace : Trace settings actions effects run)
    (onward : run.Onward more new after) (fired : run.shared.signal.fired = true) :
    run.Heeds new after := by
  have still := onward.stays_fired fired
  constructor
  case stays => exact still
  case resolves => exact still
  case wakes =>
    intro reading id worker at_id suspended
    obtain ⟨outcome, move, ends⟩ := Worker.giveUp?_of_suspended still suspended
    obtain ⟨next, step, at_next⟩ := step?_worker at_id move
    exact ⟨next, outcome.1, step, at_next, ends⟩
  case advances =>
    intro reading id worker at_id unsuspended going
    obtain ⟨outcome, move⟩ := Worker.advance?_of_unsuspended unsuspended going
    obtain ⟨next, step, _⟩ := step?_worker at_id move
    exact ⟨next, step⟩
  case stops => exact fun reading => router_stops still reading
  case one_more =>
    intro lane
    have spent := trace.transmits_poised onward fired lane
    have few := trace.poisedOn_le_one lane
    omega
  case too_late =>
    intro summary finished worker member
    have calm := onward.calm ((trace.onward onward).finished_calm finished)
    obtain ⟨id, at_id⟩ := List.getElem?_of_mem member
    by_contra going
    have quiet := trace.joins.quiet calm at_id going
    exact absurd (fired.symm.trans quiet) nofun

/-- Cancellation at any moment of any run. Once the signal has fired it stays so, and every wait
    ends with it. Each operation whose transmission had begun gets its one stat record, and a run
    that is over stays silent. -/
theorem Trace.cancellation (trace : Trace settings actions effects run)
    (onward : run.Onward more new after) :
    (run.shared.signal.fired = true → run.Heeds new after) ∧
      (∀ (id : Nat) (worker : Worker), after.workers[id]? = some worker →
        Answered worker.lane ((effects ++ new).ofWorker id) worker.phase) ∧
      (after.isFinished = true → after.IsOver) := by
  have reached := trace.onward onward
  refine ⟨trace.heeds onward, fun id worker at_id => ?_, reached.isOver⟩
  exact reached.each answered nofun at_id

/-- A query is about to be issued when the run is cancelled. -/
def cancelledRun : List RunAction :=
  List.flatten [draws SampleLane.query,
    [.router .deliver, .worker 0 .advance, .worker 0 .connected],
    List.replicate 2 (.worker 0 .advance), [.cancel]]

def cancelledRest : List RunAction :=
  List.flatten [[.worker 0 .advance, .worker 0 (.wrote 16), .worker 0 .sent, .worker 0 .giveUp],
    List.replicate 3 (.worker 0 .advance), [.router .look, .router (.join 0), .router .settle]]

def cancelledMid : Run × Effects :=
  ((start unpaced .fresh).steps? ⟨default, default⟩ cancelledRun).get (by decide)

def cancelledEnd : Run × Effects :=
  (cancelledMid.1.steps? ⟨default, default⟩ cancelledRest).get (by decide)

/-- The query is the one frame that the lane still transmits, and the run fails. -/
theorem cancelledRun_ends :
    cancelledMid.1.shared.signal.fired = true ∧
      transmitted (cancelledEnd.1.laneEffects cancelledEnd.2 SampleLane.query.lane) =
        [SampleLane.query.frame] ∧
      cancelledEnd.1.router = .finished (.error .cancelled) ∧
      cancelledMid.1.Heeds cancelledEnd.2 cancelledEnd.1 ∧ cancelledEnd.1.IsOver := by
  have steps : (start unpaced .fresh).steps? ⟨default, default⟩ cancelledRun = some cancelledMid :=
    (Option.some_get _).symm
  have rest : cancelledMid.1.steps? ⟨default, default⟩ cancelledRest = some cancelledEnd :=
    (Option.some_get _).symm
  have fired : cancelledMid.1.shared.signal.fired = true := rfl
  obtain ⟨heeds, _, silent⟩ := (trace_of_steps? steps).cancellation (onward_of_steps? rest)
  exact ⟨fired, by decide, rfl, heeds fired, silent rfl⟩

end Run

end TrafficReplay
