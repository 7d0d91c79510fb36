import TrafficReplay.Proofs.Run.Accounting
import TrafficReplay.Proofs.Run.Transparency

namespace TrafficReplay

/-- Records are used up without being played, and each request among them is reported as aborted. -/
structure Unplayed (lane : LaneId) (effects : List LaneEffect) : Prop where
  connects : LaneEffect.connects ∉ effects
  transmitted : transmitted effects = []
  reported : List.Forall₂
    (fun stat record => ∃ seq wall,
      stat = .ofOutcome lane seq record (.failed .laneAborted wall false))
    (reported effects) (requests (taken effects))

theorem Unplayed.nil {lane : LaneId} : Unplayed lane [] := ⟨by simp, rfl, .nil⟩

theorem Unplayed.append {lane : LaneId} {first second : List LaneEffect}
    (before : Unplayed lane first) (after : Unplayed lane second) :
    Unplayed lane (first ++ second) := by
  refine ⟨?_, ?_, ?_⟩
  · intro member
    rcases List.mem_append.mp member with early | late
    · exact before.connects early
    · exact after.connects late
  · rw [transmitted_append, before.transmitted, after.transmitted, List.append_nil]
  · rw [reported_append, taken_append, requests_append]
    exact List.rel_append before.reported after.reported

namespace Worker

variable {around : Surroundings} {worker : Worker} {shared : Shared} {action : WorkerAction}
  {outcome : Outcome}

theorem Step.of_draining (step : Step around worker shared action outcome)
    (draining : worker.phase = .draining) :
    (outcome.1.phase = .draining ∨ outcome.1.phase = .ended) ∧
      outcome.1.report.yielded = worker.report.yielded ∧ Unplayed worker.lane outcome.2.2 := by
  cases step with
  | @drainsReply record rest phase queue response =>
    have unasked : requests [record] = [] := by simp [requests, response]
    refine ⟨.inl draining, rfl, by simp, rfl, ?_⟩
    change List.Forall₂ _ [] (requests [record])
    rw [unasked]
    exact .nil
  | @drains record rest _ phase queue request lost =>
    have asked : requests [record] = [record] := by simp [requests, request]
    subst lost
    refine ⟨.inl draining, rfl, by simp, rfl, ?_⟩
    change List.Forall₂ _ [_] (requests [record])
    rw [asked]
    exact .cons ⟨_, _, rfl⟩ .nil
  | drainsDry => exact ⟨.inr rfl, rfl, .nil⟩
  | endsCancelled => exact ⟨.inr rfl, rfl, .nil⟩
  | shifts shift => cases shift <;> simp_all
  | fails cause => cases cause <;> simp_all
  | stops cause => cases cause <;> simp_all
  | _ => simp_all

end Worker

namespace Run

variable {run after : Run} {settings : RunSettings} {actions more : List RunAction}
  {effects new : Effects} {lane : LaneId}

theorem outOnceAborted : WorkerInvariant false fun _ _ worker => worker.OutOnceAborted where
  opened _ _ _ predecessor := by cases predecessor <;> exact nofun
  unfed _ before := before
  bequeathed {_ _ worker} before := by
    obtain ⟨handoff, marked⟩ := markTaken_fields worker
    rw [marked]
    exact before
  pushed _ _ before := before
  worked step _ before := step.outOnceAborted before

/-- A worker that another one of its lane comes after has yielded. -/
theorem Trace.yielded_of_later (trace : Trace settings actions effects run)
    (calm : run.isCalm = true) {first second : Nat} {a b : Worker} (order : first < second)
    (at_first : run.workers[first]? = some a) (at_second : run.workers[second]? = some b)
    (same : a.lane = b.lane) : a.report.yielded = true := by
  induction trace generalizing first second a b with
  | start => cases at_first
  | @step actions effects new run after reading action trace step ih =>
    have step := step_of_step? step
    have calm := step.calm calm
    -- A worker never unsays that it has yielded, so only the opening of the second one is of interest.
    by_cases opened : run.workers.length ≤ second
    · have change := step.change at_second
      generalize new.ofWorker second = done at change
      cases change with
      | @opened record predecessor fresh opens =>
        obtain ⟨old, was_first⟩ : ∃ old, run.workers[first]? = some old :=
          ⟨_, List.getElem?_eq_getElem (fresh ▸ order)⟩
        have of_lane : old.lane = record.lane := (step.lane was_first at_first).symm.trans same
        apply (step.flags was_first at_first).1
        rcases trace.linked.older opens was_first of_lane with
          ⟨rfl, shut⟩ | ⟨latest, other, earlier, at_latest, other_lane⟩
        · -- The latest worker has shut its queue although the router still feeds it.
          have fed : run.isFed first = true := isFed_iff.mpr ⟨_, mem_of_lookup opens.handle⟩
          obtain ⟨_, calmness⟩ := trace.each calmness (fun _ => calm) was_first
          exact calmness.yielded shut fed
        · exact ih calm earlier was_first at_latest (of_lane.trans other_lane.symm)
      | kept was | bequeathed was | pushed was | worked was =>
        exact absurd (lt_of_worker was) (Nat.not_lt.mpr opened)
    · have below : second < run.workers.length := Nat.not_le.mp opened
      have was_second := List.getElem?_eq_getElem below
      have was_first := List.getElem?_eq_getElem (Nat.lt_trans order below)
      have lanes := (step.lane was_first at_first).symm.trans
        (same.trans (step.lane was_second at_second))
      exact (step.flags was_first at_first).1 (ih calm order was_first was_second lanes)

/-- An aborted worker is the last one of its lane. -/
theorem Trace.aborted_last (trace : Trace settings actions effects run) (calm : run.isCalm = true)
    (unbroken : run.Unbroken lane) {id later : Nat} {worker other : Worker}
    (at_id : run.workers[id]? = some worker) (of_lane : worker.lane = lane)
    (aborted : worker.report.abort.isSome = true) (order : id < later)
    (at_later : run.workers[later]? = some other) : other.lane ≠ lane := by
  intro other_lane
  have yielded := trace.yielded_of_later calm order at_id at_later (of_lane.trans other_lane.symm)
  exact unbroken id worker at_id of_lane ⟨yielded, aborted⟩

theorem Trace.aborted_once (trace : Trace settings actions effects run) (calm : run.isCalm = true)
    (unbroken : run.Unbroken lane) {first second : Nat} {a b : Worker}
    (at_first : run.workers[first]? = some a) (at_second : run.workers[second]? = some b)
    (a_lane : a.lane = lane) (b_lane : b.lane = lane) (a_aborted : a.report.abort.isSome = true)
    (b_aborted : b.report.abort.isSome = true) : first = second := by
  rcases Nat.lt_trichotomy first second with earlier | equal | later
  · exact absurd b_lane
      (trace.aborted_last calm unbroken at_first a_lane a_aborted earlier at_second)
  · exact equal
  · exact absurd a_lane
      (trace.aborted_last calm unbroken at_second b_lane b_aborted later at_first)

theorem Trace.only_drains (trace : Trace settings actions effects run) (calm : run.isCalm = true)
    (unbroken : run.Unbroken lane) {id mover_id : Nat} {worker mover : Worker}
    (at_id : run.workers[id]? = some worker) (of_lane : worker.lane = lane)
    (aborted : worker.report.abort.isSome = true) (at_mover : run.workers[mover_id]? = some mover)
    (mover_lane : mover.lane = lane) (going : mover.phase ≠ .ended) :
    mover.phase = .draining ∧ mover.report.yielded = false := by
  have out := trace.each outOnceAborted nofun at_id aborted
  rcases Nat.lt_trichotomy mover_id id with earlier | rfl | later
  · rcases trace.exclusive calm mover_id id mover worker earlier at_mover at_id
      (mover_lane.trans of_lane.symm) with ended | ⟨predecessor, waits⟩
    · exact absurd ended going
    · rcases out with draining | ended
      · exact absurd (draining.symm.trans waits) nofun
      · exact absurd (ended.symm.trans waits) nofun
  · rw [at_id] at at_mover
    cases at_mover
    refine ⟨out.resolve_right going, Bool.eq_false_iff.mpr fun yielded => ?_⟩
    exact unbroken mover_id worker at_id of_lane ⟨yielded, aborted⟩
  · exact absurd mover_lane (trace.aborted_last calm unbroken at_id of_lane aborted later at_mover)

/-- While a lane has an aborted worker, a step opens no other worker for it and plays nothing. -/
theorem Trace.aborted_step (trace : Trace settings actions effects run) {reading : Reading}
    {action : RunAction} (step : run.step? reading action = some (after, new))
    (calm : after.isCalm = true) (unbroken : run.Unbroken lane) {id : Nat} {worker : Worker}
    (at_id : run.workers[id]? = some worker) (of_lane : worker.lane = lane)
    (aborted : worker.report.abort.isSome = true) :
    after.Unbroken lane ∧ after.workersOn lane = run.workersOn lane ∧
      Unplayed lane (new.ofWorkers (run.workersOn lane)) := by
  have traced := trace.step step
  have step := step_of_step? step
  have calm_before := step.calm calm
  refine ⟨?_, ?_, ?_⟩
  · intro other_id other at_other other_lane both
    have change := step.change at_other
    generalize new.ofWorker other_id = done at change
    cases change with
    | @opened _ predecessor => cases predecessor <;> exact absurd both.2 nofun
    | kept was | pushed was => exact unbroken other_id _ was other_lane both
    | @bequeathed old _ _ was =>
      obtain ⟨handoff, marked⟩ := markTaken_fields old
      rw [marked] at other_lane both
      exact unbroken other_id old was other_lane both
    | worked was move =>
      obtain ⟨draining, stayed⟩ := trace.only_drains calm_before unbroken at_id of_lane aborted was
        ((step.lane was at_other).symm.trans other_lane) move.not_ended
      exact absurd (((move.of_draining draining).2.1.symm.trans both.1).symm.trans stayed) nofun
  · rcases step.carries_or_opens with carries | ⟨record, predecessor, _, rfl⟩
    · exact carries.workersOn lane
    · rw [workersOn_openWorker]
      split
      · rename_i opened
        have kept : (run.openWorker record.lane predecessor).workers[id]? = some worker :=
          getElem?_openWorker_old at_id
        have yielded := traced.yielded_of_later calm (lt_of_worker at_id) kept
          (getElem?_openWorker_new run record.lane predecessor) (of_lane.trans opened.symm)
        exact absurd ⟨yielded, aborted⟩ (unbroken id worker at_id of_lane)
      · exact List.append_nil _
  · cases step with
    | routes | cancels => exact .nil
    | @works mover_id mover _ _ outcome at_mover move =>
      by_cases member : mover_id ∈ run.workersOn lane
      · rw [Effects.ofWorkers_mem _ member]
        have found_lane := lane_of_mem at_mover member
        obtain ⟨draining, _⟩ := trace.only_drains calm_before unbroken at_id of_lane aborted at_mover
          found_lane move.not_ended
        exact found_lane ▸ (move.of_draining draining).2.2
      · rw [Effects.ofWorkers_not_mem _ member]
        exact .nil

theorem Onward.calm (onward : run.Onward more new after) (calm : after.isCalm = true) :
    run.isCalm = true := by
  induction onward with
  | here => exact calm
  | step _ step ih => exact ih ((step_of_step? step).calm calm)

theorem Onward.aborted (onward : run.Onward more new after) {id : Nat} {worker : Worker}
    (at_id : run.workers[id]? = some worker) (aborted : worker.report.abort.isSome = true) :
    ∃ same, after.workers[id]? = some same ∧ same.lane = worker.lane ∧
      same.report.abort.isSome = true := by
  induction onward with
  | here => exact ⟨worker, at_id, rfl, aborted⟩
  | step _ step ih =>
    have step := step_of_step? step
    obtain ⟨same, was, lane, aborted⟩ := ih
    obtain ⟨next, at_next⟩ := step.stays was
    exact ⟨next, at_next, (step.lane was at_next).trans lane, (step.flags was at_next).2 aborted⟩

theorem Trace.stays_unplayed (trace : Trace settings actions effects run)
    (onward : run.Onward more new after) (calm : after.isCalm = true)
    (unbroken : run.Unbroken lane) {id : Nat} {worker : Worker}
    (at_id : run.workers[id]? = some worker) (of_lane : worker.lane = lane)
    (aborted : worker.report.abort.isSome = true) :
    after.Unbroken lane ∧ after.workersOn lane = run.workersOn lane ∧
      Unplayed lane (run.laneEffects new lane) := by
  induction onward with
  | here => exact ⟨unbroken, rfl, .nil⟩
  | @step _ early late middle last _ _ onward step ih =>
    obtain ⟨still_unbroken, same, unplayed⟩ := ih ((step_of_step? step).calm calm)
    obtain ⟨found, at_found, found_lane, still⟩ := onward.aborted at_id aborted
    obtain ⟨unbroken, kept, rest⟩ := (trace.onward onward).aborted_step step calm still_unbroken
      at_found (found_lane.trans of_lane) still
    rw [same] at kept rest
    refine ⟨unbroken, kept, ?_⟩
    rw [laneEffects, Effects.ofWorkers_append]
    exact unplayed.append rest

theorem laneEffects_onward (same : after.workersOn lane = run.workersOn lane)
    (effects new : Effects) :
    after.laneEffects (effects ++ new) lane =
      run.laneEffects effects lane ++ run.laneEffects new lane := by
  rw [laneEffects, same, Effects.ofWorkers_append]
  rfl

theorem Trace.aborted_numbers (trace : Trace settings actions effects run)
    (onward : run.Onward more new after) (calm : after.isCalm = true)
    (unbroken : run.Unbroken lane) {id : Nat} {worker : Worker}
    (at_id : run.workers[id]? = some worker) (of_lane : worker.lane = lane)
    (aborted : worker.report.abort.isSome = true) :
    (run.laneStats new lane).map Stat.seq =
      List.range' (run.laneStats effects lane).length (run.laneStats new lane).length := by
  obtain ⟨still_unbroken, same, _⟩ :=
    trace.stays_unplayed onward calm unbroken at_id of_lane aborted
  have numbers := (trace.numbered (onward.calm calm) unbroken).numbers
  have all := ((trace.onward onward).numbered calm still_unbroken).numbers
  have stats : after.laneStats (effects ++ new) lane =
      run.laneStats effects lane ++ run.laneStats new lane := by
    change reported (after.laneEffects (effects ++ new) lane) = _
    rw [laneEffects_onward same, reported_append]
    rfl
  rw [stats, List.map_append, numbers, List.length_append, List.range_eq_range',
    List.range_eq_range', ← List.range'_append_1, Nat.zero_add] at all
  exact List.append_cancel_left all

theorem countP_eq_one {α : Type} {list : List α} {counted : α → Bool} {index : Nat} {element : α}
    (at_index : list[index]? = some element) (holds : counted element = true)
    (only : ∀ (other : Nat) (found : α), list[other]? = some found → counted found = true →
      other = index) : list.countP counted = 1 := by
  induction list generalizing index with
  | nil => cases at_index
  | cons head rest ih =>
    cases index with
    | zero =>
      cases at_index
      have none : rest.countP counted = 0 := by
        refine List.countP_eq_zero.mpr fun found member is_counted => ?_
        obtain ⟨other, at_other⟩ := List.mem_iff_getElem?.mp member
        exact absurd (only (other + 1) found at_other is_counted) (Nat.succ_ne_zero other)
      rw [List.countP_cons_of_pos holds, none]
    | succ index =>
      have uncounted : ¬counted head = true := fun is_counted =>
        absurd (only 0 head rfl is_counted) (Nat.succ_ne_zero index).symm
      rw [List.countP_cons_of_neg uncounted]
      refine ih at_index fun other found at_other is_counted => ?_
      exact Nat.succ.inj (only (other + 1) found at_other is_counted)

theorem Trace.counts_once (trace : Trace settings actions effects run) (calm : run.isCalm = true)
    (unbroken : run.Unbroken lane) {id : Nat} {worker : Worker}
    (at_id : run.workers[id]? = some worker) (of_lane : worker.lane = lane)
    (aborted : worker.report.abort.isSome = true) :
    (run.workers.filter fun other => other.lane = lane).countP
      (fun other => other.report.abort.isSome) = 1 := by
  rw [List.countP_filter]
  refine countP_eq_one at_id (by simp [aborted, of_lane]) fun other_id other at_other both => ?_
  obtain ⟨other_aborted, other_lane⟩ : other.report.abort.isSome = true ∧ other.lane = lane := by
    simpa using both
  exact trace.aborted_once calm unbroken at_other at_id other_lane of_lane other_aborted aborted

/-- An aborted lane stays aborted. Unless a worker of the lane had yielded before it was aborted,
    and as long as the run is not brought down, the lane gets no further worker, connects and
    transmits nothing, and reports its further requests as aborted, under the next numbers. A run
    that comes to its end has used up all records of the lane, and one that ends well counts the
    lane once. -/
theorem Trace.stays_aborted (trace : Trace settings actions effects run)
    (onward : run.Onward more new after) (calm : after.isCalm = true)
    (unbroken : run.Unbroken lane) {id : Nat} {worker : Worker}
    (at_id : run.workers[id]? = some worker) (of_lane : worker.lane = lane)
    (aborted : worker.report.abort.isSome = true) :
    after.workersOn lane = run.workersOn lane ∧
      Unplayed lane (run.laneEffects new lane) ∧
      (run.laneStats new lane).map Stat.seq =
        List.range' (run.laneStats effects lane).length (run.laneStats new lane).length ∧
      (after.isFinished = true → onLane lane (streamed (actions ++ more)) =
        taken (run.laneEffects effects lane) ++ taken (run.laneEffects new lane)) ∧
      ∀ summary, after.router = .finished (.ok summary) →
        summary.lanesAborted = 1 + (after.workers.filter fun other => other.lane ≠ lane).countP
          (fun other => other.report.abort.isSome) := by
  obtain ⟨still_unbroken, same, unplayed⟩ :=
    trace.stays_unplayed onward calm unbroken at_id of_lane aborted
  have numbers := trace.aborted_numbers onward calm unbroken at_id of_lane aborted
  refine ⟨same, unplayed, numbers, fun at_end => ?_, fun summary finished => ?_⟩
  · rw [← (trace.onward onward).processed_all calm at_end lane, ← taken_append,
      ← laneEffects_onward same]
    rfl
  · obtain ⟨found, at_found, found_lane, still⟩ := onward.aborted at_id aborted
    have once := (trace.onward onward).counts_once calm still_unbroken at_found
      (found_lane.trans of_lane) still
    rw [(trace.onward onward).summary_aborted finished,
      List.countP_eq_countP_filter_add _ _ (fun other : Worker => other.lane = lane), once]
    simp

theorem unbroken_of_unyielded (unyielded : ∀ worker ∈ run.workers, worker.report.yielded = false)
    (lane : LaneId) : run.Unbroken lane := by
  intro id worker at_id _ both
  have kept := unyielded worker (List.mem_of_getElem? at_id)
  rw [both.1] at kept
  cases kept

def lostRun : List RunAction :=
  List.flatten [draws SampleLane.query, [.router .deliver, .worker 0 .advance, .worker 0 .connected],
    List.replicate 3 (.worker 0 .advance),
    [.worker 0 (.sendFailed ⟨.brokenPipe, "broken pipe"⟩)], List.replicate 3 (.worker 0 .advance)]

def lostRunLater : List RunAction :=
  List.flatten [draws SampleLane.query, [.worker 0 .advance, .router .look, .router (.next .finish)],
    [.worker 0 .advance, .router .look, .router .event, .router .look, .router .event],
    [.router .look, .router (.join 0), .router .look, .router .settle]]

def lostMid : Run × Effects :=
  ((start unpaced .fresh).steps? ⟨default, default⟩ lostRun).get (by decide)

def lostEnd : Run × Effects :=
  (lostMid.1.steps? ⟨default, default⟩ lostRunLater).get (by decide)

def refusedRun : List RunAction :=
  List.flatten [draws SampleLane.query, [.router .deliver, .worker 0 .advance],
    [.worker 0 (.refused .connectTimedOut)], List.replicate 4 (.worker 0 .advance)]

def refusedMid (policy : ConnectFailurePolicy) : Run × Effects :=
  ((start { unpaced with connectFailure := policy } .fresh).steps? ⟨default, default⟩
    refusedRun).get (by cases policy <;> decide)

def lonelyRunLater : List RunAction :=
  List.flatten [draws SampleLane.query, [.worker 0 .advance, .router .look, .router (.next .finish)],
    [.worker 0 .advance, .router .look, .router (.join 0), .router .look, .router .settle]]

def lonelyEnd : Run × Effects :=
  ((refusedMid .closeLane).1.steps? ⟨default, default⟩ lonelyRunLater).get (by decide)

/-- The later request is given up under the next number, where the run ends well and where it ends
    without a summary. -/
theorem lostRun_stays_aborted :
    (lostMid.1.workers[0]?.map (fun worker => worker.report.abort) = some (some .connectionLost) ∧
      lostEnd.1.router = .finished (.ok ⟨1, 1, 1, 2, 2, 0, 0⟩) ∧
      taken (lostMid.1.laneEffects lostEnd.2 SampleLane.query.lane) = [SampleLane.query] ∧
      (lostMid.1.laneStats lostEnd.2 SampleLane.query.lane).map Stat.seq = [1]) ∧
    (refusedMid .closeLane).1.workers[0]?.map (fun worker => worker.report.abort) =
        some (some .connectFailed) ∧
      lonelyEnd.1.router = .finished (.error (.noLaneConnected 1)) ∧
      taken ((refusedMid .closeLane).1.laneEffects lonelyEnd.2 SampleLane.query.lane) =
        [SampleLane.query] ∧
      ((refusedMid .closeLane).1.laneStats lonelyEnd.2 SampleLane.query.lane).map Stat.seq = [1] := by
  have given_up (first later : List RunAction) (mid last : Run × Effects)
      (begun : (start unpaced .fresh).steps? ⟨default, default⟩ first = some mid)
      (ended : mid.1.steps? ⟨default, default⟩ later = some last)
      (at_id : mid.1.workers[0]?.map (fun worker => (worker.lane, worker.report.abort.isSome)) =
        some (SampleLane.query.lane, true))
      (unyielded : ∀ worker ∈ mid.1.workers, worker.report.yielded = false)
      (calm : last.1.isCalm = true) (at_end : last.1.isFinished = true)
      (all : onLane SampleLane.query.lane (streamed (first ++ later)) =
        taken (mid.1.laneEffects mid.2 SampleLane.query.lane) ++ [SampleLane.query])
      (numbers : List.range' (mid.1.laneStats mid.2 SampleLane.query.lane).length
        (mid.1.laneStats last.2 SampleLane.query.lane).length = [1]) :
      taken (mid.1.laneEffects last.2 SampleLane.query.lane) = [SampleLane.query] ∧
        (mid.1.laneStats last.2 SampleLane.query.lane).map Stat.seq = [1] := by
    obtain ⟨worker, at_id, fields⟩ := Option.map_eq_some_iff.mp at_id
    simp only [Prod.mk.injEq] at fields
    obtain ⟨_, _, numbered, used_up, _⟩ := (trace_of_steps? begun).stays_aborted
      (onward_of_steps? ended) calm (unbroken_of_unyielded unyielded _) at_id fields.1 fields.2
    exact ⟨List.append_cancel_left ((used_up at_end).symm.trans all), numbered.trans numbers⟩
  have lost := given_up lostRun lostRunLater lostMid lostEnd (Option.some_get _).symm
    (Option.some_get _).symm (by decide) (by decide) (by decide) rfl (by decide) (by decide)
  have lonely := given_up refusedRun lonelyRunLater (refusedMid .closeLane) lonelyEnd
    (Option.some_get _).symm (Option.some_get _).symm (by decide) (by decide) (by decide) rfl
    (by decide) (by decide)
  exact ⟨⟨by decide, rfl, lost⟩, by decide, rfl, lonely⟩

def fatalRunLater : List RunAction :=
  List.flatten [draws SampleLane.query, [.router .look, .router .event, .worker 0 .giveUp],
    [.router (.join 0), .router .settle]]

def fatalEnd : Run × Effects :=
  ((refusedMid .abortRun).1.steps? ⟨default, default⟩ fatalRunLater).get (by decide)

/-- Nobody cancels a run that a refused connection brings down, but it leaves a request of the
    aborted lane without a stat record, and a run in which no lane connects has no summary. -/
theorem refusedRun_unaccounted :
    RunAction.cancel ∉ refusedRun ++ fatalRunLater ++ lonelyRunLater ∧
      (∀ policy, (refusedMid policy).1.workers.map (fun worker =>
        (worker.lane, worker.report.abort)) = [(SampleLane.query.lane, some .connectFailed)]) ∧
      (requests (onLane SampleLane.query.lane (streamed fatalRunLater)) = [SampleLane.query] ∧
        (refusedMid .abortRun).1.laneStats fatalEnd.2 SampleLane.query.lane = [] ∧
        fatalEnd.1.router = .finished (.error (.connect "" .connectTimedOut))) ∧
      lonelyEnd.1.router = .finished (.error (.noLaneConnected 1)) := by
  refine ⟨by decide, fun policy => by cases policy <;> decide, ⟨by decide, by decide, rfl⟩, rfl⟩

/-- A record slips in after the worker has decided to yield and before its queue is shut, and breaks
    the link. -/
def slippedRun : List RunAction :=
  List.flatten [draws SampleLane.query, [.router .deliver, .worker 0 .advance, .worker 0 .connected],
    asks 0 16 (.received (SampleLane.reply 9 77)), draws bystander, [.router .deliver],
    List.replicate 4 (.worker 1 .advance), List.replicate 3 (.worker 0 .advance),
    draws SampleLane.query, List.replicate 4 (.worker 0 .advance),
    [.worker 0 (.sendFailed ⟨.brokenPipe, "broken pipe"⟩)], List.replicate 3 (.worker 0 .advance),
    draws SampleLane.query, [.router .deliver, .worker 0 .advance, .worker 1 .advance],
    [.worker 1 (.refused .connectTimedOut), .worker 1 .advance, .worker 2 .advance],
    [.worker 2 .advance, .worker 2 .connected], asks 2 16 (.received (SampleLane.reply 9 77))]

def slippedEnd : Run × Effects :=
  ((start unpaced .fresh).steps? ⟨default, default⟩ slippedRun).get (by decide)

/-- A lane whose worker had yielded before it was aborted can start over. -/
example : slippedEnd.1.workersOn SampleLane.query.lane = [0, 2] ∧
    slippedEnd.1.workers[0]?.map (fun worker => worker.report.abort) =
      some (some .connectionLost) ∧
    (transmitted (slippedEnd.2.ofWorker 2)).length = 1 ∧
    (slippedEnd.1.laneStats slippedEnd.2 SampleLane.query.lane).map Stat.seq = [0, 1, 0] := by
  decide

end Run

end TrafficReplay
