import TrafficReplay.Proofs.Run.History
import TrafficReplay.Proofs.Run.Inheritance
import TrafficReplay.Proofs.Run.Slots

namespace TrafficReplay.Run

/-- No action is possible to the worker, whatever happens outside. -/
def Stuck (run : Run) (id : WorkerId) : Prop :=
  ∀ reading action, run.step? reading (.worker id action) = none

/-- The router can do nothing but look again. -/
def Waits (run : Run) : Prop :=
  ∀ reading action, action ≠ .again → run.step? reading (.router action) = none

/-- Every worker has ended or waits for somebody else. -/
def Resting (run : Run) : Prop :=
  ∀ (id : Nat) (worker : Worker), run.workers[id]? = some worker →
    worker.Rests (run.surroundings ⟨default, default⟩ id worker) run.shared

variable {settings : RunSettings} {actions : List RunAction} {effects : Effects} {run : Run}

theorem Stuck.rests {id : Nat} {worker : Worker} (stuck : run.Stuck id)
    (at_id : run.workers[id]? = some worker) (reading : Reading) :
    worker.Rests (run.surroundings reading id worker) run.shared := by
  have idle (action : WorkerAction) :
      worker.step? (run.surroundings reading id worker) run.shared action = none := by
    have none := stuck reading action
    simp only [step?, workerStep?, at_id, Option.map_eq_none_iff] at none
    split at none
    · assumption
    · cases none
  exact Worker.rests_of_idle (fun action _ => idle action) (idle .wake)

theorem shutsOnceYielded :
    WorkerInvariant false fun _ _ worker => worker.ShutsOnceYielded where
  opened _ _ _ predecessor := by cases predecessor <;> exact nofun
  unfed _ before := before
  bequeathed {_ _ worker} before := by
    obtain ⟨handoff, marked⟩ := markTaken_fields worker
    rw [marked]
    exact before
  pushed _ _ before := before
  worked step _ before := step.shutsOnceYielded before

/-- While somebody waits for a slot, a parked worker has a step to take: it hears of the waiter, or its
    queue is not empty or has ended. -/
theorem Trace.parked_goes_on (trace : Trace settings actions effects run) {waiter id stamp : Nat}
    {other worker : Worker} (at_waiter : run.workers[waiter]? = some other)
    (awaits : other.phase.awaitsSlot = true) (at_id : run.workers[id]? = some worker)
    (parked : worker.phase = .parked stamp) :
    ¬worker.Rests (run.surroundings ⟨default, default⟩ id worker) run.shared := by
  intro rests
  cases rests with
  | @parked known phase empty hopeful undisturbed =>
    have accepting : worker.accepting = true := by
      cases accepting : worker.accepting with
      | true => rfl
      | false => simp [Worker.isStarved, empty, accepting] at hopeful
    have unyielded : worker.report.yielded = false := by
      cases yielded : worker.report.yielded with
      | false => rfl
      | true =>
        rcases trace.each shutsOnceYielded (by simp) at_id yielded with shut | ⟨_, yielding⟩
        · rw [accepting] at shut
          cases shut
        · exact absurd (phase.symm.trans yielding) (by simp)
    have heard : ¬known < run.shared.pool.announced := by
      simpa [unyielded, SlotPool.contendedSince] using undisturbed
    apply heard
    apply trace.heard.unheard
    · refine List.mem_map.mpr ⟨worker, List.mem_of_getElem? at_id, ?_⟩
      rw [phase, unyielded]
    · exact ⟨_, List.mem_map_of_mem (List.mem_of_getElem? at_waiter), awaits⟩
  | ended phase | draining phase | queued phase | succeeding phase =>
    exact absurd (parked.symm.trans phase) (by simp)

/-- If no worker can take a step, none waits for a slot: the slots would be held by workers that can. -/
theorem Trace.none_queued (trace : Trace settings actions effects run)
    (slots : 0 < settings.laneLimit) (resting : run.Resting) {id : Nat} {worker : Worker}
    (at_id : run.workers[id]? = some worker) : worker.phase ≠ .acquiring .queued := by
  intro queued
  have account := trace.slots
  have ungranted : run.shared.pool.granted = [] := by
    apply List.eq_nil_iff_forall_not_mem.mpr
    intro other granted
    have listed := (account.listed other).mp (List.mem_append_right _ granted)
    rw [phases, List.getElem?_map] at listed
    obtain ⟨waiter, at_other, phase⟩ := Option.map_eq_some_iff.mp listed
    cases resting other _ at_other with
    | queued _ ungranted => exact ungranted granted
    | ended clash | parked clash | draining clash | succeeding clash =>
      exact absurd (phase.symm.trans clash) (by simp)
  have unfree : run.shared.pool.free = 0 := by
    have listed : id ∈ run.shared.pool.inLine := by
      rw [account.listed, phases, List.getElem?_map, at_id, Option.map_some, queued]
    rw [SlotPool.inLine, ungranted, List.append_nil] at listed
    rcases account.tight with none | busy
    · rw [none] at listed
      cases listed
    · exact busy
  have held : 0 < run.phases.countP WorkerPhase.holdsSlot := by
    have total := account.total
    rw [SlotPool.unheld, unfree, ungranted, List.length_nil] at total
    omega
  obtain ⟨phase, member, holds⟩ := List.countP_pos_iff.mp held
  obtain ⟨holder, found, rfl⟩ := List.mem_map.mp member
  obtain ⟨other, at_other⟩ := List.getElem?_of_mem found
  have awaits : worker.phase.awaitsSlot = true := by rw [queued]; rfl
  cases resting other _ at_other with
  | parked phase => exact trace.parked_goes_on at_id awaits at_other phase (resting other _ at_other)
  | ended phase | draining phase | queued phase | succeeding phase =>
    rw [phase] at holds
    cases holds

theorem Trace.none_succeeding (trace : Trace settings actions effects run)
    (slots : 0 < settings.laneLimit) (resting : run.Resting) {id predecessor : Nat} {worker : Worker}
    (at_id : run.workers[id]? = some worker) : worker.phase ≠ .succeeding predecessor := by
  -- A predecessor comes before the worker, and its queue is shut, so that it can run out.
  induction id using Nat.strongRecOn generalizing predecessor worker with
  | ind id earlier =>
    intro waiting
    obtain ⟨order, ⟨old, at_old, _⟩, _⟩ :=
      trace.linked.preceded id predecessor worker at_id waiting
    have shut := trace.linked.waited_shut at_old at_id waiting
    have going : old.phase ≠ .ended := by
      cases resting id _ at_id with
      | @succeeding named phase undecided =>
        simp only [surroundings, legacyOf, waiting, at_old] at undecided
        exact (trace.each soundness (by simp) at_old).decided.mp undecided
      | ended phase | parked phase | draining phase | queued phase =>
        exact absurd (waiting.symm.trans phase) (by simp)
    cases resting predecessor _ at_old with
    | ended phase => exact going phase
    | parked _ empty hopeful | draining _ empty hopeful =>
      simp [Worker.isStarved, empty, shut] at hopeful
    | queued phase => exact trace.none_queued slots resting at_old phase
    | succeeding phase => exact earlier predecessor order at_old phase

/-- If no worker can take a step, each has ended or waits for the next record of its lane. -/
theorem Trace.all_served (trace : Trace settings actions effects run)
    (slots : 0 < settings.laneLimit) (resting : run.Resting) {id : Nat} {worker : Worker}
    (at_id : run.workers[id]? = some worker) (going : worker.phase ≠ .ended) :
    worker.queue = [] ∧ run.isFed id = true := by
  cases resting id _ at_id with
  | ended phase => exact absurd phase going
  | parked _ empty hopeful | draining _ empty hopeful =>
    refine ⟨empty, ?_⟩
    cases fed : run.isFed id with
    | true => rfl
    | false => simp [Worker.isStarved, empty, surroundings, fed] at hopeful
  | queued phase => exact absurd phase (trace.none_queued slots resting at_id)
  | succeeding phase => exact absurd phase (trace.none_succeeding slots resting at_id)

theorem Trace.unfed (trace : Trace settings actions effects run) (past : run.isRouting = false) :
    run.handles = [] := by
  induction trace with
  | start => cases past
  | step trace step ih =>
    cases step_of_step? step with
    | cancels | works => exact ih past
    | routes routed =>
      cases routed with
      | stops | breaksOff | meetsFailure | givesUp | breaksOffLate | meetsEnd => rfl
      | @looks mode phase | @looksAgain mode phase | @notes mode _ _ _ phase =>
        cases mode with
        | routing => cases past
        | waiting => exact ih (by simp only [isRouting, phase])
      | joins phase =>
        rcases phase with ⟨mode, phase, rfl⟩ | ⟨fault, phase, rfl⟩
        · cases mode with
          | routing => cases past
          | waiting => exact ih (by simp only [isRouting, phase])
        · exact ih (by simp only [isRouting, phase])
      | settles phase | settlesStopped phase => exact ih (by simp only [isRouting, phase])
      | draws | delivers => cases past
      | opens phase | replaces phase =>
        simp only [isRouting, openWorker, phase] at past
        cases past

theorem Joins.complete (joins : run.Joins)
    (ended : ∀ (id : Nat) (worker : Worker), run.workers[id]? = some worker → worker.phase = .ended)
    (none_left : ∀ id, run.join? id = none) : run.allJoined = true := by
  have all : List.range run.workers.length ⊆ run.joined := by
    intro id member
    have at_id := List.getElem?_eq_getElem (List.mem_range.mp member)
    have gone := ended id _ at_id
    have left := none_left id
    simp only [join?, at_id, gone, true_and] at left
    split at left
    · cases left
    · rename_i joined
      simpa using joined
  have lower := (List.subperm_of_subset List.nodup_range all).length_le
  rw [List.length_range] at lower
  simp only [allJoined, decide_eq_true_eq]
  exact Nat.le_antisymm joins.length_le lower

/-- A router that waits although no worker is stuck for good waits for nothing: either the queue it
    wants to fill belongs to a worker that can go on, or some worker has yet to end. -/
theorem Trace.not_resting (trace : Trace settings actions effects run)
    (slots : 0 < settings.laneLimit) (room : 0 < settings.queueDepth)
    (unfinished : run.isFinished = false) (waits : run.Waits) : ¬run.Resting := by
  intro resting
  have stops (action : RouterAction) (other : action ≠ .again) : run.routerStep? action = none := by
    have none := waits ⟨default, default⟩ action other
    simpa only [step?, Option.map_eq_none_iff] using none
  have all_over (unrouted : run.isRouting = false) (id : Nat) (worker : Worker)
      (at_id : run.workers[id]? = some worker) : worker.phase = .ended := by
    by_cases ended : worker.phase = .ended
    · exact ended
    · obtain ⟨_, fed⟩ := trace.all_served slots resting at_id ended
      rw [isFed, trace.unfed unrouted] at fed
      cases fed
  have all_joined (unrouted : run.isRouting = false)
      (joins : ∀ id, run.routerStep? (.join id) = none → run.join? id = none) :
      run.allJoined = true :=
    trace.joins.complete (all_over unrouted) fun id => joins id (stops (.join id) (by simp))
  cases phase : run.router with
  | looking mode =>
    have look := stops .look (by simp)
    simp only [routerStep?, phase] at look
    split at look <;> cases look
  | choosing mode =>
    cases mode with
    | routing =>
      have next := stops (.next .finish) (by simp)
      simp [routerStep?, phase] at next
    | waiting =>
      have all := all_joined (by simp only [isRouting, phase]) fun id join => by
        simpa [routerStep?, phase] using join
      have settle := stops .settle (by simp)
      simp only [routerStep?, phase, all, if_true] at settle
      split at settle <;> cases settle
  | delivering record =>
    have deliver := stops .deliver (by simp)
    simp only [routerStep?, phase, deliver?] at deliver
    cases handle : run.handles.lookup record.lane with
    | none => simp [handle] at deliver
    | some id =>
      obtain ⟨⟨worker, at_id, _⟩, _⟩ :=
        trace.linked.handled record.lane id (mem_of_lookup handle)
      simp only [handle, at_id] at deliver
      split at deliver
      · cases deliver
      · rename_i unshut
        split at deliver
        · cases deliver
        · rename_i full
          -- The queue is full, but a worker that has not ended and is at rest has served its queue.
          have accepting : worker.accepting = true := by simpa using unshut
          have going : worker.phase ≠ .ended := by
            intro ended
            have shut := (trace.each soundness (by simp) at_id).closed ended
            rw [accepting] at shut
            cases shut
          obtain ⟨empty, _⟩ := trace.all_served slots resting at_id going
          rw [empty, List.length_nil, trace.settings] at full
          exact full room
  | stopping fault =>
    have all := all_joined (by simp only [isRouting, phase]) fun id join => by
      simpa [routerStep?, phase] using join
    have settle := stops .settle (by simp)
    simp [routerStep?, phase, all] at settle
  | finished result => simp [isFinished, phase] at unfinished

theorem Trace.exists_restless (trace : Trace settings actions effects run)
    (slots : 0 < settings.laneLimit) (room : 0 < settings.queueDepth)
    (unfinished : run.isFinished = false) (waits : run.Waits) :
    ∃ (id : Nat) (worker : Worker), run.workers[id]? = some worker ∧
      ¬worker.Rests (run.surroundings ⟨default, default⟩ id worker) run.shared := by
  have moving := trace.not_resting slots room unfinished waits
  simpa only [Resting, not_forall, exists_prop] using moving

/-- While somebody waits for a slot, no worker is parked for good, in particular not all those that hold
    the slots. And when the router can only wait, for room in a queue or for the workers to end, some
    worker can take a step. -/
theorem Trace.never_stuck (trace : Trace settings actions effects run)
    (slots : 0 < settings.laneLimit) (room : 0 < settings.queueDepth) :
    (∀ (waiter id stamp : Nat) (other worker : Worker), run.workers[waiter]? = some other →
      other.phase.awaitsSlot = true → run.workers[id]? = some worker →
        worker.phase = .parked stamp → ¬run.Stuck id) ∧
    (run.isFinished = false → run.Waits →
      ∃ id reading action after, run.step? reading (.worker id action) = some after) := by
  constructor
  · intro waiter id stamp other worker at_waiter awaits at_id parked stuck
    exact trace.parked_goes_on at_waiter awaits at_id parked (stuck.rests at_id _)
  · intro unfinished waits
    obtain ⟨id, worker, at_id, restless⟩ := trace.exists_restless slots room unfinished waits
    have unstuck : ¬run.Stuck id := fun stuck => restless (stuck.rests at_id _)
    simp only [Stuck, not_forall] at unstuck
    obtain ⟨reading, action, possible⟩ := unstuck
    obtain ⟨after, step⟩ := Option.ne_none_iff_exists'.mp possible
    exact ⟨id, reading, action, after, step⟩

def crowdedStream : List Record :=
  [⟨⟨8, 7, .reply, [], Frame.empty_body_le⟩, default, "server", "first"⟩,
    ⟨⟨1, 0, .insert, [], Frame.empty_body_le⟩, default, "second", "server"⟩,
    ⟨⟨2, 0, .insert, [], Frame.empty_body_le⟩, default, "second", "server"⟩]

/-- With one slot and room for one record in each queue: the worker of the first lane parks, that of the
    second one waits for the slot, and the router waits for room in its queue. -/
def crowdedRun : List RunAction :=
  List.flatten [
    (crowdedStream.take 1).flatMap fun record =>
      [.router .look, .router (.next (.record record)), .router .deliver, .router .deliver],
    [.worker 0 .advance, .worker 0 .connected], List.replicate 5 (.worker 0 .advance),
    ((crowdedStream.drop 1).take 1).flatMap fun record =>
      [.router .look, .router (.next (.record record)), .router .deliver, .router .deliver],
    List.replicate 4 (.worker 1 .advance),
    (crowdedStream.drop 2).flatMap fun record =>
      [.router .look, .router (.next (.record record))]]

def crowdedEnd : Run × Effects :=
  ((start (default : Run).settings .fresh).steps? ⟨default, default⟩ crowdedRun).get (by decide)

theorem crowdedRun_goes_on :
    Trace (default : Run).settings crowdedRun crowdedEnd.2 crowdedEnd.1 ∧
      crowdedEnd.1.isFinished = false ∧ crowdedEnd.1.Waits ∧ ¬crowdedEnd.1.Stuck 0 ∧
      ∃ id reading action after, crowdedEnd.1.step? reading (.worker id action) = some after := by
  have steps : (start (default : Run).settings .fresh).steps? ⟨default, default⟩ crowdedRun =
      some crowdedEnd := (Option.some_get _).symm
  have trace := trace_of_steps? steps
  have unfinished : crowdedEnd.1.isFinished = false := by decide
  have waits : crowdedEnd.1.Waits := by
    intro reading action other
    cases action with
    | again => exact absurd rfl other
    | _ => rfl
  have awaits : (crowdedEnd.1.workers[1]?.map fun worker => worker.phase.awaitsSlot) = some true := by
    decide
  have parked : crowdedEnd.1.workers[0]?.map Worker.phase = some (.parked 0) := by decide
  obtain ⟨other, at_waiter, awaits⟩ := Option.map_eq_some_iff.mp awaits
  obtain ⟨worker, at_id, parked⟩ := Option.map_eq_some_iff.mp parked
  have never := trace.never_stuck (by decide) (by decide)
  exact ⟨trace, unfinished, waits, never.1 1 0 0 other worker at_waiter awaits at_id parked,
    never.2 unfinished waits⟩

end TrafficReplay.Run
