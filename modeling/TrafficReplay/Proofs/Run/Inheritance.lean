import TrafficReplay.Proofs.Lane.Accounting
import TrafficReplay.Proofs.Run.Delivery

namespace TrafficReplay

namespace Worker

/-- What holds of a worker that somebody may succeed. -/
structure Inheritable (worker : Worker) : Prop where
  left : worker.phase = .ended →
    worker.handoff = .passed worker.memory ∨ worker.report.abort.isSome = true
  yielded : worker.accepting = false → worker.report.yielded = true

theorem Step.inheritable {around : Surroundings} {worker : Worker} {shared : Shared}
    {action : WorkerAction} {outcome : Outcome}
    (step : Step around worker shared action outcome) (quiet : shared.signal.fired = false)
    (sound : worker.Sound around.fed) (calm : worker.Calm around.fed)
    (heir : around.hasHeir = true) (fed : worker.accepting = true → around.fed = true)
    (inheritable : worker.Inheritable) : outcome.1.Inheritable := by
  -- A worker whose queue takes more records is fed, and so does not end.
  have shut : outcome.1.phase = .ended → worker.accepting = false := by
    intro ended
    obtain ⟨starved, _⟩ := step.ends quiet sound calm.uncancelled ended
    cases accepting : worker.accepting with
    | false => rfl
    | true => exact absurd (fed accepting) (by simp [(isStarved_iff.mp starved).2 accepting])
  refine ⟨fun ended => ?_, fun closed => ?_⟩
  · have yielded := inheritable.yielded (shut ended)
    have undecided : worker.handoff = .undecided := sound.decided.mpr step.not_ended
    cases step with
    | bequeaths => exact .inl rfl
    | diesOut _ _ noHeir => exact absurd heir (by simp [noHeir])
    | concludes _ kept => exact absurd yielded (by simp [kept])
    | drainsDry phase => exact .inr (sound.draining phase)
    | endsCancelled phase =>
      rcases phase with ⟨_, phase⟩ | ⟨_, fired, _⟩
      · exact absurd (by rw [phase]; rfl) calm.uncancelled
      · exact absurd fired (by simp [quiet])
    | shifts shift => exact absurd ended shift.not_ended
    | withholds | fails => exact absurd ended (afterFailure_not_ended _ _)
    | hears =>
      revert ended
      dsimp only
      split
      · exact fun ended => absurd ended (afterFailure_not_ended _ _)
      · exact nofun
    | drainsReply phase | drains phase => exact absurd (phase.symm.trans ended) nofun
    | _ => cases ended
  · apply step.flags.1
    cases before : worker.accepting with
    | false => exact inheritable.yielded before
    | true =>
      rcases step.shuts before closed with ⟨stamp, phase⟩ | ended
      · exact sound.yielding stamp phase
      · exact absurd before (by simp [shut ended])

theorem Step.takes_over {around : Surroundings} {worker : Worker} {shared : Shared}
    {action : WorkerAction} {outcome : Outcome}
    (step : Step around worker shared action outcome) (quiet : shared.signal.fired = false)
    {predecessor : WorkerId} {memory : LaneMemory} (waiting : worker.phase = .succeeding predecessor)
    (legacy : around.legacy = .passed memory) :
    outcome.1 = { worker with memory := memory, phase := .acquiring .trying } ∧
      outcome.2.2 = [] := by
  cases step.of_succeeding waiting with
  | startsAnew nothing => rcases nothing with none | none <;> simp [none] at legacy
  | resumes passed =>
    rw [legacy] at passed
    cases passed
    exact ⟨rfl, rfl⟩
  | givesUp fired => exact absurd fired (by simp [quiet])

end Worker

namespace Run

variable {run after : Run} {settings : RunSettings} {actions : List RunAction} {effects : Effects}
  {lane : LaneId}

theorem hasHeir_iff {id : Nat} :
    run.hasHeir id = true ↔ run.isFed id = true ∨
      ∃ (later : Nat) (worker : Worker), run.workers[later]? = some worker ∧
        worker.phase = .succeeding id := by
  simp only [hasHeir, Bool.or_eq_true, List.any_eq_true, decide_eq_true_eq]
  refine or_congr_right ⟨?_, ?_⟩
  · rintro ⟨worker, member, waiting⟩
    obtain ⟨later, at_later⟩ := List.getElem?_of_mem member
    exact ⟨later, worker, at_later, waiting⟩
  · rintro ⟨later, worker, at_later, waiting⟩
    exact ⟨worker, List.mem_of_getElem? at_later, waiting⟩

theorem Step.waiting {action : RunAction} {new : Effects} (step : Step run action after new)
    {id later : Nat} {worker : Worker} (at_later : after.workers[later]? = some worker)
    (waiting : worker.phase = .succeeding id) :
    run.isFed id = true ∨
      ∃ old, run.workers[later]? = some old ∧ old.phase = .succeeding id := by
  have change := step.change at_later
  generalize new.ofWorker later = done at change
  cases change with
  | @opened record predecessor fresh opens =>
    left
    cases predecessor with
    | none => cases waiting
    | some predecessor =>
      cases waiting
      exact isFed_iff.mpr ⟨_, mem_of_lookup opens.handle⟩
  | kept was => exact .inr ⟨worker, was, waiting⟩
  | @bequeathed old _ _ was =>
    obtain ⟨handoff, marked⟩ := markTaken_fields old
    rw [marked] at waiting
    exact .inr ⟨old, was, waiting⟩
  | pushed was => exact .inr ⟨_, was, waiting⟩
  | worked _ move => exact absurd waiting (move.not_succeeding id)

theorem Step.heir {action : RunAction} {new : Effects} (step : Step run action after new) {id : Nat}
    (old : id < run.workers.length) (heir : after.hasHeir id = true) : run.hasHeir id = true := by
  refine hasHeir_iff.mpr ?_
  rcases hasHeir_iff.mp heir with fed | ⟨later, worker, at_later, waiting⟩
  · exact .inl (step.fed old fed)
  · exact (step.waiting at_later waiting).imp (fun fed => fed) fun ⟨old, was, waited⟩ =>
      ⟨later, old, was, waited⟩

theorem Linked.one_heir (linked : run.Linked) {id first second : Nat} {a b : Worker}
    (at_first : run.workers[first]? = some a) (at_second : run.workers[second]? = some b)
    (a_waits : a.phase = .succeeding id) (b_waits : b.phase = .succeeding id) : first = second := by
  have apart : ∀ {first second : Nat} {a b : Worker}, first < second →
      run.workers[first]? = some a → run.workers[second]? = some b →
      a.phase = .succeeding id → b.phase = .succeeding id → False := by
    intro first second a b order at_first at_second a_waits b_waits
    obtain ⟨before, ⟨old, at_old, a_lane⟩, _⟩ := linked.preceded first id a at_first a_waits
    obtain ⟨_, ⟨old', at_old', b_lane⟩, between⟩ := linked.preceded second id b at_second b_waits
    rw [at_old] at at_old'
    cases at_old'
    exact between first a before order at_first (a_lane.symm.trans b_lane)
  rcases Nat.lt_trichotomy first second with earlier | equal | later
  · exact (apart earlier at_first at_second a_waits b_waits).elim
  · exact equal
  · exact (apart later at_second at_first b_waits a_waits).elim

theorem Linked.waited_unfed (linked : run.Linked) {id later : Nat} {heir : Worker}
    (at_later : run.workers[later]? = some heir) (waiting : heir.phase = .succeeding id) :
    run.isFed id = false := by
  cases fed : run.isFed id with
  | false => rfl
  | true =>
    obtain ⟨lane, member⟩ := isFed_iff.mp fed
    obtain ⟨⟨worker, at_id, of_lane⟩, last⟩ := linked.handled lane id member
    obtain ⟨order, ⟨old, at_old, same⟩, _⟩ := linked.preceded later id heir at_later waiting
    rw [at_id] at at_old
    cases at_old
    exact absurd (same.symm.trans of_lane) (last later heir order at_later)

theorem Linked.waited_shut (linked : run.Linked) {id later : Nat} {old heir : Worker}
    (at_id : run.workers[id]? = some old) (at_later : run.workers[later]? = some heir)
    (waiting : heir.phase = .succeeding id) : old.accepting = false := by
  obtain ⟨order, ⟨found, at_found, same⟩, _⟩ := linked.preceded later id heir at_later waiting
  rw [at_id] at at_found
  cases at_found
  exact linked.shut id later old heir order at_id at_later same

theorem Trace.inheritable (trace : Trace settings actions effects run)
    (calm : run.isCalm = true) {id : Nat} {worker : Worker} (at_id : run.workers[id]? = some worker)
    (heir : run.hasHeir id = true) : worker.Inheritable := by
  induction trace generalizing id worker with
  | start => cases at_id
  | @step actions effects new run after reading action trace step ih =>
    have step := step_of_step? step
    have calm_before := step.calm calm
    have change := step.change at_id
    generalize new.ofWorker id = done at change
    cases change with
    | @opened record predecessor fresh opens =>
      cases predecessor <;> exact ⟨nofun, nofun⟩
    | kept was => exact ih calm_before was (step.heir (lt_of_worker was) heir)
    | @bequeathed old former by_id was at_heir waiting gone =>
      -- Whoever waited for the worker has taken its legacy, and nobody else can.
      have unfed := trace.linked.waited_unfed at_heir waiting
      rcases hasHeir_iff.mp heir with fed | ⟨later, waiter, at_later, still_waiting⟩
      · exact absurd (step.fed (lt_of_worker was) fed) (by simp [unfed])
      · rcases step.waiting at_later still_waiting with fed | ⟨before, was_later, waited⟩
        · exact absurd fed (by simp [unfed])
        · cases trace.linked.one_heir at_heir was_later waiting waited
          exact absurd still_waiting (gone waiter at_later id)
    | @pushed old record was =>
      have before := ih calm_before was (step.heir (lt_of_worker was) heir)
      exact ⟨before.left, before.yielded⟩
    | @worked old reading action outcome was move =>
      have heir_before := step.heir (lt_of_worker was) heir
      have quiet := trace.joins.quiet calm_before was move.not_ended
      obtain ⟨sound, calm⟩ := trace.each calmness (fun _ => calm_before) was
      refine move.inheritable quiet sound calm heir_before ?_ (ih calm_before was heir_before)
      intro accepting
      rcases hasHeir_iff.mp heir_before with fed | ⟨later, waiter, at_later, waiting⟩
      · exact fed
      · exact absurd accepting (by simp [trace.linked.waited_shut was at_later waiting])

def laneStats (run : Run) (effects : Effects) (lane : LaneId) : List Stat :=
  reported (effects.ofWorkers (run.workersOn lane))

def laneEffects (run : Run) (effects : Effects) (lane : LaneId) : List LaneEffect :=
  effects.ofWorkers (run.workersOn lane)

theorem laneEffects_works (effects : Effects) {id : Nat} {worker : Worker} (new : List LaneEffect)
    (at_id : run.workers[id]? = some worker) (same : after.workersOn lane = run.workersOn lane) :
    after.laneEffects (effects ++ new.map fun effect => (id, effect)) lane =
      run.laneEffects effects lane ++ if worker.lane = lane then new else [] := by
  unfold laneEffects
  rw [same, Effects.ofWorkers_append]
  congr 1
  split
  · rename_i of_lane
    exact Effects.ofWorkers_mem new (mem_workersOn.mpr ⟨worker, at_id, of_lane⟩)
  · rename_i elsewhere
    exact Effects.ofWorkers_not_mem new fun member => elsewhere (lane_of_mem at_id member)

theorem laneEffects_opens (fresh : effects.ofWorker run.workers.length = []) (opened lane : LaneId)
    (predecessor : Option WorkerId) :
    (run.openWorker opened predecessor).laneEffects effects lane = run.laneEffects effects lane := by
  unfold laneEffects
  rw [workersOn_openWorker]
  split
  · exact Effects.ofWorkers_concat fresh _
  · rw [List.append_nil]

/-- No worker of a lane was aborted after it had yielded. -/
def Unbroken (run : Run) (lane : LaneId) : Prop :=
  ∀ (id : Nat) (worker : Worker), run.workers[id]? = some worker → worker.lane = lane →
    ¬(worker.report.yielded = true ∧ worker.report.abort.isSome = true)

theorem Step.flags {action : RunAction} {new : Effects} (step : Step run action after new) {id : Nat}
    {old worker : Worker} (was : run.workers[id]? = some old)
    (at_id : after.workers[id]? = some worker) :
    (old.report.yielded = true → worker.report.yielded = true) ∧
      (old.report.abort.isSome = true → worker.report.abort.isSome = true) := by
  have change := step.change at_id
  generalize new.ofWorker id = done at change
  cases change with
  | opened fresh => exact absurd (lt_of_worker was) (by omega)
  | kept found =>
    rw [was] at found
    cases found
    exact ⟨fun yielded => yielded, fun aborted => aborted⟩
  | bequeathed found =>
    rw [was] at found
    cases found
    obtain ⟨handoff, marked⟩ := markTaken_fields old
    rw [marked]
    exact ⟨fun yielded => yielded, fun aborted => aborted⟩
  | pushed found =>
    rw [was] at found
    cases found
    exact ⟨fun yielded => yielded, fun aborted => aborted⟩
  | worked found move =>
    rw [was] at found
    cases found
    exact move.flags

theorem Step.unbroken {action : RunAction} {new : Effects} (step : Step run action after new)
    (unbroken : after.Unbroken lane) : run.Unbroken lane := by
  rintro id old was of_lane ⟨yielded, aborted⟩
  obtain ⟨worker, at_id⟩ := step.stays was
  have same := step.lane was at_id
  have flags := step.flags was at_id
  exact unbroken id worker at_id (same.trans of_lane) ⟨flags.1 yielded, flags.2 aborted⟩

/-- A worker that no longer waits, while all later ones of its lane do. -/
structure Current (run : Run) (lane : LaneId) (id : Nat) (worker : Worker) : Prop where
  at_id : run.workers[id]? = some worker
  of_lane : worker.lane = lane
  going : ∀ predecessor, worker.phase ≠ .succeeding predecessor
  last : ∀ (later : Nat) (other : Worker), id < later → run.workers[later]? = some other →
    other.lane = lane → ∃ predecessor, other.phase = .succeeding predecessor

theorem Linked.rest_waits (linked : run.Linked) {id predecessor : Nat} {worker : Worker}
    (at_id : run.workers[id]? = some worker) (of_lane : worker.lane = lane)
    (waiting : worker.phase = .succeeding predecessor)
    (rest : ∀ (later : Nat) (other : Worker), id < later → run.workers[later]? = some other →
      other.lane = lane → ∃ predecessor, other.phase = .succeeding predecessor) :
    ∀ (later : Nat) (other : Worker), predecessor < later → run.workers[later]? = some other →
      other.lane = lane → ∃ predecessor, other.phase = .succeeding predecessor := by
  obtain ⟨_, _, between⟩ := linked.preceded id predecessor worker at_id waiting
  intro later other behind at_later other_lane
  rcases Nat.lt_trichotomy later id with earlier | rfl | beyond
  · exact absurd (other_lane.trans of_lane.symm) (between later other behind earlier at_later)
  · rw [at_id] at at_later
    cases at_later
    exact ⟨predecessor, waiting⟩
  · exact rest later other beyond at_later other_lane

/-- A lane that has workers has a current one. -/
theorem Linked.exists_current (linked : run.Linked) (somebody : run.workersOn lane ≠ []) :
    ∃ id worker, run.Current lane id worker := by
  -- Going back from a worker that waits to its predecessor ends at one that does not wait.
  have back : ∀ (id : Nat) (worker : Worker), run.workers[id]? = some worker → worker.lane = lane →
      (∀ (later : Nat) (other : Worker), id < later → run.workers[later]? = some other →
        other.lane = lane → ∃ predecessor, other.phase = .succeeding predecessor) →
      ∃ id worker, run.Current lane id worker := by
    intro id
    induction id using Nat.strongRecOn with
    | ind id ih =>
      intro worker at_id of_lane last
      by_cases waits : ∃ predecessor, worker.phase = .succeeding predecessor
      · obtain ⟨predecessor, waiting⟩ := waits
        obtain ⟨order, ⟨old, at_old, same⟩, _⟩ :=
          linked.preceded id predecessor worker at_id waiting
        exact ih predecessor order old at_old (same.trans of_lane)
          (linked.rest_waits at_id of_lane waiting last)
      · exact ⟨id, worker, at_id, of_lane, fun predecessor waiting => waits ⟨predecessor, waiting⟩,
          last⟩
  rcases List.eq_nil_or_concat (run.workersOn lane) with nobody | ⟨front, id, split⟩
  · exact absurd nobody somebody
  · rw [List.concat_eq_append] at split
    obtain ⟨worker, at_id, of_lane⟩ := mem_workersOn.mp
      (split ▸ List.mem_append_right front List.mem_cons_self : id ∈ run.workersOn lane)
    refine back id worker at_id of_lane fun later other order at_later other_lane => ?_
    have member : later ∈ run.workersOn lane := mem_workersOn.mpr ⟨other, at_later, other_lane⟩
    have sorted := run.workersOn_sorted lane
    rw [split] at member sorted
    obtain ⟨_, _, before⟩ := List.pairwise_append.mp sorted
    rcases List.mem_append.mp member with earlier | same
    · exact absurd (before later earlier id List.mem_cons_self) (Nat.lt_asymm order)
    · exact absurd (List.mem_singleton.mp same) (Nat.ne_of_gt order)

theorem Trace.others_wait (trace : Trace settings actions effects run) (calm : run.isCalm = true)
    {id : Nat} {worker : Worker} (at_id : run.workers[id]? = some worker)
    (of_lane : worker.lane = lane) (going : worker.phase ≠ .ended) {later : Nat} {other : Worker}
    (order : id < later) (at_later : run.workers[later]? = some other) (same : other.lane = lane) :
    ∃ predecessor, other.phase = .succeeding predecessor :=
  (trace.exclusive calm id later worker other order at_id at_later
    (of_lane.trans same.symm)).resolve_left going

/-- A worker that waits takes a step only once its predecessor, the current worker until then, has
    passed its memory on. -/
theorem Trace.takes_over (trace : Trace settings actions effects run) (calm : run.isCalm = true)
    (unbroken : run.Unbroken lane) {id predecessor : Nat} {worker : Worker} {reading : Reading}
    {action : WorkerAction} {outcome : Worker.Outcome} (at_id : run.workers[id]? = some worker)
    (of_lane : worker.lane = lane) (waiting : worker.phase = .succeeding predecessor)
    (move : Worker.Step (run.surroundings reading id worker) worker run.shared action outcome) :
    ∃ old, run.Current lane predecessor old ∧ old.phase = .ended ∧
      old.handoff = .passed old.memory ∧ old.report.abort.isSome = false ∧
      outcome.1 = { worker with memory := old.memory, phase := .acquiring .trying } ∧
      outcome.2.2 = [] := by
  have quiet := trace.joins.quiet calm at_id move.not_ended
  obtain ⟨_, ⟨old, at_old, same⟩, _⟩ := trace.linked.preceded id predecessor worker at_id waiting
  have decided : old.handoff ≠ .undecided := by
    rcases move.stops_waiting waiting with legacy | fired
    · simpa only [surroundings, legacyOf, waiting, at_old] using legacy
    · exact absurd fired (by simp [quiet])
  have sound := trace.each soundness (by simp) at_old
  have ended : old.phase = .ended := by
    by_cases ended : old.phase = .ended
    · exact ended
    · exact absurd (sound.decided.mpr ended) decided
  have heir : run.hasHeir predecessor = true := hasHeir_iff.mpr (.inr ⟨id, worker, at_id, waiting⟩)
  have inheritable := trace.inheritable calm at_old heir
  have yielded := inheritable.yielded (sound.closed ended)
  have whole : ¬old.report.abort.isSome = true := fun aborted =>
    unbroken predecessor old at_old (same.trans of_lane) ⟨yielded, aborted⟩
  have passed : old.handoff = .passed old.memory :=
    (inheritable.left ended).resolve_right whole
  have legacy : (run.surroundings reading id worker).legacy = .passed old.memory := by
    simp only [surroundings, legacyOf, waiting, at_old, passed]
  have last := trace.linked.rest_waits at_id of_lane waiting fun later other =>
    trace.others_wait calm at_id of_lane move.not_ended
  exact ⟨old, ⟨at_old, same.trans of_lane, by rw [ended]; simp, last⟩, ended, passed,
    Bool.eq_false_iff.mpr whole, move.takes_over quiet waiting legacy⟩

end Run

end TrafficReplay
