import TrafficReplay.Proofs.Run.Lifecycle

namespace TrafficReplay

namespace Worker

theorem Sound.markTaken {fed : Bool} {worker : Worker} (sound : worker.Sound fed) :
    (Run.markTaken worker).Sound fed := by
  unfold Run.markTaken
  split
  · rename_i memory passed
    have ended : worker.phase = .ended := by
      by_cases ended : worker.phase = .ended
      · exact ended
      · exact absurd (sound.decided.mpr ended) (by simp [passed])
    exact { sound with decided := ⟨nofun, fun going => absurd ended going⟩ }
  · exact sound

theorem Calm.markTaken {fed : Bool} {worker : Worker} (calm : worker.Calm fed) :
    (Run.markTaken worker).Calm fed := by
  obtain ⟨handoff, marked⟩ := Run.markTaken_fields worker
  rw [marked]
  exact { calm with }

/-- A worker stops waiting for its predecessor once that has decided what becomes of its state, or
    after a cancellation. -/
theorem Step.stops_waiting {around : Surroundings} {worker : Worker} {shared : Shared}
    {action : WorkerAction} {outcome : Outcome}
    (step : Step around worker shared action outcome) {predecessor : WorkerId}
    (waiting : worker.phase = .succeeding predecessor) :
    around.legacy ≠ .undecided ∨ shared.signal.fired = true := by
  cases step.of_succeeding waiting with
  | startsAnew nothing =>
    left
    rcases nothing with legacy | legacy <;> rw [legacy] <;> exact nofun
  | resumes legacy =>
    left
    rw [legacy]
    exact nofun
  | givesUp fired => exact .inr fired

end Worker

namespace Run

theorem soundness : WorkerInvariant false fun fed _ worker => worker.Sound fed where
  opened := Worker.Sound.opened
  unfed less sound := sound.unfed less
  bequeathed sound := sound.markTaken
  pushed record accepting sound := sound.push accepting record
  worked step _ sound := step.sound sound

theorem calmness :
    WorkerInvariant true fun fed _ worker => worker.Sound fed ∧ worker.Calm fed where
  opened fed lane scope predecessor :=
    ⟨Worker.Sound.opened fed lane scope predecessor, Worker.Calm.opened fed lane scope predecessor⟩
  unfed less both := ⟨both.1.unfed less, both.2.unfed less⟩
  bequeathed both := ⟨both.1.markTaken, both.2.markTaken⟩
  pushed record accepting both :=
    ⟨both.1.push accepting record, both.2.push both.1 accepting record⟩
  worked step quiet both := ⟨step.sound both.1, step.calm (quiet rfl) both.1 both.2⟩

theorem untouched : WorkerInvariant false fun _ effects worker =>
    ∀ predecessor, worker.phase = .succeeding predecessor → effects = [] where
  opened _ _ _ _ _ _ := rfl
  unfed _ before := before
  bequeathed {_ _ worker} before := by
    obtain ⟨handoff, marked⟩ := markTaken_fields worker
    rw [marked]
    exact before
  pushed _ _ before := before
  worked step _ _ predecessor waits := absurd waits (step.not_succeeding predecessor)

/-- Of two workers of a lane, the earlier one has ended or the later one still waits. -/
def Exclusive (run : Run) : Prop :=
  ∀ (first second : Nat) (a b : Worker), first < second → run.workers[first]? = some a →
    run.workers[second]? = some b → a.lane = b.lane →
      a.phase = .ended ∨ ∃ predecessor, b.phase = .succeeding predecessor

theorem Exclusive.predecessors_ended {run : Run} (exclusive : run.Exclusive) (linked : run.Linked)
    (sound : ∀ (id : Nat) (worker : Worker), run.workers[id]? = some worker →
      worker.Sound (run.isFed id))
    {first second : Nat} {a b : Worker} (order : first < second)
    (at_first : run.workers[first]? = some a) (at_second : run.workers[second]? = some b)
    (same : a.lane = b.lane) {predecessor : Nat} (waiting : b.phase = .succeeding predecessor)
    (decided : run.legacyOf b ≠ .undecided) : a.phase = .ended := by
  obtain ⟨_, ⟨old, at_old, of_lane⟩, none_between⟩ :=
    linked.preceded second predecessor b at_second waiting
  have old_ended : old.phase = .ended := by
    simp only [legacyOf, waiting, at_old] at decided
    by_cases ended : old.phase = .ended
    · exact ended
    · exact absurd ((sound predecessor old at_old).decided.mpr ended) decided
  rcases Nat.lt_trichotomy first predecessor with earlier | rfl | later
  · rcases exclusive first predecessor a old earlier at_first at_old (same.trans of_lane.symm) with
      ended | ⟨other, waits⟩
    · exact ended
    · exact absurd (old_ended.symm.trans waits) nofun
  · rw [at_first] at at_old
    cases at_old
    exact old_ended
  · exact absurd same (none_between first a later order at_first)

theorem Exclusive.step {run after : Run} {action : RunAction} {effects : Effects}
    (exclusive : run.Exclusive) (linked : run.Linked)
    (sound : ∀ (id : Nat) (worker : Worker), run.workers[id]? = some worker →
      worker.Sound (run.isFed id))
    (quiet : ∀ (id : Nat) (worker : Worker), run.workers[id]? = some worker →
      worker.phase ≠ .ended → run.shared.signal.fired = false)
    (step : Step run action after effects) : after.Exclusive := by
  intro first second a b order at_first at_second same
  -- The earlier worker was there before, unless the later one is the first of its lane.
  have earlier : ∀ old : Worker, run.workers[second]? = some old → old.lane = b.lane →
      ∃ former : Worker, run.workers[first]? = some former ∧ former.lane = old.lane ∧
        (former.phase = .ended → a.phase = .ended) := by
    intro old was of_lane
    obtain ⟨former, was_first⟩ : ∃ former, run.workers[first]? = some former :=
      ⟨_, List.getElem?_eq_getElem (Nat.lt_trans order (lt_of_worker was))⟩
    have lanes := step.lane was_first at_first
    refine ⟨former, was_first, by rw [← lanes, same, of_lane], ?_⟩
    intro ended
    obtain ⟨_, found, at_found, ended, _⟩ := step.ended was_first ended
    rw [at_first] at at_found
    cases at_found
    exact ended
  have change := step.change at_second
  generalize effects.ofWorker second = done at change
  cases change with
  | @opened record predecessor new opens =>
    cases predecessor with
    | some predecessor => exact .inr ⟨predecessor, rfl⟩
    | none =>
      have routing : run.isRouting = true := by simp only [isRouting, opens.phase]
      have was := List.getElem?_eq_getElem (new ▸ order)
      have lanes := step.lane was at_first
      exact absurd (lanes.symm.trans same)
        (linked.covered routing record.lane opens.handle first _ was)
  | kept was =>
    obtain ⟨former, was_first, lanes, ends⟩ := earlier b was rfl
    exact (exclusive first second former b order was_first was lanes).imp ends id
  | @bequeathed old heir by_id was =>
    obtain ⟨handoff, marked⟩ := markTaken_fields old
    rw [marked] at earlier ⊢
    obtain ⟨former, was_first, lanes, ends⟩ := earlier old was rfl
    exact (exclusive first second former old order was_first was lanes).imp ends id
  | @pushed old record was =>
    obtain ⟨former, was_first, lanes, ends⟩ := earlier old was rfl
    exact (exclusive first second former old order was_first was lanes).imp ends id
  | @worked old reading action outcome was move =>
    obtain ⟨former, was_first, lanes, ends⟩ := earlier old was move.lane.symm
    rcases exclusive first second former old order was_first was lanes with
      ended | ⟨predecessor, waiting⟩
    · exact .inl (ends ended)
    · rcases move.stops_waiting waiting with decided | fired
      · exact .inl (ends (exclusive.predecessors_ended linked sound order was_first was lanes
          waiting decided))
      · exact absurd fired (by simp [quiet second old was move.not_ended])

theorem Trace.exclusive {settings : RunSettings} {actions : List RunAction} {effects : Effects}
    {run : Run} (trace : Trace settings actions effects run) (calm : run.isCalm = true) :
    run.Exclusive := by
  induction trace with
  | start => exact fun first second a b _ at_first => by cases at_first
  | step trace step ih =>
    have step := step_of_step? step
    have calm := step.calm calm
    exact (ih calm).step trace.linked (fun id worker at_id => trace.each soundness nofun at_id)
      (fun id worker at_id going => trace.joins.quiet calm at_id going) step

/-- Of the workers of a lane, at most one is underway. -/
theorem Exclusive.one_underway {run : Run} (exclusive : run.Exclusive) {first second : Nat}
    {a b : Worker} (at_first : run.workers[first]? = some a)
    (at_second : run.workers[second]? = some b) (same : a.lane = b.lane)
    (a_underway : a.phase.isUnderway = true) (b_underway : b.phase.isUnderway = true) :
    first = second := by
  have apart : ∀ {first second : Nat} {a b : Worker}, first < second →
      run.workers[first]? = some a → run.workers[second]? = some b → a.lane = b.lane →
      a.phase.isUnderway = true → b.phase.isUnderway = true → False := by
    intro first second a b order at_first at_second same a_underway b_underway
    rcases exclusive first second a b order at_first at_second same with ended | ⟨_, waits⟩
    · rw [ended] at a_underway
      cases a_underway
    · rw [waits] at b_underway
      cases b_underway
  rcases Nat.lt_trichotomy first second with earlier | equal | later
  · exact (apart earlier at_first at_second same a_underway b_underway).elim
  · exact equal
  · exact (apart later at_second at_first same.symm b_underway a_underway).elim

end Run

end TrafficReplay
