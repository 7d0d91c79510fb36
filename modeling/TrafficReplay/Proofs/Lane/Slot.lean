import TrafficReplay.Proofs.Lane.Lifecycle
import TrafficReplay.Proofs.Pool.Slots

namespace TrafficReplay

namespace WorkerPhase

def isCounted : WorkerPhase → Bool
  | .acquiring .announcing | .acquiring .queueing | .acquiring .queued => true
  | _ => false

def awaitsSlot : WorkerPhase → Bool
  | .acquiring .queueing | .acquiring .queued => true
  | _ => false

def stamp? : WorkerPhase → Option Nat
  | .watching stamp | .yielding stamp | .parked stamp => some stamp
  | _ => none

theorem isCounted_of_awaitsSlot {phase : WorkerPhase} (awaits : phase.awaitsSlot = true) :
    phase.isCounted = true := by
  unfold awaitsSlot at awaits
  split at awaits
  · rfl
  · rfl
  · cases awaits

end WorkerPhase

/-- What a worker does by itself, or because it has waited long enough. -/
def WorkerAction.isOwn : WorkerAction → Bool
  | .advance | .elapsed | .timedOut => true
  | _ => false

namespace Worker

theorem mem_of_perm_cons {id : WorkerId} {line rest : List WorkerId} (perm : (id :: rest).Perm line)
    (once : line.Nodup) :
    rest.Nodup ∧ id ∉ rest ∧ ∀ other, other ≠ id → (other ∈ rest ↔ other ∈ line) := by
  obtain ⟨gone, rest_once⟩ := List.nodup_cons.mp (perm.nodup_iff.mpr once)
  refine ⟨rest_once, gone, fun other different => ?_⟩
  rw [← perm.mem_iff, List.mem_cons]
  exact ⟨.inr, fun member => member.resolve_left different⟩

/-- What a step means to the pool. -/
inductive SlotMove (id : WorkerId) (pool : SlotPool WorkerId) (before : WorkerPhase) :
    WorkerPhase → SlotPool WorkerId → Prop
  | stays {after : WorkerPhase} (held : after.holdsSlot = before.holdsSlot)
      (uncounted : before.isCounted = false) (uncounted_after : after.isCounted = false) :
      SlotMove id pool before after pool
  | gets {left : SlotPool WorkerId} (phase : before = .acquiring .trying)
      (slot : pool.tryAcquire? = some left) : SlotMove id pool before .connecting left
  | counts (phase : before = .acquiring .counting) :
      SlotMove id pool before (.acquiring .announcing) pool.count
  | announces (phase : before = .acquiring .announcing) :
      SlotMove id pool before (.acquiring .queueing) pool.announce
  | queues (phase : before = .acquiring .queueing) :
      SlotMove id pool before (.acquiring .queued) (pool.enqueue id)
  | takes {left : SlotPool WorkerId} (phase : before = .acquiring .queued)
      (slot : pool.take? id = some left) : SlotMove id pool before .connecting left
  | releases {ending : LaneEnding} (phase : before = .leaving ending) :
      SlotMove id pool before (.concluding ending) pool.release
  | withdraws (phase : before = .acquiring .queued) :
      SlotMove id pool before (.concluding .cancelled) (pool.withdraw id)

variable {around : Surroundings} {worker : Worker} {shared : Shared} {action : WorkerAction}
  {outcome : Outcome}

theorem Shift.slot_move {phase : WorkerPhase} {after : Shared} {effects : List LaneEffect}
    (shift : Shift around worker shared action phase after effects) :
    SlotMove around.id shared.pool worker.phase phase after.pool := by
  cases shift with
  | getsSlot at_phase slot => exact .gets at_phase slot
  | countsItself at_phase => exact .counts at_phase
  | announcesItself at_phase => exact .announces at_phase
  | queuesUp at_phase => exact .queues at_phase
  | takesSlot at_phase slot => exact .takes at_phase slot
  | leaves at_phase => exact .releases at_phase
  | givesUpQueueing _ at_phase => exact .withdraws at_phase
  | runsOut at_phase =>
    rcases at_phase with ⟨at_phase, _⟩ | ⟨_, at_phase⟩ <;> rw [at_phase] <;> exact .stays rfl rfl rfl
  | connects at_phase =>
    rcases at_phase with ⟨_, at_phase, _⟩ | ⟨_, at_phase⟩ <;> rw [at_phase] <;>
      exact .stays rfl rfl rfl
  | succeeds at_phase | findsNoSlot at_phase | seesSignal at_phase | idles at_phase
  | watches at_phase | parks at_phase | isDue at_phase | paces at_phase | reportsRefusal at_phase
  | givesUpTrying _ at_phase | givesUpConnecting _ at_phase | givesUpAuthenticating _ at_phase
  | givesUpWaiting _ at_phase | wakes at_phase | authenticates at_phase | isRefused at_phase
  | isDenied at_phase | waited at_phase | writes at_phase | awaits at_phase | passesOver at_phase =>
    rw [at_phase]
    exact .stays rfl rfl rfl

theorem SlotMove.afterFailure {id : WorkerId} {pool : SlotPool WorkerId} {before : WorkerPhase}
    (held : before.holdsSlot = true) (uncounted : before.isCounted = false)
    (settings : LaneSettings) (worker : Worker) :
    SlotMove id pool before (afterFailure settings worker).phase pool := by
  rcases afterFailure_phase settings worker with phase | phase <;> rw [phase] <;>
    exact .stays held.symm uncounted rfl

/-- Whatever a step does to the pool is one of the moves listed. -/
theorem Step.slot_move (step : Step around worker shared action outcome) :
    SlotMove around.id shared.pool worker.phase outcome.1.phase outcome.2.1.pool := by
  cases step with
  | shifts shift => exact shift.slot_move
  | takes at_phase =>
    rcases at_phase with ⟨at_phase, _⟩ | ⟨_, at_phase⟩ <;> rw [at_phase] <;> exact .stays rfl rfl rfl
  | withholds at_phase =>
    rw [at_phase]
    exact .afterFailure rfl rfl _ _
  | fails cause =>
    cases cause with
    | sending at_phase | waiting at_phase | reading at_phase =>
      rw [at_phase]
      exact .afterFailure rfl rfl _ _
  | stops cause =>
    cases cause with
    | cancelled _ at_phase =>
      rcases at_phase with ⟨_, at_phase⟩ | at_phase <;> rw [at_phase] <;> exact .stays rfl rfl rfl
    | sending at_phase | closed at_phase | garbled at_phase =>
      rw [at_phase]
      exact .stays rfl rfl rfl
  | hears at_phase =>
    rw [at_phase]
    dsimp only
    split
    · exact .afterFailure rfl rfl _ _
    · exact .stays rfl rfl rfl
  | endsCancelled at_phase =>
    rcases at_phase with ⟨_, at_phase⟩ | ⟨_, _, ⟨_, at_phase⟩ | at_phase⟩ <;> rw [at_phase] <;>
      exact .stays rfl rfl rfl
  | drainsReply at_phase | drains at_phase =>
    rw [show worker.phase = .draining from at_phase]
    exact .stays rfl rfl rfl
  | resumes at_phase | yields at_phase | shutsQueue at_phase | correlates at_phase
  | transmits at_phase | skips _ at_phase | plays at_phase | closes at_phase | bequeaths at_phase
  | diesOut at_phase | concludes at_phase | aborts at_phase | drainsDry at_phase =>
    rw [at_phase]
    exact .stays rfl rfl rfl

section SlotMove

variable {id : WorkerId} {pool left : SlotPool WorkerId} {before after : WorkerPhase}

/-- The slots that leave the pool in a step are those the worker holds afterwards and did not hold
    before. -/
theorem SlotMove.unheld (move : SlotMove id pool before after left)
    (inLine : before = .acquiring .queued → id ∈ pool.inLine) :
    left.unheld + (if after.holdsSlot then 1 else 0) =
      pool.unheld + (if before.holdsSlot then 1 else 0) := by
  cases move with
  | stays held => rw [held]
  | gets phase slot =>
    obtain ⟨some_free, rfl⟩ := SlotPool.tryAcquire?_some slot
    simp only [SlotPool.unheld, phase, WorkerPhase.holdsSlot, WorkerPhase.isConnected]
    simp only [if_true, Bool.false_eq_true, if_false]
    omega
  | counts phase | announces phase =>
    rw [phase]
    rfl
  | queues phase =>
    rw [phase, SlotPool.enqueue_unheld]
    rfl
  | takes phase slot =>
    have less := SlotPool.take?_unheld slot
    rw [phase, ← less]
    rfl
  | releases phase =>
    have more := SlotPool.passSlot_unheld { pool with active := pool.active - 1 }
    rw [phase]
    unfold SlotPool.release
    rw [more]
    rfl
  | withdraws phase =>
    rw [SlotPool.withdraw_unheld (inLine phase), phase]
    rfl

theorem SlotMove.waiting (move : SlotMove id pool before after left)
    (inLine : before = .acquiring .queued → id ∈ pool.inLine) :
    pool.waiting + (if after.isCounted then 1 else 0) ≤
      left.waiting + (if before.isCounted then 1 else 0) := by
  cases move with
  | stays _ uncounted uncounted_after =>
    exact Nat.le_of_eq (by rw [uncounted, uncounted_after])
  | gets phase slot =>
    obtain ⟨_, rfl⟩ := SlotPool.tryAcquire?_some slot
    subst phase
    exact Nat.le_refl _
  | counts phase | announces phase =>
    subst phase
    exact Nat.le_refl _
  | queues phase =>
    rw [phase, (SlotPool.enqueue_same pool id).1]
    exact Nat.le_refl _
  | takes phase slot =>
    obtain ⟨_, rfl⟩ := SlotPool.take?_some slot
    rw [phase]
    exact Nat.le_add_of_sub_le (Nat.le_refl _)
  | releases phase =>
    rw [phase, SlotPool.release, (SlotPool.passSlot_same _).1]
    exact Nat.le_refl _
  | withdraws phase =>
    rw [(SlotPool.withdraw_same (inLine phase)).1, phase]
    exact Nat.le_add_of_sub_le (Nat.le_refl _)

theorem SlotMove.tight (move : SlotMove id pool before after left)
    (inLine : before = .acquiring .queued → id ∈ pool.inLine) (tight : pool.IsTight) :
    left.IsTight := by
  cases move with
  | stays | counts | announces => exact tight
  | gets phase slot =>
    obtain ⟨some_free, rfl⟩ := SlotPool.tryAcquire?_some slot
    exact tight.imp_right fun busy => absurd some_free (by omega)
  | queues => exact tight.enqueue id
  | takes phase slot =>
    obtain ⟨_, rfl⟩ := SlotPool.take?_some slot
    exact tight
  | releases => exact SlotPool.IsTight.passSlot tight
  | withdraws phase => exact tight.withdraw (inLine phase)

theorem SlotMove.line (move : SlotMove id pool before after left)
    (inLine : id ∈ pool.inLine ↔ before = .acquiring .queued) (once : pool.inLine.Nodup) :
    left.inLine.Nodup ∧ (id ∈ left.inLine ↔ after = .acquiring .queued) ∧
      ∀ other, other ≠ id → (other ∈ left.inLine ↔ other ∈ pool.inLine) := by
  cases move with
  | stays _ uncounted uncounted_after =>
    refine ⟨once, inLine.trans ⟨?_, ?_⟩, fun _ _ => .rfl⟩
    · rintro rfl
      cases uncounted
    · rintro rfl
      cases uncounted_after
  | gets phase slot =>
    obtain ⟨_, rfl⟩ := SlotPool.tryAcquire?_some slot
    exact ⟨once, inLine.trans (by simp [phase]), fun _ _ => .rfl⟩
  | counts phase | announces phase => exact ⟨once, inLine.trans (by simp [phase]), fun _ _ => .rfl⟩
  | queues phase =>
    have perm := SlotPool.enqueue_inLine pool id
    have absent : id ∉ pool.inLine := fun member => by simpa [phase] using inLine.mp member
    refine ⟨perm.nodup_iff.mpr (List.nodup_cons.mpr ⟨absent, once⟩),
      ⟨fun _ => rfl, fun _ => perm.mem_iff.mpr List.mem_cons_self⟩, fun other different => ?_⟩
    rw [perm.mem_iff, List.mem_cons]
    exact ⟨fun member => member.resolve_left different, .inr⟩
  | takes phase slot =>
    obtain ⟨once, gone, others⟩ := mem_of_perm_cons (SlotPool.take?_inLine slot) once
    exact ⟨once, ⟨fun member => absurd member gone, nofun⟩, others⟩
  | releases phase =>
    have perm := SlotPool.passSlot_inLine { pool with active := pool.active - 1 }
    exact ⟨perm.nodup_iff.mpr once, (perm.mem_iff.trans inLine).trans (by simp [phase]),
      fun _ _ => perm.mem_iff⟩
  | withdraws phase =>
    obtain ⟨once, gone, others⟩ := mem_of_perm_cons (SlotPool.withdraw_inLine (inLine.mpr phase)) once
    exact ⟨once, ⟨fun member => absurd member gone, nofun⟩, others⟩

theorem SlotMove.announced (move : SlotMove id pool before after left)
    (inLine : before = .acquiring .queued → id ∈ pool.inLine) :
    left.announced = pool.announced ∧ (after.awaitsSlot = true → before.awaitsSlot = true) ∨
      left.announced = pool.announced + 1 := by
  cases move with
  | stays held uncounted uncounted_after =>
    left
    refine ⟨rfl, fun awaits => ?_⟩
    rw [WorkerPhase.isCounted_of_awaitsSlot awaits] at uncounted_after
    cases uncounted_after
  | gets phase slot =>
    obtain ⟨_, rfl⟩ := SlotPool.tryAcquire?_some slot
    exact .inl ⟨rfl, nofun⟩
  | counts => exact .inl ⟨rfl, nofun⟩
  | announces => exact .inr rfl
  | queues phase =>
    left
    exact ⟨(SlotPool.enqueue_same pool id).2, fun _ => by rw [phase]; rfl⟩
  | takes phase slot =>
    obtain ⟨_, rfl⟩ := SlotPool.take?_some slot
    exact .inl ⟨rfl, nofun⟩
  | releases => exact .inl ⟨(SlotPool.passSlot_same _).2, nofun⟩
  | withdraws phase => exact .inl ⟨(SlotPool.withdraw_same (inLine phase)).2, nofun⟩

end SlotMove

theorem Step.stamp (step : Step around worker shared action outcome) {stamp : Nat}
    (knows : outcome.1.phase.stamp? = some stamp) :
    worker.phase.stamp? = some stamp ∨ stamp = shared.pool.announced := by
  cases step with
  | shifts shift =>
    cases shift with
    | watches => exact .inr (Option.some.inj knows).symm
    | parks at_phase =>
      left
      rw [at_phase]
      exact knows
    | _ => cases knows
  | yields at_phase | shutsQueue at_phase =>
    left
    rw [at_phase]
    exact knows
  | withholds | fails =>
    rcases afterFailure_phase around.settings _ with phase | phase <;> rw [phase] at knows <;>
      cases knows
  | hears =>
    revert knows
    dsimp only
    split
    · rcases afterFailure_phase around.settings _ with phase | phase <;> rw [phase] <;> exact nofun
    · exact nofun
  | drainsReply at_phase | drains at_phase =>
    rw [show worker.phase = .draining from at_phase] at knows
    cases knows
  | _ => cases knows

/-- A worker parks after it has seen no waiters, or once it has shut its queue. -/
theorem Step.parks (step : Step around worker shared action outcome) {stamp : Nat}
    (parked : outcome.1.phase = .parked stamp) :
    (worker.phase = .watching stamp ∧ outcome.1.report = worker.report ∧
        (!worker.report.yielded && shared.pool.hasWaiters) = false) ∨
      ∃ stamp, worker.phase = .yielding stamp ∧ outcome.1.report = worker.report := by
  cases step with
  | shifts shift =>
    cases shift with
    | parks at_phase uncontended =>
      cases parked
      exact .inl ⟨at_phase, rfl, uncontended⟩
    | _ => cases parked
  | shutsQueue at_phase => exact .inr ⟨_, at_phase, rfl⟩
  | withholds | fails =>
    rcases afterFailure_phase around.settings _ with phase | phase <;>
      exact absurd (phase.symm.trans parked) nofun
  | hears =>
    revert parked
    dsimp only
    split
    · rcases afterFailure_phase around.settings _ with phase | phase <;> rw [phase] <;> exact nofun
    · exact nofun
  | drainsReply at_phase | drains at_phase =>
    exact absurd (at_phase.symm.trans parked) nofun
  | _ => cases parked

def ShutsOnceYielded (worker : Worker) : Prop :=
  worker.report.yielded = true →
    worker.accepting = false ∨ ∃ stamp, worker.phase = .yielding stamp

theorem Step.shutsOnceYielded (step : Step around worker shared action outcome)
    (before : worker.ShutsOnceYielded) : outcome.1.ShutsOnceYielded := by
  cases step with
  | shifts shift =>
    intro yielded
    refine (before yielded).imp_right fun ⟨stamp, at_phase⟩ => ?_
    cases shift <;> simp_all
  | yields => exact fun _ => .inr ⟨_, rfl⟩
  | shutsQueue | bequeaths | diesOut | concludes | endsCancelled | drainsDry =>
    exact fun _ => .inl rfl
  | fails cause =>
    intro yielded
    refine (before yielded).imp_right fun ⟨stamp, at_phase⟩ => ?_
    cases cause <;> simp_all
  | stops cause =>
    intro yielded
    refine (before yielded).imp_right fun ⟨stamp, at_phase⟩ => ?_
    cases cause <;> simp_all
  | hears at_phase =>
    dsimp only
    split <;> exact fun yielded => (before yielded).imp_right fun ⟨stamp, shutting⟩ =>
      absurd (at_phase.symm.trans shutting) nofun
  | takes at_phase | correlates at_phase | withholds at_phase | transmits at_phase
  | skips _ at_phase | plays at_phase | closes at_phase | aborts at_phase | resumes at_phase
  | drainsReply at_phase | drains at_phase =>
    intro yielded
    refine (before yielded).imp_right fun ⟨stamp, shutting⟩ => ?_
    simp_all

/-- The states in which a worker can only wait for what others do. -/
inductive Rests (around : Surroundings) (worker : Worker) (shared : Shared) : Prop
  | ended (phase : worker.phase = .ended)
  | parked {stamp : Nat} (phase : worker.phase = .parked stamp) (empty : worker.queue = [])
      (hopeful : worker.isStarved around.fed = false)
      (undisturbed : (!worker.report.yielded && shared.pool.contendedSince stamp) = false)
  | draining (phase : worker.phase = .draining) (empty : worker.queue = [])
      (hopeful : worker.isStarved around.fed = false)
  | queued (phase : worker.phase = .acquiring .queued) (ungranted : around.id ∉ shared.pool.granted)
  | succeeding {predecessor : WorkerId} (phase : worker.phase = .succeeding predecessor)
      (undecided : around.legacy = .undecided)

theorem take?_eq_none (none : worker.take? = none) : worker.queue = [] := by
  unfold take? at none
  split at none
  · assumption
  · cases none

/-- A worker that can do nothing by itself, and that nobody wakes, rests. -/
theorem rests_of_idle
    (idle : ∀ action, action.isOwn = true → worker.step? around shared action = none)
    (unwoken : worker.step? around shared .wake = none) : worker.Rests around shared := by
  have advance : worker.advance? around shared = none := idle .advance rfl
  cases at_phase : worker.phase with
  | succeeding predecessor =>
    cases legacy : around.legacy with
    | undecided => exact .succeeding at_phase legacy
    | passed | taken | dropped => simp [advance?, at_phase, legacy] at advance
  | acquiring stage =>
    cases stage with
    | queued =>
      refine .queued at_phase fun granted => ?_
      simp [advance?, at_phase, acquire?, SlotPool.take?, granted] at advance
    | trying =>
      simp only [advance?, at_phase, acquire?] at advance
      split at advance <;> cases advance
    | counting | announcing | queueing => simp [advance?, at_phase, acquire?] at advance
  | connecting | authenticating =>
    have late := idle .timedOut rfl
    simp [step?, at_phase] at late
  | polling =>
    simp only [advance?, at_phase] at advance
    repeat' split at advance
    all_goals cases advance
  | watching stamp =>
    simp only [advance?, at_phase] at advance
    split at advance <;> cases advance
  | parked stamp =>
    simp only [advance?, at_phase] at advance
    split at advance
    · cases advance
    · rename_i none
      have empty := take?_eq_none none
      split at advance
      · cases advance
      · rename_i hopeful
        simp only [step?, at_phase] at unwoken
        split at unwoken
        · cases unwoken
        · rename_i undisturbed
          exact .parked at_phase empty (Bool.not_eq_true _ ▸ hopeful)
            (Bool.not_eq_true _ ▸ undisturbed)
  | pacing record =>
    have late := idle .elapsed rfl
    simp [step?, at_phase] at late
  | sending issue unsent =>
    have late := idle .timedOut rfl
    simp [step?, at_phase] at late
  | awaiting issue =>
    have late := idle .timedOut rfl
    simp [step?, at_phase] at late
  | draining =>
    simp only [advance?, at_phase, drain?] at advance
    split at advance
    · split at advance <;> cases advance
    · rename_i none
      have empty := take?_eq_none none
      split at advance
      · cases advance
      · rename_i hopeful
        exact .draining at_phase empty (Bool.not_eq_true _ ▸ hopeful)
  | ended => exact .ended at_phase
  | idle | yielding | holding | due | closing | leaving | concluding =>
    simp [advance?, at_phase] at advance

/-- A worker that gets no more records rests, or it can go on by itself. -/
theorem goes_on_alone (unfed : around.fed = false) (restless : ¬worker.Rests around shared) :
    ∃ action outcome, action.isOwn = true ∧ worker.step? around shared action = some outcome := by
  by_contra stuck
  have idle : ∀ action, action.isOwn = true → worker.step? around shared action = none := by
    intro action own
    by_contra possible
    obtain ⟨outcome, step⟩ := Option.ne_none_iff_exists'.mp possible
    exact stuck ⟨action, outcome, own, step⟩
  apply restless
  apply rests_of_idle idle
  cases at_phase : worker.phase with
  | parked stamp =>
    -- A parked worker whose queue has ended closes, whether it is woken or not.
    have advance : worker.advance? around shared = none := idle .advance rfl
    simp only [advance?, at_phase] at advance
    split at advance
    · cases advance
    · rename_i empty
      have starved : worker.isStarved around.fed = true := by
        simp [isStarved, take?_eq_none empty, unfed]
      rw [if_pos starved] at advance
      cases advance
  | _ => simp [step?, at_phase]

end Worker

end TrafficReplay
