import TrafficReplay.Proofs.Lane.Slot
import TrafficReplay.Proofs.Run.Exclusion

namespace TrafficReplay

/-- How the phases of the workers account for the slots of a pool. -/
structure Slots (limit : Nat) (phases : List WorkerPhase) (pool : SlotPool WorkerId) : Prop where
  total : limit = pool.unheld + phases.countP WorkerPhase.holdsSlot
  tight : pool.IsTight
  listed : ∀ id, id ∈ pool.inLine ↔ phases[id]? = some (.acquiring .queued)
  once : pool.inLine.Nodup
  counted : phases.countP WorkerPhase.isCounted ≤ pool.waiting

namespace Slots

variable {limit id : Nat} {phases : List WorkerPhase} {pool left : SlotPool WorkerId}
  {before after : WorkerPhase}

theorem countP_set {α : Type} {list : List α} {index : Nat} {old : α}
    (at_index : list[index]? = some old) (p : α → Bool) (new : α) :
    (list.set index new).countP p + (if p old then 1 else 0) =
      list.countP p + (if p new then 1 else 0) := by
  obtain ⟨below, found⟩ := List.getElem?_eq_some_iff.mp at_index
  have positive : p old = true → 0 < list.countP p := by
    intro holds
    exact List.countP_pos_iff.mpr ⟨old, List.mem_of_getElem? at_index, holds⟩
  rw [List.countP_set below, found]
  cases holds : p old with
  | false => simp
  | true =>
    have some_hold := positive holds
    simp only [if_true]
    omega

theorem listed_set {line rest : List WorkerId}
    (listed : ∀ other, other ∈ line ↔ phases[other]? = some (.acquiring .queued))
    (at_id : phases[id]? = some before)
    (others : ∀ other, other ≠ id → (other ∈ rest ↔ other ∈ line))
    (own : id ∈ rest ↔ after = .acquiring .queued) (other : WorkerId) :
    other ∈ rest ↔ (phases.set id after)[other]? = some (.acquiring .queued) := by
  obtain ⟨below, _⟩ := List.getElem?_eq_some_iff.mp at_id
  by_cases same : other = id
  · subst same
    rw [List.getElem?_set_self below, own, Option.some.injEq]
  · rw [List.getElem?_set_ne (Ne.symm same), others other same]
    exact listed other

theorem move (slots : Slots limit phases pool) (at_id : phases[id]? = some before)
    (move : Worker.SlotMove id pool before after left) :
    Slots limit (phases.set id after) left := by
  have inLine := slots.listed id
  rw [at_id, Option.some.injEq] at inLine
  obtain ⟨once, own, others⟩ := move.line inLine slots.once
  refine ⟨?_, move.tight inLine.mpr slots.tight, listed_set slots.listed at_id others own, once, ?_⟩
  · have total := slots.total
    have unheld := move.unheld inLine.mpr
    have holders := countP_set at_id WorkerPhase.holdsSlot after
    omega
  · have counted := slots.counted
    have waiting := move.waiting inLine.mpr
    have waiters := countP_set at_id WorkerPhase.isCounted after
    omega

theorem concat (slots : Slots limit phases pool) {phase : WorkerPhase}
    (unheld : phase.holdsSlot = false) (uncounted : phase.isCounted = false) :
    Slots limit (phases ++ [phase]) pool := by
  refine ⟨?_, slots.tight, fun id => ?_, slots.once, ?_⟩
  · rw [List.countP_append, List.countP_singleton, unheld]
    exact slots.total
  · rw [slots.listed id, List.getElem?_append]
    split
    · exact .rfl
    · rename_i beyond
      have none : phases[id]? = none := List.getElem?_eq_none (Nat.le_of_not_lt beyond)
      rw [none, List.getElem?_singleton]
      split
      · constructor
        · exact nofun
        · rintro ⟨⟩
          cases uncounted
      · exact .rfl
  · rw [List.countP_append, List.countP_singleton, uncounted]
    exact slots.counted

end Slots

/-- What the workers know of the announcements, by phase and by whether they have yielded. -/
structure Heard (stances : List (WorkerPhase × Bool)) (pool : SlotPool WorkerId) : Prop where
  known : ∀ stance ∈ stances, ∀ stamp, stance.1.stamp? = some stamp → stamp ≤ pool.announced
  unheard : ∀ stamp, (.parked stamp, false) ∈ stances →
    (∃ other ∈ stances, other.1.awaitsSlot = true) → stamp < pool.announced

theorem Heard.concat {stances : List (WorkerPhase × Bool)} {pool : SlotPool WorkerId}
    (heard : Heard stances pool) {phase : WorkerPhase} {yielded : Bool}
    (unstamped : phase.stamp? = none) (uncounted : phase.isCounted = false) :
    Heard (stances ++ [(phase, yielded)]) pool where
  known := by
    intro stance member stamp knows
    rcases List.mem_append.mp member with old | new
    · exact heard.known stance old stamp knows
    · rw [List.mem_singleton.mp new, unstamped] at knows
      cases knows
  unheard := by
    rintro stamp parked ⟨other, member, awaits⟩
    have waits : ∃ other ∈ stances, other.1.awaitsSlot = true := by
      rcases List.mem_append.mp member with old | new
      · exact ⟨other, old, awaits⟩
      · rw [List.mem_singleton.mp new] at awaits
        rw [WorkerPhase.isCounted_of_awaitsSlot awaits] at uncounted
        cases uncounted
    rcases List.mem_append.mp parked with old | new
    · exact heard.unheard stamp old waits
    · cases List.mem_singleton.mp new
      cases unstamped

/-- A worker that parks has seen no waiters, or has yielded; one that begins to wait announces it. -/
theorem Heard.move {stances : List (WorkerPhase × Bool)} {shared : Shared} {limit id : Nat}
    {around : Surroundings} {worker : Worker} {action : WorkerAction} {outcome : Worker.Outcome}
    (heard : Heard stances shared.pool)
    (slots : Slots limit (stances.map Prod.fst) shared.pool)
    (at_id : stances[id]? = some (worker.phase, worker.report.yielded)) (own : around.id = id)
    (yielding : ∀ stamp, worker.phase = .yielding stamp → worker.report.yielded = true)
    (step : Worker.Step around worker shared action outcome) :
    Heard (stances.set id (outcome.1.phase, outcome.1.report.yielded)) outcome.2.1.pool := by
  have member := List.mem_of_getElem? at_id
  have at_phase : (stances.map Prod.fst)[id]? = some worker.phase := by
    rw [List.getElem?_map, at_id]
    rfl
  have announced := step.slot_move.announced fun queued => by
    rw [own]
    exact (slots.listed id).mpr (by rw [at_phase, queued])
  have later : shared.pool.announced ≤ outcome.2.1.pool.announced := by
    rcases announced with ⟨same, _⟩ | more <;> omega
  constructor
  · intro stance held stamp knows
    rcases List.mem_or_eq_of_mem_set held with old | new
    · exact Nat.le_trans (heard.known stance old stamp knows) later
    · rw [new] at knows
      rcases step.stamp knows with before | now
      · exact Nat.le_trans (heard.known _ member stamp before) later
      · omega
  · rintro stamp parked ⟨other, held, awaits⟩
    rcases announced with ⟨same, kept⟩ | more
    · have waits : ∃ other ∈ stances, other.1.awaitsSlot = true := by
        rcases List.mem_or_eq_of_mem_set held with old | new
        · exact ⟨other, old, awaits⟩
        · rw [new] at awaits
          exact ⟨_, member, kept awaits⟩
      rw [same]
      rcases List.mem_or_eq_of_mem_set parked with old | new
      · exact heard.unheard stamp old waits
      · have phase : outcome.1.phase = .parked stamp := (congrArg Prod.fst new).symm
        have unyielded : outcome.1.report.yielded = false := (congrArg Prod.snd new).symm
        rcases step.parks phase with ⟨_, report, uncontended⟩ | ⟨_, shutting, report⟩
        · -- It has just seen that nobody waits.
          rw [report] at unyielded
          have nobody : shared.pool.waiting = 0 := by
            simpa [unyielded, SlotPool.hasWaiters] using uncontended
          obtain ⟨waiter, found, awaits⟩ := waits
          have positive : 0 < (stances.map Prod.fst).countP WorkerPhase.isCounted :=
            List.countP_pos_iff.mpr ⟨waiter.1, List.mem_map_of_mem found,
              WorkerPhase.isCounted_of_awaitsSlot awaits⟩
          have counted := slots.counted
          omega
        · rw [report, yielding _ shutting] at unyielded
          cases unyielded
    · rcases List.mem_or_eq_of_mem_set parked with old | new
      · have knows := heard.known _ old stamp rfl
        omega
      · have phase : outcome.1.phase = .parked stamp := (congrArg Prod.fst new).symm
        have knows : outcome.1.phase.stamp? = some stamp := by rw [phase]; rfl
        rcases step.stamp knows with before | now
        · have earlier := heard.known _ member stamp before
          omega
        · omega

namespace Run

section views

variable {β : Type} (view : Worker → β)

theorem map_works (blind : ∀ worker handoff, view { worker with handoff := handoff } = view worker)
    (run : Run) (id : Nat) (before after : Worker) :
    ((takeLegacy run.workers before after).set id after).map view =
      (run.workers.map view).set id (view after) := by
  have legacy : (takeLegacy run.workers before after).map view = run.workers.map view := by
    unfold takeLegacy
    split
    · apply List.ext_getElem?
      intro other
      rw [List.getElem?_map, List.getElem?_map, List.getElem?_modify]
      split
      · cases run.workers[other]? with
        | none => rfl
        | some worker =>
          obtain ⟨handoff, marked⟩ := markTaken_fields worker
          simp [marked, blind]
      · simp
    · rfl
  rw [List.map_set, legacy]

theorem RouterStep.map (blind : ∀ worker queue, view { worker with queue := queue } = view worker)
    {run after : Run} {action : RouterAction} (step : RouterStep run action after) :
    after.shared.pool = run.shared.pool ∧ (after.workers.map view = run.workers.map view ∨
      ∃ lane scope predecessor, after.workers.map view =
        run.workers.map view ++ [view (.opened lane scope predecessor)]) := by
  cases step with
  | opens | replaces => exact ⟨rfl, .inr ⟨_, _, _, List.map_append⟩⟩
  | @delivers record id worker phase handle at_id =>
    refine ⟨rfl, .inl ?_⟩
    obtain ⟨below, found⟩ := List.getElem?_eq_some_iff.mp at_id
    dsimp only
    rw [List.map_set, blind]
    apply List.ext_getElem?
    intro other
    rw [List.getElem?_set]
    split
    · rename_i same
      subst same
      rw [if_pos (by rw [List.length_map]; exact below), List.getElem?_map, at_id]
      rfl
    · rfl
  | _ => exact ⟨rfl, .inl rfl⟩

end views

def phases (run : Run) : List WorkerPhase := run.workers.map Worker.phase

def stances (run : Run) : List (WorkerPhase × Bool) :=
  run.workers.map fun worker => (worker.phase, worker.report.yielded)

theorem phases_stances (run : Run) : run.stances.map Prod.fst = run.phases := by
  rw [stances, phases, List.map_map]
  rfl

theorem opened_phase (lane : LaneId) (scope : CursorScope) (predecessor : Option WorkerId) :
    (Worker.opened lane scope predecessor).phase.holdsSlot = false ∧
      (Worker.opened lane scope predecessor).phase.isCounted = false ∧
      (Worker.opened lane scope predecessor).phase.stamp? = none := by
  cases predecessor <;> exact ⟨rfl, rfl, rfl⟩

variable {settings : RunSettings} {actions : List RunAction} {effects : Effects} {run : Run}

theorem Trace.slots (trace : Trace settings actions effects run) :
    Slots settings.laneLimit run.phases run.shared.pool := by
  induction trace with
  | start => exact ⟨rfl, .inl rfl, fun id => ⟨nofun, nofun⟩, List.nodup_nil, Nat.zero_le _⟩
  | step trace step ih =>
    cases step_of_step? step with
    | cancels => exact ih
    | routes routed =>
      obtain ⟨pool, same | ⟨lane, scope, predecessor, more⟩⟩ :=
        routed.map Worker.phase (fun _ _ => rfl)
      · rw [pool, phases, same]
        exact ih
      · obtain ⟨unheld, uncounted, _⟩ := opened_phase lane scope predecessor
        rw [pool, phases, more]
        exact ih.concat unheld uncounted
    | @works id worker reading action outcome at_id move =>
      rw [phases, map_works Worker.phase fun _ _ => rfl]
      refine ih.move ?_ move.slot_move
      rw [phases, List.getElem?_map]
      exact congrArg (Option.map Worker.phase) at_id

theorem Trace.heard (trace : Trace settings actions effects run) :
    Heard run.stances run.shared.pool := by
  induction trace with
  | start =>
    exact ⟨fun _ member => absurd member List.not_mem_nil,
      fun _ member => absurd member List.not_mem_nil⟩
  | @step actions effects new run after reading action trace step ih =>
    cases step_of_step? step with
    | cancels => exact ih
    | routes routed =>
      obtain ⟨pool, same | ⟨lane, scope, predecessor, more⟩⟩ :=
        routed.map (fun worker => (worker.phase, worker.report.yielded)) (fun _ _ => rfl)
      · rw [pool, stances, same]
        exact ih
      · obtain ⟨_, uncounted, unstamped⟩ := opened_phase lane scope predecessor
        rw [pool, stances, more]
        exact ih.concat unstamped uncounted
    | @works id worker reading action outcome at_id move =>
      rw [stances, map_works (fun worker => (worker.phase, worker.report.yielded)) fun _ _ => rfl]
      have sound := trace.each soundness nofun at_id
      refine ih.move (by rw [phases_stances]; exact trace.slots) ?_ rfl sound.yielding move
      rw [stances, List.getElem?_map]
      exact congrArg (Option.map fun worker : Worker => (worker.phase, worker.report.yielded)) at_id

end Run

end TrafficReplay
