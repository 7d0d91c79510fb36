import TrafficReplay.Proofs.Run.Slots
import TrafficReplay.Proofs.Run.Transparency

namespace TrafficReplay

theorem WorkerPhase.holdsSlot_of_isConnected {phase : WorkerPhase}
    (connected : phase.isConnected = true) : phase.holdsSlot = true := by
  cases phase <;> first | rfl | exact connected

namespace Worker

variable {around : Surroundings} {worker : Worker} {shared : Shared} {action : WorkerAction}
  {outcome : Outcome}

theorem afterFailure_isConnected (settings : LaneSettings) (worker : Worker) :
    (afterFailure settings worker).phase.isConnected = true := by
  rcases afterFailure_phase settings worker with phase | phase <;> rw [phase] <;> rfl

/-- What a step opens and what was open before is either given up in the step or open after it. -/
def Balanced (before : WorkerPhase) (action : WorkerAction) (effects : List LaneEffect)
    (after : WorkerPhase) : Prop :=
  (if action = .connected then 1 else 0) + (if before.isConnected then 1 else 0) =
    effects.count .hangsUp + (if after.isConnected then 1 else 0)

theorem Shift.balanced {phase : WorkerPhase} {after : Shared} {effects : List LaneEffect}
    (shift : Shift around worker shared action phase after effects) :
    Balanced worker.phase action effects phase := by
  cases shift with
  | runsOut at_phase =>
    rcases at_phase with ⟨at_phase, _⟩ | ⟨_, at_phase⟩ <;> rw [at_phase] <;> rfl
  | connects at_phase =>
    rcases at_phase with ⟨rfl, at_phase, _⟩ | ⟨rfl, at_phase⟩ <;> rw [at_phase] <;> rfl
  | isRefused at_phase cause | isDenied at_phase cause =>
    rcases cause with rfl | ⟨rfl, _⟩ <;> rw [at_phase] <;> rfl
  | succeeds at_phase | getsSlot at_phase | findsNoSlot at_phase | countsItself at_phase
  | announcesItself at_phase | queuesUp at_phase | takesSlot at_phase | seesSignal at_phase
  | idles at_phase | watches at_phase | parks at_phase | isDue at_phase | paces at_phase
  | leaves at_phase | reportsRefusal at_phase | givesUpTrying _ at_phase
  | givesUpQueueing _ at_phase | givesUpConnecting _ at_phase | givesUpAuthenticating _ at_phase
  | givesUpWaiting _ at_phase | wakes at_phase | authenticates at_phase | waited at_phase
  | writes at_phase | awaits at_phase | passesOver at_phase =>
    rw [at_phase]
    rfl

theorem Step.balanced (step : Step around worker shared action outcome) :
    Balanced worker.phase action outcome.2.2 outcome.1.phase := by
  cases step with
  | shifts shift => exact shift.balanced
  | takes at_phase =>
    rcases at_phase with ⟨at_phase, _⟩ | ⟨_, at_phase⟩ <;> rw [at_phase] <;> rfl
  | correlates at_phase =>
    rw [at_phase]
    cases worker.memory.binding? _ <;> rfl
  | withholds at_phase =>
    rw [at_phase, Balanced, afterFailure_isConnected]
    rfl
  | fails cause =>
    have connected := afterFailure_isConnected around.settings
    cases cause with
    | sending at_phase | waiting at_phase | reading at_phase =>
      rw [at_phase, Balanced, connected]
      rfl
  | stops cause =>
    cases cause with
    | cancelled _ at_phase =>
      rcases at_phase with ⟨_, at_phase⟩ | at_phase <;> rw [at_phase] <;> rfl
    | sending at_phase cause =>
      rcases cause with rfl | ⟨_, rfl, _⟩ <;> rw [at_phase] <;> rfl
    | closed at_phase | garbled at_phase =>
      rw [at_phase]
      rfl
  | hears at_phase =>
    have connected := afterFailure_isConnected around.settings
    rw [at_phase]
    dsimp only
    split
    · rw [Balanced, connected]
      rfl
    · rfl
  | endsCancelled at_phase =>
    rcases at_phase with ⟨rfl, at_phase⟩ | ⟨rfl, _, ⟨_, at_phase⟩ | at_phase⟩ <;> rw [at_phase] <;>
      rfl
  | drainsReply at_phase | drains at_phase =>
    rw [show worker.phase = .draining from at_phase]
    rfl
  | resumes at_phase | yields at_phase | shutsQueue at_phase | transmits at_phase
  | skips _ at_phase | plays at_phase | closes at_phase | bequeaths at_phase | diesOut at_phase
  | concludes at_phase | aborts at_phase | drainsDry at_phase =>
    rw [at_phase]
    rfl

end Worker

namespace Run

def connections (actions : List RunAction) (effects : Effects) (id : WorkerId) : Int :=
  actions.count (.worker id .connected) - (effects.ofWorker id).count .hangsUp

/-- Slots that leave the pool are credited to the worker that takes the step. -/
def credit (slots : WorkerId → Int) (gained : Int) : RunAction → WorkerId → Int
  | .worker id _, other => if other = id then slots other + gained else slots other
  | .router _, other => slots other
  | .cancel, other => slots other

/-- A run along with the slots that each worker has taken and not put back. -/
inductive Ledger (settings : RunSettings) :
    List RunAction → Effects → Run → (WorkerId → Int) → Prop
  | start : Ledger settings [] [] (start settings .fresh) fun _ => 0
  | step {actions : List RunAction} {effects new : Effects} {run after : Run}
      {slots : WorkerId → Int} {reading : Reading} {action : RunAction}
      (ledger : Ledger settings actions effects run slots)
      (step : run.step? reading action = some (after, new)) :
      Ledger settings (actions ++ [action]) (effects ++ new) after
        (credit slots (run.shared.pool.unheld - after.shared.pool.unheld) action)

/-- What a step means to the phases of the workers and to the pool. -/
inductive PhaseChange (run : Run) :
    RunAction → List WorkerPhase → SlotPool WorkerId → Effects → Prop
  | others {action : RunAction} {more : List WorkerPhase}
      (foreign : ∀ id own, action ≠ .worker id own)
      (slotless : ∀ phase ∈ more, phase.holdsSlot = false) :
      PhaseChange run action (run.phases ++ more) run.shared.pool []
  | own {id : Nat} {worker : Worker} {reading : Reading} {action : WorkerAction}
      {outcome : Worker.Outcome} (at_id : run.phases[id]? = some worker.phase)
      (step : Worker.Step (run.surroundings reading id worker) worker run.shared action outcome) :
      PhaseChange run (.worker id action) (run.phases.set id outcome.1.phase) outcome.2.1.pool
        (outcome.2.2.map fun effect => (id, effect))

theorem Step.phaseChange {run after : Run} {action : RunAction} {effects : Effects}
    (step : Step run action after effects) :
    PhaseChange run action after.phases after.shared.pool effects := by
  have unchanged : ∀ {action : RunAction}, (∀ id own, action ≠ .worker id own) →
      PhaseChange run action run.phases run.shared.pool [] := by
    intro action foreign
    have change : PhaseChange run action (run.phases ++ []) run.shared.pool [] :=
      .others foreign (List.forall_mem_nil _)
    rwa [List.append_nil] at change
  cases step with
  | cancels => exact unchanged fun _ _ => RunAction.noConfusion
  | routes routed =>
    have foreign : ∀ {router : RouterAction} id own,
        RunAction.router router ≠ .worker id own := fun _ _ => RunAction.noConfusion
    obtain ⟨pool, same | ⟨lane, scope, predecessor, more⟩⟩ :=
      routed.map Worker.phase (fun _ _ => rfl)
    · rw [pool, phases, same]
      exact unchanged foreign
    · obtain ⟨slotless, _⟩ := opened_phase lane scope predecessor
      rw [pool, phases, more]
      exact .others foreign fun phase member => by rwa [List.mem_singleton.mp member]
  | @works id worker reading action outcome at_id move =>
    have at_phase : run.phases[id]? = some worker.phase := by
      rw [phases, List.getElem?_map, at_id]
      rfl
    rw [phases, map_works Worker.phase fun _ _ => rfl]
    exact .own at_phase move

def mark (p : WorkerPhase → Bool) (phases : List WorkerPhase) (id : Nat) : Int :=
  if phases[id]?.any p then 1 else 0

section mark

variable {p : WorkerPhase → Bool} {phases : List WorkerPhase} {id : Nat}

theorem mark_of_phase {phase : WorkerPhase} (at_id : phases[id]? = some phase) :
    mark p phases id = if p phase then 1 else 0 := by
  rw [mark, at_id]
  rfl

theorem mark_append {more : List WorkerPhase} (without : ∀ phase ∈ more, p phase = false)
    (id : Nat) : mark p (phases ++ more) id = mark p phases id := by
  rw [mark, mark, List.getElem?_append]
  split
  · rfl
  · rename_i beyond
    have absent : phases[id]? = none := List.getElem?_eq_none (Nat.le_of_not_lt beyond)
    cases found : more[id - phases.length]? with
    | none => rw [absent]
    | some phase =>
      rw [absent]
      simp [without phase (List.mem_of_getElem? found)]

theorem mark_set_self {before : WorkerPhase} (at_id : phases[id]? = some before)
    (after : WorkerPhase) : mark p (phases.set id after) id = if p after then 1 else 0 := by
  obtain ⟨below, _⟩ := List.getElem?_eq_some_iff.mp at_id
  exact mark_of_phase (List.getElem?_set_self below)

theorem mark_set_ne {other : Nat} (different : other ≠ id) (after : WorkerPhase) :
    mark p (phases.set id after) other = mark p phases other := by
  rw [mark, mark, List.getElem?_set_ne (Ne.symm different)]

theorem sum_mark (p : WorkerPhase → Bool) (phases : List WorkerPhase) :
    ((List.range phases.length).map (mark p phases)).sum = phases.countP p := by
  induction phases using List.reverseRecOn with
  | nil => rfl
  | append_singleton phases last ih =>
    have others : (List.range phases.length).map (mark p (phases ++ [last])) =
        (List.range phases.length).map (mark p phases) := by
      apply List.map_congr_left
      intro id member
      rw [mark, mark, List.getElem?_append_left (List.mem_range.mp member)]
    have own : mark p (phases ++ [last]) phases.length = if p last then 1 else 0 :=
      mark_of_phase List.getElem?_concat_length
    rw [List.length_append, List.length_singleton, List.range_succ, List.map_append, others,
      List.sum_append, ih, List.countP_append, List.countP_singleton, List.map_singleton, own]
    cases p last <;> simp

end mark

variable {settings : RunSettings} {actions : List RunAction} {effects : Effects} {run : Run}
  {slots : WorkerId → Int}

theorem connections_step (action : RunAction) (new : Effects) (id : Nat) :
    connections (actions ++ [action]) (effects ++ new) id = connections actions effects id +
      ((if action = .worker id .connected then 1 else 0) -
        ((new.ofWorker id).count .hangsUp : Int)) := by
  unfold connections
  rw [List.count_append, List.count_singleton, Effects.ofWorker_append, List.count_append]
  by_cases connects : action = .worker id .connected
  · simp only [connects, beq_self_eq_true, if_true]
    omega
  · simp only [connects, beq_iff_eq, if_false]
    omega

theorem Trace.connections_eq (trace : Trace settings actions effects run) (id : Nat) :
    connections actions effects id = mark WorkerPhase.isConnected run.phases id := by
  induction trace with
  | start => rfl
  | @step actions effects new run after reading action trace step ih =>
    have change := (step_of_step? step).phaseChange
    generalize after.phases = phases, after.shared.pool = pool at change
    rw [connections_step, ih]
    -- Both sides change only at the worker that takes the step, and there `Balanced` has the sum.
    cases change with
    | @others _ more foreign slotless =>
      have unconnected : ∀ phase ∈ more, phase.isConnected = false := by
        intro phase member
        have slotless := slotless phase member
        by_contra connected
        have holds := WorkerPhase.holdsSlot_of_isConnected (by simpa using connected)
        exact absurd (holds.symm.trans slotless) nofun
      rw [mark_append unconnected, if_neg (foreign id .connected)]
      exact Int.add_zero _
    | @own by_id worker _ action outcome at_id move =>
      by_cases same : id = by_id
      · subst same
        have balanced := move.balanced
        unfold Worker.Balanced at balanced
        have opens : (RunAction.worker id action = .worker id .connected) ↔ action = .connected :=
          ⟨fun same => (RunAction.worker.inj same).2, congrArg _⟩
        rw [Effects.ofWorker_self, mark_of_phase at_id, mark_set_self at_id]
        simp only [opens]
        split_ifs at balanced ⊢ <;> omega
      · have foreign : RunAction.worker by_id action ≠ .worker id .connected :=
          fun clash => same (RunAction.worker.inj clash).1.symm
        rw [Effects.ofWorker_other _ same, mark_set_ne same, if_neg foreign]
        exact Int.add_zero _

theorem Trace.ledger (trace : Trace settings actions effects run) :
    ∃ slots, Ledger settings actions effects run slots := by
  induction trace with
  | start => exact ⟨_, .start⟩
  | step _ step ih =>
    obtain ⟨slots, ledger⟩ := ih
    exact ⟨_, ledger.step step⟩

theorem Ledger.trace (ledger : Ledger settings actions effects run slots) :
    Trace settings actions effects run := by
  induction ledger with
  | start => exact .start
  | step _ step ih => exact ih.step step

/-- The slots in the books are those of the workers whose phase says that they hold one. -/
theorem Ledger.slots_eq (ledger : Ledger settings actions effects run slots) (id : Nat) :
    slots id = mark WorkerPhase.holdsSlot run.phases id := by
  induction ledger with
  | start => rfl
  | @step actions effects new run after slots reading action ledger step ih =>
    have change := (step_of_step? step).phaseChange
    generalize after.phases = phases, after.shared.pool = pool at change
    cases change with
    | others foreign slotless =>
      rw [mark_append slotless, ← ih]
      cases action with
      | worker by_id own => exact absurd rfl (foreign by_id own)
      | router | cancel => rfl
    | @own by_id worker _ action outcome at_id move =>
      have moved := move.slot_move.unheld fun queued =>
        (ledger.trace.slots.listed by_id).mpr (by rw [at_id, queued])
      simp only [credit]
      by_cases same : id = by_id
      · subst same
        rw [if_pos rfl, ih, mark_of_phase at_id, mark_set_self at_id]
        split_ifs at moved ⊢ <;> omega
      · rw [if_neg same, mark_set_ne same]
        exact ih

structure WithinLimit (settings : RunSettings) (actions : List RunAction) (effects : Effects)
    (run : Run) (slots : WorkerId → Int) : Prop where
  limited : ((List.range run.workers.length).map (connections actions effects)).sum ≤
    settings.laneLimit
  conserved : run.shared.pool.unheld + ((List.range run.workers.length).map slots).sum =
    settings.laneLimit
  covered : ∀ id, connections actions effects id = 0 ∨
    connections actions effects id = 1 ∧ slots id = 1
  bare : ∀ (id : Nat) (worker : Worker), run.workers[id]? = some worker →
    (∃ predecessor, worker.phase = .succeeding predecessor) ∨ worker.phase = .draining ∨
      worker.phase = .ended → slots id = 0
  restored : (∀ worker ∈ run.workers, worker.phase = .ended) →
    run.shared.pool.free = settings.laneLimit ∧ run.shared.pool.inLine = []

theorem Ledger.withinLimit (ledger : Ledger settings actions effects run slots) :
    WithinLimit settings actions effects run slots := by
  have trace := ledger.trace
  have size : run.phases.length = run.workers.length := List.length_map _
  have all_slots : ((List.range run.workers.length).map slots).sum =
      run.phases.countP WorkerPhase.holdsSlot := by
    rw [← size, ← sum_mark]
    exact congrArg List.sum (List.map_congr_left fun id _ => ledger.slots_eq id)
  have all_connections : ((List.range run.workers.length).map (connections actions effects)).sum =
      run.phases.countP WorkerPhase.isConnected := by
    rw [← size, ← sum_mark]
    exact congrArg List.sum (List.map_congr_left fun id _ => trace.connections_eq id)
  have total := trace.slots.total
  have fewer : run.phases.countP WorkerPhase.isConnected ≤
      run.phases.countP WorkerPhase.holdsSlot :=
    List.countP_mono_left fun _ _ => WorkerPhase.holdsSlot_of_isConnected
  constructor
  case limited =>
    rw [all_connections]
    omega
  case conserved =>
    rw [all_slots]
    omega
  case covered =>
    intro id
    rw [trace.connections_eq, ledger.slots_eq]
    unfold mark
    cases run.phases[id]? with
    | none => exact .inl rfl
    | some phase =>
      cases connected : phase.isConnected with
      | false => exact .inl (by simp [connected])
      | true =>
        have holds := WorkerPhase.holdsSlot_of_isConnected connected
        exact .inr ⟨by simp [connected], by simp [holds]⟩
  case bare =>
    intro id worker at_id idle
    have at_phase : run.phases[id]? = some worker.phase := by
      rw [phases, List.getElem?_map, at_id]
      rfl
    rw [ledger.slots_eq, mark_of_phase at_phase]
    rcases idle with ⟨_, phase⟩ | phase | phase <;> rw [phase] <;> rfl
  case restored =>
    intro ended
    have all_ended : ∀ phase ∈ run.phases, phase = .ended := by
      intro phase member
      obtain ⟨worker, found, rfl⟩ := List.mem_map.mp member
      exact ended worker found
    have none_held : run.phases.countP WorkerPhase.holdsSlot = 0 := by
      refine List.countP_eq_zero.mpr fun phase member => ?_
      rw [all_ended phase member]
      exact Bool.false_ne_true
    have none_inLine : run.shared.pool.inLine = [] := by
      refine List.eq_nil_iff_forall_not_mem.mpr fun id member => ?_
      have queued := (trace.slots.listed id).mp member
      exact WorkerPhase.noConfusion (all_ended _ (List.mem_of_getElem? queued))
    have none_granted : run.shared.pool.granted = [] := (List.append_eq_nil_iff.mp none_inLine).2
    refine ⟨?_, none_inLine⟩
    rw [none_held, SlotPool.unheld, none_granted] at total
    exact total.symm

/-- However a run goes, its workers keep to the lane limit, each of them with a slot for its only
    connection. -/
theorem Trace.lane_limit (trace : Trace settings actions effects run) :
    (∃ slots, Ledger settings actions effects run slots) ∧
      ∀ slots, Ledger settings actions effects run slots →
        WithinLimit settings actions effects run slots :=
  ⟨trace.ledger, fun _ ledger => ledger.withinLimit⟩

def partedRest : List RunAction :=
  List.flatten [[.worker 1 .advance, .router .look, .router (.next .finish)],
    List.replicate 4 (.worker 2 .advance)]

def partedLast : Run × Effects :=
  (partedEnd.1.steps? ⟨default, default⟩ partedRest).get (by decide)

/-- One slot for three workers: the last one has it, with its connection, and leaves it free. -/
theorem partedRun_within_limit :
    unpaced.laneLimit = 1 ∧ Trace unpaced partedRun partedEnd.2 partedEnd.1 ∧
      (∃ slots, Ledger unpaced partedRun partedEnd.2 partedEnd.1 slots ∧
        (List.range 3).map (connections partedRun partedEnd.2) = [0, 0, 1] ∧
        slots 0 = 0 ∧ slots 2 = 1) ∧
      partedLast.1.shared.pool.free = 1 := by
  have steps : (start unpaced .fresh).steps? ⟨default, default⟩ partedRun = some partedEnd :=
    (Option.some_get _).symm
  have rest : partedEnd.1.steps? ⟨default, default⟩ partedRest = some partedLast :=
    (Option.some_get _).symm
  have trace := trace_of_steps? steps
  obtain ⟨⟨slots, ledger⟩, each⟩ := trace.lane_limit
  have within := each slots ledger
  have first_ended : partedEnd.1.workers[0]?.map Worker.phase = some .ended := by decide
  obtain ⟨first, at_first, ended⟩ := Option.map_eq_some_iff.mp first_ended
  have idle : slots 0 = 0 := within.bare 0 first at_first (.inr (.inr ended))
  have connected : connections partedRun partedEnd.2 2 = 1 := by decide
  have holds : slots 2 = 1 := by
    rcases within.covered 2 with none | ⟨_, one⟩
    · exact absurd (none.symm.trans connected) nofun
    · exact one
  have all_ended : ∀ worker ∈ partedLast.1.workers, worker.phase = .ended := by decide
  obtain ⟨⟨last_slots, last⟩, each_last⟩ := (trace.onward (onward_of_steps? rest)).lane_limit
  have restored := (each_last last_slots last).restored all_ended
  exact ⟨rfl, trace, ⟨slots, ledger, by decide, idle, holds⟩, restored.1⟩

end Run

end TrafficReplay
