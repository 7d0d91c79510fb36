import TrafficReplay.Proofs.Run.Exclusion

namespace TrafficReplay

def RunAction.item? : RunAction → Option StreamItem
  | .router (.next item) => some item
  | _ => none

def StreamItem.record? : StreamItem → Option Record
  | .record drawn => some drawn
  | _ => none

def drawn (actions : List RunAction) : List StreamItem := actions.filterMap RunAction.item?

def streamed (actions : List RunAction) : List Record :=
  (drawn actions).filterMap StreamItem.record?

theorem streamed_append (first second : List RunAction) :
    streamed (first ++ second) = streamed first ++ streamed second := by
  simp [streamed, drawn]

def onLane (lane : LaneId) (records : List Record) : List Record :=
  records.filter fun record => record.lane = lane

def RouterPhase.inHand : RouterPhase → List Record
  | .delivering record => [record]
  | _ => []

def RouterPhase.isStopped : RouterPhase → Bool
  | .stopping _ | .finished (.error _) => true
  | _ => false

namespace Run

variable {run after : Run} {settings : RunSettings} {actions : List RunAction} {effects : Effects}
  {lane : LaneId}

def workersOn (run : Run) (lane : LaneId) : List Nat :=
  (List.range run.workers.length).filter fun id =>
    run.workers[id]?.any fun worker => worker.lane = lane

/-- Nothing has broken the run off. -/
def isWhole (run : Run) : Bool := !run.router.isStopped || !run.shared.signal.fired

theorem isWhole_of_unstopped (unstopped : run.router.isStopped = false) : run.isWhole = true := by
  simp [isWhole, unstopped]

def queueOf (run : Run) (id : Nat) : List Record := (run.workers[id]?.map Worker.queue).getD []

/-- The records given to a worker: those it took and those still queued. -/
def givenTo (run : Run) (effects : Effects) (id : Nat) : List Record :=
  taken (effects.ofWorker id) ++ run.queueOf id

theorem queueOf_of_worker {id : Nat} {worker : Worker} (at_id : run.workers[id]? = some worker) :
    run.queueOf id = worker.queue := by
  simp [queueOf, at_id]

theorem mem_workersOn {id : Nat} :
    id ∈ run.workersOn lane ↔ ∃ worker, run.workers[id]? = some worker ∧ worker.lane = lane := by
  simp only [workersOn, List.mem_filter, List.mem_range, Option.any_eq_true, decide_eq_true_eq]
  constructor
  · exact fun ⟨_, found⟩ => found
  · exact fun ⟨worker, at_id, same⟩ => ⟨lt_of_worker at_id, worker, at_id, same⟩

theorem lane_of_mem {id : Nat} {worker : Worker} (at_id : run.workers[id]? = some worker)
    (member : id ∈ run.workersOn lane) : worker.lane = lane := by
  obtain ⟨found, at_found, of_lane⟩ := mem_workersOn.mp member
  rw [at_id] at at_found
  cases at_found
  exact of_lane

theorem workersOn_sorted (run : Run) (lane : LaneId) : (run.workersOn lane).Pairwise (· < ·) :=
  List.pairwise_lt_range.sublist List.filter_sublist

theorem workersOn_eq_concat {id : Nat} (member : id ∈ run.workersOn lane)
    (last : ∀ other ∈ run.workersOn lane, other ≤ id) :
    ∃ front, run.workersOn lane = front ++ [id] ∧ id ∉ front := by
  have sorted := run.workersOn_sorted lane
  obtain ⟨front, back, split⟩ := List.append_of_mem member
  rw [split] at sorted last
  obtain ⟨_, sorted_back, before⟩ := List.pairwise_append.mp sorted
  have nothing : back = [] := by
    apply List.eq_nil_iff_forall_not_mem.mpr
    intro other later
    have beyond := (List.pairwise_cons.mp sorted_back).1 other later
    have within := last other (by simp [later])
    omega
  subst nothing
  exact ⟨front, split, fun again => Nat.lt_irrefl id (before id again id (by simp))⟩

theorem Carries.workersOn (carries : run.Carries after) (lane : LaneId) :
    after.workersOn lane = run.workersOn lane := by
  unfold Run.workersOn
  rw [carries.size]
  apply List.filter_congr
  intro id member
  have below : id < run.workers.length := List.mem_range.mp member
  obtain ⟨worker, at_id, follows⟩ := carries.old (List.getElem?_eq_getElem below)
  rw [at_id, List.getElem?_eq_getElem below]
  simp [follows.lane]

theorem workersOn_openWorker (run : Run) (opened lane : LaneId) (predecessor : Option WorkerId) :
    (run.openWorker opened predecessor).workersOn lane =
      run.workersOn lane ++ if opened = lane then [run.workers.length] else [] := by
  have size : (run.openWorker opened predecessor).workers.length = run.workers.length + 1 := by
    simp [openWorker]
  unfold workersOn
  rw [size, List.range_succ, List.filter_append]
  congr 1
  · apply List.filter_congr
    intro id member
    have was := List.getElem?_eq_getElem (List.mem_range.mp member)
    rw [getElem?_openWorker_old was, was]
  · rw [List.filter_singleton, getElem?_openWorker_new]
    simp [Worker.opened]

theorem queueOf_takeLegacy {workers : List Worker} {before after : Worker} (id : Nat) :
    (takeLegacy workers before after)[id]?.map Worker.queue = workers[id]?.map Worker.queue := by
  have marked : ∀ worker, (markTaken worker).queue = worker.queue := by
    intro worker
    unfold markTaken
    split <;> rfl
  unfold takeLegacy
  split
  · rw [List.getElem?_modify]
    cases workers[id]? with
    | none => rfl
    | some worker =>
      simp only [Option.map_eq_map, Option.map_some]
      split
      · rw [marked]
      · rfl
  · rfl

theorem givenTo_works {worker : Worker} {outcome : Worker.Outcome} {around : Surroundings}
    {action : WorkerAction} {by_id : Nat} (at_id : run.workers[by_id]? = some worker)
    (step : Worker.Step around worker run.shared action outcome) (id : Nat) :
    givenTo { run with
        shared := outcome.2.1
        workers := (takeLegacy run.workers worker outcome.1).set by_id outcome.1 }
      (effects ++ outcome.2.2.map fun effect => (by_id, effect)) id = run.givenTo effects id := by
  unfold givenTo
  rw [Effects.ofWorker_append, taken_append]
  by_cases same : id = by_id
  · subst same
    have below : id < (takeLegacy run.workers worker outcome.1).length := by
      rw [length_takeLegacy]
      exact lt_of_worker at_id
    rw [Effects.ofWorker_self, queueOf_of_worker at_id, step.queue,
      queueOf_of_worker (List.getElem?_set_self below), List.append_assoc]
  · rw [Effects.ofWorker_other _ same]
    have nothing : taken [] = [] := rfl
    rw [nothing, List.append_nil]
    congr 1
    unfold queueOf
    rw [List.getElem?_set_ne (fun clash => same clash.symm), queueOf_takeLegacy]

/-- A lane's records so far, by where they are: with its workers, or with the router. -/
def Accounted (actions : List RunAction) (effects : Effects) (run : Run) (lane : LaneId) : Prop :=
  ∃ left, onLane lane (streamed actions) =
      ((run.workersOn lane).flatMap fun id => run.givenTo effects id) ++ left ∧
    (run.isWhole = true → left = onLane lane run.router.inHand)

theorem Accounted.same {more : List RunAction} {later : Effects}
    (accounted : Accounted actions effects run lane) (nothing : streamed more = [])
    (given : ((after.workersOn lane).flatMap fun id => after.givenTo later id) =
      (run.workersOn lane).flatMap fun id => run.givenTo effects id)
    (router : after.isWhole = true → run.isWhole = true ∧
      run.router.inHand = after.router.inHand) :
    Accounted (actions ++ more) later after lane := by
  obtain ⟨left, equal, hand⟩ := accounted
  refine ⟨left, ?_, fun whole => ?_⟩
  · rw [streamed_append, nothing, List.append_nil, equal, given]
  · obtain ⟨was_whole, same⟩ := router whole
    rw [← same]
    exact hand was_whole

theorem Accounted.draws (accounted : Accounted actions effects run lane) {record : Record}
    (phase : run.router = .choosing .routing) :
    Accounted (actions ++ [.router (.next (.record record))]) effects
      { run with router := .delivering record } lane := by
  obtain ⟨left, equal, hand⟩ := accounted
  have empty : left = [] :=
    hand (isWhole_of_unstopped (by rw [phase]; rfl)) ▸ (by rw [phase]; rfl)
  refine ⟨onLane lane [record], ?_, fun _ => rfl⟩
  have new : streamed [.router (.next (.record record))] = [record] := rfl
  rw [streamed_append, new]
  unfold onLane at equal ⊢
  rw [List.filter_append, equal, empty, List.append_nil]
  rfl

theorem givenTo_openWorker (opened : LaneId) (predecessor : Option WorkerId)
    (fresh : effects.ofWorker run.workers.length = []) :
    (((run.openWorker opened predecessor).workersOn lane).flatMap fun id =>
        (run.openWorker opened predecessor).givenTo effects id) =
      (run.workersOn lane).flatMap fun id => run.givenTo effects id := by
  have nothing : (run.openWorker opened predecessor).givenTo effects run.workers.length = [] := by
    unfold givenTo
    rw [queueOf_of_worker (getElem?_openWorker_new ..), fresh]
    rfl
  have old : ((run.workersOn lane).flatMap fun id =>
      (run.openWorker opened predecessor).givenTo effects id) =
      (run.workersOn lane).flatMap fun id => run.givenTo effects id := by
    rw [List.flatMap_congr]
    intro id member
    obtain ⟨worker, at_id, _⟩ := mem_workersOn.mp member
    unfold givenTo
    rw [queueOf_of_worker at_id, queueOf_of_worker (getElem?_openWorker_old at_id)]
  rw [workersOn_openWorker, List.flatMap_append, old]
  split
  · rw [List.flatMap_singleton, nothing, List.append_nil]
  · rw [List.flatMap_nil, List.append_nil]

/-- A record goes to the last worker of its lane, after everything given to the lane before. -/
theorem givenTo_delivers (linked : run.Linked) {record : Record} {id : Nat} {worker : Worker}
    {router : RouterPhase} (handle : run.handles.lookup record.lane = some id)
    (at_id : run.workers[id]? = some worker) {after : Run} (delivered : after = { run with
      workers := run.workers.set id { worker with queue := worker.queue ++ [record] }
      router := router }) :
    ((run.workersOn lane).flatMap fun id => after.givenTo effects id) =
      ((run.workersOn lane).flatMap fun id => run.givenTo effects id) ++ onLane lane [record] := by
  obtain ⟨⟨found, at_found, of_lane⟩, last⟩ := linked.handled record.lane id (mem_of_lookup handle)
  rw [at_id] at at_found
  cases at_found
  have others : ∀ other, other ≠ id → after.givenTo effects other = run.givenTo effects other := by
    intro other different
    unfold givenTo queueOf
    rw [delivered]
    dsimp only
    rw [List.getElem?_set_ne different.symm]
  have own : after.givenTo effects id = run.givenTo effects id ++ [record] := by
    unfold givenTo
    have pushed : after.workers[id]? =
        some { worker with queue := worker.queue ++ [record] } := by
      rw [delivered]
      exact List.getElem?_set_self (lt_of_worker at_id)
    rw [queueOf_of_worker at_id, queueOf_of_worker pushed, List.append_assoc]
  by_cases same : record.lane = lane
  · have member : id ∈ run.workersOn lane := mem_workersOn.mpr ⟨worker, at_id, of_lane.trans same⟩
    obtain ⟨front, split, absent⟩ := workersOn_eq_concat member (by
      intro later of_same
      obtain ⟨next, at_later, next_lane⟩ := mem_workersOn.mp of_same
      exact Nat.le_of_not_lt fun beyond =>
        last later next beyond at_later (next_lane.trans same.symm))
    have before : (front.flatMap fun id => after.givenTo effects id) =
        front.flatMap fun id => run.givenTo effects id := by
      rw [List.flatMap_congr]
      exact fun other earlier => others other fun clash => absent (clash ▸ earlier)
    have new : onLane lane [record] = [record] := by simp [onLane, same]
    rw [split, List.flatMap_append, List.flatMap_append, before, List.flatMap_singleton,
      List.flatMap_singleton, own, new, List.append_assoc]
  · have nothing : onLane lane [record] = [] := by simp [onLane, same]
    rw [nothing, List.append_nil, List.flatMap_congr]
    intro other member
    refine others other ?_
    rintro rfl
    exact same (of_lane.symm.trans (lane_of_mem at_id member))

theorem Accounted.routes {action : RouterAction} (accounted : Accounted actions effects run lane)
    (trace : Trace settings actions effects run) (step : RouterStep run action after) :
    Accounted (actions ++ [.router action]) effects after lane := by
  have fresh : effects.ofWorker run.workers.length = [] :=
    trace.ofWorker_none (List.getElem?_eq_none (Nat.le_refl _))
  cases step with
  | draws phase => exact accounted.draws phase
  | opens phase | replaces phase =>
    exact accounted.same rfl (givenTo_openWorker _ _ fresh) fun whole => ⟨whole, rfl⟩
  | @delivers record id worker phase handle at_id =>
    obtain ⟨left, equal, hand⟩ := accounted
    have held : left = onLane lane [record] :=
      hand (isWhole_of_unstopped (by rw [phase]; rfl)) ▸ (by rw [phase]; rfl)
    have nothing : streamed [.router .deliver] = [] := rfl
    have carries := Carries.push at_id record (by simp only [isRouting, phase])
    refine ⟨[], ?_, fun _ => rfl⟩
    rw [streamed_append, nothing, List.append_nil, List.append_nil, carries.workersOn,
      givenTo_delivers trace.linked handle at_id rfl, equal, held]
  | stops | breaksOff | meetsFailure | givesUp | breaksOffLate =>
    exact accounted.same rfl rfl fun whole => by cases whole
  | settlesStopped phase =>
    refine accounted.same rfl rfl fun whole => ⟨?_, by rw [phase]; rfl⟩
    unfold isWhole
    rw [phase]
    exact whole
  | looks phase | looksAgain phase | notes phase | meetsEnd phase | settles phase =>
    exact accounted.same rfl rfl fun _ =>
      ⟨isWhole_of_unstopped (by rw [phase]; rfl), by rw [phase]; rfl⟩
  | joins phase =>
    rcases phase with ⟨mode, phase, rfl⟩ | ⟨fault, phase, rfl⟩
    · exact accounted.same rfl rfl fun _ =>
        ⟨isWhole_of_unstopped (by rw [phase]; rfl), by rw [phase]; rfl⟩
    · refine accounted.same rfl rfl fun whole => ⟨?_, by rw [phase]⟩
      unfold isWhole
      rw [phase]
      exact whole

theorem Trace.accounted (trace : Trace settings actions effects run) (lane : LaneId) :
    Accounted actions effects run lane := by
  induction trace with
  | start => exact ⟨[], rfl, fun _ => rfl⟩
  | step trace step ih =>
    cases step_of_step? step with
    | routes routed =>
      rw [List.append_nil]
      exact ih.routes trace routed
    | works at_id move =>
      have carries := Carries.works at_id move
      refine ih.same rfl ?_ fun whole => ⟨?_, rfl⟩
      · rw [carries.workersOn]
        exact List.flatMap_congr fun id _ => givenTo_works at_id move id
      · unfold isWhole at whole ⊢
        rw [← move.signal]
        exact whole
    | cancels =>
      rw [List.append_nil]
      refine ih.same rfl rfl fun whole => ⟨isWhole_of_unstopped ?_, rfl⟩
      simpa [isWhole, cancel, CancelSignal.cancel] using whole

def Effects.ofWorkers (effects : Effects) (ids : List Nat) : List LaneEffect :=
  effects.filterMap fun effect => if effect.1 ∈ ids then some effect.2 else none

theorem Effects.ofWorkers_append (first second : Effects) (ids : List Nat) :
    Effects.ofWorkers (first ++ second) ids = first.ofWorkers ids ++ second.ofWorkers ids :=
  List.filterMap_append

theorem Effects.ofWorkers_mem {ids : List Nat} {id : Nat} (effects : List LaneEffect)
    (member : id ∈ ids) :
    Effects.ofWorkers (effects.map fun effect => (id, effect)) ids = effects := by
  simp [ofWorkers, List.filterMap_map, member]

theorem Effects.ofWorkers_not_mem {ids : List Nat} {id : Nat} (effects : List LaneEffect)
    (absent : id ∉ ids) :
    Effects.ofWorkers (effects.map fun effect => (id, effect)) ids = [] := by
  simp [ofWorkers, List.filterMap_map, absent]

theorem Effects.ofWorkers_concat {id : Nat} (fresh : effects.ofWorker id = []) (ids : List Nat) :
    effects.ofWorkers (ids ++ [id]) = effects.ofWorkers ids := by
  apply List.filterMap_congr
  intro effect member
  have different : effect.1 ≠ id := by
    have nothing := List.filterMap_eq_nil_iff.mp fresh effect member
    intro same
    simp [same] at nothing
  simp [different]

def Consecutive (effects : Effects) (run : Run) (lane : LaneId) : Prop :=
  effects.ofWorkers (run.workersOn lane) = (run.workersOn lane).flatMap effects.ofWorker

theorem Consecutive.works {id : Nat} {worker : Worker} {new : List LaneEffect}
    (consecutive : Consecutive effects run lane) (exclusive : run.Exclusive)
    (waiting : ∀ (id : Nat) (worker : Worker), run.workers[id]? = some worker →
      ∀ predecessor, worker.phase = .succeeding predecessor → effects.ofWorker id = [])
    (at_id : run.workers[id]? = some worker) (going : worker.phase ≠ .ended)
    (same : after.workersOn lane = run.workersOn lane) :
    Consecutive (effects ++ new.map fun effect => (id, effect)) after lane := by
  unfold Consecutive at consecutive ⊢
  rw [same, Effects.ofWorkers_append, consecutive]
  have others : ∀ other, other ≠ id →
      Effects.ofWorker (effects ++ new.map fun effect => (id, effect)) other =
        effects.ofWorker other := by
    intro other different
    rw [Effects.ofWorker_append, Effects.ofWorker_other new different, List.append_nil]
  by_cases member : id ∈ run.workersOn lane
  · have sorted := run.workersOn_sorted lane
    have on_lane : ∀ other ∈ run.workersOn lane, ∃ found, run.workers[other]? = some found ∧
        found.lane = worker.lane := by
      intro other of_same
      obtain ⟨found, at_other, same⟩ := mem_workersOn.mp of_same
      exact ⟨found, at_other, same.trans (lane_of_mem at_id member).symm⟩
    rw [Effects.ofWorkers_mem new member]
    obtain ⟨front, back, split⟩ := List.append_of_mem member
    rw [split] at sorted on_lane ⊢
    obtain ⟨_, sorted_back, before⟩ := List.pairwise_append.mp sorted
    have after_id := (List.pairwise_cons.mp sorted_back).1
    -- Whoever comes later still waits, as this worker has not ended.
    have idle : back.flatMap effects.ofWorker = [] := by
      apply List.flatMap_eq_nil_iff.mpr
      intro later member
      obtain ⟨found, at_later, of_lane⟩ := on_lane later (by simp [member])
      rcases exclusive id later worker found (after_id later member) at_id at_later of_lane.symm with
        ended | ⟨predecessor, waits⟩
      · exact absurd ended going
      · exact waiting later found at_later predecessor waits
    have front_same : front.flatMap
        (Effects.ofWorker (effects ++ new.map fun effect => (id, effect))) =
        front.flatMap effects.ofWorker :=
      List.flatMap_congr fun other earlier =>
        others other (Nat.ne_of_lt (before other earlier id (by simp)))
    have back_same : back.flatMap
        (Effects.ofWorker (effects ++ new.map fun effect => (id, effect))) =
        back.flatMap effects.ofWorker :=
      List.flatMap_congr fun other later => others other (Nat.ne_of_gt (after_id other later))
    simp only [List.flatMap_append, List.flatMap_cons]
    rw [front_same, back_same, idle, Effects.ofWorker_append, Effects.ofWorker_self]
    simp only [List.append_nil, List.append_assoc]
  · rw [Effects.ofWorkers_not_mem new member, List.append_nil]
    refine (List.flatMap_congr fun other of_lane => others other ?_).symm
    rintro rfl
    exact member of_lane

theorem Trace.consecutive (trace : Trace settings actions effects run)
    (calm : run.isCalm = true) (lane : LaneId) : Consecutive effects run lane := by
  induction trace with
  | start => rfl
  | @step actions effects new run after reading action trace step ih =>
    have step := step_of_step? step
    have before := ih (step.calm calm)
    cases step with
    | cancels =>
      rw [List.append_nil]
      exact before
    | @works id worker _ _ outcome at_id move =>
      exact before.works (trace.exclusive ((Step.works at_id move).calm calm))
        (fun id worker at_id => trace.each untouched nofun at_id) at_id move.not_ended
        ((Carries.works at_id move).workersOn lane)
    | routes routed =>
      rw [List.append_nil]
      unfold Consecutive at before ⊢
      rcases routed.carries_or_opens with carries | ⟨record, predecessor, _, rfl⟩
      · rw [carries.workersOn]
        exact before
      · have fresh : effects.ofWorker run.workers.length = [] :=
          trace.ofWorker_none (List.getElem?_eq_none (Nat.le_refl _))
        rw [workersOn_openWorker]
        split
        · rw [Effects.ofWorkers_concat fresh, before, List.flatMap_append, List.flatMap_singleton,
            fresh, List.append_nil]
        · rw [List.append_nil]
          exact before

end Run

end TrafficReplay
