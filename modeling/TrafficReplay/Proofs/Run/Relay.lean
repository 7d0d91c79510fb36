import TrafficReplay.Proofs.Run.History
import TrafficReplay.Proofs.Run.Inheritance

namespace TrafficReplay.Run

variable {α : Type} {note : Worker → WorkerAction → Option α} {settings : RunSettings}
  {actions : List RunAction} {effects : Effects} {run : Run} {lane : LaneId} {notes : List α}

def note? (note : Worker → WorkerAction → Option α) (run : Run) (lane : LaneId) :
    RunAction → Option α
  | .worker id action =>
    match run.workers[id]? with
    | some worker => if worker.lane = lane then note worker action else none
    | none => none
  | .router _ | .cancel => none

inductive Noted (note : Worker → WorkerAction → Option α) (settings : RunSettings) (lane : LaneId) :
    List RunAction → Effects → Run → List α → Prop
  | start : Noted note settings lane [] [] (start settings .fresh) []
  | step {actions : List RunAction} {effects new : Effects} {run after : Run} {notes : List α}
      {reading : Reading} {action : RunAction}
      (noted : Noted note settings lane actions effects run notes)
      (step : run.step? reading action = some (after, new)) :
      Noted note settings lane (actions ++ [action]) (effects ++ new) after
        (notes ++ (run.note? note lane action).toList)

theorem Noted.trace (noted : Noted note settings lane actions effects run notes) :
    Trace settings actions effects run := by
  induction noted with
  | start => exact .start
  | step _ step ih => exact ih.step step

theorem Trace.noted (trace : Trace settings actions effects run)
    (note : Worker → WorkerAction → Option α) (lane : LaneId) :
    ∃ notes, Noted note settings lane actions effects run notes := by
  induction trace with
  | start => exact ⟨[], .start⟩
  | step _ step ih =>
    obtain ⟨notes, noted⟩ := ih
    exact ⟨_, noted.step step⟩

def notesOf (note : Worker → WorkerAction → Option α) (lane : LaneId) (run : Run)
    (reading : Reading) : List RunAction → List α
  | [] => []
  | action :: rest =>
    (run.note? note lane action).toList ++
      match run.step? reading action with
      | none => []
      | some (after, _) => after.notesOf note lane reading rest

theorem Noted.steps? {more : List RunAction} {new : Effects} {last : Run} {reading : Reading}
    (noted : Noted note settings lane actions effects run notes)
    (steps : run.steps? reading more = some (last, new)) :
    Noted note settings lane (actions ++ more) (effects ++ new) last
      (notes ++ run.notesOf note lane reading more) := by
  induction more generalizing run actions effects new notes with
  | nil =>
    cases steps
    simp only [notesOf, List.append_nil]
    exact noted
  | cons action rest ih =>
    simp only [Run.steps?] at steps
    split at steps
    · cases steps
    · rename_i after first step
      split at steps
      · cases steps
      · rename_i last' later taken
        cases steps
        have next := ih (noted.step step) taken
        simp only [notesOf, step]
        rw [List.append_assoc, List.append_assoc, List.append_assoc] at next
        exact next

/-- A property of the current worker of a lane, given what the lane has done and what was noted,
    that goes from worker to worker. -/
structure Relay (note : Worker → WorkerAction → Option α) (settings : RunSettings) (lane : LaneId)
    (holds : List LaneEffect → List α → Worker → Prop) : Prop where
  opened : holds [] [] (.opened lane settings.scope none)
  pushed : ∀ {effects : List LaneEffect} {notes : List α} {worker : Worker} (record : Record),
    holds effects notes worker → holds effects notes { worker with queue := worker.queue ++ [record] }
  worked : ∀ {effects : List LaneEffect} {notes : List α} {around : Surroundings} {worker : Worker}
    {shared : Shared} {action : WorkerAction} {outcome : Worker.Outcome},
    Worker.Step around worker shared action outcome → around.settings = settings.lane →
      shared.signal.fired = false → worker.Sound around.fed → worker.lane = lane →
      (∀ predecessor, worker.phase ≠ .succeeding predecessor) → holds effects notes worker →
        holds (effects ++ outcome.2.2) (notes ++ (note worker action).toList) outcome.1
  inherited : ∀ {effects : List LaneEffect} {notes : List α} {old heir : Worker}
    {predecessor : WorkerId} {action : WorkerAction}, old.phase = .ended →
      old.handoff = .passed old.memory → old.report.abort.isSome = false →
      heir.phase = .succeeding predecessor → holds effects notes old →
        holds effects (notes ++ (note heir action).toList)
          { heir with memory := old.memory, phase := .acquiring .trying }

/-- Where a relay has got to. -/
structure Relayed (holds : List LaneEffect → List α → Worker → Prop) (effects : Effects)
    (notes : List α) (run : Run) (lane : LaneId) : Prop where
  unnoted : run.workersOn lane = [] → notes = []
  current : ∀ (id : Nat) (worker : Worker), run.Current lane id worker →
    holds (run.laneEffects effects lane) notes worker

variable {holds : List LaneEffect → List α → Worker → Prop}

theorem laneEffects_of_none (effects : Effects) (nobody : run.workersOn lane = []) :
    run.laneEffects effects lane = [] := by
  simp [laneEffects, nobody, Effects.ofWorkers]

theorem Relayed.opens (relay : Relay note settings lane holds)
    (relayed : Relayed holds effects notes run lane) (linked : run.Linked)
    (scope : run.settings = settings) (fresh : effects.ofWorker run.workers.length = [])
    {record : Record} {predecessor : Option WorkerId} (opens : run.Opens record predecessor) :
    Relayed holds effects notes (run.openWorker record.lane predecessor) lane := by
  refine ⟨fun nobody => ?_, fun id worker current => ?_⟩
  · rw [workersOn_openWorker] at nobody
    exact relayed.unnoted (List.append_eq_nil_iff.mp nobody).1
  · rw [laneEffects_opens fresh]
    rcases getElem?_openWorker current.at_id with ⟨was, _⟩ | ⟨_, rfl⟩
    · refine relayed.current id worker ⟨was, current.of_lane, current.going, ?_⟩
      exact fun later other order at_later =>
        current.last later other order (getElem?_openWorker_old at_later)
    · cases predecessor with
      | some predecessor => exact absurd rfl (current.going predecessor)
      | none =>
        have same : record.lane = lane := current.of_lane
        have nobody : run.workersOn lane = [] := by
          apply List.eq_nil_iff_forall_not_mem.mpr
          intro other member
          obtain ⟨found, at_other, of_lane⟩ := mem_workersOn.mp member
          exact linked.covered (by simp only [isRouting, opens.phase]) record.lane opens.handle
            other found at_other (of_lane.trans same.symm)
        rw [laneEffects_of_none effects nobody, relayed.unnoted nobody, same, scope]
        exact relay.opened

theorem Relayed.carry {after : Run} {more : Effects} (relay : Relay note settings lane holds)
    (relayed : Relayed holds effects notes run lane)
    (workers : after.workersOn lane = run.workersOn lane)
    (stays : after.laneEffects more lane = run.laneEffects effects lane)
    (size : after.workers.length = run.workers.length)
    (same : ∀ (id : Nat) (worker : Worker), after.workers[id]? = some worker →
      ∃ old, run.workers[id]? = some old ∧ old.lane = worker.lane ∧ (worker.lane = lane →
        worker = old ∨ ∃ record, worker = { old with queue := old.queue ++ [record] })) :
    Relayed holds more notes after lane := by
  refine ⟨fun nobody => relayed.unnoted (workers ▸ nobody), fun id worker current => ?_⟩
  obtain ⟨old, was, lanes, change⟩ := same id worker current.at_id
  have phase : old.phase = worker.phase := by
    rcases change current.of_lane with rfl | ⟨record, rfl⟩ <;> rfl
  have before : run.Current lane id old := by
    refine ⟨was, lanes.trans current.of_lane, by rw [phase]; exact current.going, ?_⟩
    intro later other order at_later of_lane
    have below : later < after.workers.length := by
      rw [size]
      exact lt_of_worker at_later
    have at_after := List.getElem?_eq_getElem below
    obtain ⟨found, was_later, lanes, change⟩ := same later _ at_after
    rw [at_later] at was_later
    cases was_later
    obtain ⟨predecessor, waits⟩ := current.last later _ order at_after (lanes.symm.trans of_lane)
    refine ⟨predecessor, ?_⟩
    rcases change (lanes.symm.trans of_lane) with equal | ⟨record, equal⟩ <;> rw [equal] at waits <;>
      exact waits
  rw [stays]
  have held := relayed.current id old before
  rcases change current.of_lane with rfl | ⟨record, rfl⟩
  · exact held
  · exact relay.pushed record held

/-- The current worker of the lane takes a step, or the next one takes over. -/
theorem Relayed.works (relay : Relay note settings lane holds)
    (relayed : Relayed holds effects notes run lane) (trace : Trace settings actions effects run)
    (calm : run.isCalm = true) (unbroken : run.Unbroken lane) {id : Nat} {worker : Worker}
    {reading : Reading} {action : WorkerAction} {outcome : Worker.Outcome}
    (at_id : run.workers[id]? = some worker) (of_lane : worker.lane = lane)
    (move : Worker.Step (run.surroundings reading id worker) worker run.shared action outcome) :
    holds (run.laneEffects effects lane ++ outcome.2.2) (notes ++ (note worker action).toList)
      outcome.1 := by
  by_cases waits : ∃ predecessor, worker.phase = .succeeding predecessor
  · obtain ⟨predecessor, waiting⟩ := waits
    obtain ⟨old, current, ended, passed, whole, resumed, nothing⟩ :=
      trace.takes_over calm unbroken at_id of_lane waiting move
    rw [nothing, resumed, List.append_nil]
    exact relay.inherited ended passed whole waiting (relayed.current predecessor old current)
  · have going : ∀ predecessor, worker.phase ≠ .succeeding predecessor :=
      fun predecessor waiting => waits ⟨predecessor, waiting⟩
    have current : run.Current lane id worker := ⟨at_id, of_lane, going, fun later other =>
      trace.others_wait calm at_id of_lane move.not_ended⟩
    have same : run.settings.lane = settings.lane := by rw [trace.settings]
    exact relay.worked move same (trace.joins.quiet calm at_id move.not_ended)
      (trace.each soundness nofun at_id) of_lane going (relayed.current id worker current)

theorem Relayed.works_on (relay : Relay note settings lane holds)
    (relayed : Relayed holds effects notes run lane) (trace : Trace settings actions effects run)
    (calm : run.isCalm = true) (unbroken : run.Unbroken lane) {id : Nat} {worker : Worker}
    {reading : Reading} {action : WorkerAction} {outcome : Worker.Outcome}
    (at_id : run.workers[id]? = some worker) (of_lane : worker.lane = lane)
    (move : Worker.Step (run.surroundings reading id worker) worker run.shared action outcome) :
    Relayed holds (effects ++ outcome.2.2.map fun effect => (id, effect))
      (notes ++ (note worker action).toList)
      { run with
        shared := outcome.2.1
        workers := (takeLegacy run.workers worker outcome.1).set id outcome.1 } lane := by
  have workers := (Carries.works at_id move).workersOn lane
  have did := laneEffects_works effects outcome.2.2 at_id workers
  rw [if_pos of_lane] at did
  refine ⟨fun nobody => ?_, fun other found current => ?_⟩
  · have member : id ∈ run.workersOn lane := mem_workersOn.mpr ⟨worker, at_id, of_lane⟩
    rw [← workers, nobody] at member
    exact absurd member List.not_mem_nil
  have own : ((takeLegacy run.workers worker outcome.1).set id outcome.1)[id]? = some outcome.1 :=
    List.getElem?_set_self (by rw [length_takeLegacy]; exact lt_of_worker at_id)
  rw [did]
  rcases Nat.lt_trichotomy other id with earlier | rfl | later
  · obtain ⟨predecessor, waiting⟩ :=
      current.last id outcome.1 earlier own (move.lane.trans of_lane)
    exact absurd waiting (move.not_succeeding predecessor)
  · cases current.at_id.symm.trans own
    exact relayed.works relay trace calm unbroken at_id of_lane move
  · -- Later workers of the lane wait, so none of them is the current one.
    rcases getElem?_works current.at_id with ⟨same, _⟩ | ⟨_, was | ⟨waiting, old, was, rfl⟩⟩
    · exact absurd same (Nat.ne_of_gt later)
    · obtain ⟨predecessor, waits⟩ :=
        trace.others_wait calm at_id of_lane move.not_ended later was current.of_lane
      exact absurd waits (current.going predecessor)
    · obtain ⟨order, _⟩ := trace.linked.preceded id other worker at_id waiting
      exact absurd order (Nat.lt_asymm later)

theorem Relayed.works_elsewhere (relay : Relay note settings lane holds)
    (relayed : Relayed holds effects notes run lane) (linked : run.Linked) {id : Nat}
    {worker : Worker} {around : Surroundings} {action : WorkerAction} {outcome : Worker.Outcome}
    (at_id : run.workers[id]? = some worker) (elsewhere : worker.lane ≠ lane)
    (move : Worker.Step around worker run.shared action outcome) :
    Relayed holds (effects ++ outcome.2.2.map fun effect => (id, effect)) notes
      { run with
        shared := outcome.2.1
        workers := (takeLegacy run.workers worker outcome.1).set id outcome.1 } lane := by
  have carries := Carries.works at_id move
  have workers := carries.workersOn lane
  have did := laneEffects_works effects outcome.2.2 at_id workers
  rw [if_neg elsewhere, List.append_nil] at did
  refine relayed.carry relay workers did carries.size fun other found at_other => ?_
  rcases getElem?_works at_other with ⟨rfl, rfl⟩ | ⟨_, was | ⟨waiting, old, was, rfl⟩⟩
  · exact ⟨worker, at_id, move.lane.symm, fun clash =>
      absurd (move.lane.symm.trans clash) elsewhere⟩
  · exact ⟨found, was, rfl, fun _ => .inl rfl⟩
  · obtain ⟨_, ⟨former, at_former, lanes⟩, _⟩ := linked.preceded id other worker at_id waiting
    rw [was] at at_former
    cases at_former
    obtain ⟨handoff, marked⟩ := markTaken_fields old
    refine ⟨old, was, by rw [marked], fun clash => ?_⟩
    rw [marked] at clash
    exact absurd (lanes.symm.trans clash) elsewhere

theorem Relayed.routes {action : RouterAction} {after : Run}
    (relay : Relay note settings lane holds) (relayed : Relayed holds effects notes run lane)
    (trace : Trace settings actions effects run) (routed : RouterStep run action after) :
    Relayed holds effects notes after lane := by
  have fresh : effects.ofWorker run.workers.length = [] :=
    trace.ofWorker_none (List.getElem?_eq_none (Nat.le_refl _))
  cases routed with
  | opens phase absent =>
    exact relayed.opens relay trace.linked trace.settings fresh ⟨phase, absent, nofun⟩
  | replaces phase handle at_old shut =>
    refine relayed.opens relay trace.linked trace.settings fresh ⟨phase, handle, ?_⟩
    intro old same
    cases same
    exact ⟨_, at_old, shut⟩
  | @delivers record id worker phase handle at_id =>
    have carries := Carries.push at_id record (by simp only [isRouting, phase])
    have workers := carries.workersOn lane
    refine relayed.carry relay workers (congrArg effects.ofWorkers workers) carries.size ?_
    intro other found at_other
    rcases getElem?_set_some at_other with ⟨rfl, rfl⟩ | ⟨_, was⟩
    · exact ⟨worker, at_id, rfl, fun _ => .inr ⟨record, rfl⟩⟩
    · exact ⟨found, was, rfl, fun _ => .inl rfl⟩
  | _ =>
    exact relayed.carry relay rfl rfl rfl fun id worker at_id =>
      ⟨worker, at_id, rfl, fun _ => .inl rfl⟩

theorem Noted.relay (relay : Relay note settings lane holds)
    (noted : Noted note settings lane actions effects run notes) (calm : run.isCalm = true)
    (unbroken : run.Unbroken lane) : Relayed holds effects notes run lane := by
  induction noted with
  | start => exact ⟨fun _ => rfl, fun id worker current => by cases current.at_id⟩
  | @step actions effects new run after notes reading action noted step ih =>
    have trace := noted.trace
    have step := step_of_step? step
    have calm_before := step.calm calm
    have unbroken_before := step.unbroken unbroken
    have before := ih calm_before unbroken_before
    cases step with
    | cancels =>
      simp only [note?, Option.toList_none, List.append_nil]
      exact before.carry relay rfl rfl rfl fun id worker at_id =>
        ⟨worker, at_id, rfl, fun _ => .inl rfl⟩
    | routes routed =>
      simp only [note?, Option.toList_none, List.append_nil]
      exact before.routes relay trace routed
    | @works id worker _ action outcome at_id move =>
      by_cases of_lane : worker.lane = lane
      · simp only [note?, at_id, of_lane, if_true]
        exact before.works_on relay trace calm_before unbroken_before at_id of_lane move
      · simp only [note?, at_id, of_lane, if_false, Option.toList_none, List.append_nil]
        exact before.works_elsewhere relay trace.linked at_id of_lane move

/-- The stat records of a lane are numbered through, and its current worker knows the next number. -/
structure Numbered (effects : Effects) (run : Run) (lane : LaneId) : Prop where
  numbers : (run.laneStats effects lane).map Stat.seq =
    List.range (run.laneStats effects lane).length
  next : ∀ (id : Nat) (worker : Worker), run.Current lane id worker →
    worker.memory.seq = (run.laneStats effects lane).length

theorem numbering (settings : RunSettings) (lane : LaneId) :
    Relay (fun _ _ => (none : Option Unit)) settings lane fun effects _ worker =>
      (reported effects).map Stat.seq = List.range (reported effects).length ∧
        worker.memory.seq = (reported effects).length where
  opened := ⟨rfl, rfl⟩
  pushed _ before := before
  worked := by
    rintro effects notes around worker shared action outcome step _ _ _ _ going ⟨numbers, next⟩
    obtain ⟨seqs, seq⟩ := step.seq going
    rw [reported_append, List.map_append, List.length_append, numbers, seqs, seq, next,
      List.range_eq_range', List.range_eq_range', ← List.range'_append_1, Nat.zero_add]
    exact ⟨rfl, rfl⟩
  inherited _ _ _ _ before := before

theorem Trace.numbered (trace : Trace settings actions effects run) (calm : run.isCalm = true)
    (unbroken : run.Unbroken lane) : Numbered effects run lane := by
  obtain ⟨notes, noted⟩ := trace.noted (fun _ _ => (none : Option Unit)) lane
  have relayed := noted.relay (numbering settings lane) calm unbroken
  refine ⟨?_, fun id worker current => (relayed.current id worker current).2⟩
  by_cases nobody : run.workersOn lane = []
  · have nothing : run.laneStats effects lane = [] :=
      congrArg reported (laneEffects_of_none effects nobody)
    rw [nothing]
    rfl
  · obtain ⟨id, worker, current⟩ := trace.linked.exists_current nobody
    exact (relayed.current id worker current).1

end TrafficReplay.Run
