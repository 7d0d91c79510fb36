import TrafficReplay.Proofs.Cursor
import TrafficReplay.Proofs.Run.Step

namespace TrafficReplay

namespace Worker

structure Follows (before after : Worker) : Prop where
  lane : after.lane = before.lane
  accepting : after.accepting = true → before.accepting = true
  succeeding : ∀ predecessor, after.phase = .succeeding predecessor →
    before.phase = .succeeding predecessor

theorem Follows.refl (worker : Worker) : worker.Follows worker := ⟨rfl, id, fun _ => id⟩

theorem Step.follows {around : Surroundings} {worker : Worker} {shared : Shared}
    {action : WorkerAction} {outcome : Outcome}
    (step : Step around worker shared action outcome) : worker.Follows outcome.1 :=
  ⟨step.lane, step.accepting, fun predecessor back => absurd back (step.not_succeeding predecessor)⟩

end Worker

namespace Run

/-- The stream has not ended and the run has not failed. -/
def isRouting (run : Run) : Bool :=
  match run.router with
  | .looking .routing | .choosing .routing | .delivering _ => true
  | _ => false

theorem markTaken_fields (worker : Worker) :
    ∃ handoff, markTaken worker = { worker with handoff := handoff } := by
  unfold markTaken
  split <;> exact ⟨_, rfl⟩

theorem markTaken_follows (worker : Worker) : worker.Follows (markTaken worker) := by
  obtain ⟨handoff, marked⟩ := markTaken_fields worker
  rw [marked]
  exact ⟨rfl, id, fun _ => id⟩

theorem length_takeLegacy (workers : List Worker) (before after : Worker) :
    (takeLegacy workers before after).length = workers.length := by
  unfold takeLegacy
  split
  · exact List.length_modify ..
  · rfl

theorem getElem?_takeLegacy {workers : List Worker} {before after worker : Worker} {id : Nat}
    (at_id : (takeLegacy workers before after)[id]? = some worker) :
    workers[id]? = some worker ∨ before.phase = .succeeding id ∧
      ∃ old, workers[id]? = some old ∧ worker = markTaken old := by
  unfold takeLegacy at at_id
  split at at_id
  · rename_i predecessor stage waiting _
    rw [List.getElem?_modify] at at_id
    split at at_id
    · rename_i same
      obtain ⟨old, found, rfl⟩ := Option.map_eq_some_iff.mp at_id
      exact .inr ⟨same ▸ waiting, old, found, rfl⟩
    · obtain ⟨old, found, rfl⟩ := Option.map_eq_some_iff.mp at_id
      exact .inl found
  · exact .inl at_id

theorem getElem?_set_some {α : Type} {list : List α} {index other : Nat} {value found : α}
    (at_other : (list.set index value)[other]? = some found) :
    other = index ∧ found = value ∨ other ≠ index ∧ list[other]? = some found := by
  rw [List.getElem?_set] at at_other
  split at at_other
  · rename_i same
    split at at_other
    · cases at_other
      exact .inl ⟨same.symm, rfl⟩
    · cases at_other
  · rename_i different
    exact .inr ⟨fun same => different same.symm, at_other⟩

/-- After a step of one worker, every other worker is as it was, but that the legacy of the worker's
    predecessor may have been taken. -/
theorem getElem?_works {run : Run} {id other : Nat} {before after worker : Worker}
    (at_other : ((takeLegacy run.workers before after).set id after)[other]? = some worker) :
    other = id ∧ worker = after ∨
      other ≠ id ∧ (run.workers[other]? = some worker ∨ before.phase = .succeeding other ∧
        ∃ old, run.workers[other]? = some old ∧ worker = markTaken old) := by
  rcases getElem?_set_some at_other with own | ⟨different, was⟩
  · exact .inl own
  · exact .inr ⟨different, getElem?_takeLegacy was⟩

structure Carries (before after : Run) : Prop where
  size : after.workers.length = before.workers.length
  follows : ∀ (id : Nat) (worker : Worker), after.workers[id]? = some worker →
    ∃ old : Worker, before.workers[id]? = some old ∧ old.Follows worker
  handles : ∀ entry ∈ after.handles, entry ∈ before.handles
  routing : after.isRouting = true → before.isRouting = true ∧ after.handles = before.handles

theorem Carries.of_same {before after : Run} (workers : after.workers = before.workers)
    (handles : after.handles = [] ∨ after.handles = before.handles)
    (routing : after.isRouting = true → before.isRouting = true ∧ after.handles = before.handles) :
    before.Carries after := by
  refine ⟨by rw [workers], fun id worker at_id => ⟨worker, workers ▸ at_id, .refl worker⟩, ?_,
    routing⟩
  rcases handles with none | same
  · rw [none]
    exact nofun
  · rw [same]
    exact fun _ => id

theorem Carries.fail (run : Run) (fault : PlayFault) : run.Carries (run.fail fault) :=
  .of_same rfl (.inl rfl) nofun

theorem Carries.push {run : Run} {id : Nat} {worker : Worker}
    (at_id : run.workers[id]? = some worker) (record : Record) (routing : run.isRouting = true) :
    run.Carries { run with
      workers := run.workers.set id { worker with queue := worker.queue ++ [record] }
      router := .looking .routing } := by
  refine ⟨List.length_set, ?_, fun _ member => member, fun _ => ⟨routing, rfl⟩⟩
  intro other found at_other
  rcases getElem?_set_some at_other with ⟨rfl, rfl⟩ | ⟨_, was⟩
  · exact ⟨worker, at_id, rfl, fun h => h, fun _ h => h⟩
  · exact ⟨found, was, .refl found⟩

theorem Carries.works {run : Run} {id : Nat} {worker : Worker} {around : Surroundings}
    {action : WorkerAction} {outcome : Worker.Outcome} (at_id : run.workers[id]? = some worker)
    (step : Worker.Step around worker run.shared action outcome) :
    run.Carries { run with
      shared := outcome.2.1
      workers := (takeLegacy run.workers worker outcome.1).set id outcome.1 } := by
  refine ⟨by rw [List.length_set, length_takeLegacy], ?_, fun _ member => member, fun routing =>
    ⟨routing, rfl⟩⟩
  intro other found at_other
  rcases getElem?_works at_other with ⟨rfl, rfl⟩ | ⟨_, was | ⟨_, old, was, rfl⟩⟩
  · exact ⟨worker, at_id, step.follows⟩
  · exact ⟨found, was, .refl found⟩
  · exact ⟨old, was, markTaken_follows old⟩

/-- When a worker is opened and in whose place. -/
structure Opens (run : Run) (record : Record) (predecessor : Option WorkerId) : Prop where
  phase : run.router = .delivering record
  handle : run.handles.lookup record.lane = predecessor
  shut : ∀ id, predecessor = some id →
    ∃ worker, run.workers[id]? = some worker ∧ worker.accepting = false

theorem RouterStep.carries_or_opens {run after : Run} {action : RouterAction}
    (step : RouterStep run action after) :
    run.Carries after ∨
      ∃ record predecessor, run.Opens record predecessor ∧
        after = run.openWorker record.lane predecessor := by
  cases step with
  | stops | meetsFailure | givesUp | breaksOffLate => exact .inl (.fail run _)
  | breaksOff phase events => exact .inl (.of_same rfl (.inl rfl) nofun)
  | @looks mode phase | @looksAgain mode phase | @notes mode _ _ _ phase =>
    left
    refine .of_same rfl (.inr rfl) fun routing => ⟨?_, rfl⟩
    cases mode with
    | routing => simp only [isRouting, phase]
    | waiting => cases routing
  | joins phase =>
    left
    refine .of_same rfl (.inr rfl) fun routing => ⟨?_, rfl⟩
    rcases phase with ⟨mode, phase, rfl⟩ | ⟨fault, _, rfl⟩
    · cases mode with
      | routing => simp only [isRouting, phase]
      | waiting => cases routing
    · cases routing
  | draws phase => exact .inl (.of_same rfl (.inr rfl) fun _ => ⟨by simp only [isRouting, phase], rfl⟩)
  | meetsEnd | settles => exact .inl (.of_same rfl (by simp) nofun)
  | settlesStopped => exact .inl (.of_same rfl (.inr rfl) nofun)
  | opens phase absent => exact .inr ⟨_, _, ⟨phase, absent, nofun⟩, rfl⟩
  | replaces phase handle at_id shut =>
    refine .inr ⟨_, _, ⟨phase, handle, ?_⟩, rfl⟩
    intro id same
    cases same
    exact ⟨_, at_id, shut⟩
  | delivers phase _ at_id =>
    exact .inl (.push at_id _ (by simp only [isRouting, phase]))

theorem Step.carries_or_opens {run after : Run} {action : RunAction} {effects : Effects}
    (step : Step run action after effects) :
    run.Carries after ∨
      ∃ record predecessor, run.Opens record predecessor ∧
        after = run.openWorker record.lane predecessor := by
  cases step with
  | routes step => exact step.carries_or_opens
  | works at_id step => exact .inl (.works at_id step)
  | cancels => exact .inl (.of_same rfl (.inr rfl) fun routing => ⟨routing, rfl⟩)

/-- How the workers of a lane stand to each other and to the handles of the router. -/
structure Linked (run : Run) : Prop where
  handled : ∀ (lane : LaneId) (id : Nat), (lane, id) ∈ run.handles →
    (∃ worker, run.workers[id]? = some worker ∧ worker.lane = lane) ∧
      ∀ (later : Nat) (worker : Worker), id < later → run.workers[later]? = some worker →
        worker.lane ≠ lane
  covered : run.isRouting = true → ∀ lane, run.handles.lookup lane = none →
    ∀ (id : Nat) (worker : Worker), run.workers[id]? = some worker → worker.lane ≠ lane
  shut : ∀ (first second : Nat) (a b : Worker), first < second →
    run.workers[first]? = some a → run.workers[second]? = some b → a.lane = b.lane →
    a.accepting = false
  preceded : ∀ (id predecessor : Nat) (worker : Worker), run.workers[id]? = some worker →
    worker.phase = .succeeding predecessor →
    predecessor < id ∧ (∃ old, run.workers[predecessor]? = some old ∧ old.lane = worker.lane) ∧
      ∀ (between : Nat) (other : Worker), predecessor < between → between < id →
        run.workers[between]? = some other → other.lane ≠ worker.lane

theorem Linked.start (settings : RunSettings) (signal : CancelSignal) :
    (start settings signal).Linked where
  handled := by
    intro lane id member
    cases member
  covered := by
    intro _ lane _ id worker at_id
    cases at_id
  shut := by
    intro first second a b _ at_first
    cases at_first
  preceded := by
    intro id predecessor worker at_id
    cases at_id

theorem Carries.old {before after : Run} (carries : before.Carries after) {id : Nat}
    {old : Worker} (at_id : before.workers[id]? = some old) :
    ∃ worker, after.workers[id]? = some worker ∧ old.Follows worker := by
  have below : id < after.workers.length := by
    rw [carries.size]
    exact (List.getElem?_eq_some_iff.mp at_id).1
  obtain ⟨found, same, follows⟩ := carries.follows id after.workers[id]
    (List.getElem?_eq_getElem below)
  rw [at_id] at same
  cases same
  exact ⟨_, List.getElem?_eq_getElem below, follows⟩

theorem Linked.carry {before after : Run} (linked : before.Linked)
    (carries : before.Carries after) : after.Linked where
  handled := by
    intro lane id member
    obtain ⟨⟨old, at_id, same⟩, last⟩ := linked.handled lane id (carries.handles _ member)
    obtain ⟨worker, at_id', follows⟩ := carries.old at_id
    refine ⟨⟨worker, at_id', follows.lane.trans same⟩, ?_⟩
    intro later other behind at_later
    obtain ⟨former, at_former, follows⟩ := carries.follows later other at_later
    rw [follows.lane]
    exact last later former behind at_former
  covered := by
    intro routing lane absent id worker at_id
    obtain ⟨was, same⟩ := carries.routing routing
    obtain ⟨former, at_former, follows⟩ := carries.follows id worker at_id
    rw [follows.lane]
    exact linked.covered was lane (same ▸ absent) id former at_former
  shut := by
    intro first second a b order at_first at_second same
    obtain ⟨a', at_first', followsA⟩ := carries.follows first a at_first
    obtain ⟨b', at_second', followsB⟩ := carries.follows second b at_second
    have closed := linked.shut first second a' b' order at_first' at_second'
      (by rw [← followsA.lane, ← followsB.lane, same])
    cases accepting : a.accepting with
    | false => rfl
    | true => exact absurd (followsA.accepting accepting) (by simp [closed])
  preceded := by
    intro id predecessor worker at_id waits
    obtain ⟨former, at_former, follows⟩ := carries.follows id worker at_id
    obtain ⟨before_id, ⟨old, at_old, same⟩, none_between⟩ :=
      linked.preceded id predecessor former at_former (follows.succeeding predecessor waits)
    obtain ⟨old', at_old', followsOld⟩ := carries.old at_old
    refine ⟨before_id, ⟨old', at_old', by rw [followsOld.lane, same, follows.lane]⟩, ?_⟩
    intro between other after_predecessor before_worker at_between
    obtain ⟨other', at_between', followsOther⟩ := carries.follows between other at_between
    rw [followsOther.lane, follows.lane]
    exact none_between between other' after_predecessor before_worker at_between'

theorem getElem?_openWorker {run : Run} {lane : LaneId} {predecessor : Option WorkerId}
    {id : Nat} {worker : Worker}
    (at_id : (run.openWorker lane predecessor).workers[id]? = some worker) :
    run.workers[id]? = some worker ∧ id < run.workers.length ∨
      id = run.workers.length ∧ worker = .opened lane run.settings.scope predecessor := by
  simp only [openWorker] at at_id
  rw [List.getElem?_append] at at_id
  split at at_id
  · rename_i below
    exact .inl ⟨at_id, below⟩
  · rename_i beyond
    right
    rw [List.getElem?_singleton] at at_id
    split at at_id
    · rename_i zero
      cases at_id
      exact ⟨by omega, rfl⟩
    · cases at_id

theorem lt_of_worker {run : Run} {id : Nat} {worker : Worker}
    (at_id : run.workers[id]? = some worker) : id < run.workers.length :=
  (List.getElem?_eq_some_iff.mp at_id).1

theorem getElem?_openWorker_old {run : Run} {lane : LaneId} {predecessor : Option WorkerId}
    {id : Nat} {worker : Worker} (at_id : run.workers[id]? = some worker) :
    (run.openWorker lane predecessor).workers[id]? = some worker := by
  simp only [openWorker]
  rw [List.getElem?_append_left (lt_of_worker at_id)]
  exact at_id

theorem getElem?_openWorker_new (run : Run) (lane : LaneId) (predecessor : Option WorkerId) :
    (run.openWorker lane predecessor).workers[run.workers.length]? =
      some (.opened lane run.settings.scope predecessor) := by
  simp only [openWorker, List.getElem?_concat_length]

/-- Where a worker is opened for a lane, any other worker of the lane is the one that it succeeds, or
    comes before that one. -/
theorem Linked.older {run : Run} (linked : run.Linked) {record : Record}
    {predecessor : Option WorkerId} (opens : run.Opens record predecessor) {id : Nat}
    {worker : Worker} (at_id : run.workers[id]? = some worker) (same : worker.lane = record.lane) :
    predecessor = some id ∧ worker.accepting = false ∨
      ∃ latest other, id < latest ∧ run.workers[latest]? = some other ∧
        other.lane = record.lane := by
  cases predecessor with
  | none =>
    exact absurd same (linked.covered (by simp only [isRouting, opens.phase]) record.lane
      opens.handle id worker at_id)
  | some latest =>
    obtain ⟨⟨other, at_latest, of_lane⟩, last⟩ :=
      linked.handled record.lane latest (mem_of_lookup opens.handle)
    rcases Nat.lt_trichotomy id latest with earlier | rfl | later
    · exact .inr ⟨latest, other, earlier, at_latest, of_lane⟩
    · obtain ⟨old, at_old, closed⟩ := opens.shut id rfl
      rw [at_id] at at_old
      cases at_old
      exact .inl ⟨rfl, closed⟩
    · exact absurd same (last id worker later at_id)

theorem Linked.opens {run : Run} (linked : run.Linked) {record : Record}
    {predecessor : Option WorkerId} (opens : run.Opens record predecessor) :
    (run.openWorker record.lane predecessor).Linked where
  handled := by
    intro lane id member
    rcases List.mem_cons.mp member with new | member
    · cases new
      refine ⟨⟨_, getElem?_openWorker_new .., rfl⟩, ?_⟩
      intro later worker behind at_later
      have below := lt_of_worker at_later
      simp only [openWorker, List.length_append, List.length_singleton] at below
      omega
    · obtain ⟨member, other⟩ := List.mem_filter.mp member
      obtain ⟨⟨worker, at_id, same⟩, last⟩ := linked.handled lane id member
      refine ⟨⟨worker, getElem?_openWorker_old at_id, same⟩, ?_⟩
      intro later found behind at_later
      rcases getElem?_openWorker at_later with ⟨was_later, _⟩ | ⟨_, rfl⟩
      · exact last later found behind was_later
      · intro clash
        exact (by simpa using other : lane ≠ record.lane) clash.symm
  covered := by
    intro _ lane absent id worker at_id clash
    have different : lane ≠ record.lane := by
      rintro rfl
      simp [openWorker] at absent
    simp only [openWorker, List.lookup_cons, beq_eq_false_iff_ne.mpr different] at absent
    rw [lookup_filter_ne different] at absent
    rcases getElem?_openWorker at_id with ⟨was_id, _⟩ | ⟨_, rfl⟩
    · exact linked.covered (by simp only [isRouting, opens.phase]) lane absent id worker was_id clash
    · exact different clash.symm
  shut := by
    intro first second a b order at_first at_second same
    rcases getElem?_openWorker at_first with ⟨was_first, below⟩ | ⟨rfl, _⟩
    · rcases getElem?_openWorker at_second with ⟨was_second, _⟩ | ⟨rfl, rfl⟩
      · exact linked.shut first second a b order was_first was_second same
      · rcases linked.older opens was_first same with
          ⟨_, closed⟩ | ⟨latest, other, order, at_latest, of_lane⟩
        · exact closed
        · exact linked.shut first latest a other order was_first at_latest (same.trans of_lane.symm)
    · have below := lt_of_worker at_second
      simp only [openWorker, List.length_append, List.length_singleton] at below
      omega
  preceded := by
    intro id latest worker at_id waits
    rcases getElem?_openWorker at_id with ⟨was_id, below⟩ | ⟨rfl, rfl⟩
    · obtain ⟨order, ⟨old, at_old, same⟩, none_between⟩ :=
        linked.preceded id latest worker was_id waits
      refine ⟨order, ⟨old, getElem?_openWorker_old at_old, same⟩, ?_⟩
      intro between other behind before at_between
      rcases getElem?_openWorker at_between with ⟨was_between, _⟩ | ⟨rfl, _⟩
      · exact none_between between other behind before was_between
      · omega
    · cases predecessor with
      | none => cases waits
      | some opened =>
        cases waits
        obtain ⟨⟨old, at_old, of_lane⟩, last⟩ :=
          linked.handled record.lane latest (mem_of_lookup opens.handle)
        refine ⟨lt_of_worker at_old, ⟨old, getElem?_openWorker_old at_old, of_lane⟩, ?_⟩
        intro between other behind before at_between
        rcases getElem?_openWorker at_between with ⟨was_between, _⟩ | ⟨rfl, _⟩
        · exact last between other behind was_between
        · exact absurd before (Nat.lt_irrefl _)

theorem Trace.linked {settings : RunSettings} {actions : List RunAction} {effects : Effects}
    {run : Run} (trace : Trace settings actions effects run) : run.Linked := by
  induction trace with
  | start => exact .start settings .fresh
  | step _ step ih =>
    rcases (step_of_step? step).carries_or_opens with carries | ⟨record, predecessor, opens, rfl⟩
    · exact ih.carry carries
    · exact ih.opens opens

end Run

end TrafficReplay
