import TrafficReplay.Proofs.Lane.Bindings
import TrafficReplay.Proofs.Run.Cancellation
import TrafficReplay.Proofs.Run.History

namespace TrafficReplay

/-- The table of a lane's own that the worker uses or has put by for the next worker. -/
def Worker.table? (worker : Worker) : Option CursorTable :=
  match worker.handoff with
  | .taken => none
  | .passed memory => memory.home.table?
  | .undecided | .dropped => worker.memory.home.table?

theorem Worker.Freed.markTaken {worker : Worker} (freed : worker.Freed) :
    (Run.markTaken worker).Freed := by
  unfold Run.markTaken
  split
  · exact fun _ untaken => absurd rfl untaken
  · exact freed

/-- The worker has passed its state on and nobody has taken it. -/
def Worker.isUntaken (worker : Worker) : Bool :=
  match worker.handoff with
  | .passed _ => true
  | _ => false

theorem Worker.passed_of_isUntaken {worker : Worker} (untaken : worker.isUntaken = true) :
    ∃ memory, worker.handoff = .passed memory := by
  cases handoff : worker.handoff with
  | passed memory => exact ⟨memory, rfl⟩
  | undecided | taken | dropped => simp [isUntaken, handoff] at untaken

theorem Worker.isUntaken_of_keepsBindings {worker : Worker} (keeps : worker.keepsBindings = true)
    (ended : worker.phase = .ended) : worker.isUntaken = true := by
  cases handoff : worker.handoff with
  | passed => rw [isUntaken, handoff]
  | undecided | taken | dropped => simp [keepsBindings, ended, handoff] at keeps

namespace Run

variable {run after : Run} {settings : RunSettings} {actions : List RunAction} {effects : Effects}

/-- Some worker answers for the bindings of a lane. -/
def AnsweredFor (run : Run) (lane : LaneId) : Prop :=
  ∃ (id : Nat) (worker : Worker), run.workers[id]? = some worker ∧ worker.lane = lane ∧
    worker.keepsBindings = true

theorem Trace.scope (trace : Trace settings actions effects run) {id : Nat} {worker : Worker}
    (at_id : run.workers[id]? = some worker) : worker.memory.home.scope = settings.scope := by
  cases trace.continues at_id with
  | goes laneRun => exact laneRun.home_scope
  | @gone log before laneRun =>
    obtain ⟨handoff, marked⟩ := markTaken_fields before
    rw [marked]
    exact laneRun.home_scope

theorem RouterStep.common {action : RouterAction} (step : RouterStep run action after) :
    after.shared.common = run.shared.common := by
  cases step <;> rfl

theorem RouterStep.keeps_worker {action : RouterAction} (step : RouterStep run action after)
    {id : Nat} {old : Worker} (was : run.workers[id]? = some old) :
    ∃ queue, after.workers[id]? = some { old with queue := queue } := by
  cases step with
  | opens | replaces => exact ⟨old.queue, getElem?_openWorker_old was⟩
  | @delivers record fed worker phase handle at_fed =>
    by_cases same : fed = id
    · subst same
      rw [was] at at_fed
      cases at_fed
      exact ⟨_, List.getElem?_set_self (lt_of_worker was)⟩
    · exact ⟨old.queue, (List.getElem?_set_ne same).trans was⟩
  | _ => exact ⟨old.queue, was⟩

theorem works_other {id other : Nat} {before after worker : Worker} (different : other ≠ id)
    (was : run.workers[other]? = some worker) :
    ∃ found, ((takeLegacy run.workers before after).set id after)[other]? = some found ∧
      (found = worker ∨ before.phase = .succeeding other ∧ found = markTaken worker) := by
  have below : other < ((takeLegacy run.workers before after).set id after).length := by
    rw [List.length_set, length_takeLegacy]
    exact lt_of_worker was
  refine ⟨_, List.getElem?_eq_getElem below, ?_⟩
  rcases getElem?_works (List.getElem?_eq_getElem below) with
    ⟨same, _⟩ | ⟨_, same | ⟨waiting, old, found, marked⟩⟩
  · exact absurd same different
  · rw [was] at same
    exact .inl (Option.some.inj same).symm
  · rw [was] at found
    cases found
    exact .inr ⟨waiting, marked⟩

theorem works_awaited {id other : Nat} {before after worker : Worker} {stage : AcquireStage}
    (different : other ≠ id) (waiting : before.phase = .succeeding other)
    (starts : after.phase = .acquiring stage)
    (at_other : ((takeLegacy run.workers before after).set id after)[other]? = some worker) :
    ∃ old, worker = markTaken old := by
  have taken : takeLegacy run.workers before after = run.workers.modify other markTaken := by
    simp [takeLegacy, waiting, starts]
  rw [taken, List.getElem?_set_ne different.symm, List.getElem?_modify_eq] at at_other
  obtain ⟨old, _, marked⟩ := Option.map_eq_some_iff.mp at_other
  exact ⟨old, marked.symm⟩

/-- Bindings in the shared table are answered for after a step if they were before. -/
theorem Step.answeredFor {action : RunAction} {new : Effects} (step : Step run action after new)
    (linked : run.Linked) (global : ∀ (id : Nat) (worker : Worker),
      run.workers[id]? = some worker → worker.memory.home.scope = .global)
    (calm : ∀ (id : Nat) (worker : Worker), run.workers[id]? = some worker →
      worker.phase.ending? ≠ some .cancelled)
    (quiet : ∀ (id : Nat) (worker : Worker), run.workers[id]? = some worker →
      worker.phase ≠ .ended → run.shared.signal.fired = false)
    (answered : ∀ entry ∈ run.shared.common.bindings, run.AnsweredFor entry.2.owner) :
    ∀ entry ∈ after.shared.common.bindings, after.AnsweredFor entry.2.owner := by
  intro entry member
  cases step with
  | cancels => exact answered entry member
  | routes routed =>
    rw [routed.common] at member
    obtain ⟨id, old, was, lane, keeps⟩ := answered entry member
    obtain ⟨queue, at_id⟩ := routed.keeps_worker was
    exact ⟨id, _, at_id, lane, keeps⟩
  | @works by_id worker reading action outcome at_by move =>
    have here : ((takeLegacy run.workers worker outcome.1).set by_id outcome.1)[by_id]? =
        some outcome.1 :=
      List.getElem?_set_self (by rw [length_takeLegacy]; exact lt_of_worker at_by)
    rcases move.table.cared (global by_id worker at_by) (calm by_id worker at_by) member with
      ⟨old_entry, carries⟩ | ⟨own, keeps⟩
    · obtain ⟨id, old, was, lane, kept⟩ := answered entry old_entry
      by_cases same : id = by_id
      · subst same
        rw [at_by] at was
        cases was
        exact ⟨id, _, here, move.lane.trans lane, carries lane.symm kept⟩
      obtain ⟨found, at_id, rfl | ⟨waiting, _⟩⟩ := works_other same was
      · exact ⟨id, found, at_id, lane, kept⟩
      -- The worker that waited for the one that answered takes over from it.
      · obtain ⟨_, ⟨found, at_found, of_lane⟩, _⟩ := linked.preceded by_id id worker at_by waiting
        rw [was] at at_found
        cases at_found
        refine ⟨by_id, _, here, move.lane.trans (of_lane.symm.trans lane), ?_⟩
        exact move.keepsBindings_of_succeeding (quiet by_id worker at_by move.not_ended) waiting
    · exact ⟨by_id, _, here, move.lane.trans own.symm, keeps⟩

theorem Trace.answeredFor (trace : Trace settings actions effects run) (calm : run.isCalm = true)
    (global : settings.scope = .global) :
    ∀ entry ∈ run.shared.common.bindings, run.AnsweredFor entry.2.owner := by
  induction trace with
  | start => exact nofun
  | step trace step ih =>
    have step := step_of_step? step
    have calm_before := step.calm calm
    refine step.answeredFor trace.linked (fun id worker at_id => ?_) (fun id worker at_id => ?_)
      (fun id worker at_id going => trace.joins.quiet calm_before at_id going) (ih calm_before)
    · exact (trace.scope at_id).trans global
    · exact (trace.each calmness (fun _ => calm_before) at_id).2.uncancelled

theorem Trace.common_empty (trace : Trace settings actions effects run)
    (own : settings.scope = .lane) : run.shared.common = .empty := by
  induction trace with
  | start => rfl
  | step trace step ih =>
    cases step_of_step? step with
    | routes routed => rw [routed.common, ih]
    | cancels => exact ih
    | works at_by move => exact (move.table.apart ((trace.scope at_by).trans own)).trans ih

theorem Linked.lookup_handle (linked : run.Linked) {lane : LaneId} {id : Nat}
    (member : (lane, id) ∈ run.handles) : run.handles.lookup lane = some id := by
  cases found : run.handles.lookup lane with
  | none =>
    exact absurd (List.mem_map_of_mem member) (lookup_eq_none_iff_not_mem.mp found)
  | some other =>
    obtain ⟨⟨worker, at_id, of_lane⟩, last⟩ := linked.handled lane id member
    obtain ⟨⟨worker', at_other, of_lane'⟩, last'⟩ :=
      linked.handled lane other (mem_of_lookup found)
    rcases Nat.lt_trichotomy id other with earlier | rfl | later
    · exact absurd of_lane' (last other worker' earlier at_other)
    · rfl
    · exact absurd of_lane (last' id worker later at_id)

theorem Step.heir_of_fed {action : RunAction} {new : Effects} (step : Step run action after new)
    (linked : run.Linked) (routing : after.isRouting = true) {id : Nat}
    (fed : run.isFed id = true) : after.hasHeir id = true := by
  obtain ⟨lane, member⟩ := isFed_iff.mp fed
  rcases step.carries_or_opens with carries | ⟨record, predecessor, opens, rfl⟩
  · refine hasHeir_iff.mpr (.inl (isFed_iff.mpr ⟨lane, ?_⟩))
    rw [(carries.routing routing).2]
    exact member
  · by_cases same : lane = record.lane
    -- A worker is opened in the place of the one that was fed, and waits for it.
    · subst same
      have found := opens.handle
      rw [linked.lookup_handle member] at found
      subst found
      exact hasHeir_iff.mpr (.inr ⟨_, _, getElem?_openWorker_new .., rfl⟩)
    · refine hasHeir_iff.mpr (.inl (isFed_iff.mpr ⟨lane, ?_⟩))
      exact List.mem_cons_of_mem _ (List.mem_filter.mpr ⟨member, by simpa using same⟩)

theorem Step.heir_of_waiting {action : RunAction} {new : Effects} (step : Step run action after new)
    (linked : run.Linked) (joins : run.Joins) (calm : run.isCalm = true) {id later : Nat}
    {worker waiter : Worker} (at_id : after.workers[id]? = some worker)
    (untaken : worker.isUntaken = true) (at_later : run.workers[later]? = some waiter)
    (waiting : waiter.phase = .succeeding id) : after.hasHeir id = true := by
  refine hasHeir_iff.mpr (.inr ⟨later, ?_⟩)
  cases step with
  | cancels => exact ⟨waiter, at_later, waiting⟩
  | routes routed =>
    obtain ⟨queue, at_later⟩ := routed.keeps_worker at_later
    exact ⟨_, at_later, waiting⟩
  | @works by_id heir reading action outcome at_by move =>
    by_cases same : later = by_id
    · subst same
      rw [at_later] at at_by
      cases at_by
      obtain ⟨order, _⟩ := linked.preceded later id waiter at_later waiting
      have quiet := joins.quiet calm at_later move.not_ended
      have starts : ∃ stage, outcome.1.phase = .acquiring stage := by
        cases move.of_succeeding waiting with
        | startsAnew | resumes => exact ⟨_, rfl⟩
        | givesUp fired => exact absurd fired (by simp [quiet])
      obtain ⟨stage, starts⟩ := starts
      obtain ⟨old, rfl⟩ := works_awaited (Nat.ne_of_lt order) waiting starts at_id
      obtain ⟨memory, passed⟩ := Worker.passed_of_isUntaken untaken
      exact absurd passed (markTaken_not_passed old memory)
    · obtain ⟨found, at_later, rfl | ⟨_, rfl⟩⟩ := works_other same at_later
      · exact ⟨found, at_later, waiting⟩
      · obtain ⟨handoff, marked⟩ := markTaken_fields waiter
        exact ⟨_, at_later, by rw [marked]; exact waiting⟩

/-- While records are routed, somebody can take whatever state was passed on. -/
theorem Trace.awaited (trace : Trace settings actions effects run) (calm : run.isCalm = true)
    (routing : run.isRouting = true) {id : Nat} {worker : Worker}
    (at_id : run.workers[id]? = some worker) (untaken : worker.isUntaken = true) :
    run.hasHeir id = true := by
  induction trace generalizing id worker with
  | start => cases at_id
  | @step actions effects new run after reading action trace step ih =>
    have step := step_of_step? step
    have calm_before := step.calm calm
    have routing_before : run.isRouting = true := by
      rcases step.carries_or_opens with carries | ⟨record, predecessor, opens, rfl⟩
      · exact (carries.routing routing).1
      · simp only [isRouting, opens.phase]
    have heir_stays : run.hasHeir id = true → after.hasHeir id = true := by
      intro heir
      rcases hasHeir_iff.mp heir with fed | ⟨later, waiter, at_later, waiting⟩
      · exact step.heir_of_fed trace.linked routing fed
      · exact step.heir_of_waiting trace.linked trace.joins calm_before at_id untaken at_later waiting
    -- An heir that there was before the step is there after it, unless it has taken the state.
    apply heir_stays
    have change := step.change at_id
    generalize new.ofWorker id = done at change
    cases change with
    | @opened record predecessor => cases predecessor <;> cases untaken
    | kept was => exact ih calm_before routing_before was untaken
    | bequeathed =>
      obtain ⟨memory, passed⟩ := Worker.passed_of_isUntaken untaken
      exact absurd passed (markTaken_not_passed _ memory)
    | pushed was => exact ih calm_before routing_before was untaken
    | worked was move =>
      obtain ⟨memory, passed⟩ := Worker.passed_of_isUntaken untaken
      have sound := trace.each soundness (by simp) was
      exact move.heir_of_passed (sound.decided.mpr move.not_ended) passed

theorem freedom : WorkerInvariant true fun fed _ worker =>
    (worker.Sound fed ∧ worker.Calm fed) ∧ worker.Freed where
  opened fed lane scope predecessor :=
    ⟨calmness.opened fed lane scope predecessor, fun _ _ => CursorHome.isClear_ofScope scope⟩
  unfed less both := ⟨⟨both.1.1.unfed less, both.1.2.unfed less⟩, both.2⟩
  bequeathed both := ⟨⟨both.1.1.markTaken, both.1.2.markTaken⟩, both.2.markTaken⟩
  pushed record accepting both :=
    ⟨⟨both.1.1.push accepting record, both.1.2.push both.1.1 accepting record⟩, both.2⟩
  worked step quiet both :=
    ⟨⟨step.sound both.1.1, step.calm (quiet rfl) both.1.1 both.1.2⟩,
      step.freed (quiet rfl) both.1.1 both.1.2.uncancelled both.2⟩

/-- Every binding in the shared table belongs to a lane with a worker that goes on or that has passed
    its state on; while records are routed somebody can take that state. At the end of a run a lane
    has a binding left, in whichever table, only if state that it passed on was never taken. -/
theorem Trace.bindings_answered_for (trace : Trace settings actions effects run)
    (calm : run.isCalm = true) :
    (∀ entry ∈ run.shared.common.bindings, ∃ (id : Nat) (worker : Worker),
      run.workers[id]? = some worker ∧ worker.lane = entry.2.owner ∧
        (worker.phase ≠ .ended ∨
          worker.isUntaken = true ∧ (run.isRouting = true → run.hasHeir id = true))) ∧
    (run.isFinished = true →
      (∀ entry ∈ run.shared.common.bindings,
        ∃ worker ∈ run.workers, worker.lane = entry.2.owner ∧ worker.isUntaken = true) ∧
      ∀ worker ∈ run.workers, worker.isUntaken = false →
        ∀ table, worker.table? = some table → table = .empty) := by
  have answered : ∀ entry ∈ run.shared.common.bindings, run.AnsweredFor entry.2.owner := by
    cases scope : settings.scope with
    | lane =>
      rw [trace.common_empty scope]
      exact nofun
    | global => exact trace.answeredFor calm scope
  refine ⟨fun entry member => ?_, fun finished => ⟨fun entry member => ?_, ?_⟩⟩
  · obtain ⟨id, worker, at_id, lane, keeps⟩ := answered entry member
    refine ⟨id, worker, at_id, lane, ?_⟩
    by_cases ended : worker.phase = .ended
    · have passed := worker.isUntaken_of_keepsBindings keeps ended
      exact .inr ⟨passed, fun routing => trace.awaited calm routing at_id passed⟩
    · exact .inl ended
  · obtain ⟨id, worker, at_id, lane, keeps⟩ := answered entry member
    have known := List.mem_of_getElem? at_id
    have ended := trace.ended_of_finished finished worker known
    exact ⟨worker, known, lane, worker.isUntaken_of_keepsBindings keeps ended⟩
  · intro worker known taken table kept
    obtain ⟨id, at_id⟩ := List.getElem?_of_mem known
    obtain ⟨⟨sound, _⟩, freed⟩ := trace.each freedom (fun _ => calm) at_id
    have ended := trace.ended_of_finished finished worker known
    unfold Worker.table? at kept
    cases handoff : worker.handoff with
    | undecided => exact absurd ended (sound.decided.mp handoff)
    | passed memory => simp [Worker.isUntaken, handoff] at taken
    | taken =>
      rw [handoff] at kept
      cases kept
    | dropped =>
      rw [handoff] at kept
      refine freed ?_ (by rw [handoff]; exact nofun) table kept
      rw [Worker.keepsBindings, ended, handoff]

def sharing : RunSettings := { unpaced with scope := .global }

def yieldedRun : List RunAction :=
  List.flatten [draws SampleLane.query, [.router .deliver, .worker 0 .advance, .worker 0 .connected],
    asks 0 16 (.received (SampleLane.reply 9 77)), draws SampleLane.answer,
    [.worker 0 .advance, .worker 0 .advance], draws bystander, [.router .deliver],
    List.replicate 4 (.worker 1 .advance), List.replicate 8 (.worker 0 .advance)]

def streamEnds : List RunAction := [.router .look, .router (.next .finish)]

def ends (id : WorkerId) : List RunAction :=
  .worker id .advance :: .worker id .connected :: List.replicate 6 (.worker id .advance)

def joinsAll (ids : List WorkerId) : List RunAction :=
  ids.flatMap (fun id => [.router .look, .router (.join id)]) ++ [.router .look, .router .settle]

def resumedRun : List RunAction :=
  List.flatten [yieldedRun, draws SampleLane.answer, [.router .deliver], streamEnds,
    List.replicate 5 (.worker 2 .advance), ends 1, ends 2, joinsAll [0, 1, 2]]

def unresumedRun : List RunAction :=
  List.flatten [yieldedRun, streamEnds, ends 1, joinsAll [0, 1]]

def yieldedEnd : Run × Effects :=
  ((start sharing .fresh).steps? ⟨default, default⟩ yieldedRun).get (by decide)

def resumedEnd : Run × Effects :=
  ((start sharing .fresh).steps? ⟨default, default⟩ resumedRun).get (by decide)

def unresumedEnd : Run × Effects :=
  ((start sharing .fresh).steps? ⟨default, default⟩ unresumedRun).get (by decide)

/-- Binding 42 waits with the state of its lane, and is gone once that was taken over. -/
theorem resumedRun_clears_tables :
    yieldedEnd.1.shared.common.bindings.map Prod.fst = [42] ∧
      (∃ (id : Nat) (worker : Worker), yieldedEnd.1.workers[id]? = some worker ∧
        worker.lane = SampleLane.query.lane ∧ yieldedEnd.1.hasHeir id = true) ∧
      resumedEnd.1.isFinished = true ∧ resumedEnd.1.shared.common.bindings = [] := by
  have yielded : Trace sharing yieldedRun yieldedEnd.2 yieldedEnd.1 :=
    trace_of_steps? (Option.some_get _).symm
  have resumed : Trace sharing resumedRun resumedEnd.2 resumedEnd.1 :=
    trace_of_steps? (Option.some_get _).symm
  obtain ⟨owned, _⟩ := yielded.bindings_answered_for (isCalm_of_quiet (by decide))
  obtain ⟨_, ends⟩ := resumed.bindings_answered_for (isCalm_of_quiet (by decide))
  have left : ∀ worker ∈ yieldedEnd.1.workers, worker.lane = SampleLane.query.lane →
      worker.phase = .ended := by decide
  have read : ∀ worker ∈ resumedEnd.1.workers, worker.isUntaken = false := by decide
  have finished : resumedEnd.1.isFinished = true := by decide
  refine ⟨by decide, ?_, finished, List.eq_nil_iff_forall_not_mem.mpr fun entry member => ?_⟩
  · obtain ⟨id, worker, at_id, lane, going | ⟨_, heir⟩⟩ :=
      owned (42, ⟨77, SampleLane.query.lane⟩) (by decide)
    · exact absurd (left worker (List.mem_of_getElem? at_id) lane) going
    · exact ⟨id, worker, at_id, lane, heir (by decide)⟩
  · obtain ⟨worker, known, _, untaken⟩ := (ends finished).1 entry member
    exact absurd (read worker known) (by rw [untaken]; exact nofun)

/-- The state of the lane is passed on, nobody takes it, and binding 42 outlives the lane. -/
theorem unresumedRun_leaves_binding :
    Trace sharing unresumedRun unresumedEnd.2 unresumedEnd.1 ∧
      unresumedEnd.1.shared.signal.fired = false ∧ unresumedEnd.1.isFinished = true ∧
      (42, ⟨77, SampleLane.query.lane⟩) ∈ unresumedEnd.1.shared.common.bindings ∧
      ∀ (id : Nat) (worker : Worker), unresumedEnd.1.workers[id]? = some worker →
        worker.phase = .ended ∧ unresumedEnd.1.hasHeir id = false := by
  have trace : Trace sharing unresumedRun unresumedEnd.2 unresumedEnd.1 :=
    trace_of_steps? (Option.some_get _).symm
  have finished : unresumedEnd.1.isFinished = true := by decide
  have ended := trace.ended_of_finished finished
  refine ⟨trace, by decide, finished, by decide, fun id worker at_id =>
    ⟨ended worker (List.mem_of_getElem? at_id), Bool.eq_false_iff.mpr fun heir => ?_⟩⟩
  rcases hasHeir_iff.mp heir with fed | ⟨later, waiter, at_later, waiting⟩
  · obtain ⟨lane, member⟩ := isFed_iff.mp fed
    cases member
  · exact absurd ((ended waiter (List.mem_of_getElem? at_later)).symm.trans waiting) nofun

end Run

end TrafficReplay
