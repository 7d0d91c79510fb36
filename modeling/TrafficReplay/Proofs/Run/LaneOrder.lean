import TrafficReplay.Proofs.Run.Delivery

namespace TrafficReplay

namespace LaneId

theorem ofEndpoints_eq_iff {a b c d : String} :
    ofEndpoints a b = ofEndpoints c d ↔ a = c ∧ b = d ∨ a = d ∧ b = c := by
  unfold ofEndpoints
  split
  · rename_i a_le_b
    split
    · rename_i c_le_d
      simp only [mk.injEq]
      constructor
      · exact .inl
      · rintro (same | ⟨rfl, rfl⟩)
        · exact same
        · exact ⟨String.le_antisymm a_le_b c_le_d, String.le_antisymm c_le_d a_le_b⟩
    · rename_i not_c_le_d
      simp only [mk.injEq]
      constructor
      · exact .inr
      · rintro (⟨rfl, rfl⟩ | same)
        · exact absurd a_le_b not_c_le_d
        · exact same
  · rename_i not_a_le_b
    split
    · rename_i c_le_d
      simp only [mk.injEq]
      constructor
      · exact fun ⟨first, second⟩ => .inr ⟨second, first⟩
      · rintro (⟨rfl, rfl⟩ | ⟨rfl, rfl⟩)
        · exact absurd c_le_d not_a_le_b
        · exact ⟨rfl, rfl⟩
    · rename_i not_c_le_d
      simp only [mk.injEq]
      constructor
      · exact fun ⟨first, second⟩ => .inl ⟨second, first⟩
      · rintro (⟨rfl, rfl⟩ | ⟨rfl, rfl⟩)
        · exact ⟨rfl, rfl⟩
        · exact (String.le_total a b).elim (fun le => absurd le not_a_le_b)
            fun le => absurd le not_c_le_d

end LaneId

def Record.travels (here there : String) (record : Record) : Bool :=
  record.source = here && record.destination = there ||
    record.source = there && record.destination = here

theorem filter_travels (here there : String) (records : List Record) :
    records.filter (Record.travels here there) = onLane (.ofEndpoints here there) records := by
  apply List.filter_congr
  intro record _
  simp [Record.travels, Record.lane, LaneId.ofEndpoints_eq_iff]

namespace Run

variable {run after : Run} {settings : RunSettings} {actions : List RunAction} {effects : Effects}
  {lane : LaneId}

/-- The records that a lane has taken up, in the order in which it did. -/
def processed (run : Run) (effects : Effects) (lane : LaneId) : List Record :=
  taken (effects.ofWorkers (run.workersOn lane))

def streamEnd? (run : Run) : Option (List StreamItem) :=
  match run.router with
  | .looking .routing | .choosing .routing | .delivering _ => some []
  | .looking .waiting | .choosing .waiting | .finished (.ok _) => some [.finish]
  | .stopping _ | .finished (.error _) => none

theorem drawn_append (first second : List RunAction) :
    drawn (first ++ second) = drawn first ++ drawn second := List.filterMap_append

theorem Trace.drawn_eq (trace : Trace settings actions effects run) {rest : List StreamItem}
    (good : run.streamEnd? = some rest) :
    drawn actions = (streamed actions).map .record ++ rest := by
  induction trace generalizing rest with
  | start => cases good; rfl
  | @step actions effects new run after reading action trace step ih =>
    -- Most steps draw nothing and leave the run where it was in its stream.
    have same : drawn [action] = [] → run.streamEnd? = some rest →
        drawn (actions ++ [action]) =
          (streamed (actions ++ [action])).map .record ++ rest := by
      intro nothing before
      rw [drawn_append, nothing, List.append_nil, ih before, streamed_append]
      simp [streamed, nothing]
    cases step_of_step? step with
    | works at_id move => exact same rfl good
    | cancels => exact same rfl good
    | routes routed =>
      cases routed with
      | stops | breaksOff | meetsFailure | givesUp | breaksOffLate | settlesStopped => cases good
      | @draws record phase =>
        cases good
        have before := ih (by simp only [streamEnd?, phase] : run.streamEnd? = some [])
        have new : drawn [.router (.next (.record record))] = [.record record] := rfl
        have one : streamed [.router (.next (.record record))] = [record] := rfl
        rw [drawn_append, before, new, streamed_append, one]
        simp
      | meetsEnd phase =>
        cases good
        have before := ih (by simp only [streamEnd?, phase] : run.streamEnd? = some [])
        have new : drawn [.router (.next .finish)] = [.finish] := rfl
        have none : streamed [.router (.next .finish)] = [] := rfl
        rw [drawn_append, before, new, streamed_append, none]
        simp
      | @looks mode phase | @looksAgain mode phase | @notes mode _ _ _ phase =>
        refine same rfl ?_
        rw [← good]
        cases mode <;> simp only [streamEnd?, phase]
      | joins phase =>
        refine same rfl ?_
        rw [← good]
        rcases phase with ⟨mode, phase, rfl⟩ | ⟨fault, phase, rfl⟩
        · cases mode <;> simp only [streamEnd?, phase]
        · simp only [streamEnd?, phase]
      | opens phase | replaces phase | delivers phase =>
        refine same rfl ?_
        rw [← good]
        simp only [streamEnd?, openWorker, phase]
      | @settles connected phase =>
        refine same rfl ?_
        generalize Run.outcome _ = result at good
        cases result with
        | ok summary =>
          cases good
          simp only [streamEnd?, phase]
        | error fault => cases good

theorem Trace.joined_of_finished (trace : Trace settings actions effects run)
    (finished : run.isFinished = true) : run.allJoined = true := by
  induction trace with
  | start => cases finished
  | step trace step ih =>
    cases step_of_step? step with
    | works at_id move =>
      have before := ih finished
      simpa [allJoined, length_takeLegacy] using before
    | cancels => exact ih finished
    | routes routed =>
      cases routed with
      | settles _ all | settlesStopped _ all => exact all
      | joins phase =>
        rcases phase with ⟨_, _, rfl⟩ | ⟨_, _, rfl⟩ <;> cases finished
      | opens phase | replaces phase =>
        simp only [isFinished, openWorker, phase] at finished
        cases finished
      | _ => cases finished

theorem Trace.all_joined (trace : Trace settings actions effects run) {summary : PlaySummary}
    (finished : run.router = .finished (.ok summary)) : run.allJoined = true :=
  trace.joined_of_finished (isFinished_iff.mpr ⟨_, finished⟩)

theorem Trace.finished_calm (trace : Trace settings actions effects run) {summary : PlaySummary}
    (finished : run.router = .finished (.ok summary)) : run.isCalm = true := by
  simp [isCalm, trace.all_joined finished, finished]

theorem isWhole_of_calm (calm : run.isCalm = true) (finished : run.isFinished = true) :
    run.isWhole = true := by
  by_cases fired : run.shared.signal.fired = true
  · obtain ⟨result, phase⟩ := isFinished_iff.mp finished
    cases result with
    | ok summary => exact isWhole_of_unstopped (by rw [phase]; rfl)
    | error fault => simp [isCalm, fired, phase] at calm
  · simp [isWhole, fired]

theorem isPrefix_flatMap {ids : List Nat} {taken queued : Nat → List Record}
    (apart : ids.Pairwise fun first second => queued first = [] ∨ taken second = []) :
    ids.flatMap taken <+: ids.flatMap fun id => taken id ++ queued id := by
  induction ids with
  | nil => exact List.nil_prefix
  | cons id rest ih =>
    obtain ⟨from_id, apart⟩ := List.pairwise_cons.mp apart
    simp only [List.flatMap_cons, List.append_assoc]
    rw [List.prefix_append_right_inj]
    by_cases empty : queued id = []
    · rw [empty, List.nil_append]
      exact ih apart
    · have idle : rest.flatMap taken = [] := by
        apply List.flatMap_eq_nil_iff.mpr
        exact fun later member => (from_id later member).resolve_left empty
      rw [idle]
      exact List.nil_prefix

theorem taken_flatMap (ids : List Nat) (effects : Effects) :
    taken (ids.flatMap effects.ofWorker) = ids.flatMap fun id => taken (effects.ofWorker id) := by
  unfold taken
  rw [List.filterMap_flatMap]

theorem Trace.processed_eq (trace : Trace settings actions effects run)
    (calm : run.isCalm = true) (lane : LaneId) :
    run.processed effects lane =
      (run.workersOn lane).flatMap fun id => taken (effects.ofWorker id) := by
  unfold processed
  rw [trace.consecutive calm lane, taken_flatMap]

/-- As long as nothing is cancelled, the workers of a lane take turns. -/
theorem Trace.takes_turns (trace : Trace settings actions effects run) (calm : run.isCalm = true)
    (lane : LaneId) :
    (run.workersOn lane).Pairwise fun first second =>
      (∀ worker, run.workers[first]? = some worker → worker.phase = .ended) ∨
        effects.ofWorker second = [] := by
  refine (run.workersOn_sorted lane).imp_of_mem ?_
  intro first second of_first of_second order
  obtain ⟨a, at_first, a_lane⟩ := mem_workersOn.mp of_first
  obtain ⟨b, at_second, b_lane⟩ := mem_workersOn.mp of_second
  rcases trace.exclusive calm first second a b order at_first at_second
      (a_lane.trans b_lane.symm) with ended | ⟨predecessor, waits⟩
  · left
    intro worker at_id
    rw [at_first] at at_id
    cases at_id
    exact ended
  · right
    exact trace.each untouched nofun at_second predecessor waits

theorem Trace.processed_isPrefix (trace : Trace settings actions effects run)
    (calm : run.isCalm = true) (lane : LaneId) :
    run.processed effects lane <+: onLane lane (streamed actions) := by
  obtain ⟨left, equal, _⟩ := trace.accounted lane
  rw [trace.processed_eq calm lane, equal]
  refine List.IsPrefix.trans (isPrefix_flatMap ?_) (List.prefix_append _ _)
  refine (trace.takes_turns calm lane).imp_of_mem ?_
  intro first second of_first _ turns
  obtain ⟨worker, at_first, _⟩ := mem_workersOn.mp of_first
  rcases turns with ended | idle
  · left
    rw [queueOf_of_worker at_first]
    exact (trace.each calmness (fun _ => calm) at_first).2.emptied (ended worker at_first)
  · right
    rw [idle]
    rfl

theorem Trace.processed_of_empty (trace : Trace settings actions effects run)
    (calm : run.isCalm = true) (whole : run.isWhole = true)
    (empty : ∀ (id : Nat) (worker : Worker), run.workers[id]? = some worker →
      worker.lane = lane → worker.queue = []) :
    onLane lane (streamed actions) = run.processed effects lane ++ onLane lane run.router.inHand := by
  obtain ⟨left, equal, hand⟩ := trace.accounted lane
  rw [equal, hand whole, trace.processed_eq calm lane]
  congr 1
  apply List.flatMap_congr
  intro id member
  obtain ⟨worker, at_id, of_lane⟩ := mem_workersOn.mp member
  unfold givenTo
  rw [queueOf_of_worker at_id, empty id worker at_id of_lane, List.append_nil]

/-- A run that comes to its end has processed every record of a lane. -/
theorem Trace.processed_all (trace : Trace settings actions effects run)
    (calm : run.isCalm = true) (finished : run.isFinished = true) (lane : LaneId) :
    run.processed effects lane = onLane lane (streamed actions) := by
  have joined := trace.joined_of_finished finished
  have all : onLane lane (streamed actions) =
      run.processed effects lane ++ onLane lane run.router.inHand := by
    apply trace.processed_of_empty calm (isWhole_of_calm calm finished)
    intro id worker at_id _
    exact (trace.each calmness (fun _ => calm) at_id).2.emptied (trace.joins.all_ended joined at_id)
  have free : run.router.inHand = [] := by
    obtain ⟨result, phase⟩ := isFinished_iff.mp finished
    rw [phase]
    rfl
  rw [all, free]
  exact (List.append_nil _).symm

/-- Between two endpoints, every record drawn from the stream is with one worker of their lane or in
    the hands of the router, in the order of the stream. Unless the run is cancelled, one worker at
    a time processes the records, in that order, and a run that ends well has processed them all. A
    worker that gives up after a cancellation leaves its queue behind, and its successor may still
    report what it was given itself. -/
theorem Trace.exactly_once_in_order (trace : Trace settings actions effects run)
    (here there : String) :
    (∃ left, (streamed actions).filter (Record.travels here there) =
        ((run.workersOn (.ofEndpoints here there)).flatMap fun id =>
          taken (effects.ofWorker id) ++ run.queueOf id) ++ left ∧
      (run.router.isStopped = false →
        left = run.router.inHand.filter (Record.travels here there))) ∧
    (run.shared.signal.fired = false →
      run.processed effects (.ofEndpoints here there) <+:
          (streamed actions).filter (Record.travels here there) ∧
        ∀ (first second : Nat) (a b : Worker), run.workers[first]? = some a →
          run.workers[second]? = some b → a.lane = .ofEndpoints here there →
          b.lane = .ofEndpoints here there → a.phase.isUnderway = true →
          b.phase.isUnderway = true → first = second) ∧
    ∀ summary, run.router = .finished (.ok summary) →
      drawn actions = (streamed actions).map .record ++ [.finish] ∧
        run.processed effects (.ofEndpoints here there) =
          (streamed actions).filter (Record.travels here there) := by
  simp only [filter_travels]
  refine ⟨?_, fun quiet => ?_, fun summary finished => ?_⟩
  · obtain ⟨left, equal, hand⟩ := trace.accounted (.ofEndpoints here there)
    exact ⟨left, equal, fun unstopped => hand (isWhole_of_unstopped unstopped)⟩
  · have calm := isCalm_of_quiet quiet
    refine ⟨trace.processed_isPrefix calm _, ?_⟩
    intro first second a b at_first at_second a_lane b_lane a_underway b_underway
    exact (trace.exclusive calm).one_underway at_first at_second (a_lane.trans b_lane.symm)
      a_underway b_underway
  · have at_end : run.isFinished = true := isFinished_iff.mpr ⟨_, finished⟩
    exact ⟨trace.drawn_eq (by simp only [streamEnd?, finished]),
      trace.processed_all (trace.finished_calm finished) at_end _⟩

def shortStream : List Record :=
  [⟨⟨7, 0, .insert, [], Frame.empty_body_le⟩, default, "client", "server"⟩,
    ⟨⟨8, 7, .reply, [], Frame.empty_body_le⟩, default, "server", "client"⟩]

/-- One interleaving of the router with the only worker of a lane: the second record waits until the
    first one has left the queue. -/
def shortRun : List RunAction :=
  (shortStream.take 1).flatMap (fun record =>
    [.router .look, .router (.next (.record record)), .router .deliver, .router .deliver]) ++
  [.worker 0 .advance, .worker 0 .connected, .worker 0 .advance] ++
  (shortStream.drop 1).flatMap (fun record =>
    [.router .look, .router (.next (.record record)), .router .deliver]) ++
  [.worker 0 .advance, .worker 0 .advance, .worker 0 (.wrote 16), .worker 0 .sent,
    .worker 0 .advance, .worker 0 .advance, .router .look, .router (.next .finish),
    .worker 0 .advance, .worker 0 .advance, .worker 0 .advance, .worker 0 .advance, .router .look,
    .router (.join 0), .router .look, .router .settle]

def shortEnd : Run × Effects :=
  ((start (default : Run).settings .fresh).steps? ⟨default, default⟩ shortRun).get (by decide)

theorem trace_shortRun : Trace (default : Run).settings shortRun shortEnd.2 shortEnd.1 := by
  have steps : (start (default : Run).settings .fresh).steps? ⟨default, default⟩ shortRun =
      some shortEnd := (Option.some_get _).symm
  exact trace_of_steps? steps

theorem shortRun_in_order :
    Trace (default : Run).settings shortRun shortEnd.2 shortEnd.1 ∧
      shortEnd.1.router = .finished (.ok ⟨1, 1, 0, 1, 0, 0, 0⟩) ∧
      shortEnd.1.processed shortEnd.2 (.ofEndpoints "client" "server") = shortStream := by
  have finished : shortEnd.1.router = .finished (.ok ⟨1, 1, 0, 1, 0, 0, 0⟩) := rfl
  have ordered := trace_shortRun.exactly_once_in_order "client" "server"
  refine ⟨trace_shortRun, finished, ?_⟩
  rw [(ordered.2.2 _ finished).2]
  decide

def numbered (requestId : Int32) : Record :=
  ⟨⟨requestId, 0, .query, [], Frame.empty_body_le⟩, default, "client", "server"⟩

def twoSlots : RunSettings :=
  { (default : Run).settings with laneLimit := 2, lane := ⟨.unthrottled, 0, .passThrough, false⟩ }

/-- Two workers hold the slots and a third one waits. The first worker decides to yield, gets the second
    query while it shuts its queue, and sends it. The third query goes to its successor, and the fourth
    one is in the hands of the router when the run is cancelled. The successor gives up, and another
    one takes its place. That one does not wait for the first worker: it is refused, and reports the
    fourth query as aborted. -/
def passedOverRun : List RunAction :=
  let draws (record : Record) : List RunAction := [.router .look, .router (.next (.record record))]
  let opens : List RunAction := [.router .deliver, .router .deliver]
  let sends : List RunAction :=
    List.replicate 3 (.worker 0 .advance) ++ [.worker 0 (.wrote 16), .worker 0 .sent]
  List.flatten [
    draws (numbered 1), opens, [.worker 0 .advance, .worker 0 .connected], sends,
    [.worker 0 .timedOut], draws { numbered 5 with source := "second" }, opens,
    [.worker 1 .advance], draws { numbered 6 with source := "third" }, opens,
    List.replicate 2 (.worker 2 .advance), List.replicate 3 (.worker 0 .advance),
    draws (numbered 2), [.router .deliver, .worker 0 .advance], sends, draws (numbered 3), opens,
    draws (numbered 4), [.cancel, .worker 3 .giveUp], opens,
    [.worker 1 .giveUp, .worker 1 .advance], List.replicate 2 (.worker 4 .advance),
    [.worker 4 (.refused .connectTimedOut)], List.replicate 4 (.worker 4 .advance)]

def passedOverEnd : Run × Effects :=
  ((start twoSlots .fresh).steps? ⟨default, default⟩ passedOverRun).get (by decide)

/-- In a cancelled run a lane can pass over a record, and two of its workers can be underway at once. -/
theorem passedOverRun_out_of_order :
    Trace twoSlots passedOverRun passedOverEnd.2 passedOverEnd.1 ∧
      (streamed passedOverRun).filter (Record.travels "client" "server") = [1, 2, 3, 4].map numbered ∧
      passedOverEnd.1.processed passedOverEnd.2 (.ofEndpoints "client" "server") =
        [1, 2, 4].map numbered ∧
      ¬passedOverEnd.1.processed passedOverEnd.2 (.ofEndpoints "client" "server") <+:
        (streamed passedOverRun).filter (Record.travels "client" "server") ∧
      (passedOverEnd.1.workersOn (.ofEndpoints "client" "server")).filter (fun id =>
        passedOverEnd.1.workers[id]?.any fun worker => worker.phase.isUnderway) = [0, 4] := by
  have steps : (start twoSlots .fresh).steps? ⟨default, default⟩ passedOverRun = some passedOverEnd :=
    (Option.some_get _).symm
  have streamed_all : (streamed passedOverRun).filter (Record.travels "client" "server") =
      [1, 2, 3, 4].map numbered := by decide
  have passed_over : passedOverEnd.1.processed passedOverEnd.2 (.ofEndpoints "client" "server") =
      [1, 2, 4].map numbered := by decide
  refine ⟨trace_of_steps? steps, streamed_all, passed_over, ?_, by decide⟩
  rw [streamed_all, passed_over]
  decide

end Run

end TrafficReplay
