import Mathlib.Data.List.Induction
import Mathlib.Data.List.Perm.Basic
import TrafficReplay.Proofs.Run.Relay
import TrafficReplay.Proofs.Run.LaneOrder

namespace TrafficReplay

def tally (reports : List LaneReport) : PlaySummary := reports.foldl PlaySummary.add .empty

theorem tally_concat (reports : List LaneReport) (report : LaneReport) :
    tally (reports ++ [report]) = (tally reports).add report := by
  simp [tally]

theorem foldl_add_counts (reports : List LaneReport) (summary : PlaySummary) :
    (reports.foldl PlaySummary.add summary).played =
        summary.played + (reports.map LaneReport.played).sum ∧
      (reports.foldl PlaySummary.add summary).failed =
        summary.failed + (reports.map LaneReport.failed).sum ∧
      (reports.foldl PlaySummary.add summary).skipped =
        summary.skipped + (reports.map LaneReport.skipped).sum ∧
      (reports.foldl PlaySummary.add summary).misses =
        summary.misses + (reports.map LaneReport.misses).sum := by
  induction reports generalizing summary with
  | nil => exact ⟨rfl, rfl, rfl, rfl⟩
  | cons report rest ih =>
    obtain ⟨played, failed, skipped, misses⟩ := ih (summary.add report)
    simp only [List.foldl_cons, List.map_cons, List.sum_cons, ← Nat.add_assoc]
    exact ⟨played, failed, skipped, misses⟩

theorem tally_counts (reports : List LaneReport) :
    (tally reports).played = (reports.map LaneReport.played).sum ∧
      (tally reports).failed = (reports.map LaneReport.failed).sum ∧
      (tally reports).skipped = (reports.map LaneReport.skipped).sum ∧
      (tally reports).misses = (reports.map LaneReport.misses).sum := by
  simpa [tally, PlaySummary.empty] using foldl_add_counts reports .empty

theorem tally_aborted (reports : List LaneReport) :
    (tally reports).lanesAborted = reports.countP fun report => report.abort.isSome := by
  induction reports using List.reverseRecOn with
  | nil => rfl
  | append_singleton rest report ih =>
    rw [tally_concat, List.countP_append, List.countP_singleton, ← ih]
    rfl

namespace Run

variable {run after : Run} {settings : RunSettings} {actions : List RunAction} {effects : Effects}
  {lane : LaneId}

def reportOf (run : Run) (id : Nat) : LaneReport :=
  (run.workers[id]?.map Worker.report).getD .empty

theorem reportOf_of_worker {id : Nat} {worker : Worker} (at_id : run.workers[id]? = some worker) :
    run.reportOf id = worker.report := by
  simp [reportOf, at_id]

theorem Trace.tallied (trace : Trace settings actions effects run) :
    run.summary = tally (run.joined.map run.reportOf) := by
  induction trace with
  | start => rfl
  | @step actions effects new run after reading action trace step ih =>
    have step := step_of_step? step
    have same : run.joined.map after.reportOf = run.joined.map run.reportOf := by
      apply List.map_congr_left
      intro id member
      obtain ⟨old, was, ended⟩ := trace.joins.ended id member
      obtain ⟨_, worker, at_id, _, report, _⟩ := step.ended was ended
      rw [reportOf_of_worker was, reportOf_of_worker at_id, report]
    have kept : run.summary = tally (run.joined.map after.reportOf) := by rw [same, ← ih]
    cases step with
    | works => exact kept
    | cancels => exact kept
    | routes routed =>
      cases routed with
      | @joins id worker router phase at_id =>
        rw [List.map_append, same, List.map_singleton]
        have own : reportOf { run with
            joined := run.joined ++ [id]
            summary := run.summary.add worker.report
            router := router } id = worker.report := reportOf_of_worker at_id
        rw [own, tally_concat, ← ih]
      | _ => exact kept

theorem Trace.summary_shape (trace : Trace settings actions effects run) {summary : PlaySummary}
    (finished : run.router = .finished (.ok summary)) :
    summary = { run.summary with
      lanesOpened := run.attempted.length
      lanesConnected := run.connected.length } := by
  induction trace with
  | start => cases finished
  | step trace step ih =>
    cases step_of_step? step with
    | works => exact ih finished
    | cancels => exact ih finished
    | routes routed =>
      cases routed with
      | settles => exact outcome_ok (RouterPhase.finished.inj finished)
      | joins phase => rcases phase with ⟨_, _, rfl⟩ | ⟨_, _, rfl⟩ <;> cases finished
      | opens phase | replaces phase =>
        simp only [openWorker, phase] at finished
        cases finished
      | _ => cases finished

theorem Trace.summary_eq (trace : Trace settings actions effects run) {summary : PlaySummary}
    (finished : run.router = .finished (.ok summary)) :
    summary.played = run.summary.played ∧ summary.failed = run.summary.failed ∧
      summary.skipped = run.summary.skipped ∧ summary.misses = run.summary.misses := by
  rw [trace.summary_shape finished]
  exact ⟨rfl, rfl, rfl, rfl⟩

theorem Trace.summary_aborted (trace : Trace settings actions effects run) {summary : PlaySummary}
    (finished : run.router = .finished (.ok summary)) :
    summary.lanesAborted = run.workers.countP fun worker => worker.report.abort.isSome := by
  have everyone : (List.range run.workers.length).map run.reportOf =
      run.workers.map Worker.report := by
    refine List.ext_getElem (by simp) fun id _ below => ?_
    simp [reportOf, List.getElem?_eq_getElem (by simpa using below)]
  rw [trace.summary_shape finished]
  change run.summary.lanesAborted = _
  rw [trace.tallied, tally_aborted,
    ((trace.joins.perm_range (trace.all_joined finished)).map run.reportOf).countP_eq, everyone,
    List.countP_map]
  rfl

theorem flatMap_range_single {α : Type} (index count : Nat) (value : α) :
    ((List.range count).flatMap fun id => if index = id then [value] else []) =
      if index < count then [value] else [] := by
  induction count with
  | zero => rfl
  | succ count ih =>
    rw [List.range_succ, List.flatMap_append, ih, List.flatMap_singleton]
    rcases Nat.lt_trichotomy index count with below | equal | above
    · simp [below, Nat.ne_of_lt below, Nat.lt_succ_of_lt below]
    · simp [equal]
    · simp [Nat.lt_asymm above, Nat.ne_of_gt above, Nat.not_lt.mpr above]

theorem Effects.perm_range (effects : Effects) {count : Nat}
    (within : ∀ effect ∈ effects, effect.1 < count) :
    ((List.range count).flatMap effects.ofWorker).Perm (effects.map Prod.snd) := by
  induction effects with
  | nil => simp [ofWorker]
  | cons effect rest ih =>
    have split : ∀ id, Effects.ofWorker (effect :: rest) id =
        (if effect.1 = id then [effect.2] else []) ++ Effects.ofWorker rest id := by
      intro id
      by_cases same : effect.1 = id <;> simp [ofWorker, same]
    have first := within effect List.mem_cons_self
    have same : ((List.range count).flatMap fun id => Effects.ofWorker (effect :: rest) id) =
        (List.range count).flatMap fun id =>
          (if effect.1 = id then [effect.2] else []) ++ Effects.ofWorker rest id :=
      List.flatMap_congr fun id _ => split id
    have later := ih fun other member => within other (List.mem_cons_of_mem _ member)
    have apart := List.flatMap_append_perm (List.range count)
      (fun id => if effect.1 = id then [effect.2] else []) (Effects.ofWorker rest)
    rw [flatMap_range_single, if_pos first] at apart
    rw [same]
    exact apart.symm.trans (later.cons effect.2)

theorem Trace.within (trace : Trace settings actions effects run) :
    ∀ effect ∈ effects, effect.1 < run.workers.length := by
  intro effect member
  refine Nat.lt_of_not_le fun beyond => ?_
  have nothing := trace.ofWorker_none (List.getElem?_eq_none beyond)
  have found := List.filterMap_eq_nil_iff.mp nothing effect member
  simp at found

def allStats (effects : Effects) : List Stat := reported (effects.map Prod.snd)

theorem Trace.allStats_perm (trace : Trace settings actions effects run) :
    ((List.range run.workers.length).flatMap fun id => reported (effects.ofWorker id)).Perm
      (allStats effects) := by
  have perm := (effects.perm_range trace.within).filterMap LaneEffect.stat?
  rw [List.filterMap_flatMap] at perm
  exact perm

theorem accounting : WorkerInvariant true fun fed effects worker =>
    worker.Sound fed ∧ worker.Accounts effects where
  opened fed lane scope predecessor :=
    ⟨.opened fed lane scope predecessor, .opened lane scope predecessor⟩
  unfed less both := ⟨both.1.unfed less, both.2⟩
  bequeathed {_ _ worker} both := by
    refine ⟨both.1.markTaken, ?_⟩
    obtain ⟨handoff, marked⟩ := markTaken_fields worker
    rw [marked]
    exact { both.2 with }
  pushed record accepting both := ⟨both.1.push accepting record, { both.2 with }⟩
  worked step quiet both :=
    ⟨step.sound both.1, both.2.post (step.posts (quiet rfl) both.1) step.lane⟩

/-- What holds of the workers of a run that has ended well. -/
theorem Trace.settled (trace : Trace settings actions effects run) {summary : PlaySummary}
    (finished : run.router = .finished (.ok summary)) {id : Nat} {worker : Worker}
    (at_id : run.workers[id]? = some worker) :
    worker.report.played = (reported (effects.ofWorker id)).length ∧
      worker.report.failed =
        (reported (effects.ofWorker id)).countP (fun stat => stat.error.isSome) ∧
      worker.report.misses = (reported (effects.ofWorker id)).countP (fun stat => stat.miss) ∧
      worker.report.skipped = 0 ∧
      List.Forall₂ (DescribesOn worker.lane) (reported (effects.ofWorker id))
        (requests (taken (effects.ofWorker id))) := by
  have calm := trace.finished_calm finished
  have ended := trace.joins.all_ended (trace.all_joined finished) at_id
  have accounts := (trace.each accounting (fun _ => calm) at_id).2
  have skipped := (trace.each calmness (fun _ => calm) at_id).2.unskipped
  have misses := accounts.misses
  rw [ended] at misses
  obtain ⟨served, all, described⟩ := accounts.served
  have nothing_held : requests worker.phase.held?.toList = [] := by rw [ended]; rfl
  rw [nothing_held, List.append_nil] at all
  rw [all]
  exact ⟨accounts.played, accounts.failed, misses, skipped, described⟩

theorem forall₂_flatMap {α β : Type} {relation : α → β → Prop} {ids : List Nat}
    {left : Nat → List α} {right : Nat → List β}
    (each : ∀ id ∈ ids, List.Forall₂ relation (left id) (right id)) :
    List.Forall₂ relation (ids.flatMap left) (ids.flatMap right) := by
  induction ids with
  | nil => exact .nil
  | cons id rest ih =>
    simp only [List.flatMap_cons]
    exact List.rel_append (each id List.mem_cons_self)
      (ih fun other member => each other (List.mem_cons_of_mem _ member))

theorem Trace.laneStats_flatMap (trace : Trace settings actions effects run)
    (calm : run.isCalm = true) (lane : LaneId) :
    run.laneStats effects lane =
      (run.workersOn lane).flatMap fun id => reported (effects.ofWorker id) := by
  unfold laneStats
  rw [trace.consecutive calm lane]
  exact List.filterMap_flatMap

theorem Trace.onLane_streamed (trace : Trace settings actions effects run)
    {summary : PlaySummary} (finished : run.router = .finished (.ok summary)) (lane : LaneId) :
    onLane lane (streamed actions) =
      (run.workersOn lane).flatMap fun id => taken (effects.ofWorker id) := by
  have calm := trace.finished_calm finished
  rw [← trace.processed_all calm (isFinished_iff.mpr ⟨_, finished⟩) lane,
    trace.processed_eq calm lane]

/-- Once a run has ended well, each lane has emitted one stat record for each of its requests, in
    the order of the stream. -/
theorem Trace.lane_described (trace : Trace settings actions effects run) {summary : PlaySummary}
    (finished : run.router = .finished (.ok summary)) (lane : LaneId) :
    List.Forall₂ (DescribesOn lane) (run.laneStats effects lane)
      (requests (onLane lane (streamed actions))) := by
  have records : requests (onLane lane (streamed actions)) =
      (run.workersOn lane).flatMap fun id => requests (taken (effects.ofWorker id)) := by
    rw [trace.onLane_streamed finished lane]
    exact List.filter_flatMap
  rw [trace.laneStats_flatMap (trace.finished_calm finished) lane, records]
  refine forall₂_flatMap fun id member => ?_
  obtain ⟨worker, at_id, of_lane⟩ := mem_workersOn.mp member
  obtain ⟨_, _, _, _, described⟩ := trace.settled finished at_id
  rw [← of_lane]
  exact described

theorem count_flatMap_filter {ids : List Nat} {relevant : Nat → Bool} {records : Nat → List Record}
    {record : Record} (only : ∀ id ∈ ids, record ∈ records id → relevant id = true) :
    ((ids.filter relevant).flatMap records).count record = (ids.flatMap records).count record := by
  induction ids with
  | nil => rfl
  | cons id rest ih =>
    have later := ih fun other member => only other (List.mem_cons_of_mem _ member)
    by_cases kept : relevant id = true
    · rw [List.filter_cons_of_pos kept, List.flatMap_cons, List.flatMap_cons, List.count_append,
        List.count_append, later]
    · have absent : record ∉ records id := fun member =>
        kept (only id List.mem_cons_self member)
      rw [List.filter_cons_of_neg kept, List.flatMap_cons, List.count_append,
        List.count_eq_zero.mpr absent, Nat.zero_add, later]

theorem Trace.taken_lane (trace : Trace settings actions effects run) {id : Nat} {worker : Worker}
    (at_id : run.workers[id]? = some worker) {record : Record}
    (taken_it : record ∈ taken (effects.ofWorker id)) : record.lane = worker.lane := by
  obtain ⟨left, equal, _⟩ := trace.accounted worker.lane
  have member : record ∈ onLane worker.lane (streamed actions) := by
    rw [equal]
    refine List.mem_append_left _ (List.mem_flatMap.mpr ⟨id, ?_, List.mem_append_left _ taken_it⟩)
    exact mem_workersOn.mpr ⟨worker, at_id, rfl⟩
  exact of_decide_eq_true (List.mem_filter.mp member).2

theorem Trace.taken_perm (trace : Trace settings actions effects run) {summary : PlaySummary}
    (finished : run.router = .finished (.ok summary)) :
    (streamed actions).Perm
      ((List.range run.workers.length).flatMap fun id => taken (effects.ofWorker id)) := by
  refine List.perm_iff_count.mpr fun record => ?_
  have own : (onLane record.lane (streamed actions)).count record =
      (streamed actions).count record := List.count_filter (by simp)
  rw [← own, trace.onLane_streamed finished]
  refine count_flatMap_filter fun id member taken_it => ?_
  have below : id < run.workers.length := List.mem_range.mp member
  have at_id := List.getElem?_eq_getElem below
  have same := trace.taken_lane at_id taken_it
  rw [at_id]
  simp [same]

theorem forall₂_of_lane {stats : List Stat} {records : List Record}
    (described : List.Forall₂ (DescribesOn lane) stats records)
    (on_lane : ∀ record ∈ records, record.lane = lane) :
    List.Forall₂ (fun stat record => DescribesOn record.lane stat record) stats records := by
  induction described with
  | nil => exact .nil
  | cons first _ ih =>
    refine .cons ?_ (ih fun record member => on_lane record (List.mem_cons_of_mem _ member))
    rw [on_lane _ List.mem_cons_self]
    exact first

theorem Trace.total (trace : Trace settings actions effects run) (all : run.allJoined = true)
    (field : LaneReport → Nat) (counted : Stat → Bool)
    (each : ∀ (id : Nat) (worker : Worker), run.workers[id]? = some worker →
      field worker.report = (reported (effects.ofWorker id)).countP counted) :
    ((run.joined.map run.reportOf).map field).sum = (allStats effects).countP counted := by
  have perm := ((trace.joins.perm_range all).map run.reportOf).map field
  have sums : ((List.range run.workers.length).map run.reportOf).map field =
      (List.range run.workers.length).map
        (List.countP counted ∘ fun id => reported (effects.ofWorker id)) := by
    rw [List.map_map]
    apply List.map_congr_left
    intro id member
    have at_id := List.getElem?_eq_getElem (List.mem_range.mp member)
    simp only [Function.comp_apply]
    rw [reportOf_of_worker at_id, each id _ at_id]
  rw [perm.sum_nat, sums, ← List.countP_flatMap, trace.allStats_perm.countP_eq]

/-- Complete accounting: when a run ends well, its stat records are those of the requests of the
    stream, one for each, the summary counts them, and on each lane they come in the order of the
    stream, numbered through unless a worker was aborted after it had yielded. -/
theorem Trace.complete_accounting (trace : Trace settings actions effects run)
    {summary : PlaySummary} (finished : run.router = .finished (.ok summary)) :
    drawn actions = (streamed actions).map .record ++ [.finish] ∧
      (∃ served, served.Perm (requests (streamed actions)) ∧
        List.Forall₂ (fun stat record => DescribesOn record.lane stat record)
          (allStats effects) served) ∧
      summary.played = (requests (streamed actions)).length ∧
      summary.failed = (allStats effects).countP (fun stat => stat.error.isSome) ∧
      summary.misses = (allStats effects).countP (fun stat => stat.miss) ∧
      summary.skipped = 0 ∧
      ∀ lane, List.Forall₂ (DescribesOn lane) (run.laneStats effects lane)
          (requests (onLane lane (streamed actions))) ∧
        (run.Unbroken lane → (run.laneStats effects lane).map Stat.seq =
          List.range (requests (onLane lane (streamed actions))).length) := by
  have calm := trace.finished_calm finished
  have all := trace.all_joined finished
  have described : List.Forall₂ (fun stat record => DescribesOn record.lane stat record)
      ((List.range run.workers.length).flatMap fun id => reported (effects.ofWorker id))
      ((List.range run.workers.length).flatMap fun id => requests (taken (effects.ofWorker id))) := by
    refine forall₂_flatMap fun id member => ?_
    have at_id := List.getElem?_eq_getElem (List.mem_range.mp member)
    obtain ⟨_, _, _, _, own⟩ := trace.settled finished at_id
    refine forall₂_of_lane own fun record of_worker => ?_
    exact trace.taken_lane at_id (List.mem_filter.mp of_worker).1
  have records : ((List.range run.workers.length).flatMap fun id =>
      requests (taken (effects.ofWorker id))).Perm (requests (streamed actions)) := by
    have perm := (trace.taken_perm finished).symm.filter fun record => !record.isResponse
    rw [List.filter_flatMap] at perm
    exact perm
  obtain ⟨served, matched, same⟩ := List.perm_comp_forall₂ trace.allStats_perm.symm described
  have total : (allStats effects).length = (requests (streamed actions)).length := by
    rw [matched.length_eq, same.length_eq, records.length_eq]
  obtain ⟨played, failed, skipped, misses⟩ := trace.summary_eq finished
  obtain ⟨sum_played, sum_failed, sum_skipped, sum_misses⟩ :=
    tally_counts (run.joined.map run.reportOf)
  rw [trace.tallied] at played failed skipped misses
  refine ⟨trace.drawn_eq (by simp only [streamEnd?, finished]),
    ⟨served, same.trans records, matched⟩, ?_, ?_, ?_, ?_, fun lane => ?_⟩
  · have counts := trace.total all LaneReport.played (fun _ => true)
      fun id worker at_id => by rw [(trace.settled finished at_id).1, List.countP_true]
    rw [played, sum_played, counts, List.countP_true, total]
  · rw [failed, sum_failed]
    exact trace.total all _ _ fun id worker at_id => (trace.settled finished at_id).2.1
  · rw [misses, sum_misses]
    exact trace.total all _ _ fun id worker at_id => (trace.settled finished at_id).2.2.1
  · have counts := trace.total all LaneReport.skipped (fun _ => false)
      fun id worker at_id => by rw [(trace.settled finished at_id).2.2.2.1, List.countP_false]; rfl
    rw [skipped, sum_skipped, counts, List.countP_false]
    rfl
  · have matched := trace.lane_described finished lane
    refine ⟨matched, fun unbroken => ?_⟩
    rw [(trace.numbered calm unbroken).numbers, matched.length_eq]

theorem shortRun_accounted :
    Trace (default : Run).settings shortRun shortEnd.2 shortEnd.1 ∧
      shortEnd.1.router = .finished (.ok ⟨1, 1, 0, 1, 0, 0, 0⟩) ∧
      (shortEnd.1.laneStats shortEnd.2 (.ofEndpoints "client" "server")).map Stat.seq = [0] := by
  have finished : shortEnd.1.router = .finished (.ok ⟨1, 1, 0, 1, 0, 0, 0⟩) := rfl
  obtain ⟨_, _, _, _, _, _, lanes⟩ := trace_shortRun.complete_accounting finished
  have unbroken : shortEnd.1.Unbroken (.ofEndpoints "client" "server") := by
    intro id worker at_id _ both
    have flags : ∀ worker ∈ shortEnd.1.workers, worker.report.yielded = false := by decide
    exact absurd both.1 (by simp [flags worker (List.mem_of_getElem? at_id)])
  refine ⟨trace_shortRun, finished, ?_⟩
  rw [(lanes _).2 unbroken]
  decide

end Run

end TrafficReplay
