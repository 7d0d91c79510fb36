import TrafficReplay.Proofs.Lane.Label
import TrafficReplay.Proofs.Run.Outcome
import TrafficReplay.Proofs.Run.Relay
import TrafficReplay.Proofs.Run.Skipping
import TrafficReplay.Stat.Sink

namespace TrafficReplay

theorem StatBuffer.records_foldl (buffer : StatBuffer) (stats : List Stat) :
    (stats.foldl StatBuffer.record buffer).records = buffer.records ++ stats := by
  induction stats generalizing buffer with
  | nil => exact (List.append_nil _).symm
  | cons stat rest ih => rw [List.foldl_cons, ih, records_record, List.append_assoc, List.cons_append,
      List.nil_append]

theorem DescribesOn.lane {lane : LaneId} {stat : Stat} {record : Record}
    (describes : DescribesOn lane stat record) : stat.lane = lane.text := by
  obtain ⟨seq, outcome, rfl⟩ := describes
  rfl

theorem Record.lane_whole (record : Record) (source : LaneId.Whole record.source)
    (destination : LaneId.Whole record.destination) :
    LaneId.Whole record.lane.low ∧ LaneId.Whole record.lane.high := by
  unfold lane LaneId.ofEndpoints
  split
  · exact ⟨source, destination⟩
  · exact ⟨destination, source⟩

namespace Run

variable {settings : RunSettings} {actions : List RunAction} {effects : Effects} {run : Run}
  {lane other : LaneId}

namespace Effects

/-- The sink that was given every stat record of a run. -/
def kept (effects : Effects) : StatBuffer := (allStats effects).foldl StatBuffer.record .empty

theorem records_kept (effects : Effects) : effects.kept.records = allStats effects :=
  StatBuffer.records_foldl .empty _

def told (effects : Effects) : List (WorkerId × Stat) :=
  effects.filterMap fun effect => effect.2.stat?.map fun stat => (effect.1, stat)

theorem allStats_eq (effects : Effects) : allStats effects = effects.told.map Prod.snd := by
  unfold allStats reported told
  rw [List.filterMap_map, List.map_filterMap]
  apply List.filterMap_congr
  intro effect _
  cases found : effect.2.stat? <;> simp [found]

theorem reported_ofWorkers (effects : Effects) (ids : List Nat) :
    reported (effects.ofWorkers ids) =
      (effects.told.filter fun entry => decide (entry.1 ∈ ids)).map Prod.snd := by
  unfold reported ofWorkers told
  rw [List.filterMap_filterMap, List.filter_filterMap, List.map_filterMap]
  apply List.filterMap_congr
  intro effect _
  by_cases member : effect.1 ∈ ids <;> cases found : effect.2.stat? <;> simp [member, found]

theorem reported_ofWorker (effects : Effects) (id : Nat) :
    reported (effects.ofWorker id) =
      (effects.told.filter fun entry => decide (entry.1 = id)).map Prod.snd := by
  have single : effects.ofWorker id = effects.ofWorkers [id] := by
    simp [ofWorker, ofWorkers]
  rw [single, reported_ofWorkers]
  simp

end Effects

theorem Trace.label (trace : Trace settings actions effects run) {entry : WorkerId × Stat}
    (member : entry ∈ effects.told) :
    ∃ worker, run.workers[entry.1]? = some worker ∧ entry.2.lane = worker.lane.text := by
  obtain ⟨effect, emitted, told⟩ := List.mem_filterMap.mp member
  obtain ⟨stat, found, rfl⟩ := Option.map_eq_some_iff.mp told
  have at_id := List.getElem?_eq_getElem (trace.within effect emitted)
  obtain ⟨served, _, _, described, _⟩ := (trace.each reckoning nofun at_id).2.served
  have own : stat ∈ reported (effects.ofWorker effect.1) := by
    rw [Effects.reported_ofWorker]
    exact List.mem_map.mpr ⟨(effect.1, stat), List.mem_filter.mpr ⟨member, by simp⟩, rfl⟩
  have labelled := described.imp fun stat record describes => And.intro (describes.lane) describes
  exact ⟨_, at_id, ((List.forall₂_and_left _ _).mp labelled).1 stat own⟩

def bears (run : Run) (text : String) (id : WorkerId) : Bool :=
  run.workers[id]?.any fun worker => worker.lane.text = text

theorem bears_of_mem {id : WorkerId} (member : id ∈ run.workersOn lane) :
    run.bears lane.text id = true := by
  obtain ⟨worker, at_id, rfl⟩ := mem_workersOn.mp member
  simp [bears, at_id]

theorem workersOn_disjoint {id : WorkerId} (own : id ∈ run.workersOn lane)
    (of_other : id ∈ run.workersOn other) : lane = other := by
  obtain ⟨worker, at_id, rfl⟩ := mem_workersOn.mp own
  exact lane_of_mem at_id of_other

theorem mem_of_bears {id : WorkerId} (bears : run.bears lane.text id = true) :
    id ∈ run.workersOn lane ∨
      ∃ other : LaneId, (lane.Overlaps other ∨ other.Overlaps lane) ∧ id ∈ run.workersOn other := by
  obtain ⟨worker, at_id, same⟩ := (Option.any_eq_true ..).mp bears
  have on_own : id ∈ run.workersOn worker.lane := mem_workersOn.mpr ⟨worker, at_id, rfl⟩
  rcases LaneId.text_eq_iff.mp (of_decide_eq_true same) with own | overlap
  · exact .inl (own ▸ on_own)
  · exact .inr ⟨worker.lane, overlap.symm, on_own⟩

theorem laneStats_eq (run : Run) (effects : Effects) (lane : LaneId) :
    run.laneStats effects lane =
      (effects.told.filter fun entry => decide (entry.1 ∈ run.workersOn lane)).map Prod.snd :=
  Effects.reported_ofWorkers effects _

/-- A sink finds under a text what the workers told that bear the text. -/
theorem Trace.forLane_eq (trace : Trace settings actions effects run) (text : String) :
    effects.kept.forLane text =
      (effects.told.filter fun entry => run.bears text entry.1).map Prod.snd := by
  unfold StatBuffer.forLane
  rw [Effects.records_kept, Effects.allStats_eq, List.filter_map]
  congr 1
  apply List.filter_congr
  intro entry member
  obtain ⟨worker, at_id, labelled⟩ := trace.label member
  simp [bears, at_id, labelled]

/-- The stat records of a lane, as a sink finds them under its text. -/
structure Found (run : Run) (effects : Effects) (lane : LaneId) : Prop where
  all : (run.laneStats effects lane).Sublist (effects.kept.forLane lane.text)
  others : ∀ stat ∈ effects.kept.forLane lane.text, stat ∈ run.laneStats effects lane ∨
    ∃ other : LaneId, (lane.Overlaps other ∨ other.Overlaps lane) ∧
      stat ∈ run.laneStats effects other
  alone_iff : effects.kept.forLane lane.text = run.laneStats effects lane ↔
    ∀ other : LaneId, lane.Overlaps other ∨ other.Overlaps lane → run.laneStats effects other = []

theorem Trace.found (trace : Trace settings actions effects run) (lane : LaneId) :
    Found run effects lane := by
  have told_by {entry : WorkerId × Stat} {other : LaneId} (member : entry ∈ effects.told)
      (of_other : entry.1 ∈ run.workersOn other) : entry.2 ∈ run.laneStats effects other := by
    rw [laneStats_eq]
    exact List.mem_map.mpr ⟨entry, List.mem_filter.mpr ⟨member, by simpa using of_other⟩, rfl⟩
  have within : (effects.told.filter fun entry => decide (entry.1 ∈ run.workersOn lane)).Sublist
      (effects.told.filter fun entry => run.bears lane.text entry.1) := by
    apply List.monotone_filter_right
    intro entry member
    exact bears_of_mem (of_decide_eq_true member)
  refine ⟨?_, fun stat found => ?_, fun alone other overlap => ?_, fun silent => ?_⟩
  · rw [laneStats_eq, trace.forLane_eq]
    exact within.map _
  · rw [trace.forLane_eq] at found
    obtain ⟨entry, kept, rfl⟩ := List.mem_map.mp found
    obtain ⟨member, bears⟩ := List.mem_filter.mp kept
    rcases mem_of_bears bears with own | ⟨other, overlap, of_other⟩
    · exact .inl (told_by member own)
    · exact .inr ⟨other, overlap, told_by member of_other⟩
  · -- Equal records may come from different workers, so the entries are compared by their number.
    rw [laneStats_eq, trace.forLane_eq] at alone
    have lengths := congrArg List.length alone
    rw [List.length_map, List.length_map] at lengths
    have same := within.eq_of_length lengths.symm
    rw [laneStats_eq, List.map_eq_nil_iff, List.filter_eq_nil_iff]
    intro entry member of_other
    obtain ⟨text, different⟩ := LaneId.overlap_iff.mp overlap
    have bears : run.bears lane.text entry.1 = true :=
      text ▸ bears_of_mem (of_decide_eq_true of_other)
    have own : entry ∈ effects.told.filter fun entry => decide (entry.1 ∈ run.workersOn lane) :=
      same ▸ List.mem_filter.mpr ⟨member, bears⟩
    exact different (workersOn_disjoint (of_decide_eq_true (List.mem_filter.mp own).2)
      (of_decide_eq_true of_other))
  · rw [laneStats_eq, trace.forLane_eq]
    congr 1
    apply List.filter_congr
    intro entry member
    apply Bool.eq_iff_iff.mpr
    rw [decide_eq_true_eq]
    refine ⟨fun bears => ?_, bears_of_mem⟩
    rcases mem_of_bears bears with own | ⟨other, overlap, of_other⟩
    · exact own
    · have told := told_by member of_other
      rw [silent other overlap] at told
      cases told

theorem Trace.worker_served (trace : Trace settings actions effects run) {id : WorkerId}
    {worker : Worker} (at_id : run.workers[id]? = some worker) :
    ∃ served, served.Sublist (requests (onLane worker.lane (streamed actions))) ∧
      List.Forall₂ (DescribesOn worker.lane) (reported (effects.ofWorker id)) served := by
  obtain ⟨served, skipped, split, described, _⟩ := (trace.each reckoning nofun at_id).2.served
  obtain ⟨left, equal, _⟩ := trace.accounted worker.lane
  have took : (taken (effects.ofWorker id)).Sublist (run.givenTo effects id) :=
    List.sublist_append_left _ _
  have gave : (run.givenTo effects id).Sublist
      ((run.workersOn worker.lane).flatMap (run.givenTo effects)) :=
    List.sublist_flatten_of_mem
      (List.mem_map_of_mem (mem_workersOn.mpr ⟨worker, at_id, rfl⟩))
  have drew : ((run.workersOn worker.lane).flatMap (run.givenTo effects)).Sublist
      (onLane worker.lane (streamed actions)) := by
    rw [equal]
    exact List.sublist_append_left _ _
  refine ⟨served, ?_, described⟩
  have first : served.Sublist (requests (taken (effects.ofWorker id))) := by
    rw [split, List.append_assoc]
    exact List.sublist_append_left _ _
  exact first.trans (((took.trans gave).trans drew).filter _)

/-- As long as nothing is cancelled, the stat records of a lane are about the first of its requests,
    in the order of the stream. -/
theorem Trace.lane_served (trace : Trace settings actions effects run) (calm : run.isCalm = true)
    (lane : LaneId) :
    ∃ served, served <+: requests (onLane lane (streamed actions)) ∧
      List.Forall₂ (DescribesOn lane) (run.laneStats effects lane) served := by
  have each : ∀ id, ∃ served held : List Record, id ∈ run.workersOn lane →
      requests (taken (effects.ofWorker id)) = served ++ held ∧
        List.Forall₂ (DescribesOn lane) (reported (effects.ofWorker id)) served ∧
        ((∀ worker, run.workers[id]? = some worker → worker.phase = .ended) → held = []) := by
    intro id
    by_cases member : id ∈ run.workersOn lane
    · obtain ⟨worker, at_id, rfl⟩ := mem_workersOn.mp member
      obtain ⟨served, split, described⟩ := (trace.each accounting (fun _ => calm) at_id).2.served
      refine ⟨served, _, fun _ => ⟨split, described, fun ended => ?_⟩⟩
      rw [ended worker at_id]
      rfl
    · exact ⟨[], [], fun own => absurd own member⟩
  choose served held each using each
  refine ⟨(run.workersOn lane).flatMap served, ?_, ?_⟩
  · have apart : (run.workersOn lane).Pairwise fun first second =>
        held first = [] ∨ served second = [] := by
      refine (trace.takes_turns calm lane).imp_of_mem fun of_first of_second turns => ?_
      rcases turns with ended | idle
      · exact .inl ((each _ of_first).2.2 ended)
      · obtain ⟨split, _⟩ := each _ of_second
        rw [idle] at split
        exact .inr (List.append_eq_nil_iff.mp split.symm).1
    have taken : requests (run.processed effects lane) =
        (run.workersOn lane).flatMap fun id => served id ++ held id := by
      rw [trace.processed_eq calm lane, requests, List.filter_flatMap]
      exact List.flatMap_congr fun id member => (each id member).1
    have processed := (trace.processed_isPrefix calm lane).filter fun record => !record.isResponse
    exact (isPrefix_flatMap apart).trans (taken ▸ processed)
  · rw [trace.laneStats_flatMap calm lane]
    exact forall₂_flatMap fun id member => (each id member).2.1

theorem Trace.found_alone (trace : Trace settings actions effects run)
    (whole : ∀ record ∈ streamed actions,
      LaneId.Whole record.source ∧ LaneId.Whole record.destination) (lane : LaneId) :
    effects.kept.forLane lane.text = run.laneStats effects lane := by
  refine (trace.found lane).alone_iff.mpr fun other overlap => ?_
  have nobody : run.workersOn other = [] := by
    apply List.eq_nil_iff_forall_not_mem.mpr
    intro id member
    obtain ⟨worker, at_id, of_other⟩ := mem_workersOn.mp member
    have opened := (trace.opened.staffed other).mpr
      (List.mem_map.mpr ⟨worker, List.mem_of_getElem? at_id, of_other⟩)
    obtain ⟨record, drew, rfl⟩ := trace.opened.asked other opened
    obtain ⟨low, high⟩ := record.lane_whole (whole record drew).1 (whole record drew).2
    rcases overlap with overlaps | overlaps
    · exact overlaps.not_whole.2 low
    · exact overlaps.not_whole.1 high
  exact congrArg reported (laneEffects_of_none effects nobody)

/-- The stat records of a lane, in the order in which the lane has emitted them, are about requests
    of the lane in the order of the stream. -/
structure Ordered (actions : List RunAction) (effects : Effects) (run : Run) (lane : LaneId) :
    Prop where
  each : ∀ (id : WorkerId) (worker : Worker), run.workers[id]? = some worker → worker.lane = lane →
    ∃ served, served.Sublist (requests (onLane lane (streamed actions))) ∧
      List.Forall₂ (DescribesOn lane) (reported (effects.ofWorker id)) served
  all : run.isCalm = true → ∃ served, served <+: requests (onLane lane (streamed actions)) ∧
    List.Forall₂ (DescribesOn lane) (run.laneStats effects lane) served
  numbers : run.isCalm = true → run.Unbroken lane →
    (run.laneStats effects lane).map Stat.seq = List.range (run.laneStats effects lane).length

theorem Trace.ordered (trace : Trace settings actions effects run) (lane : LaneId) :
    Ordered actions effects run lane where
  each := by
    rintro id worker at_id rfl
    exact trace.worker_served at_id
  all calm := trace.lane_served calm lane
  numbers calm unbroken := (trace.numbered calm unbroken).numbers

/-- Lanes are unordered pairs of endpoints, totally ordered as such. Two lanes have one text if they
    are equal or overlap. Under the text of a lane a sink finds all stat records of the lane in their
    order, and those of overlapping lanes between them: it finds the lane alone exactly if no
    overlapping lane has emitted any, as in every run whose endpoints do not hold the separator. -/
theorem Trace.found_by_text (trace : Trace settings actions effects run) :
    (∀ a b c d : String,
      (LaneId.ofEndpoints a b = LaneId.ofEndpoints c d ↔ s(a, b) = s(c, d)) ∧
      ((LaneId.ofEndpoints a b).text = (LaneId.ofEndpoints c d).text ↔ s(a, b) = s(c, d) ∨
        (LaneId.ofEndpoints a b).Overlaps (.ofEndpoints c d) ∨
        (LaneId.ofEndpoints c d).Overlaps (.ofEndpoints a b))) ∧
    (Std.TransCmp LaneId.compare ∧ Std.LawfulEqCmp LaneId.compare) ∧
    (∀ lane, Found run effects lane ∧ Ordered actions effects run lane) ∧
    ((∀ record ∈ streamed actions,
        LaneId.Whole record.source ∧ LaneId.Whole record.destination) →
      ∀ lane : LaneId, effects.kept.forLane lane.text = run.laneStats effects lane) := by
  have pairs (a b c d : String) :
      LaneId.ofEndpoints a b = LaneId.ofEndpoints c d ↔ s(a, b) = s(c, d) := by
    rw [LaneId.ofEndpoints_eq_iff, Sym2.eq_iff]
  refine ⟨fun a b c d => ⟨pairs a b c d, ?_⟩, ⟨inferInstance, inferInstance⟩,
    fun lane => ⟨trace.found lane, trace.ordered lane⟩, trace.found_alone⟩
  rw [LaneId.text_eq_iff, pairs]

theorem shortRun_found_by_text :
    Trace (default : Run).settings shortRun shortEnd.2 shortEnd.1 ∧
      shortEnd.2.kept.forLane "client<->server" =
        shortEnd.1.laneStats shortEnd.2 (.ofEndpoints "client" "server") := by
  obtain ⟨_, _, _, alone⟩ := trace_shortRun.found_by_text
  have whole : ∀ record ∈ streamed shortRun,
      LaneId.Whole record.source ∧ LaneId.Whole record.destination := by
    have streamed : streamed shortRun = shortStream := by decide
    rw [streamed]
    have client : LaneId.Whole "client" := .of_not_mem (by decide)
    have server : LaneId.Whole "server" := .of_not_mem (by decide)
    intro record member
    rcases List.mem_pair.mp member with rfl | rfl
    · exact ⟨client, server⟩
    · exact ⟨server, client⟩
  exact ⟨trace_shortRun, alone whole (.ofEndpoints "client" "server")⟩

def crossedStream : List Record :=
  [⟨⟨7, 0, .insert, [], Frame.empty_body_le⟩, default, "a", "b<->c"⟩,
    ⟨⟨8, 0, .insert, [], Frame.empty_body_le⟩, default, "a<->b", "c"⟩]

def crossedRun : List RunAction :=
  crossedStream.flatMap (fun record => draws record ++ [.router .deliver]) ++
    [0, 1].flatMap fun id => [.advance, .connected, .advance, .advance, .advance, .wrote 16,
      .sent].map (RunAction.worker id)

def crossedEnd : Run × Effects :=
  ((start { (default : Run).settings with laneLimit := 2 } .fresh).steps? ⟨default, default⟩
    crossedRun).get (by decide)

/-- Two lanes, one text: under it a sink finds the records of both, twice the number 0. -/
theorem crossedRun_one_text :
    Trace { (default : Run).settings with laneLimit := 2 } crossedRun crossedEnd.2 crossedEnd.1 ∧
      LaneId.ofEndpoints "a" "b<->c" ≠ LaneId.ofEndpoints "a<->b" "c" ∧
      s("a", "b<->c") ≠ s("a<->b", "c") ∧
      (LaneId.ofEndpoints "a" "b<->c").text = (LaneId.ofEndpoints "a<->b" "c").text ∧
      (crossedEnd.1.laneStats crossedEnd.2 (.ofEndpoints "a" "b<->c")).map Stat.requestId = [7] ∧
      (crossedEnd.1.laneStats crossedEnd.2 (.ofEndpoints "a<->b" "c")).map Stat.requestId = [8] ∧
      (crossedEnd.2.kept.forLane (LaneId.ofEndpoints "a" "b<->c").text).map
        (fun stat => (stat.requestId, stat.seq)) = [(7, 0), (8, 0)] :=
  ⟨trace_of_steps? (Option.some_get _).symm, by decide, by decide, by decide, by decide, by decide,
    by decide⟩

end Run

end TrafficReplay
