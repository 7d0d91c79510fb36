import TrafficReplay.Proofs.Config.Validation
import TrafficReplay.Proofs.Run.Playback
import TrafficReplay.Proofs.Run.Recorder

namespace TrafficReplay

variable {rho : Int64 → Int64} {settings : RunSettings} {lane : LaneId} {exchanges : List Exchange}
  {effects : Run.Effects} {playback : Playback} {worker : Worker} {played left : List Exchange}
  {now : Server} {answers : List Frame}

namespace Replays

theorem answers_coming
    (replays : Replays rho settings lane exchanges effects playback worker played left now answers)
    {issue : Issue} (awaiting : worker.phase = .awaiting issue) :
    (∃ frame rest, playback.incoming 0 = frame :: rest ∧
      frame.responseTo = issue.record.requestId) ∨
      ∃ frame rest, playback.outgoing 0 = frame :: rest := by
  obtain ⟨answer, expected, own⟩ := replays.stage.awaits replays.renames awaiting
  have coming := replays.converses.coming
  rw [expected] at coming
  cases incoming : playback.incoming 0 with
  | cons frame rest =>
    rw [incoming] at coming
    obtain ⟨rfl, _⟩ := List.cons.inj coming
    exact .inl ⟨frame, rest, rfl, own⟩
  | nil =>
    cases outgoing : playback.outgoing 0 with
    | cons frame rest => exact .inr ⟨frame, rest, rfl⟩
    | nil =>
      rw [incoming, outgoing] at coming
      cases coming

theorem worker_goes_on
    (replays : Replays rho settings lane exchanges effects playback worker played left now answers)
    (staff : playback.run.workers = [worker]) (going : worker.phase ≠ .ended)
    (supplied : worker.queue ≠ [] ∨ playback.run.isRouting = false) :
    ∃ new after later, playback.Step new after ∧
      Replaying rho settings lane exchanges (effects ++ new) after later ∧
      after.rank later < playback.rank worker := by
  have at_id : playback.run.workers[0]? = some worker := by rw [staff]; rfl
  let reading : Reading := ⟨default, default⟩
  cases at_phase : worker.phase with
  | connecting =>
    have trusts := (replays.solo.surrounded reading 0).lenient.trusts
    have step : worker.step? (playback.run.surroundings reading 0 worker) playback.run.shared
        .connected = some (worker.connectedTo playback.run.shared) := by
      simp [Worker.step?, at_phase, trusts]
    obtain ⟨run, new, step⟩ := Run.step?_of_worker at_id step
    have takes := replays.converses.willing.takes
    have welcome : playback.server.connect? playback.run.settings.address =
        .ok { playback.server with connections := playback.server.connections + 1 } := by
      rw [Server.connect?, if_neg (by simp [takes])]
    obtain ⟨later, still, lower⟩ := replays.smooth rfl step (replays.converses.connects _) rfl
    exact ⟨new, _, later, .connects welcome step, still, lower trivial⟩
  | awaiting issue =>
    rcases replays.answers_coming at_phase with ⟨frame, rest, coming, own⟩ | ⟨frame, rest, coming⟩
    · have step : ∃ outcome, worker.step? (playback.run.surroundings reading 0 worker)
          playback.run.shared (.received frame) = some outcome := by
        simp [Worker.step?, at_phase]
      obtain ⟨outcome, step⟩ := step
      obtain ⟨run, new, step⟩ := Run.step?_of_worker at_id step
      obtain ⟨later, still, lower⟩ := replays.receives coming step rfl
      refine ⟨new, _, later, .receives coming step, still, lower ?_⟩
      intro other same
      rw [at_phase] at same
      cases same
      exact own
    · obtain ⟨stage, answer, served, _⟩ :=
        Server.receive_willing replays.converses.willing [] frame
      obtain ⟨still, lower⟩ := replays.serves coming served rfl
      rw [← List.append_nil effects] at still
      exact ⟨[], _, worker, .serves coming served, still, lower⟩
  | _ =>
    have supplied_parked : ∀ stamp, worker.phase = .parked stamp → worker.queue ≠ [] ∨
        worker.isStarved (playback.run.surroundings reading 0 worker).fed = true := by
      intro stamp _
      by_cases empty : worker.queue = []
      · have unfed : (playback.run.surroundings reading 0 worker).fed = false :=
          (replays.solo.isFed staff).trans (supplied.resolve_left fun some => some empty)
        exact .inr (Worker.isStarved_iff.mpr ⟨empty, fun _ => unfed⟩)
      · exact .inl empty
    obtain ⟨action, outcome, inner, decisive, step⟩ := Worker.goes_on replays.solo.plain going
      (by simp [at_phase]) (by simp [at_phase]) supplied_parked
    obtain ⟨run, new, step⟩ := Run.step?_of_worker at_id step
    obtain ⟨later, still, lower⟩ := replays.smooth inner.1 step replays.converses rfl
    exact ⟨new, _, later, .works inner step, still, lower decisive⟩

/-- As long as the run has not finished, there is a step that brings the replay closer to its end. -/
theorem goes_on
    (replays : Replays rho settings lane exchanges effects playback worker played left now answers)
    (depth : 0 < settings.queueDepth) (unfinished : playback.run.isFinished = false) :
    ∃ new after later, playback.Step new after ∧
      Replaying rho settings lane exchanges (effects ++ new) after later ∧
      after.rank later < playback.rank worker := by
  have turns : ∀ (action : RouterAction) {run : Run}, (∀ item, action ≠ .next item) →
      action ≠ .again → playback.run.routerStep? action = some run →
      ∃ new after later, playback.Step new after ∧
        Replaying rho settings lane exchanges (effects ++ new) after later ∧
        after.rank later < playback.rank worker := by
    intro action run inner again step
    obtain ⟨later, still, lower⟩ := replays.turns inner step rfl
    rw [← List.append_nil effects] at still
    exact ⟨[], _, later, .routes inner step, still, lower again⟩
  cases phase : playback.run.router with
  | looking mode =>
    have step : playback.run.routerStep? .look =
        some { playback.run with router := .choosing mode } := by
      simp [Run.routerStep?, phase, replays.solo.undisturbed.quiet]
    exact turns .look (by simp) (by simp) step
  | choosing mode =>
    cases mode with
    | routing =>
      have step : playback.run.routerStep? (.next (Playback.upcoming playback.ahead)) =
          some (playback.run.take (Playback.upcoming playback.ahead)) := by
        simp [Run.routerStep?, phase]
      obtain ⟨later, still, lower⟩ := replays.draws step rfl
      rw [← List.append_nil effects] at still
      exact ⟨[], _, later, .draws step, still, lower⟩
    | waiting =>
      rcases replays.solo.winds_up phase with ⟨action, run, inner, again, step⟩ | ⟨staff, going⟩
      · exact turns action inner again step
      · exact replays.worker_goes_on staff going (.inr (by simp [Run.isRouting, phase]))
  | delivering record =>
    have hand : record ∈ worker.queue ++ (playback.run.router.inHand ++ playback.ahead) := by
      simp [phase, RouterPhase.inHand]
    have going : worker.phase ≠ .ended := by
      intro ended
      rw [(replays.stage.of_ended ended).2] at hand
      cases hand
    rcases replays.solo.delivers depth phase (replays.lanes record hand) going with
      ⟨run, step⟩ | ⟨staff, full⟩
    · exact turns .deliver (by simp) (by simp) step
    · exact replays.worker_goes_on staff going (.inl full)
  | stopping fault =>
    have unstopped := replays.solo.unstopped
    rw [phase] at unstopped
    cases unstopped
  | finished result => simp [Run.isFinished, phase] at unfinished

theorem finished
    (replays : Replays rho settings lane exchanges effects playback worker played left now answers)
    {result : Except PlayFault PlaySummary} (finished : playback.run.result? = some result) :
    (∃ summary, result = .ok summary) ∧ left = [] := by
  have phase := Run.result?_eq_some_iff.mp finished
  have unstopped := replays.solo.unstopped
  rw [phase] at unstopped
  refine ⟨?_, ?_⟩
  · cases result with
    | ok summary => exact ⟨summary, rfl⟩
    | error fault => cases unstopped
  · have all := replays.solo.settled (Run.isFinished_iff.mpr ⟨_, phase⟩)
    rcases replays.solo.staff with ⟨staff, _⟩ | ⟨staff, _, fresh⟩
    · rcases replays.solo.joined with none | ⟨_, _, ended⟩
      · simp [Run.allJoined, none, staff] at all
      · exact (replays.stage.of_ended ended).1
    · have nothing := replays.drained (by simp [Run.isRouting, phase])
      have stage := replays.stage
      rw [phase, nothing, fresh] at stage
      exact stage.nothing_left rfl

end Replays

theorem Playback.Leads.after_step {first after last : Playback} {new more : Run.Effects}
    (step : first.Step new after) (leads : after.Leads more last) : first.Leads (new ++ more) last := by
  induction leads with
  | nowhere =>
    rw [List.append_nil]
    exact .on .nowhere step
  | on _ next ih =>
    rw [← List.append_assoc]
    exact .on ih next

theorem Replaying.completes
    (replaying : Replaying rho settings lane exchanges effects playback worker)
    (depth : 0 < settings.queueDepth) :
    ∃ more last, playback.Leads more last ∧ last.run.isFinished = true := by
  generalize rank : playback.rank worker = count
  induction count using Nat.strongRecOn generalizing effects playback worker with
  | ind count ih =>
    cases finished : playback.run.isFinished with
    | true => exact ⟨[], playback, .nowhere, finished⟩
    | false =>
      obtain ⟨played, left, now, answers, replays⟩ := replaying
      obtain ⟨new, after, later, step, still, lower⟩ := replays.goes_on depth finished
      obtain ⟨more, last, leads, done⟩ := ih _ (rank ▸ lower) still rfl
      exact ⟨new ++ more, last, leads.after_step step, done⟩

theorem PlayConfig.validate_ok {config : PlayConfig} (valid : config.validate = .ok ()) :
    0 < config.laneLimit ∧ 0 < config.queueDepth := by
  have checked := isValid_of_validate valid
  exact ⟨checked.laneLimit, checked.queueDepth⟩

theorem Run.ofConfig_ok {config : PlayConfig} {run : Run} (made : Run.ofConfig config = .ok run) :
    config.validate = .ok () ∧ ∃ address credentials, config.credentials = .ok credentials ∧
      run = .start (settingsOf config address credentials) .fresh := by
  simp only [Run.ofConfig, Bind.bind, Except.bind, Pure.pure, Except.pure] at made
  split at made
  · cases made
  rename_i valid
  split at made
  · cases made
  rename_i address _
  split at made
  · cases made
  rename_i credentials given
  cases made
  exact ⟨valid, address, credentials, given, rfl⟩

/-- A recorded lane is replayed faithfully, however the steps of the router, the worker and the server
    interleave: at any time the first requests of the recording have their stat records, in order, when
    the run has finished all of them have, and the run can always finish. -/
theorem Playback.Leads.faithful {config : PlayConfig} {run : Run}
    (recording : Recording rho lane .empty exchanges) (renames : Renames rho .empty exchanges)
    (made : Run.ofConfig config = .ok run) (trusts : config.credentials = .ok none)
    (scope : config.cursorScope = .lane) (passes : config.cursorMiss = .passThrough)
    (unlimited : config.maxConsecutiveFailures = 0)
    (leads : (Playback.start run (tapeOf exchanges)).Leads effects playback) :
    (∃ played left, exchanges = played ++ left ∧ Agree .empty played (Run.allStats effects)) ∧
      (∀ result, playback.run.result? = some result →
        (∃ summary, result = .ok summary) ∧ Agree .empty exchanges (Run.allStats effects)) ∧
      ∃ more last, playback.Leads more last ∧ last.run.isFinished = true := by
  obtain ⟨valid, address, credentials, guarded, rfl⟩ := Run.ofConfig_ok made
  obtain ⟨room, depth⟩ := PlayConfig.validate_ok valid
  obtain rfl : credentials = none := Except.ok.inj (guarded.symm.trans trusts)
  have lenient : (Run.settingsOf config address none).lane.Lenient := ⟨passes, unlimited, rfl⟩
  obtain ⟨worker, replaying⟩ := leads.replaying recording renames lenient scope room
  have completes := replaying.completes depth
  obtain ⟨played, left, now, answers, replays⟩ := replaying
  refine ⟨⟨played, left, replays.split, replays.told⟩, fun result finished => ?_, completes⟩
  obtain ⟨good, rfl⟩ := replays.finished finished
  have whole := replays.split
  rw [List.append_nil] at whole
  exact ⟨good, whole ▸ replays.told⟩

namespace SampleRecording

def things : List Document := [[("n", .int32 1)], [("n", .int32 2)], [("n", .int32 3)]]

def cursor : Int64 := Server.cursorBase + Server.cursorStride

/-- An insert, a query that leaves a cursor open, two requests for more, of which the first one exhausts
    the cursor, and a request that kills cursors that are not open. -/
def frames : List Frame :=
  [Frame.insert 1 "db.things" things, Frame.query 2 "db.things" 0 2 [],
    Frame.getMore 3 "db.things" 2 cursor, Frame.getMore 4 "db.things" 2 cursor,
    Frame.killCursors 5 [0, cursor, 99]].filterMap Except.toOption

def rename (id : Int64) : Int64 := if id = cursor then 42 else id

def recorded : List Exchange :=
  (record? rename "client" "server" .empty frames).get (by decide +kernel)

theorem made : record? rename "client" "server" .empty frames = some recorded :=
  (Option.some_get _).symm

theorem recording : Recording rename (.ofEndpoints "client" "server") .empty recorded := by
  have requests : ∀ frame ∈ frames, frame.IsRequest := by
    have all : ∀ frame ∈ frames, frame.opCode.isResponse = false ∧ frame.responseTo = 0 ∧
        frame.requestId ≠ 0 := by decide +kernel
    intro frame member
    obtain ⟨code, unanswering, numbered⟩ := all frame member
    exact ⟨code, unanswering, fun _ => numbered⟩
  exact recording_of_record? requests made

theorem renames : Renames rename .empty recorded where
  zero := by decide
  injective := by
    have apart : (Recording.inUse .empty recorded).all (fun a =>
        (Recording.inUse .empty recorded).all fun b => rename a = rename b → a = b) = true := by
      decide +kernel
    intro a in_use b also_in_use
    exact of_decide_eq_true
      (List.all_eq_true.mp (List.all_eq_true.mp apart a in_use) b also_in_use)
  foreign := by
    have unissued : (Recording.inUse .empty recorded).all (fun id =>
        id ≠ 0 → rename id ∉ Recording.issued .empty recorded) = true := by
      decide +kernel
    intro id in_use
    exact of_decide_eq_true (List.all_eq_true.mp unissued id in_use)

end SampleRecording

/-- The second request for more and the one that kills cursors name cursors that are not open. -/
theorem sampleRecording_replayed : ∃ run, Run.ofConfig (.ofTarget "mongodb://localhost") = .ok run ∧
    ∃ effects last, (Playback.start run (tapeOf SampleRecording.recorded)).Leads effects last ∧
      last.run.isFinished = true ∧
      (Run.allStats effects).map (fun stat => (stat.numReturned, stat.error, stat.miss)) =
        [(0, none, false), (2, none, false), (1, none, false), (0, some .serverError, true),
          (0, none, true)] := by
  have valid : (Run.ofConfig (.ofTarget "mongodb://localhost")).toOption.isSome = true := by
    decide +kernel
  obtain ⟨run, found⟩ := Option.isSome_iff_exists.mp valid
  have made := Server.ok_of_toOption found
  have trusts : (PlayConfig.ofTarget "mongodb://localhost").credentials = .ok none :=
    Server.ok_of_toOption (by decide +kernel)
  obtain ⟨_, _, effects, last, leads, finished⟩ := Playback.Leads.faithful
    SampleRecording.recording SampleRecording.renames made trusts rfl rfl rfl .nowhere
  obtain ⟨_, ends_well, _⟩ := leads.faithful SampleRecording.recording SampleRecording.renames made
    trusts rfl rfl rfl
  refine ⟨run, made, effects, last, leads, finished, ?_⟩
  obtain ⟨result, phase⟩ := Run.isFinished_iff.mp finished
  rw [(ends_well result (Run.result?_eq_some_iff.mpr phase)).2.expected]
  decide +kernel

end TrafficReplay
