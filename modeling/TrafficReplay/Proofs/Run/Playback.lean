import Mathlib.Logic.Function.Basic
import TrafficReplay.Proofs.Lane.Replay
import TrafficReplay.Proofs.Run.Accounting
import TrafficReplay.Proofs.Run.Solo
import TrafficReplay.Proofs.Server.Conversation

namespace TrafficReplay

def SessionAnswer.frames : SessionAnswer → List Frame
  | .reply frame => [frame]
  | _ => []

/-- A run, the records that its stream will yield, a server, and the frames on their way to the server
    and back on the connection of each worker. -/
structure Playback where
  run : Run
  ahead : List Record
  server : Server
  outgoing : WorkerId → List Frame
  incoming : WorkerId → List Frame

namespace Playback

def start (run : Run) (records : List Record) : Playback where
  run := run
  ahead := records
  server := .empty
  outgoing _ := []
  incoming _ := []

def upcoming : List Record → StreamItem
  | [] => .finish
  | record :: _ => .record record

def afterWork (playback : Playback) (id : WorkerId) (run : Run) (effects : Run.Effects) : Playback :=
  { playback with
    run := run
    outgoing := Function.update playback.outgoing id
      (playback.outgoing id ++ transmitted (effects.map Prod.snd)) }

inductive Step (playback : Playback) : Run.Effects → Playback → Prop
  | draws {run : Run}
      (step : playback.run.routerStep? (.next (upcoming playback.ahead)) = some run) :
      Step playback [] { playback with run := run, ahead := playback.ahead.tail }
  | routes {action : RouterAction} {run : Run} (inner : ∀ item, action ≠ .next item)
      (step : playback.run.routerStep? action = some run) :
      Step playback [] { playback with run := run }
  | connects {reading : Reading} {id : WorkerId} {server : Server} {run : Run}
      {effects : Run.Effects}
      (welcome : playback.server.connect? playback.run.settings.address = .ok server)
      (step : playback.run.step? reading (.worker id .connected) = some (run, effects)) :
      Step playback effects { playback.afterWork id run effects with server := server }
  | works {reading : Reading} {id : WorkerId} {action : WorkerAction} {run : Run}
      {effects : Run.Effects} (inner : action.isSmooth = true ∧ action ≠ .connected)
      (step : playback.run.step? reading (.worker id action) = some (run, effects)) :
      Step playback effects (playback.afterWork id run effects)
  | receives {reading : Reading} {id : WorkerId} {frame : Frame} {rest : List Frame} {run : Run}
      {effects : Run.Effects} (coming : playback.incoming id = frame :: rest)
      (step : playback.run.step? reading (.worker id (.received frame)) = some (run, effects)) :
      Step playback effects { playback.afterWork id run effects with
        incoming := Function.update playback.incoming id rest }
  | serves {id : WorkerId} {frame : Frame} {rest : List Frame} {nonce : List Char} {server : Server}
      {stage : SessionStage} {answer : SessionAnswer}
      (coming : playback.outgoing id = frame :: rest)
      (served : Session.receive playback.server (Session.openingStage playback.server) nonce frame =
        (server, stage, answer)) :
      Step playback [] { playback with
        server := server
        outgoing := Function.update playback.outgoing id rest
        incoming := Function.update playback.incoming id (playback.incoming id ++ answer.frames) }

/-- Some steps one after another, and what the workers do in them. -/
inductive Leads (first : Playback) : Run.Effects → Playback → Prop
  | nowhere : Leads first [] first
  | on {effects new : Run.Effects} {playback after : Playback}
      (leads : Leads first effects playback) (step : Step playback new after) :
      Leads first (effects ++ new) after

end Playback

/-- A measure of what a playback with one worker still has to do. -/
def Playback.rank (playback : Playback) (worker : Worker) : Nat :=
  1000 * playback.ahead.length + playback.run.rank worker + (playback.outgoing 0).length

theorem Run.RouterStep.routing {run after : Run} {action : RouterAction}
    (step : Run.RouterStep run action after) (inner : ∀ item, action ≠ .next item)
    (going : after.router.isStopped = false) : after.isRouting = run.isRouting := by
  cases step with
  | stops | breaksOff | meetsFailure | givesUp | breaksOffLate | settlesStopped => cases going
  | draws | meetsEnd => exact absurd rfl (inner _)
  | @looks mode phase | @looksAgain mode phase | @notes mode _ _ _ phase =>
    cases mode <;> simp only [Run.isRouting, phase]
  | joins phase =>
    rcases phase with ⟨mode, phase, rfl⟩ | ⟨fault, phase, rfl⟩
    · cases mode <;> simp only [Run.isRouting, phase]
    · cases going
  | opens phase | replaces phase | delivers phase | settles phase =>
    simp only [Run.isRouting, Run.openWorker, phase]

variable {rho : Int64 → Int64} {settings : RunSettings} {lane : LaneId} {exchanges : List Exchange}

/-- How far the replay of a recording has come: the requests played so far have their stat records,
    and the worker and the server are ready to play the rest. -/
structure Replays (rho : Int64 → Int64) (settings : RunSettings) (lane : LaneId)
    (exchanges : List Exchange) (effects : Run.Effects) (playback : Playback) (worker : Worker)
    (played left : List Exchange) (now : Server) (answers : List Frame) : Prop where
  solo : Run.Solo settings lane playback.run worker
  split : exchanges = played ++ left
  told : Agree .empty played (Run.allStats effects)
  recording : Recording rho lane (Server.empty.afterAll played) left
  renames : Renames rho (Server.empty.afterAll played) left
  stage : Stage rho lane (Server.empty.afterAll played) worker left
    (worker.queue ++ (playback.run.router.inHand ++ playback.ahead)) now answers
  lanes : ∀ record ∈ worker.queue ++ (playback.run.router.inHand ++ playback.ahead),
    record.lane = lane
  drained : playback.run.isRouting = false → playback.ahead = []
  converses : Converses playback.server (playback.outgoing 0) (playback.incoming 0) now answers
  alone : ∀ id, id ≠ 0 → playback.outgoing id = []

def Replaying (rho : Int64 → Int64) (settings : RunSettings) (lane : LaneId)
    (exchanges : List Exchange) (effects : Run.Effects) (playback : Playback) (worker : Worker) :
    Prop :=
  ∃ played left now answers,
    Replays rho settings lane exchanges effects playback worker played left now answers

theorem Recording.tape_lane {server : Server} (recording : Recording rho lane server exchanges) :
    ∀ record ∈ tapeOf exchanges, record.lane = lane := by
  induction recording with
  | nothing => exact nofun
  | first recorded _ ih =>
    intro record member
    rw [tapeOf, List.flatMap_cons] at member
    rcases List.mem_append.mp member with own | later
    · exact recorded.travels record own
    · exact ih record later

theorem Replays.start (recording : Recording rho lane .empty exchanges)
    (renames : Renames rho .empty exchanges) (lenient : settings.lane.Lenient)
    (scope : settings.scope = .lane) (room : 0 < settings.laneLimit) :
    Replays rho settings lane exchanges [] (.start (.start settings .fresh) (tapeOf exchanges))
      (.opened lane settings.scope none) [] exchanges .empty [] where
  solo := .start lenient room
  split := rfl
  told := .nothing
  recording := recording
  renames := renames
  stage := by
    rw [scope]
    exact .rests rfl (.fresh rho)
  lanes := recording.tape_lane
  drained := nofun
  converses := .silence ⟨rfl, rfl, rfl⟩
  alone _ _ := rfl

namespace Replays

variable {effects new : Run.Effects} {playback after : Playback} {worker : Worker}
  {played left : List Exchange} {now : Server} {answers : List Frame} {run : Run}

theorem routes
    (replays : Replays rho settings lane exchanges effects playback worker played left now answers)
    {action : RouterAction} {rest : List Record}
    (step : playback.run.routerStep? action = some run)
    (whole : ∀ text, action ≠ .next (.failure text))
    (drawn : streamed [.router action] ++ rest = playback.ahead)
    (drained : run.isRouting = false → run.router.isStopped = false → rest = []) :
    ∃ later, Run.Routed settings lane playback.run worker action run later ∧
      Replays rho settings lane exchanges effects { playback with run := run, ahead := rest } later
        played left now answers := by
  have held : ∀ record ∈ playback.run.router.inHand, record.lane = lane := fun record member =>
    replays.lanes record (List.mem_append_right _ (List.mem_append_left _ member))
  have going : playback.run.router.inHand ≠ [] → worker.phase ≠ .ended := by
    intro some ended
    obtain ⟨_, nothing⟩ := replays.stage.of_ended ended
    exact some (List.append_eq_nil_iff.mp (List.append_eq_nil_iff.mp nothing).2).1
  obtain ⟨later, routed⟩ := replays.solo.routes (Run.routerStep_of_step? step) held going whole
  have queue : later.queue ++ (run.router.inHand ++ rest) =
      worker.queue ++ (playback.run.router.inHand ++ playback.ahead) := by
    rw [← List.append_assoc, routed.queue, ← drawn]
    simp only [List.append_assoc]
  refine ⟨later, routed, { replays with
    solo := routed.solo
    stage := ?_
    lanes := ?_
    drained := fun unrouted => drained unrouted routed.solo.unstopped }⟩
  · dsimp only
    rw [queue, routed.same]
    exact replays.stage.requeue _
  · dsimp only
    rw [queue]
    exact replays.lanes

theorem draws
    (replays : Replays rho settings lane exchanges effects playback worker played left now answers)
    (step : playback.run.routerStep? (.next (Playback.upcoming playback.ahead)) = some run)
    (drawn : after = { playback with run := run, ahead := playback.ahead.tail }) :
    ∃ later, Replaying rho settings lane exchanges effects after later ∧
      after.rank later < playback.rank worker := by
  subst drawn
  have whole : ∀ text, RouterAction.next (Playback.upcoming playback.ahead) ≠
      .next (.failure text) := by
    intro text
    cases playback.ahead <;> exact nofun
  have drawn : streamed [.router (.next (Playback.upcoming playback.ahead))] ++
      playback.ahead.tail = playback.ahead := by
    cases playback.ahead <;> rfl
  have drained : run.isRouting = false → run.router.isStopped = false →
      playback.ahead.tail = [] := by
    intro unrouted _
    generalize playback.ahead = ahead at step
    cases ahead with
    | nil => rfl
    | cons record rest =>
      cases Run.routerStep_of_step? step with
      | draws => cases unrouted
  obtain ⟨later, routed, still⟩ := replays.routes step whole drawn drained
  refine ⟨later, ⟨played, left, now, answers, still⟩, ?_⟩
  have lower := routed.lower nofun
  have count := congrArg List.length drawn
  rw [List.length_append] at count
  simp only [Playback.rank]
  omega

theorem turns
    (replays : Replays rho settings lane exchanges effects playback worker played left now answers)
    {action : RouterAction} (inner : ∀ item, action ≠ .next item)
    (step : playback.run.routerStep? action = some run)
    (turned : after = { playback with run := run }) :
    ∃ later, Replaying rho settings lane exchanges effects after later ∧
      (action ≠ .again → after.rank later < playback.rank worker) := by
  subst turned
  have nothing : streamed [.router action] = [] := by
    cases action with
    | next item => exact absurd rfl (inner item)
    | _ => rfl
  have drained : run.isRouting = false → run.router.isStopped = false → playback.ahead = [] := by
    intro unrouted going
    rw [(Run.routerStep_of_step? step).routing inner going] at unrouted
    exact replays.drained unrouted
  obtain ⟨later, routed, still⟩ := replays.routes step (fun text => inner _)
    (by rw [nothing]; rfl) drained
  refine ⟨later, ⟨played, left, now, answers, still⟩, fun again => ?_⟩
  have lower := routed.lower again
  rw [nothing] at lower
  simp only [Playback.rank]
  simp only [List.length_nil] at lower
  omega

theorem works
    (replays : Replays rho settings lane exchanges effects playback worker played left now answers)
    {reading : Reading} {id : WorkerId} {action : WorkerAction} {outcome : Worker.Outcome}
    {expected : List Frame}
    (worked : Run.Worked settings lane playback.run worker reading id action run new outcome)
    (proceeds : Proceeds rho lane (Server.empty.afterAll played) left
      (playback.run.router.inHand ++ playback.ahead) now expected outcome)
    (ran : after.run = run) (ahead : after.ahead = playback.ahead)
    (outgoing : after.outgoing = (playback.afterWork id run new).outgoing)
    (converses : Converses after.server (playback.outgoing 0) (after.incoming 0) now expected) :
    ∃ later, Replaying rho settings lane exchanges (effects ++ new) after later ∧
      (action.isDecisive worker.phase → after.rank later < playback.rank worker) := by
  obtain rfl := worked.only
  have router : after.run.router = playback.run.router := by rw [ran, worked.after_eq]
  have done : new.map Prod.snd = outcome.2.2 := by
    rw [worked.effects_eq, List.map_map]
    exact List.map_id _
  have stats : Run.allStats (effects ++ new) = Run.allStats effects ++ reported outcome.2.2 := by
    simp only [Run.allStats, List.map_append, done, reported_append]
  have own : after.outgoing 0 = playback.outgoing 0 ++ transmitted outcome.2.2 := by
    rw [outgoing, Playback.afterWork, done]
    exact Function.update_self (0 : Nat) _ playback.outgoing
  have alone : ∀ id, id ≠ 0 → after.outgoing id = [] := by
    intro id other
    rw [outgoing, Playback.afterWork]
    simp only [Function.update_of_ne other]
    exact replays.alone id other
  have lanes : ∀ record ∈ outcome.1.queue ++ (playback.run.router.inHand ++ playback.ahead),
      record.lane = lane := by
    intro record member
    refine replays.lanes record ?_
    rw [worked.step.queue, List.append_assoc]
    exact List.mem_append_right _ member
  have drained : after.run.isRouting = false → after.ahead = [] := by
    rw [ahead, Run.isRouting, router]
    exact replays.drained
  have lower : (transmitted outcome.2.2).length ≤ 1 → action.isDecisive worker.phase →
      after.rank outcome.1 < playback.rank worker := by
    intro few decisive
    have run_lower := worked.lower decisive
    simp only [Playback.rank, ran, ahead, own, List.length_append]
    omega
  cases proceeds with
  | @tells server rest tells sends stage =>
    obtain ⟨more, split, rfl, told⟩ := tells.extends replays.told
    refine ⟨outcome.1, ⟨played ++ more, rest, now, expected, ran ▸ worked.solo stage.isPlain, ?_,
      stats ▸ told, tells.recording replays.recording, tells.renames replays.renames, ?_, ?_,
      drained, ?_, alone⟩, lower (by simp [sends])⟩
    · rw [replays.split, split, List.append_assoc]
    · rw [router, ahead]
      exact stage
    · rw [router, ahead]
      exact lanes
    · rw [own, sends, List.append_nil]
      exact converses
  | @sends sent later coming silent sends idle stage served =>
    obtain ⟨rfl, rfl⟩ := idle
    refine ⟨outcome.1, ⟨played, left, later, coming, ran ▸ worked.solo stage.isPlain,
      replays.split, ?_, replays.recording, replays.renames, ?_, ?_, drained, ?_, alone⟩,
      lower (by simp [sends])⟩
    · rw [stats, silent, List.append_nil]
      exact replays.told
    · rw [router, ahead]
      exact stage
    · rw [router, ahead]
      exact lanes
    · rw [own, sends]
      exact converses.sends served

theorem fed
    (replays : Replays rho settings lane exchanges effects playback worker played left now answers)
    (staff : playback.run.workers = [worker]) (reading : Reading)
    (unfed : (playback.run.surroundings reading 0 worker).fed = false) :
    playback.run.router.inHand ++ playback.ahead = [] := by
  have unrouted : playback.run.isRouting = false := (replays.solo.isFed staff).symm.trans unfed
  have hand : playback.run.router.inHand = [] := by
    generalize at_phase : playback.run.router = phase
    cases phase with
    | delivering record => simp [Run.isRouting, at_phase] at unrouted
    | _ => rfl
  rw [hand, replays.drained unrouted]
  rfl

theorem smooth
    (replays : Replays rho settings lane exchanges effects playback worker played left now answers)
    {reading : Reading} {id : WorkerId} {action : WorkerAction} {server : Server}
    (smooth : action.isSmooth = true)
    (step : playback.run.step? reading (.worker id action) = some (run, new))
    (converses : Converses server (playback.outgoing 0) (playback.incoming 0) now answers)
    (moved : after = { playback.afterWork id run new with server := server }) :
    ∃ later, Replaying rho settings lane exchanges (effects ++ new) after later ∧
      (action.isDecisive worker.phase → after.rank later < playback.rank worker) := by
  subst moved
  obtain ⟨staff, reading, outcome, worked⟩ := replays.solo.works (.inl smooth) step
  obtain rfl := worked.only
  have surrounded := replays.solo.surrounded reading 0
  have proceeds := replays.stage.proceeds surrounded (replays.fed staff reading)
    replays.solo.on_lane replays.renames replays.recording
    (worked.step.smooth surrounded replays.solo.plain smooth)
  exact replays.works worked proceeds rfl rfl rfl converses

theorem receives
    (replays : Replays rho settings lane exchanges effects playback worker played left now answers)
    {reading : Reading} {id : WorkerId} {frame : Frame} {rest : List Frame}
    (coming : playback.incoming id = frame :: rest)
    (step : playback.run.step? reading (.worker id (.received frame)) = some (run, new))
    (received : after = { playback.afterWork id run new with
      incoming := Function.update playback.incoming id rest }) :
    ∃ later, Replaying rho settings lane exchanges (effects ++ new) after later ∧
      (WorkerAction.isDecisive worker.phase (.received frame) →
        after.rank later < playback.rank worker) := by
  subst received
  obtain ⟨staff, reading, outcome, worked⟩ := replays.solo.works (.inr ⟨frame, rfl⟩) step
  obtain rfl := worked.only
  have converses := replays.converses
  rw [coming] at converses
  obtain ⟨more, expected, heard⟩ := converses.hears
  have stage := replays.stage
  rw [expected] at stage
  have proceeds := stage.hears (replays.solo.surrounded reading 0).lenient replays.solo.on_lane
    replays.renames worked.step
  refine replays.works worked proceeds rfl rfl rfl ?_
  dsimp only
  rw [Function.update_self]
  exact heard

theorem serves
    (replays : Replays rho settings lane exchanges effects playback worker played left now answers)
    {id : WorkerId} {frame : Frame} {rest : List Frame} {nonce : List Char} {server : Server}
    {stage : SessionStage} {answer : SessionAnswer} (coming : playback.outgoing id = frame :: rest)
    (served : Session.receive playback.server (Session.openingStage playback.server) nonce frame =
      (server, stage, answer))
    (answered : after = { playback with
      server := server
      outgoing := Function.update playback.outgoing id rest
      incoming := Function.update playback.incoming id (playback.incoming id ++ answer.frames) }) :
    Replaying rho settings lane exchanges effects after worker ∧
      after.rank worker < playback.rank worker := by
  subst answered
  have own : id = 0 := by
    by_contra other
    rw [replays.alone id other] at coming
    cases coming
  subst own
  have converses := replays.converses
  rw [coming] at converses
  obtain ⟨_, _, made, answered⟩ := Server.receive_willing converses.willing nonce frame
  rw [served] at made
  cases made
  refine ⟨⟨played, left, now, answers, { replays with
    converses := ?_
    alone := fun id other => ?_ }⟩, ?_⟩
  · simp only [Function.update_self]
    have later := converses.serves
    rw [answered] at later
    exact later
  · simp only [Function.update_of_ne other]
    exact replays.alone id other
  · simp [Playback.rank, coming]

end Replays

variable {effects new : Run.Effects} {playback after : Playback} {worker : Worker}

/-- Every step of a playback takes the replay on. -/
theorem Replaying.step
    (replaying : Replaying rho settings lane exchanges effects playback worker)
    (step : playback.Step new after) :
    ∃ later, Replaying rho settings lane exchanges (effects ++ new) after later := by
  obtain ⟨played, left, now, answers, replays⟩ := replaying
  cases step with
  | draws step =>
    obtain ⟨later, still, _⟩ := replays.draws step rfl
    rw [List.append_nil]
    exact ⟨later, still⟩
  | routes inner step =>
    obtain ⟨later, still, _⟩ := replays.turns inner step rfl
    rw [List.append_nil]
    exact ⟨later, still⟩
  | connects welcome step =>
    have takes := replays.converses.willing.takes
    rw [Server.connect?, if_neg (by simp [takes])] at welcome
    cases welcome
    obtain ⟨later, still, _⟩ := replays.smooth rfl step (replays.converses.connects _) rfl
    exact ⟨later, still⟩
  | works inner step =>
    obtain ⟨later, still, _⟩ := replays.smooth inner.1 step replays.converses rfl
    exact ⟨later, still⟩
  | receives coming step =>
    obtain ⟨later, still, _⟩ := replays.receives coming step rfl
    exact ⟨later, still⟩
  | serves coming served =>
    obtain ⟨still, _⟩ := replays.serves coming served rfl
    rw [List.append_nil]
    exact ⟨worker, still⟩

/-- However the steps of a playback interleave, the replay of a recording goes on. -/
theorem Playback.Leads.replaying (recording : Recording rho lane .empty exchanges)
    (renames : Renames rho .empty exchanges) (lenient : settings.lane.Lenient)
    (scope : settings.scope = .lane) (room : 0 < settings.laneLimit)
    (leads : (Playback.start (.start settings .fresh) (tapeOf exchanges)).Leads effects playback) :
    ∃ worker, Replaying rho settings lane exchanges effects playback worker := by
  induction leads with
  | nowhere => exact ⟨_, [], exchanges, .empty, [], .start recording renames lenient scope room⟩
  | on _ step ih =>
    obtain ⟨worker, replaying⟩ := ih
    exact replaying.step step

end TrafficReplay
