import TrafficReplay.Proofs.Lane.Recording
import TrafficReplay.Proofs.Lane.Smooth

namespace TrafficReplay

/-- A stat record says of a request what the recorded reply says, and that its cursors were missed if
    the recorded server had not got them open. -/
structure Exchange.Describes (server : Server) (exchange : Exchange) (stat : Stat) : Prop where
  of_outcome : ∃ seq outcome,
    stat = .ofOutcome exchange.request.lane seq exchange.request outcome ∧
    outcome.numReturned = exchange.summary.numberReturned ∧
    outcome.error = (if exchange.summary.failed then some .serverError else none) ∧
    outcome.miss = exchange.isStale server

/-- One stat record for each request, in order. -/
inductive Agree : Server → List Exchange → List Stat → Prop
  | nothing {server : Server} : Agree server [] []
  | first {server : Server} {exchange : Exchange} {stat : Stat} {more : List Exchange}
      {stats : List Stat} (describes : exchange.Describes server stat)
      (rest : Agree (server.handle exchange.asked).1 more stats) :
      Agree server (exchange :: more) (stat :: stats)

def Server.afterAll (server : Server) : List Exchange → Server
  | [] => server
  | exchange :: more => (server.handle exchange.asked).1.afterAll more

inductive Tells (rho : Int64 → Int64) (lane : LaneId) (server : Server) (exchanges : List Exchange) :
    List Stat → Server → List Exchange → Prop
  | nothing : Tells rho lane server exchanges [] server exchanges
  | one {exchange : Exchange} {more : List Exchange} {after : Server} {stat : Stat}
      (next : exchanges = exchange :: more) (recorded : exchange.Recorded rho lane server after)
      (describes : exchange.Describes server stat) :
      Tells rho lane server exchanges [stat] after more

def tapeOf (exchanges : List Exchange) : List Record := exchanges.flatMap Exchange.tape

/-- Once a recorded reply that is due is looked at, the memory mirrors a server. -/
def LaneMemory.Settles (memory : LaneMemory) (rho : Int64 → Int64) (owed : Option Record)
    (server : Server) : Prop :=
  match owed with
  | none => memory.Mirrors rho server
  | some reply => ∀ common owner, (memory.correlate common owner reply.frame).1.Mirrors rho server

/-- How far a worker has come: the recorded server before the requests that are still to be played,
    the records that will come to the worker, the recorded server after everything sent so far, and
    the answers that are still to be read. -/
inductive Stage (rho : Int64 → Int64) (lane : LaneId) (server : Server) (worker : Worker) :
    List Exchange → List Record → Server → List Frame → Prop
  | free {exchanges : List Exchange} {owed : Option Record} (phase : worker.phase.isFree = true)
      (response : ∀ reply, owed = some reply → reply.isResponse = true)
      (memory : worker.memory.Settles rho owed server) :
      Stage rho lane server worker exchanges (owed.toList ++ tapeOf exchanges) server []
  | recalls {exchanges : List Exchange} {reply : Record} (phase : worker.phase = .holding reply)
      (response : reply.isResponse = true)
      (memory : worker.memory.Settles rho (some reply) server) :
      Stage rho lane server worker exchanges (tapeOf exchanges) server []
  | takes {exchange : Exchange} {more : List Exchange} {after : Server}
      (phase : worker.phase = .holding exchange.request ∨
        worker.phase = .pacing exchange.request ∨ worker.phase = .due exchange.request)
      (recorded : exchange.Recorded rho lane server after)
      (memory : worker.memory.Mirrors rho server) :
      Stage rho lane server worker (exchange :: more) (exchange.reply.toList ++ tapeOf more)
        server []
  | asks {exchange : Exchange} {more : List Exchange} {after : Server} {answered : Option Frame}
      {issue : Issue}
      (phase : (∃ unsent, worker.phase = .sending issue unsent) ∨
        worker.phase = .awaiting issue ∧ answered.isSome)
      (record : issue.record = exchange.request) (miss : issue.miss = exchange.isStale server)
      (recorded : exchange.Recorded rho lane server after)
      (handled : server.handle exchange.asked = (after, .ok answered))
      (memory : worker.memory.Mirrors rho server) :
      Stage rho lane server worker (exchange :: more) (exchange.reply.toList ++ tapeOf more)
        after answered.toList
  | ends (phase : worker.phase = .closing .done ∨ worker.phase = .leaving .done ∨
        worker.phase = .concluding .done ∨ worker.phase = .ended) :
      Stage rho lane server worker [] [] server []

/-- What a step of a worker brings about: it sends nothing and may emit a stat record, or it sends a
    request that a server with the right data answers rightly. -/
inductive Proceeds (rho : Int64 → Int64) (lane : LaneId) (server : Server)
    (exchanges : List Exchange) (away : List Record) (now : Server) (answers : List Frame)
    (outcome : Worker.Outcome) : Prop
  | tells {after : Server} {left : List Exchange}
      (tells : Tells rho lane server exchanges (reported outcome.2.2) after left)
      (sends : transmitted outcome.2.2 = [])
      (stage : Stage rho lane after outcome.1 left (outcome.1.queue ++ away) now answers)
  | sends {sent : Frame} {later : Server} {coming : List Frame}
      (silent : reported outcome.2.2 = []) (sends : transmitted outcome.2.2 = [sent])
      (idle : now = server ∧ answers = [])
      (stage : Stage rho lane server outcome.1 exchanges (outcome.1.queue ++ away) later coming)
      (served : ∀ live : Server, live.Resembles server → live.silent = false →
        (live.serve sent).1.Resembles later ∧ (live.serve sent).2 = coming)

variable {rho : Int64 → Int64} {lane : LaneId} {server now : Server} {exchanges : List Exchange}
  {away : List Record} {answers : List Frame} {around : Surroundings} {worker : Worker}
  {shared : Shared} {action : WorkerAction} {outcome : Worker.Outcome}

theorem Server.afterAll_concat (server : Server) (played : List Exchange) (exchange : Exchange) :
    server.afterAll (played ++ [exchange]) =
      ((server.afterAll played).handle exchange.asked).1 := by
  induction played generalizing server with
  | nil => rfl
  | cons first more ih => exact ih _

theorem Agree.concat {played : List Exchange} {stats : List Stat} {exchange : Exchange} {stat : Stat}
    (agree : Agree server played stats) (describes : exchange.Describes (server.afterAll played) stat) :
    Agree server (played ++ [exchange]) (stats ++ [stat]) := by
  induction agree with
  | nothing => exact .first describes .nothing
  | first head _ ih => exact .first head (ih describes)

def expectation : Server → List Exchange → List (Int32 × Option OpError × Bool)
  | _, [] => []
  | server, exchange :: more =>
    (exchange.summary.numberReturned, if exchange.summary.failed then some .serverError else none,
      exchange.isStale server) :: expectation (server.handle exchange.asked).1 more

theorem Agree.expected {stats : List Stat} (agree : Agree server exchanges stats) :
    stats.map (fun stat => (stat.numReturned, stat.error, stat.miss)) =
      expectation server exchanges := by
  induction agree with
  | nothing => rfl
  | first describes _ ih =>
    obtain ⟨seq, outcome, rfl, returned, error, miss⟩ := describes
    rw [List.map_cons, ih, expectation, ← returned, ← error, ← miss]
    rfl

theorem Tells.extends {first after : Server} {played left rest : List Exchange}
    {stats new : List Stat} (tells : Tells rho lane (first.afterAll played) left new after rest)
    (agree : Agree first played stats) : ∃ more, left = more ++ rest ∧
      after = first.afterAll (played ++ more) ∧ Agree first (played ++ more) (stats ++ new) := by
  cases tells with
  | nothing => exact ⟨[], rfl, by rw [List.append_nil], by rwa [List.append_nil, List.append_nil]⟩
  | @one exchange _ _ stat next recorded describes =>
    refine ⟨[exchange], next, ?_, agree.concat describes⟩
    rw [Server.afterAll_concat, recorded.after_eq]

theorem Tells.recording {after : Server} {rest : List Exchange} {new : List Stat}
    (tells : Tells rho lane server exchanges new after rest)
    (recording : Recording rho lane server exchanges) : Recording rho lane after rest := by
  cases tells with
  | nothing => exact recording
  | one next recorded =>
    subst next
    cases recording with
    | first again rest => exact recorded.after_eq.symm.trans again.after_eq ▸ rest

theorem Tells.renames {after : Server} {rest : List Exchange} {new : List Stat}
    (tells : Tells rho lane server exchanges new after rest)
    (renames : Renames rho server exchanges) : Renames rho after rest := by
  cases tells with
  | nothing => exact renames
  | one next recorded =>
    subst next
    exact renames.rest recorded

theorem Proceeds.still (reports : reported outcome.2.2 = []) (sends : transmitted outcome.2.2 = [])
    (stage : Stage rho lane server outcome.1 exchanges (outcome.1.queue ++ away) now answers) :
    Proceeds rho lane server exchanges away now answers outcome :=
  .tells (by rw [reports]; exact .nothing) sends stage

theorem Stage.isPlain {upcoming : List Record}
    (stage : Stage rho lane server worker exchanges upcoming now answers) :
    worker.phase.isPlain = true := by
  cases stage with
  | free phase =>
    unfold WorkerPhase.isPlain
    split <;> first | rfl | exact phase
  | recalls phase => rw [phase]; rfl
  | takes phase => rcases phase with phase | phase | phase <;> rw [phase] <;> rfl
  | asks phase => rcases phase with ⟨_, phase⟩ | ⟨phase, _⟩ <;> rw [phase] <;> rfl
  | ends phase => rcases phase with phase | phase | phase | phase <;> rw [phase] <;> rfl

theorem Stage.of_queue {upcoming : List Record}
    (stage : Stage rho lane server worker exchanges upcoming now answers)
    (queue : worker.queue ++ away = upcoming) :
    Stage rho lane server worker exchanges (worker.queue ++ away) now answers := queue ▸ stage

theorem Stage.rests (phase : worker.phase.isFree = true)
    (memory : worker.memory.Mirrors rho server) :
    Stage rho lane server worker exchanges (tapeOf exchanges) server [] :=
  @Stage.free rho lane server worker exchanges none phase nofun memory

theorem Stage.requeue {upcoming : List Record}
    (stage : Stage rho lane server worker exchanges upcoming now answers) (queue : List Record) :
    Stage rho lane server { worker with queue := queue } exchanges upcoming now answers := by
  cases stage with
  | free phase response memory => exact .free phase response memory
  | recalls phase response memory => exact .recalls phase response memory
  | takes phase recorded memory => exact .takes phase recorded memory
  | asks phase record miss recorded handled memory =>
    exact .asks phase record miss recorded handled memory
  | ends phase => exact .ends phase

theorem Stage.of_ended {upcoming : List Record}
    (stage : Stage rho lane server worker exchanges upcoming now answers)
    (ended : worker.phase = .ended) : exchanges = [] ∧ upcoming = [] := by
  cases stage with
  | ends => exact ⟨rfl, rfl⟩
  | free phase =>
    rw [ended] at phase
    cases phase
  | recalls phase => exact absurd (ended.symm.trans phase) nofun
  | takes phase => rcases phase with phase | phase | phase <;> exact absurd (ended.symm.trans phase) nofun
  | asks phase =>
    rcases phase with ⟨_, phase⟩ | ⟨phase, _⟩ <;> exact absurd (ended.symm.trans phase) nofun

theorem Stage.nothing_left (stage : Stage rho lane server worker exchanges [] now answers)
    (phase : worker.phase.isFree = true) : exchanges = [] := by
  generalize none_coming : ([] : List Record) = upcoming at stage
  cases stage with
  | free =>
    obtain ⟨_, none⟩ := List.append_eq_nil_iff.mp none_coming.symm
    cases exchanges with
    | nil => rfl
    | cons exchange more => cases none
  | ends => rfl
  | recalls at_phase =>
    rw [at_phase] at phase
    cases phase
  | takes at_phase =>
    rcases at_phase with at_phase | at_phase | at_phase <;> rw [at_phase] at phase <;> cases phase
  | asks at_phase =>
    rcases at_phase with ⟨_, at_phase⟩ | ⟨at_phase, _⟩ <;> rw [at_phase] at phase <;> cases phase

theorem proceeds_free {owed : Option Record}
    (undisturbed : worker.Undisturbed around.settings shared) (fed : around.fed = false → away = [])
    (recording : Recording rho lane server exchanges)
    (phase : worker.phase.isFree = true)
    (response : ∀ reply, owed = some reply → reply.isResponse = true)
    (memory : worker.memory.Settles rho owed server)
    (queue : worker.queue ++ away = owed.toList ++ tapeOf exchanges)
    (step : Worker.Smooth around worker shared action outcome) :
    Proceeds rho lane server exchanges away server [] outcome := by
  cases step with
  | roams was is reports sends =>
    refine .still reports sends (Stage.of_queue ?_ queue)
    exact .free is response memory
  | runsOut was starved =>
    obtain ⟨empty, unfed⟩ := Worker.isStarved_iff.mp starved
    have going : worker.phase ≠ .ended := by
      intro ended
      rw [ended] at was
      cases was
    rw [empty, fed (unfed (undisturbed.accepting going))] at queue
    obtain ⟨none, no_tape⟩ := List.append_eq_nil_iff.mp queue.symm
    have finished : exchanges = [] := by
      cases exchanges with
      | nil => rfl
      | cons exchange more => cases no_tape
    subst finished
    refine .still rfl rfl (Stage.of_queue (.ends (.inl rfl)) ?_)
    rw [fed (unfed (undisturbed.accepting going)), List.append_nil]
    exact empty
  | @takes record rest was held =>
    rw [held] at queue
    cases owed with
    | some reply =>
      obtain ⟨rfl, tail⟩ := List.cons.inj queue
      refine .still rfl rfl (Stage.of_queue ?_ tail)
      exact .recalls rfl (response record rfl) memory
    | none =>
      cases recording with
      | nothing => cases queue
      | @first _ after exchange more recorded =>
        obtain ⟨rfl, tail⟩ := List.cons.inj queue
        refine .still rfl rfl (Stage.of_queue ?_ tail)
        exact .takes (.inl rfl) recorded memory
  | correlates was | withholds was | transmits was | writes was | awaits was | plays was =>
    rw [was] at phase
    cases phase
  | bides was => rcases was with ⟨was, _⟩ | was <;> rw [was] at phase <;> cases phase
  | ends was => rcases was with was | was | was <;> rw [was] at phase <;> cases phase

theorem Exchange.Recorded.answered_iff {exchange : Exchange} {after : Server}
    {answered : Option Frame} (recorded : exchange.Recorded rho lane server after)
    (handled : server.handle exchange.asked = (after, .ok answered)) :
    answered.isSome = exchange.request.frame.opCode.expectsReply := by
  rw [recorded.same.opCode]
  cases Server.handle_handling handled with
  | keepsSilent code => rw [code]; rfl
  | kills code => rw [code]; rfl
  | answers code => rw [code]; rfl
  | continues code => rw [code]; rfl

/-- A worker whose request is due sends it, and a server with the right data answers it rightly. -/
theorem proceeds_due {exchange : Exchange} {more : List Exchange} {after : Server} {frame : Frame}
    {miss : Bool} {issue : Issue} {sender : Worker}
    (undisturbed : worker.Undisturbed around.settings shared)
    (renames : Renames rho server (exchange :: more))
    (recorded : exchange.Recorded rho lane server after) (memory : worker.memory.Mirrors rho server)
    (queue : worker.queue ++ away = exchange.reply.toList ++ tapeOf more)
    (prepared : worker.memory.prepare shared.common around.settings.onMiss exchange.request.frame =
      ⟨.ok frame, miss⟩)
    (issued : issue.record = exchange.request ∧ issue.miss = miss)
    (is : sender.phase = .sending issue frame.bytes) (held : sender.queue = worker.queue)
    (home : sender.memory.home = worker.memory.home)
    (live : sender.memory.liveCursors = worker.memory.liveCursors) :
    Proceeds rho lane server (exchange :: more) away server []
      (sender, shared, [.transmits exchange.request frame]) := by
  obtain ⟨sent, others, made, alike, named, same_open⟩ :=
    memory.prepare renames recorded shared.common
  rw [undisturbed.lenient.passes, made] at prepared
  cases prepared
  obtain ⟨answered, handled, _⟩ := recorded.handled
  have stage : Stage rho lane server sender (exchange :: more) (sender.queue ++ away) after
      answered.toList := by
    refine Stage.of_queue ?_ (held ▸ queue)
    exact .asks (.inl ⟨_, is⟩) issued.1 issued.2 recorded handled (memory.of_same home live)
  refine .sends rfl rfl ⟨rfl, rfl⟩ stage ?_
  intro live resembles heard
  obtain ⟨later, served, still⟩ := resembles.handle_sameOpen alike recorded.code_ne_reply
    recorded.named_eq named same_open handled
  rw [Server.serve_of_handle served heard]
  exact ⟨still, rfl⟩

theorem proceeds_played {exchange : Exchange} {more : List Exchange} {after : Server}
    {issue : Issue} {played : OpOutcome} {sender : Worker} {later : Shared} {seq : Nat}
    (renames : Renames rho server (exchange :: more))
    (recorded : exchange.Recorded rho lane server after)
    (handled : server.handle exchange.asked = (after, .ok none))
    (memory : worker.memory.Mirrors rho server) (on_lane : worker.lane = lane)
    (queue : worker.queue ++ away = exchange.reply.toList ++ tapeOf more)
    (record : issue.record = exchange.request) (miss : issue.miss = exchange.isStale server)
    (told : played.numReturned = 0 ∧ played.error = none ∧ played.miss = issue.miss)
    (is : sender.phase = .polling) (held : sender.queue = worker.queue)
    (home : sender.memory.home = (worker.afterSending shared.common issue.record.frame).1.home)
    (live : sender.memory.liveCursors =
      (worker.afterSending shared.common issue.record.frame).1.liveCursors) :
    Proceeds rho lane server (exchange :: more) away after []
      (sender, later, [.reports (.ofOutcome worker.lane seq issue.record played)]) := by
  rw [record] at home live ⊢
  have unanswered := recorded.reply_eq_none handled
  have told_memory := memory.plays renames recorded handled shared.common
  have describes : exchange.Describes server
      (.ofOutcome worker.lane seq exchange.request played) := by
    refine ⟨seq, played, by rw [recorded.request_lane, on_lane], ?_, ?_, ?_⟩
    · rw [told.1, Exchange.summary, unanswered]
    · rw [told.2.1, Exchange.summary, unanswered]
      rfl
    · rw [told.2.2, miss]
  have stage : Stage rho lane after sender more (sender.queue ++ away) after [] := by
    refine Stage.of_queue (.rests (by rw [is]; rfl) (told_memory.of_same home live)) ?_
    rw [held, queue, unanswered]
    rfl
  exact .tells (.one rfl recorded describes) rfl stage

/-- A smooth step of a worker that replays a recording takes the replay on. -/
theorem Stage.proceeds (stage : Stage rho lane server worker exchanges (worker.queue ++ away) now answers)
    (undisturbed : worker.Undisturbed around.settings shared) (fed : around.fed = false → away = [])
    (on_lane : worker.lane = lane) (renames : Renames rho server exchanges)
    (recording : Recording rho lane server exchanges)
    (step : Worker.Smooth around worker shared action outcome) :
    Proceeds rho lane server exchanges away now answers outcome := by
  generalize queue : worker.queue ++ away = upcoming at stage
  cases stage with
  | free phase response memory =>
    exact proceeds_free undisturbed fed recording phase response memory queue step
  | @recalls _ reply phase response memory =>
    cases step with
    | @correlates record _ effects was _ reports sends =>
      rw [phase] at was
      cases was
      refine .still reports sends (Stage.of_queue ?_ queue)
      exact .rests rfl (memory _ _)
    | _ => simp_all [WorkerPhase.isFree]
  | @takes exchange more after phase recorded memory =>
    have only : ∀ {record}, worker.phase = .holding record ∨ worker.phase = .pacing record ∨
        worker.phase = .due record → record = exchange.request := by
      intro record was
      rcases phase with phase | phase | phase <;> simp_all
    cases step with
    | @bides _ record _ _ was is reports sends =>
      obtain rfl := only (was.imp And.left .inl)
      refine .still reports sends (Stage.of_queue ?_ queue)
      exact .takes (.inr is) recorded memory
    | withholds was prepared =>
      obtain rfl := only (.inr (.inr was))
      obtain ⟨sent, _, made, _⟩ := memory.prepare renames recorded shared.common
      rw [undisturbed.lenient.passes, made] at prepared
      cases prepared
    | transmits was prepared issued is held home live =>
      obtain rfl := only (.inr (.inr was))
      exact proceeds_due undisturbed renames recorded memory queue prepared issued is held home live
    | correlates was response =>
      obtain rfl := only (.inl was)
      rw [recorded.is_request] at response
      cases response
    | _ => rcases phase with phase | phase | phase <;> simp_all [WorkerPhase.isFree]
  | @asks exchange more after answered issue phase record miss recorded handled memory =>
    have only : ∀ {other unsent}, worker.phase = .sending other unsent → other = issue := by
      intro other unsent was
      rcases phase with ⟨_, phase⟩ | ⟨phase, _⟩ <;> simp_all
    cases step with
    | writes was =>
      obtain rfl := only was
      refine .still rfl rfl (Stage.of_queue ?_ queue)
      exact .asks (.inl ⟨_, rfl⟩) record miss recorded handled memory
    | awaits was expects =>
      obtain rfl := only was
      have some : answered.isSome = true := by
        rw [recorded.answered_iff handled, ← record]
        exact expects
      refine .still rfl rfl (Stage.of_queue ?_ queue)
      exact .asks (.inr ⟨rfl, some⟩) record miss recorded handled memory
    | plays was unanswered told is held home live =>
      obtain rfl := only was
      have none : answered = none := by
        rw [← Option.not_isSome_iff_eq_none, recorded.answered_iff handled, ← record, unanswered]
        simp
      subst none
      exact proceeds_played renames recorded handled memory on_lane queue record miss told is held
        home live
    | _ => rcases phase with ⟨unsent, phase⟩ | ⟨phase, _⟩ <;> simp_all [WorkerPhase.isFree]
  | ends phase =>
    cases step with
    | ends _ is held reports sends =>
      have finished : Stage rho lane server _ [] [] server [] := .ends (.inr is)
      refine .still reports sends (finished.of_queue ?_)
      rw [← queue, held]
    | _ => rcases phase with phase | phase | phase | phase <;> simp_all [WorkerPhase.isFree]

theorem afterFailure_lenient {settings : LaneSettings} (lenient : settings.Lenient)
    (worker : Worker) : (worker.afterFailure settings).phase = .polling := by
  simp [Worker.afterFailure, LaneMemory.tooManyFailures, lenient.unlimited]

theorem proceeds_heard (common : CursorTable) {exchange : Exchange} {more : List Exchange} {after : Server}
    {answer : Frame} {reply : Record} {summary : ReplySummary} {issue : Issue} {played : OpOutcome}
    {hearer : Worker} {later : Shared} {seq : Nat}
    (renames : Renames rho server (exchange :: more))
    (recorded : exchange.Recorded rho lane server after) (replied : exchange.reply = some reply)
    (answered : exchange.Answered rho server after answer reply summary)
    (memory : worker.memory.Mirrors rho server) (on_lane : worker.lane = lane)
    (queue : worker.queue ++ away = exchange.reply.toList ++ tapeOf more)
    (record : issue.record = exchange.request) (miss : issue.miss = exchange.isStale server)
    (told : played.numReturned = summary.numberReturned ∧
      played.error = (if summary.failed then some .serverError else none) ∧
      played.miss = issue.miss)
    (is : hearer.phase = .polling) (held : hearer.queue = worker.queue)
    (home : hearer.memory.home = (worker.memory.onReply common issue.record.frame issue.miss
      summary.cursorId).1.home)
    (live : hearer.memory.liveCursors = (worker.memory.onReply common issue.record.frame
      issue.miss summary.cursorId).1.liveCursors) :
    Proceeds rho lane server (exchange :: more) away after []
      (hearer, later, [.reports (.ofOutcome worker.lane seq issue.record played)]) := by
  rw [record, miss] at home live
  rw [record]
  have describes : exchange.Describes server
      (.ofOutcome worker.lane seq exchange.request played) := by
    have summarized : exchange.summary = { summary with cursorId := rho summary.cursorId } := by
      simp only [Exchange.summary, replied, answered.read]
      rfl
    refine ⟨seq, played, by rw [recorded.request_lane, on_lane], ?_, ?_, ?_⟩
    · rw [summarized, told.1]
    · rw [summarized, told.2.1]
    · rw [told.2.2, miss]
  have settles : hearer.memory.Settles rho (some reply) after := fun shared owner =>
    (memory.hears renames recorded answered common shared owner).correlate_of_same home live
  have response : ∀ other, some reply = some other → other.isResponse = true := by
    intro other same
    cases same
    exact answered.is_response
  have stage : Stage rho lane after hearer more (hearer.queue ++ away) after [] := by
    refine Stage.of_queue (.free (by rw [is]; rfl) response settles) ?_
    rw [held, queue, replied]
  exact .tells (.one rfl recorded describes) rfl stage

theorem Exchange.Answered.own {exchange : Exchange} {after : Server} {answer : Frame}
    {reply request : Record} {summary : ReplySummary}
    (answered : exchange.Answered rho server after answer reply summary)
    (recorded : exchange.Recorded rho lane server after) (record : request = exchange.request) :
    answer.responseTo = request.requestId := by
  rw [answered.answers.responseTo, record]
  exact recorded.same.requestId.symm

/-- A worker that awaits an answer will get it. -/
theorem Stage.awaits {upcoming : List Record} {issue : Issue}
    (stage : Stage rho lane server worker exchanges upcoming now answers)
    (renames : Renames rho server exchanges) (awaiting : worker.phase = .awaiting issue) :
    ∃ answer, answers = [answer] ∧ answer.responseTo = issue.record.requestId := by
  cases stage with
  | @asks _ _ _ answered other phase record miss recorded handled =>
    rcases phase with ⟨_, phase⟩ | ⟨phase, some⟩
    · exact absurd (awaiting.symm.trans phase) nofun
    · obtain rfl : issue = other := by simpa [awaiting] using phase
      obtain ⟨answer, rfl⟩ := Option.isSome_iff_exists.mp some
      obtain ⟨_, _, _, answered⟩ := recorded.answered renames.zero handled
      exact ⟨answer, rfl, answered.own recorded record⟩
  | free phase =>
    rw [awaiting] at phase
    cases phase
  | recalls phase => exact absurd (awaiting.symm.trans phase) nofun
  | takes phase =>
    rcases phase with phase | phase | phase <;> exact absurd (awaiting.symm.trans phase) nofun
  | ends phase =>
    rcases phase with phase | phase | phase | phase <;>
      exact absurd (awaiting.symm.trans phase) nofun

theorem Stage.hears {frame : Frame} {rest : List Frame}
    (stage : Stage rho lane server worker exchanges (worker.queue ++ away) now (frame :: rest))
    (lenient : around.settings.Lenient) (on_lane : worker.lane = lane)
    (renames : Renames rho server exchanges)
    (step : Worker.Step around worker shared (.received frame) outcome) :
    Proceeds rho lane server exchanges away now rest outcome := by
  generalize queue : worker.queue ++ away = upcoming at stage
  generalize coming : frame :: rest = expected at stage
  cases stage with
  | free | recalls | takes | ends => cases coming
  | @asks exchange more after answered issue phase record miss recorded handled memory =>
    cases answered with
    | none => cases coming
    | some answer =>
      cases coming
      obtain ⟨reply, summary, replied, answered⟩ := recorded.answered renames.zero handled
      have own := answered.own recorded record
      have only : ∀ {other}, worker.phase = .awaiting other → other = issue := by
        intro other was
        rcases phase with ⟨_, phase⟩ | ⟨phase, _⟩ <;> simp_all
      cases step with
      | @hears _ _ found played learnt at_phase _ readable told played_eq =>
        obtain rfl := only at_phase
        obtain rfl : found = summary := by
          rw [answered.answers.read] at readable
          cases readable
          rfl
        subst told played_eq
        refine proceeds_heard shared.common renames recorded replied answered memory on_lane queue record miss
          ⟨rfl, rfl, rfl⟩ ?_ ?_ ?_ ?_
        · split
          · exact afterFailure_lenient lenient _
          · rfl
        all_goals split <;> rfl
      | shifts shift =>
        cases shift with
        | passesOver at_phase late =>
          obtain rfl := only at_phase
          exact absurd own late
        | connects cause => rcases cause with ⟨other, _⟩ | ⟨other, _⟩ <;> cases other
        | isRefused _ cause | isDenied _ cause => rcases cause with other | ⟨other, _⟩ <;> cases other
      | fails cause =>
        cases cause with
        | reading _ _ unreadable =>
          rw [answered.answers.read] at unreadable
          cases unreadable
      | stops cause =>
        cases cause with
        | sending _ cause => rcases cause with other | ⟨_, other, _⟩ <;> cases other
      | endsCancelled cause => rcases cause with ⟨other, _⟩ | ⟨other, _⟩ <;> cases other

end TrafficReplay
