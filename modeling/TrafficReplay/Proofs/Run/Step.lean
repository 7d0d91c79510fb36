import TrafficReplay.Run.Basic
import TrafficReplay.Proofs.Lane.Queue

namespace TrafficReplay.Run

inductive RouterStep (run : Run) : RouterAction → Run → Prop
  | stops {mode : RouterMode} (phase : run.router = .looking mode)
      (fired : run.shared.signal.fired = true) : RouterStep run .look (run.fail .cancelled)
  | looks {mode : RouterMode} (phase : run.router = .looking mode)
      (quiet : run.shared.signal.fired = false) :
      RouterStep run .look { run with router := .choosing mode }
  | looksAgain {mode : RouterMode} (phase : run.router = .choosing mode) :
      RouterStep run .again { run with router := .looking mode }
  | notes {mode : RouterMode} {event : LaneEvent} {rest : List LaneEvent}
      {connected : List LaneId} (phase : run.router = .choosing mode)
      (events : run.shared.events = event :: rest)
      (noted : run.note event = .ok { run with connected := connected }) :
      RouterStep run .event { run with
        shared := { run.shared with events := rest }
        connected := connected
        router := .looking mode }
  | breaksOff {mode : RouterMode} {event : LaneEvent} {rest : List LaneEvent} {fault : PlayFault}
      (phase : run.router = .choosing mode) (events : run.shared.events = event :: rest)
      (fatal : run.note event = .error fault) :
      RouterStep run .event ({ run with shared := { run.shared with events := rest } }.fail fault)
  | joins {id : WorkerId} {worker : Worker} {router : RouterPhase}
      (phase : (∃ mode, run.router = .choosing mode ∧ router = .looking mode) ∨
        ∃ fault, run.router = .stopping fault ∧ router = .stopping fault)
      (at_id : run.workers[id]? = some worker) (ended : worker.phase = .ended)
      (fresh : id ∉ run.joined) :
      RouterStep run (.join id) { run with
        joined := run.joined ++ [id]
        summary := run.summary.add worker.report
        router := router }
  | draws {record : Record} (phase : run.router = .choosing .routing) :
      RouterStep run (.next (.record record)) { run with router := .delivering record }
  | meetsFailure {text : String} (phase : run.router = .choosing .routing) :
      RouterStep run (.next (.failure text)) (run.fail (.stream text))
  | meetsEnd (phase : run.router = .choosing .routing) :
      RouterStep run (.next .finish) { run with handles := [], router := .looking .waiting }
  | opens {record : Record} (phase : run.router = .delivering record)
      (absent : run.handles.lookup record.lane = none) :
      RouterStep run .deliver (run.openWorker record.lane none)
  | replaces {record : Record} {id : WorkerId} {worker : Worker}
      (phase : run.router = .delivering record)
      (handle : run.handles.lookup record.lane = some id)
      (at_id : run.workers[id]? = some worker) (shut : worker.accepting = false) :
      RouterStep run .deliver (run.openWorker record.lane (some id))
  | delivers {record : Record} {id : WorkerId} {worker : Worker}
      (phase : run.router = .delivering record)
      (handle : run.handles.lookup record.lane = some id)
      (at_id : run.workers[id]? = some worker) (unshut : worker.accepting = true)
      (room : worker.queue.length < run.settings.queueDepth) :
      RouterStep run .deliver { run with
        workers := run.workers.set id { worker with queue := worker.queue ++ [record] }
        router := .looking .routing }
  | givesUp {record : Record} (phase : run.router = .delivering record)
      (fired : run.shared.signal.fired = true) : RouterStep run .giveUp (run.fail .cancelled)
  | settles {connected : List LaneId} (phase : run.router = .choosing .waiting)
      (all : run.allJoined = true)
      (noted : run.noteAll run.shared.events = .ok { run with connected := connected }) :
      RouterStep run .settle { run with
        shared := { run.shared with events := [] }
        connected := connected
        router := .finished (Run.outcome { run with connected := connected }) }
  | breaksOffLate {fault : PlayFault} (phase : run.router = .choosing .waiting)
      (all : run.allJoined = true) (fatal : run.noteAll run.shared.events = .error fault) :
      RouterStep run .settle (run.fail fault)
  | settlesStopped {fault : PlayFault} (phase : run.router = .stopping fault)
      (all : run.allJoined = true) :
      RouterStep run .settle { run with router := .finished (.error fault) }

theorem note_cases (run : Run) (event : LaneEvent) :
    (∃ fault, ∀ shared, Run.note { run with shared := shared } event = .error fault) ∨
      ∃ connected, ∀ shared, Run.note { run with shared := shared } event =
        .ok { run with shared := shared, connected := connected } := by
  unfold note
  cases event with
  | connected lane =>
    exact .inr ⟨if lane ∈ run.connected then run.connected else run.connected ++ [lane],
      fun _ => rfl⟩
  | connectFailed lane fault =>
    by_cases fatal : run.settings.connectFailure = .abortRun
    · exact .inl ⟨.connect run.settings.address fault, fun _ => if_pos fatal⟩
    · exact .inr ⟨run.connected, fun _ => if_neg fatal⟩
  | aborted lane reason => exact .inr ⟨run.connected, fun _ => rfl⟩

theorem noteAll_cases (run : Run) (events : List LaneEvent) :
    (∃ fault, ∀ shared, Run.noteAll { run with shared := shared } events = .error fault) ∨
      ∃ connected, ∀ shared, Run.noteAll { run with shared := shared } events =
        .ok { run with shared := shared, connected := connected } := by
  induction events generalizing run with
  | nil => exact .inr ⟨run.connected, fun _ => rfl⟩
  | cons event rest ih =>
    simp only [noteAll]
    rcases note_cases run event with ⟨fault, fatal⟩ | ⟨connected, noted⟩
    · exact .inl ⟨fault, fun shared => by rw [fatal]⟩
    · rcases ih { run with connected := connected } with ⟨fault, fatal⟩ | ⟨later, all⟩
      · exact .inl ⟨fault, fun shared => by rw [noted]; exact fatal shared⟩
      · exact .inr ⟨later, fun shared => by rw [noted]; exact all shared⟩

theorem join?_some {run joined : Run} {id : WorkerId} (join : run.join? id = some joined) :
    ∃ worker, run.workers[id]? = some worker ∧ worker.phase = .ended ∧ id ∉ run.joined ∧
      joined = { run with
        joined := run.joined ++ [id]
        summary := run.summary.add worker.report } := by
  unfold join? at join
  split at join
  · cases join
  · rename_i worker at_id
    split at join
    · rename_i ready
      cases join
      exact ⟨worker, at_id, ready.1, ready.2, rfl⟩
    · cases join

theorem deliver?_step {run after : Run} {record : Record} (phase : run.router = .delivering record)
    (delivery : run.deliver? record = some after) : RouterStep run .deliver after := by
  unfold deliver? at delivery
  dsimp only at delivery
  split at delivery
  · rename_i absent
    cases delivery
    exact .opens phase absent
  · rename_i id handle
    split at delivery
    · cases delivery
    · rename_i worker at_id
      split at delivery
      · rename_i shut
        cases delivery
        exact .replaces phase handle at_id (by simpa using shut)
      · rename_i unshut
        split at delivery
        · rename_i room
          cases delivery
          exact .delivers phase handle at_id (by simpa using unshut) room
        · cases delivery

theorem outcome_ok {run : Run} {summary : PlaySummary} (good : run.outcome = .ok summary) :
    summary = { run.summary with
      lanesOpened := run.attempted.length
      lanesConnected := run.connected.length } := by
  unfold outcome at good
  split at good
  · cases good
  · cases good
    rfl

/-- Whatever step the router takes is one of those listed. -/
theorem routerStep_of_step? {run after : Run} {action : RouterAction}
    (step : run.routerStep? action = some after) : RouterStep run action after := by
  unfold routerStep? at step
  split at step
  case h_1 mode phase =>
    split at step
    · rename_i fired
      cases step
      exact .stops phase fired
    · rename_i quiet
      cases step
      exact .looks phase (by simpa using quiet)
  case h_2 mode phase => cases step; exact .looksAgain phase
  case h_3 mode phase =>
    split at step
    · cases step
    · rename_i event rest events
      dsimp only at step
      rcases note_cases run event with ⟨fault, fatal⟩ | ⟨connected, noted⟩
      · rw [fatal] at step
        cases step
        exact .breaksOff phase events (fatal run.shared)
      · rw [noted] at step
        cases step
        exact .notes phase events (noted run.shared)
  case h_4 id mode phase =>
    obtain ⟨joined, join, rfl⟩ := Option.map_eq_some_iff.mp step
    obtain ⟨worker, at_id, ended, fresh, rfl⟩ := join?_some join
    exact .joins (.inl ⟨mode, phase, rfl⟩) at_id ended fresh
  case h_5 id fault phase =>
    obtain ⟨worker, at_id, ended, fresh, rfl⟩ := join?_some step
    have joins : RouterStep run (.join id) { run with
        joined := run.joined ++ [id]
        summary := run.summary.add worker.report
        router := .stopping fault } :=
      .joins (.inr ⟨fault, phase, rfl⟩) at_id ended fresh
    rw [← phase] at joins
    exact joins
  case h_6 item phase =>
    cases step
    cases item with
    | record record => exact .draws phase
    | failure text => exact .meetsFailure phase
    | finish => exact .meetsEnd phase
  case h_7 record phase => exact deliver?_step phase step
  case h_8 record phase =>
    split at step
    · rename_i fired
      cases step
      exact .givesUp phase fired
    · cases step
  case h_9 phase =>
    split at step
    · rename_i all
      rcases noteAll_cases run run.shared.events with ⟨fault, fatal⟩ | ⟨connected, noted⟩
      · rw [fatal] at step
        cases step
        exact .breaksOffLate phase all (fatal run.shared)
      · rw [noted] at step
        cases step
        exact .settles phase all (noted run.shared)
    · cases step
  case h_10 fault phase =>
    split at step
    · rename_i all
      cases step
      exact .settlesStopped phase all
    · cases step
  all_goals cases step

inductive Step (run : Run) : RunAction → Run → Effects → Prop
  | routes {action : RouterAction} {after : Run} (step : RouterStep run action after) :
      Step run (.router action) after []
  | works {id : WorkerId} {worker : Worker} {reading : Reading} {action : WorkerAction}
      {outcome : Worker.Outcome} (at_id : run.workers[id]? = some worker)
      (step : Worker.Step (run.surroundings reading id worker) worker run.shared action outcome) :
      Step run (.worker id action)
        { run with
          shared := outcome.2.1
          workers := (takeLegacy run.workers worker outcome.1).set id outcome.1 }
        (outcome.2.2.map fun effect => (id, effect))
  | cancels : Step run .cancel run.cancel []

theorem step_of_step? {run after : Run} {reading : Reading} {action : RunAction}
    {effects : Effects} (step : run.step? reading action = some (after, effects)) :
    Step run action after effects := by
  cases action with
  | router action =>
    obtain ⟨_, routed, pair⟩ := Option.map_eq_some_iff.mp step
    cases pair
    exact .routes (routerStep_of_step? routed)
  | worker id action =>
    obtain ⟨⟨next, raw⟩, worked, pair⟩ := Option.map_eq_some_iff.mp step
    cases pair
    unfold workerStep? at worked
    split at worked
    · cases worked
    · rename_i worker at_id
      split at worked
      · cases worked
      · rename_i moved shared raw step
        cases worked
        exact .works at_id (Worker.step_of_step? step)
  | cancel => cases step; exact .cancels

theorem isFinished_iff {run : Run} :
    run.isFinished = true ↔ ∃ result, run.router = .finished result := by
  unfold isFinished
  split
  · rename_i result phase
    exact ⟨fun _ => ⟨result, phase⟩, fun _ => rfl⟩
  · rename_i other
    exact ⟨nofun, fun ⟨result, phase⟩ => absurd phase (other result)⟩

theorem result?_eq_some_iff {run : Run} {result : Except PlayFault PlaySummary} :
    run.result? = some result ↔ run.router = .finished result := by
  unfold result?
  split
  · rename_i found phase
    rw [phase, Option.some.injEq, RouterPhase.finished.injEq]
  · rename_i other
    exact ⟨nofun, fun phase => absurd phase (other result)⟩

theorem step?_of_worker {run : Run} {reading : Reading} {id : WorkerId} {worker : Worker}
    {action : WorkerAction} {outcome : Worker.Outcome} (at_id : run.workers[id]? = some worker)
    (step : worker.step? (run.surroundings reading id worker) run.shared action = some outcome) :
    ∃ after effects, run.step? reading (.worker id action) = some (after, effects) := by
  simp [Run.step?, workerStep?, at_id, step]

/-- What a run has done since it began, under some interleaving: the actions taken, what the
    workers did and where the run is now. -/
inductive Trace (settings : RunSettings) : List RunAction → Effects → Run → Prop
  | start : Trace settings [] [] (start settings .fresh)
  | step {actions : List RunAction} {effects new : Effects} {run after : Run} {reading : Reading}
      {action : RunAction} (trace : Trace settings actions effects run)
      (step : run.step? reading action = some (after, new)) :
      Trace settings (actions ++ [action]) (effects ++ new) after

inductive Onward (run : Run) : List RunAction → Effects → Run → Prop
  | here : Onward run [] [] run
  | step {actions : List RunAction} {effects new : Effects} {after last : Run} {reading : Reading}
      {action : RunAction} (onward : Onward run actions effects after)
      (step : after.step? reading action = some (last, new)) :
      Onward run (actions ++ [action]) (effects ++ new) last

theorem Trace.onward {settings : RunSettings} {actions more : List RunAction}
    {effects new : Effects} {run after : Run} (trace : Trace settings actions effects run)
    (onward : run.Onward more new after) :
    Trace settings (actions ++ more) (effects ++ new) after := by
  induction onward with
  | here =>
    rw [List.append_nil, List.append_nil]
    exact trace
  | step _ step ih =>
    rw [← List.append_assoc, ← List.append_assoc]
    exact ih.step step

def steps? (run : Run) (reading : Reading) : List RunAction → Option (Run × Effects)
  | [] => some (run, [])
  | action :: rest =>
    match run.step? reading action with
    | none => none
    | some (after, effects) =>
      match after.steps? reading rest with
      | none => none
      | some (last, more) => some (last, effects ++ more)

theorem Onward.steps? {first run last : Run} {actions more : List RunAction}
    {effects new : Effects} {reading : Reading} (onward : first.Onward actions effects run)
    (steps : run.steps? reading more = some (last, new)) :
    first.Onward (actions ++ more) (effects ++ new) last := by
  induction more generalizing run actions effects new with
  | nil =>
    cases steps
    rw [List.append_nil, List.append_nil]
    exact onward
  | cons action rest ih =>
    simp only [Run.steps?] at steps
    split at steps
    · cases steps
    · rename_i after first step
      split at steps
      · cases steps
      · rename_i last' later taken
        cases steps
        have onward := ih (onward.step step) taken
        rw [List.append_assoc, List.append_assoc] at onward
        exact onward

theorem onward_of_steps? {run : Run} {actions : List RunAction} {reading : Reading}
    {last : Run × Effects} (steps : run.steps? reading actions = some last) :
    run.Onward actions last.2 last.1 := by
  obtain ⟨after, effects⟩ := last
  have onward := Onward.here.steps? steps
  rw [List.nil_append, List.nil_append] at onward
  exact onward

theorem trace_of_steps? {settings : RunSettings} {actions : List RunAction} {reading : Reading}
    {last : Run × Effects}
    (steps : (Run.start settings .fresh).steps? reading actions = some last) :
    Trace settings actions last.2 last.1 := by
  have trace := Trace.start.onward (onward_of_steps? steps)
  rw [List.nil_append, List.nil_append] at trace
  exact trace

end TrafficReplay.Run
