import TrafficReplay.Proofs.Lane.Rank
import TrafficReplay.Proofs.Run.Delivery

namespace TrafficReplay

/-- A record in hand weighs more than a record in a queue and less than one that is still to come. -/
def RouterPhase.rank : RouterPhase → Nat
  | .delivering _ => 900
  | .looking .routing => 7
  | .choosing .routing => 6
  | .looking .waiting => 3
  | .choosing .waiting => 2
  | .stopping _ => 1
  | .finished _ => 0

namespace Run

def rank (run : Run) (worker : Worker) : Nat :=
  run.router.rank + 10 * worker.rank + 5 * run.shared.events.length +
    (if run.workers = [] then 1 else 0) + (if run.joined = [] then 3 else 0)

/-- A run of records of one lane that nothing has disturbed, and its worker, which is not opened before
    the first record is at hand. -/
structure Solo (settings : RunSettings) (lane : LaneId) (run : Run) (worker : Worker) : Prop where
  under : run.settings = settings
  on_lane : worker.lane = lane
  staff : run.workers = [worker] ∧ run.attempted = [lane] ∨
    run.workers = [] ∧ run.attempted = [] ∧ worker = .opened lane settings.scope none
  handles : run.handles = if run.isRouting then run.workers.map fun _ => (lane, 0) else []
  undisturbed : worker.Undisturbed settings.lane run.shared
  plain : worker.phase.isPlain = true
  events : ∀ event ∈ run.shared.events, event = .connected lane
  begun : worker.phase.hasBegun = true → run.connected ≠ [] ∨ run.shared.events ≠ []
  joined : run.joined = [] ∨
    run.joined = [0] ∧ run.workers = [worker] ∧ worker.phase = .ended
  unstopped : run.router.isStopped = false
  settled : run.isFinished = true → run.allJoined = true

variable {settings : RunSettings} {lane : LaneId} {run after : Run} {worker : Worker}

theorem Solo.start (lenient : settings.lane.Lenient) (room : 0 < settings.laneLimit) :
    Solo settings lane (start settings .fresh) (.opened lane settings.scope none) where
  under := rfl
  on_lane := rfl
  staff := .inr ⟨rfl, rfl, rfl⟩
  handles := rfl
  undisturbed := ⟨lenient, rfl, rfl, fun _ => room, fun _ => rfl, rfl⟩
  plain := rfl
  events := nofun
  begun := nofun
  joined := .inl rfl
  unstopped := rfl
  settled := nofun

theorem noteAll_connected {events : List LaneEvent}
    (all : ∀ event ∈ events, event = .connected lane) (run : Run) :
    ∃ connected, run.noteAll events = .ok { run with connected := connected } ∧
      (run.connected ≠ [] ∨ events ≠ [] → connected ≠ []) := by
  induction events generalizing run with
  | nil => exact ⟨run.connected, rfl, fun some => some.resolve_right fun none => none rfl⟩
  | cons event rest ih =>
    obtain rfl := all event List.mem_cons_self
    have noted : run.note (.connected lane) = .ok { run with
        connected := if lane ∈ run.connected then run.connected else run.connected ++ [lane] } := rfl
    have nonempty : (if lane ∈ run.connected then run.connected else run.connected ++ [lane]) ≠
        [] := by
      split
      · rename_i member
        exact List.ne_nil_of_mem member
      · simp
    obtain ⟨connected, later, kept⟩ := ih (fun event member => all event
      (List.mem_cons_of_mem _ member)) { run with
        connected := if lane ∈ run.connected then run.connected else run.connected ++ [lane] }
    refine ⟨connected, ?_, fun _ => kept (.inl nonempty)⟩
    simp only [noteAll, noted]
    exact later

structure Routed (settings : RunSettings) (lane : LaneId) (run : Run) (worker : Worker)
    (action : RouterAction) (after : Run) (later : Worker) : Prop where
  solo : Solo settings lane after later
  same : later = { worker with queue := later.queue }
  queue : later.queue ++ after.router.inHand =
    worker.queue ++ run.router.inHand ++ streamed [.router action]
  lower : action ≠ .again →
    after.rank later < run.rank worker + 1000 * (streamed [.router action]).length

theorem Solo.worker_eq (solo : Solo settings lane run worker) {id : Nat} {found : Worker}
    (at_id : run.workers[id]? = some found) :
    id = 0 ∧ found = worker ∧ run.workers = [worker] := by
  rcases solo.staff with ⟨staff, _⟩ | ⟨staff, _⟩
  · rw [staff] at at_id ⊢
    cases id with
    | zero =>
      cases at_id
      exact ⟨rfl, rfl, rfl⟩
    | succ id => cases at_id
  · rw [staff] at at_id
    cases at_id

theorem Solo.turns (solo : Solo settings lane run worker) {router : RouterPhase}
    (routing : isRouting { run with router := router } = run.isRouting)
    (unstopped : router.isStopped = false) (unfinished : router.rank ≠ 0) :
    Solo settings lane { run with router := router } worker :=
  { solo with
    handles := by rw [routing]; exact solo.handles
    unstopped := unstopped
    settled := by
      intro finished
      cases router with
      | finished => exact absurd rfl unfinished
      | _ => cases finished }

theorem Solo.routed_turns (solo : Solo settings lane run worker) {action : RouterAction}
    {router : RouterPhase} (routing : isRouting { run with router := router } = run.isRouting)
    (unstopped : router.isStopped = false) (unfinished : router.rank ≠ 0)
    (nothing : streamed [.router action] = [])
    (hands : run.router.inHand = [] ∧ router.inHand = [])
    (lower : action ≠ .again → router.rank < run.router.rank) :
    Routed settings lane run worker action { run with router := router } worker where
  solo := solo.turns routing unstopped unfinished
  same := rfl
  queue := by simp only [nothing, hands.1, hands.2, List.append_nil]
  lower again := by
    have router_lower := lower again
    simp only [rank]
    omega

theorem Solo.routed_notes (solo : Solo settings lane run worker) {mode : RouterMode}
    {event : LaneEvent} {rest : List LaneEvent} {connected : List LaneId}
    (phase : run.router = .choosing mode) (events : run.shared.events = event :: rest)
    (noted : run.note event = .ok { run with connected := connected }) :
    Routed settings lane run worker .event { run with
      shared := { run.shared with events := rest }
      connected := connected
      router := .looking mode } worker := by
  have all := solo.events
  rw [events] at all
  have nonempty : connected ≠ [] := by
    have first : ∀ other ∈ [event], other = .connected lane := fun other member =>
      all other (List.mem_cons.mpr (.inl (List.mem_singleton.mp member)))
    obtain ⟨again, noted_all, kept⟩ := noteAll_connected first run
    simp only [noteAll, noted] at noted_all
    cases noted_all
    exact kept (.inr (List.cons_ne_nil _ _))
  have routing : isRouting { run with router := .looking mode } = run.isRouting := by
    simp only [isRouting, phase]
    cases mode <;> rfl
  have turned := solo.turns routing rfl (by cases mode <;> decide)
  refine ⟨{ turned with
    undisturbed := { solo.undisturbed with }
    events := fun event member => all event (List.mem_cons_of_mem _ member)
    begun := fun _ => .inl nonempty }, rfl, ?_, fun _ => ?_⟩
  · rw [phase]
    exact (List.append_nil _).symm
  · simp only [rank, phase, events, List.length_cons]
    cases mode <;> simp only [RouterPhase.rank] <;> omega

theorem Solo.routed_joins (solo : Solo settings lane run worker) {mode : RouterMode} {id : WorkerId}
    {found : Worker} (phase : run.router = .choosing mode) (at_id : run.workers[id]? = some found)
    (ended : found.phase = .ended) (fresh : id ∉ run.joined) :
    Routed settings lane run worker (.join id) { run with
      joined := run.joined ++ [id]
      summary := run.summary.add found.report
      router := .looking mode } worker := by
  obtain ⟨rfl, rfl, staff⟩ := solo.worker_eq at_id
  have unjoined : run.joined = [] := by
    rcases solo.joined with none | ⟨joined, _⟩
    · exact none
    · exact absurd (joined ▸ List.mem_singleton_self _) fresh
  have routing : isRouting { run with router := .looking mode } = run.isRouting := by
    simp only [isRouting, phase]
    cases mode <;> rfl
  have turned := solo.turns routing rfl (by cases mode <;> decide)
  refine ⟨{ turned with
    joined := .inr ⟨by rw [unjoined]; rfl, staff, ended⟩
    settled := fun finished => by cases finished }, rfl, ?_, fun _ => ?_⟩
  · rw [phase]
    exact (List.append_nil _).symm
  · simp only [rank, phase, unjoined, List.nil_append]
    cases mode <;> simp [RouterPhase.rank] <;> omega

theorem Solo.routed_draws (solo : Solo settings lane run worker) {record : Record}
    (phase : run.router = .choosing .routing) :
    Routed settings lane run worker (.next (.record record))
      { run with router := .delivering record } worker where
  solo := solo.turns (by simp [isRouting, phase]) rfl nofun
  same := rfl
  queue := by
    rw [phase]
    exact congrArg (· ++ [record]) (List.append_nil _).symm
  lower _ := by
    have one : (streamed [.router (.next (.record record))]).length = 1 := rfl
    rw [one]
    simp only [rank, RouterPhase.rank]
    omega

theorem Solo.routed_meetsEnd (solo : Solo settings lane run worker)
    (phase : run.router = .choosing .routing) :
    Routed settings lane run worker (.next .finish)
      { run with handles := [], router := .looking .waiting } worker where
  solo := { solo with
    handles := rfl
    unstopped := rfl
    settled := nofun }
  same := rfl
  queue := by
    rw [phase]
    exact (List.append_nil _).symm
  lower _ := by
    simp only [rank, phase, RouterPhase.rank]
    omega

theorem Solo.handles_routing (solo : Solo settings lane run worker)
    (routing : run.isRouting = true) : run.handles = run.workers.map fun _ => (lane, 0) := by
  rw [solo.handles, if_pos routing]

theorem Solo.routed_opens (solo : Solo settings lane run worker) {record : Record}
    (phase : run.router = .delivering record) (on_lane : record.lane = lane)
    (absent : run.handles.lookup record.lane = none) :
    Routed settings lane run worker .deliver (run.openWorker record.lane none) worker := by
  have routing : run.isRouting = true := by simp only [isRouting, phase]
  have handles := solo.handles_routing routing
  rw [on_lane] at absent ⊢
  rcases solo.staff with ⟨staff, _⟩ | ⟨staff, attempted, fresh⟩
  · simp [handles, staff] at absent
  · rw [staff] at handles
    have opened : run.openWorker lane none = { run with
        workers := [worker], handles := [(lane, 0)], attempted := [lane] } := by
      simp [openWorker, staff, attempted, handles, fresh, solo.under]
    have unjoined : run.joined = [] := by
      rcases solo.joined with none | ⟨_, same, _⟩
      · exact none
      · simp [staff] at same
    rw [opened]
    refine ⟨{ solo with
      staff := .inl ⟨rfl, rfl⟩
      handles := by
        have still : isRouting { run with
            workers := [worker], handles := [(lane, 0)], attempted := [lane] } = true := routing
        rw [if_pos still]
        rfl
      joined := .inl unjoined
      settled := by
        intro finished
        simp [isFinished, phase] at finished }, rfl, (List.append_nil _).symm, fun _ => ?_⟩
    simp only [rank, staff]
    simp
    omega

theorem Solo.routed_delivers (solo : Solo settings lane run worker) {record : Record}
    {id : WorkerId} {found : Worker} (phase : run.router = .delivering record)
    (at_id : run.workers[id]? = some found) (going : found.phase ≠ .ended) :
    Routed settings lane run worker .deliver { run with
      workers := run.workers.set id { found with queue := found.queue ++ [record] }
      router := .looking .routing } { worker with queue := worker.queue ++ [record] } := by
  obtain ⟨rfl, rfl, staff⟩ := solo.worker_eq at_id
  have routing : run.isRouting = true := by simp only [isRouting, phase]
  have unjoined : run.joined = [] := by
    rcases solo.joined with none | ⟨_, _, ended⟩
    · exact none
    · exact absurd ended going
  refine ⟨{ solo with
    staff := .inl ⟨by rw [staff]; rfl, ?_⟩
    handles := ?_
    undisturbed := { solo.undisturbed with }
    joined := .inl unjoined
    unstopped := rfl
    settled := fun finished => by cases finished }, rfl, ?_, fun _ => ?_⟩
  · rcases solo.staff with ⟨_, attempted⟩ | ⟨none, _⟩
    · exact attempted
    · simp [staff] at none
  · rw [if_pos (by rfl)]
    simp only [solo.handles_routing routing, staff]
    rfl
  · rw [phase]
    simp [RouterPhase.inHand, streamed, drawn, RunAction.item?]
  · simp [rank, phase, RouterPhase.rank, Worker.rank, staff]
    omega

theorem Solo.routed_settles (solo : Solo settings lane run worker) {connected : List LaneId}
    (phase : run.router = .choosing .waiting) (all : run.allJoined = true)
    (noted : run.noteAll run.shared.events = .ok { run with connected := connected }) :
    Routed settings lane run worker .settle { run with
      shared := { run.shared with events := [] }
      connected := connected
      router := .finished (outcome { run with connected := connected }) } worker := by
  obtain ⟨again, noted_again, kept⟩ := noteAll_connected solo.events run
  obtain rfl : connected = again := by
    have same := Except.ok.inj (noted.symm.trans noted_again)
    exact congrArg Run.connected same
  have good : ∃ summary, outcome { run with connected := connected } = .ok summary := by
    rcases solo.staff with ⟨staff, attempted⟩ | ⟨_, attempted, _⟩
    · have ended : worker.phase = .ended := by
        rcases solo.joined with none | ⟨_, _, ended⟩
        · simp [allJoined, none, staff] at all
        · exact ended
      have some := kept (solo.begun (by rw [ended]; rfl))
      simp [outcome, some]
    · simp [outcome, attempted]
  obtain ⟨summary, good⟩ := good
  rw [good]
  refine ⟨{ solo with
    handles := ?_
    undisturbed := { solo.undisturbed with }
    events := (by simp)
    begun := fun begun => .inl (kept (solo.begun begun))
    unstopped := rfl
    settled := fun _ => all }, rfl, ?_, fun _ => ?_⟩
  · rw [solo.handles]
    simp [isRouting, phase]
  · rw [phase]
    exact (List.append_nil _).symm
  · simp only [rank, phase, RouterPhase.rank, List.length_nil]
    omega

/-- Every step of the router, but for a failure of the stream, leaves a run of one lane undisturbed. -/
theorem Solo.routes (solo : Solo settings lane run worker) {action : RouterAction}
    (step : RouterStep run action after) (held : ∀ record ∈ run.router.inHand, record.lane = lane)
    (going : run.router.inHand ≠ [] → worker.phase ≠ .ended)
    (whole : ∀ text, action ≠ .next (.failure text)) :
    ∃ later, Routed settings lane run worker action after later := by
  have quiet := solo.undisturbed.quiet
  cases step with
  | stops _ fired | givesUp _ fired =>
    rw [quiet] at fired
    cases fired
  | @looks mode phase =>
    have routing : isRouting { run with router := .choosing mode } = run.isRouting := by
      simp only [isRouting, phase]
      cases mode <;> rfl
    refine ⟨worker, solo.routed_turns routing rfl ?_ rfl ⟨by rw [phase]; rfl, rfl⟩ fun _ => ?_⟩
    · cases mode <;> decide
    · rw [phase]
      cases mode <;> decide
  | @looksAgain mode phase =>
    have routing : isRouting { run with router := .looking mode } = run.isRouting := by
      simp only [isRouting, phase]
      cases mode <;> rfl
    refine ⟨worker, solo.routed_turns routing rfl ?_ rfl ⟨by rw [phase]; rfl, rfl⟩ fun again => ?_⟩
    · cases mode <;> decide
    · exact absurd rfl again
  | breaksOff phase events fatal =>
    obtain rfl := solo.events _ (events ▸ List.mem_cons_self)
    cases fatal
  | breaksOffLate phase all fatal =>
    obtain ⟨_, noted, _⟩ := noteAll_connected solo.events run
    cases noted.symm.trans fatal
  | meetsFailure => exact absurd rfl (whole _)
  | settlesStopped phase =>
    have stopped := solo.unstopped
    rw [phase] at stopped
    cases stopped
  | notes phase events noted => exact ⟨worker, solo.routed_notes phase events noted⟩
  | joins phase at_id ended fresh =>
    rcases phase with ⟨mode, phase, rfl⟩ | ⟨fault, phase, _⟩
    · exact ⟨worker, solo.routed_joins phase at_id ended fresh⟩
    · have stopped := solo.unstopped
      rw [phase] at stopped
      cases stopped
  | draws phase => exact ⟨worker, solo.routed_draws phase⟩
  | meetsEnd phase => exact ⟨worker, solo.routed_meetsEnd phase⟩
  | opens phase absent =>
    exact ⟨worker, solo.routed_opens phase (held _ (by simp [phase, RouterPhase.inHand])) absent⟩
  | replaces phase _ at_id shut =>
    obtain ⟨rfl, rfl, _⟩ := solo.worker_eq at_id
    have accepting := solo.undisturbed.accepting (going (by simp [phase, RouterPhase.inHand]))
    cases shut.symm.trans accepting
  | delivers phase _ at_id =>
    obtain ⟨_, rfl, _⟩ := solo.worker_eq at_id
    exact ⟨_, solo.routed_delivers phase at_id (going (by simp [phase, RouterPhase.inHand]))⟩
  | settles phase all noted => exact ⟨worker, solo.routed_settles phase all noted⟩

structure Worked (settings : RunSettings) (lane : LaneId) (run : Run) (worker : Worker)
    (reading : Reading) (id : WorkerId) (action : WorkerAction) (after : Run) (effects : Effects)
    (outcome : Worker.Outcome) : Prop where
  only : id = 0
  step : Worker.Step (run.surroundings reading id worker) worker run.shared action outcome
  after_eq : after = { run with shared := outcome.2.1, workers := [outcome.1] }
  effects_eq : effects = outcome.2.2.map fun effect => (id, effect)
  solo : outcome.1.phase.isPlain = true → Solo settings lane after outcome.1
  lower : action.isDecisive worker.phase → after.rank outcome.1 + 5 ≤ run.rank worker

theorem Solo.isFed (solo : Solo settings lane run worker) (staff : run.workers = [worker]) :
    run.isFed 0 = run.isRouting := by
  unfold Run.isFed
  rw [solo.handles, staff]
  cases run.isRouting <;> rfl

theorem Solo.surrounded (solo : Solo settings lane run worker) (reading : Reading) (id : WorkerId) :
    worker.Undisturbed (run.surroundings reading id worker).settings run.shared := by
  rw [surroundings, solo.under]
  exact solo.undisturbed

theorem Solo.works (solo : Solo settings lane run worker) {reading : Reading} {id : WorkerId}
    {action : WorkerAction} {effects : Effects} (fine : action.isFine)
    (step : run.step? reading (.worker id action) = some (after, effects)) :
    run.workers = [worker] ∧ ∃ reading outcome,
      Worked settings lane run worker reading id action after effects outcome := by
  cases step_of_step? step with
  | @works _ found reading _ outcome at_id move =>
  obtain ⟨rfl, rfl, staff⟩ := solo.worker_eq at_id
  have undisturbed := solo.surrounded reading 0
  have unjoined : run.joined = [] := by
    rcases solo.joined with none | ⟨_, _, ended⟩
    · exact none
    · exact absurd ended move.not_ended
  have workers : (takeLegacy run.workers found outcome.1).set 0 outcome.1 = [outcome.1] := by
    -- The only worker has no predecessor, so there is no legacy to take.
    have untouched : takeLegacy run.workers found outcome.1 = run.workers := by
      unfold takeLegacy
      split
      · rename_i at_phase _
        have plain := solo.plain
        rw [at_phase] at plain
        cases plain
      · rfl
    rw [untouched, staff]
    rfl
  rw [workers]
  have events := move.events solo.plain
  have later := move.undisturbed solo.plain undisturbed
  rw [surroundings, solo.under] at later
  refine ⟨staff, reading, outcome, rfl, move, rfl, rfl, fun plain => ?_, fun decisive => ?_⟩
  · refine { solo with
      on_lane := move.lane.trans solo.on_lane
      staff := .inl ⟨rfl, ?_⟩
      handles := ?_
      undisturbed := later
      plain := plain
      events := ?_
      begun := fun begun => ?_
      joined := .inl unjoined
      settled := fun finished => ?_ }
    · rcases solo.staff with ⟨_, attempted⟩ | ⟨none, _⟩
      · exact attempted
      · simp [staff] at none
    · rw [solo.handles, staff]
      rfl
    · intro event member
      rcases events with same | new
      · exact solo.events event (same ▸ member)
      · rw [show _ = _ from new, List.mem_append, solo.on_lane, List.mem_singleton] at member
        exact member.elim (solo.events event) id
    · cases before : found.phase.hasBegun with
      | true =>
        rcases solo.begun before with connected | some
        · exact .inl connected
        · right
          rcases events with same | new
          · rw [show _ = _ from same]
            exact some
          · simp [new]
      | false =>
        right
        simp [move.announces solo.plain fine undisturbed before begun]
    · have all := solo.settled finished
      simp [allJoined, unjoined, staff] at all
  · have lower := move.descends decisive
    have more : outcome.2.1.events.length ≤ run.shared.events.length + 1 := by
      rcases events with same | new
      · simp [same]
      · simp [new]
    simp only [rank, staff]
    simp
    omega

theorem Solo.delivers (solo : Solo settings lane run worker) (depth : 0 < settings.queueDepth)
    {record : Record} (phase : run.router = .delivering record) (on_lane : record.lane = lane)
    (going : worker.phase ≠ .ended) :
    (∃ after, run.routerStep? .deliver = some after) ∨ run.workers = [worker] ∧ worker.queue ≠ [] := by
  have handles := solo.handles_routing (by simp only [isRouting, phase])
  have accepting := solo.undisturbed.accepting going
  rcases solo.staff with ⟨staff, _⟩ | ⟨staff, _⟩
  · by_cases room : worker.queue.length < settings.queueDepth
    · left
      simp [routerStep?, phase, deliver?, handles, staff, on_lane, accepting, solo.under, room]
    · refine .inr ⟨staff, fun empty => room ?_⟩
      rw [empty]
      exact depth
  · left
    simp [routerStep?, phase, deliver?, handles, staff]

/-- Once the stream has ended, the router goes on unless the worker still has something to do. -/
theorem Solo.winds_up (solo : Solo settings lane run worker)
    (phase : run.router = .choosing .waiting) :
    (∃ action after, (∀ item, action ≠ .next item) ∧ action ≠ .again ∧
      run.routerStep? action = some after) ∨ run.workers = [worker] ∧ worker.phase ≠ .ended := by
  by_cases staff : run.workers = [worker] ∧ worker.phase ≠ .ended
  · exact .inr staff
  left
  by_cases unjoined : run.allJoined = true
  · have step : ∃ after, run.routerStep? .settle = some after := by
      simp only [routerStep?, phase, if_pos unjoined]
      split <;> exact ⟨_, rfl⟩
    obtain ⟨after, step⟩ := step
    exact ⟨.settle, after, (by simp), (by simp), step⟩
  · rcases solo.staff with ⟨workers, _⟩ | ⟨workers, _⟩
    · have ended : worker.phase = .ended := by
        by_contra going
        exact staff ⟨workers, going⟩
      have fresh : run.joined = [] := by
        rcases solo.joined with none | ⟨joined, _⟩
        · exact none
        · simp [allJoined, joined, workers] at unjoined
      have step : ∃ after, run.routerStep? (.join 0) = some after := by
        simp [routerStep?, phase, join?, workers, ended, fresh]
      obtain ⟨after, step⟩ := step
      exact ⟨.join 0, after, (by simp), (by simp), step⟩
    · have fresh : run.joined = [] := by
        rcases solo.joined with none | ⟨_, same, _⟩
        · exact none
        · simp [workers] at same
      simp [allJoined, fresh, workers] at unjoined

end Run

end TrafficReplay
