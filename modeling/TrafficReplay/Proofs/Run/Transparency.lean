import TrafficReplay.Proofs.Lane.Standing
import TrafficReplay.Proofs.Run.LaneOrder
import TrafficReplay.Proofs.Run.Relay

namespace TrafficReplay.Run

variable {settings : RunSettings} {actions : List RunAction} {effects : Effects} {run : Run}
  {lane : LaneId} {heard : List (Instant × Answer)}

def Intact (run : Run) (lane : LaneId) : Prop :=
  ∀ (id : Nat) (worker : Worker), run.workers[id]? = some worker → worker.lane = lane →
    ¬worker.Lost

theorem Intact.unbroken (intact : run.Intact lane) : run.Unbroken lane :=
  fun id worker at_id of_lane both => intact id worker at_id of_lane (.inl both.2)

/-- A run that has not failed, in which a lane has dealt with every record drawn for it. -/
structure AtRest (run : Run) (lane : LaneId) : Prop where
  unstopped : run.router.isStopped = false
  delivered : onLane lane run.router.inHand = []
  served : ∀ (id : Nat) (worker : Worker), run.workers[id]? = some worker → worker.lane = lane →
    worker.queue = [] ∧ worker.phase.held? = none

/-- Under lane scope, the current worker of a lane that is not lost is where the tale of its records
    has got to. -/
theorem standing (scope : settings.scope = .lane) (lane : LaneId)
    (answers : Nat → Instant × Answer) :
    Relay Worker.answer? settings lane fun effects heard worker =>
      ¬worker.Lost → (∀ number pair, heard[number]? = some pair → answers number = pair) →
        worker.Stands settings.lane.onMiss lane answers effects heard.length where
  opened _ _ := by
    rw [scope]
    exact .opened settings.lane.onMiss lane answers
  pushed record before kept agree :=
    (before kept agree).of_same rfl fun remembers => ⟨remembers, rfl⟩
  worked := by
    intro effects heard around worker shared action outcome step same quiet sound of_lane going
      before kept agree
    have stands := before (fun lost => kept (step.lost lost)) fun number pair found =>
      agree number pair (List.getElem?_append_left (List.getElem?_eq_some_iff.mp found).1 ▸ found)
    have act := step.act quiet sound going kept
    rw [same] at act
    rw [List.length_append]
    refine stands.act act of_lane fun pair one => agree heard.length pair ?_
    rw [one]
    exact List.getElem?_concat_length
  inherited := by
    intro effects heard old heir predecessor action ended passed whole waiting before kept agree
    have nothing : heir.answer? action = none :=
      Worker.answer?_of_free (by rw [waiting]; rfl)
    rw [nothing, Option.toList_none, List.append_nil] at agree ⊢
    have sane : ¬old.Lost := by
      rintro (aborted | ⟨reason, ends⟩)
      · exact absurd aborted (by simp [whole])
      · rw [ended] at ends
        cases ends
    refine (before sane agree).of_same (by rw [ended]; rfl) fun _ => ⟨?_, rfl⟩
    simp only [Worker.Remembers, ended, passed]

def answersOf (heard : List (Instant × Answer)) (number : Nat) : Instant × Answer :=
  heard[number]?.getD default

/-- A run under lane scope that nothing has cancelled, with a lane that is not lost and has dealt with
    every record drawn for it. -/
structure Served (settings : RunSettings) (lane : LaneId) (actions : List RunAction)
    (effects : Effects) (run : Run) (heard : List (Instant × Answer)) : Prop where
  noted : Noted Worker.answer? settings lane actions effects run heard
  scope : settings.scope = .lane
  calm : run.isCalm = true
  intact : run.Intact lane
  rest : run.AtRest lane

/-- Such a lane has done what the tale of its records says. -/
theorem Served.told (served : Served settings lane actions effects run heard) {tale : Tale}
    (told : tell settings.lane.onMiss lane (answersOf heard) (onLane lane (streamed actions)) =
      tale) :
    transmitted (run.laneEffects effects lane) = tale.frames ∧
      (run.laneStats effects lane).map Stat.timeless = tale.stats ∧
      ∀ (id : Nat) (worker : Worker), run.Current lane id worker → worker.Remembers →
        worker.memory = tale.memory := by
  have trace := served.noted.trace
  have taken_all : taken (run.laneEffects effects lane) = onLane lane (streamed actions) := by
    have all := trace.processed_of_empty served.calm (isWhole_of_unstopped served.rest.unstopped)
      fun id worker at_id of_lane => (served.rest.served id worker at_id of_lane).1
    rw [served.rest.delivered, List.append_nil] at all
    exact all.symm
  have relayed := served.noted.relay (standing served.scope lane (answersOf heard)) served.calm
    served.intact.unbroken
  have between : ∀ (id : Nat) (worker : Worker), run.Current lane id worker →
      tale.Covers (run.laneEffects effects lane) [] heard.length ∧
        (worker.Remembers → worker.memory = tale.memory) := by
    intro id worker current
    have stands := relayed.current id worker current
      (served.intact id worker current.at_id current.of_lane)
      fun number pair found => by rw [answersOf, found]; rfl
    obtain ⟨_, idle⟩ := served.rest.served id worker current.at_id current.of_lane
    have both := stands.between (WorkerPhase.business_free idle)
    rw [taken_all, told] at both
    exact both
  by_cases nobody : run.workersOn lane = []
  · have nothing := laneEffects_of_none effects nobody
    have no_records : onLane lane (streamed actions) = [] := by
      rw [← taken_all, nothing]
      rfl
    rw [no_records] at told
    subst told
    refine ⟨by rw [nothing]; rfl, congrArg (fun done => (reported done).map Stat.timeless) nothing,
      fun id worker current => ?_⟩
    have member : id ∈ run.workersOn lane :=
      mem_workersOn.mpr ⟨worker, current.at_id, current.of_lane⟩
    rw [nobody] at member
    exact absurd member List.not_mem_nil
  · obtain ⟨id, worker, current⟩ := trace.linked.exists_current nobody
    obtain ⟨covers, _⟩ := between id worker current
    exact ⟨covers.frames.trans (List.append_nil _), covers.stats,
      fun id worker current => (between id worker current).2⟩

/-- Two runs in which a lane has the same records, and its requests the same answers, send the same
    frames for it and report the same but for times. What the lane remembers is the same but for its
    clock, and wholly the same if its requests were sent at the same times. Nothing else about the
    runs matters: not the other lanes, not the slots or the room in the queues, and not when workers
    of the lane yielded and to how many the lane passed. -/
theorem Served.transparent {settings₁ settings₂ : RunSettings} {actions₁ actions₂ : List RunAction}
    {effects₁ effects₂ : Effects} {run₁ run₂ : Run} {heard₁ heard₂ : List (Instant × Answer)}
    (served₁ : Served settings₁ lane actions₁ effects₁ run₁ heard₁)
    (served₂ : Served settings₂ lane actions₂ effects₂ run₂ heard₂)
    (policy : settings₁.lane.onMiss = settings₂.lane.onMiss)
    (records : onLane lane (streamed actions₁) = onLane lane (streamed actions₂))
    (answers : heard₁.map Prod.snd = heard₂.map Prod.snd) :
    transmitted (run₁.laneEffects effects₁ lane) = transmitted (run₂.laneEffects effects₂ lane) ∧
      (run₁.laneStats effects₁ lane).map Stat.timeless =
        (run₂.laneStats effects₂ lane).map Stat.timeless ∧
      ∀ (id₁ id₂ : Nat) (worker₁ worker₂ : Worker), run₁.Current lane id₁ worker₁ →
        run₂.Current lane id₂ worker₂ → worker₁.Remembers → worker₂.Remembers →
          (∃ clock, worker₂.memory = worker₁.memory.setClock clock) ∧
            (heard₁.map Prod.fst = heard₂.map Prod.fst → worker₁.memory = worker₂.memory) := by
  obtain ⟨frames₁, stats₁, memory₁⟩ := served₁.told rfl
  obtain ⟨frames₂, stats₂, memory₂⟩ := served₂.told rfl
  rw [policy, records] at frames₁ stats₁ memory₁
  have same : ∀ number, (answersOf heard₁ number).2 = (answersOf heard₂ number).2 := by
    intro number
    have at_number : heard₁[number]?.map Prod.snd = heard₂[number]?.map Prod.snd := by
      rw [← List.getElem?_map, ← List.getElem?_map, answers]
    unfold answersOf
    cases first : heard₁[number]? <;> cases second : heard₂[number]? <;>
      simp_all
  have alike : (tell settings₂.lane.onMiss lane (answersOf heard₁)
      (onLane lane (streamed actions₂))).Alike
      (tell settings₂.lane.onMiss lane (answersOf heard₂) (onLane lane (streamed actions₂))) :=
    tell_alike same _
  refine ⟨?_, ?_, fun id₁ id₂ worker₁ worker₂ current₁ current₂ remembers₁ remembers₂ => ⟨?_, ?_⟩⟩
  · rw [frames₁, frames₂, alike.frames]
  · rw [stats₁, stats₂, alike.stats]
  · rw [memory₁ id₁ worker₁ current₁ remembers₁, memory₂ id₂ worker₂ current₂ remembers₂]
    exact alike.memory
  · intro times
    have all : heard₁ = heard₂ := by
      rw [← List.zip_unzip heard₁, ← List.zip_unzip heard₂]
      simp only [List.unzip_eq_map, times, answers]
    rw [memory₁ id₁ worker₁ current₁ remembers₁, memory₂ id₂ worker₂ current₂ remembers₂, all]

theorem Current.of_last {id : Nat} {worker : Worker} (at_id : run.workers[id]? = some worker)
    (of_lane : worker.lane = lane) (going : ∀ predecessor, worker.phase ≠ .succeeding predecessor)
    (last : run.workers.length = id + 1) : run.Current lane id worker := by
  refine ⟨at_id, of_lane, going, fun later other order at_later _ => ?_⟩
  have below := lt_of_worker at_later
  omega

theorem Served.of_steps? {reading : Reading} {last : Run × Effects}
    (steps : (start settings .fresh).steps? reading actions = some last)
    (scope : settings.scope = .lane) (calm : last.1.isCalm = true)
    (unstopped : last.1.router.isStopped = false)
    (delivered : onLane lane last.1.router.inHand = [])
    (idle : ∀ worker ∈ last.1.workers, worker.queue = [] ∧ worker.phase.held? = none)
    (sane : ∀ worker ∈ last.1.workers, worker.report.abort = none ∧
      (worker.phase.ending? = none ∨ worker.phase.ending? = some .done)) :
    Served settings lane actions last.2 last.1
      ((start settings .fresh).notesOf Worker.answer? lane reading actions) := by
  have noted := (Noted.start : Noted Worker.answer? settings lane [] [] _ []).steps? steps
  refine ⟨noted, scope, calm, fun id worker at_id _ lost => ?_, unstopped, delivered, ?_⟩
  · obtain ⟨whole, ends⟩ := sane worker (List.mem_of_getElem? at_id)
    rcases lost with aborted | ⟨reason, other⟩
    · exact absurd aborted (by simp [whole])
    · rcases ends with none | done
      · exact absurd (none.symm.trans other) nofun
      · exact absurd (done.symm.trans other) nofun
  · exact fun id worker at_id _ => idle worker (List.mem_of_getElem? at_id)

def unpaced : RunSettings := { (default : Run).settings with lane := SampleLane.around.settings }

def draws (record : Record) : List RunAction :=
  [.router .look, .router (.next (.record record)), .router .deliver]

def asks (id : WorkerId) (size : Nat) (answer : WorkerAction) : List RunAction :=
  [.advance, .advance, .advance, .wrote size, .sent, answer].map (RunAction.worker id)

def bystander : Record := ⟨⟨8, 7, .reply, [], Frame.empty_body_le⟩, default, "server", "other"⟩

def wholeRun : List RunAction :=
  List.flatten [draws SampleLane.query, [.router .deliver, .worker 0 .advance, .worker 0 .connected],
    asks 0 16 (.received (SampleLane.reply 9 77)), draws SampleLane.answer,
    [.worker 0 .advance, .worker 0 .advance], draws SampleLane.more, asks 0 34 .timedOut]

/-- The same with one slot for two lanes: the worker yields between the query and its recorded reply,
    and another one takes the lane over. -/
def partedRun : List RunAction :=
  List.flatten [draws SampleLane.query, [.router .deliver, .worker 0 .advance, .worker 0 .connected],
    asks 0 16 (.received (SampleLane.reply 9 77)), draws bystander, [.router .deliver],
    List.replicate 4 (.worker 1 .advance), List.replicate 8 (.worker 0 .advance),
    [.worker 1 .advance, .worker 1 .connected, .worker 1 .advance, .worker 1 .advance],
    draws SampleLane.answer, [.router .deliver], List.replicate 5 (.worker 2 .advance),
    List.replicate 7 (.worker 1 .advance),
    [.worker 2 .advance, .worker 2 .connected, .worker 2 .advance, .worker 2 .advance],
    draws SampleLane.more, asks 2 34 .timedOut]

def wholeEnd : Run × Effects :=
  ((start unpaced .fresh).steps? ⟨default, default⟩ wholeRun).get (by decide)

def partedEnd : Run × Effects :=
  ((start unpaced .fresh).steps? ⟨default, default⟩ partedRun).get (by decide)

/-- The heir sends the other request with cursor 77, and remembers what the single worker does. -/
theorem partedRun_like_wholeRun :
    partedEnd.1.workersOn SampleLane.query.lane = [0, 2] ∧
      ((transmitted (partedEnd.1.laneEffects partedEnd.2 SampleLane.query.lane)).map
        Frame.cursorIds)[1]? = some (.ok [77]) ∧
      ∃ worker heir, wholeEnd.1.workers[0]? = some worker ∧ partedEnd.1.workers[2]? = some heir ∧
        worker.memory = heir.memory := by
  have whole : Served unpaced SampleLane.query.lane wholeRun wholeEnd.2 wholeEnd.1 _ :=
    .of_steps? (Option.some_get _).symm rfl (by decide) (by decide) (by decide) (by decide)
      (by decide)
  have parted : Served unpaced SampleLane.query.lane partedRun partedEnd.2 partedEnd.1 _ :=
    .of_steps? (Option.some_get _).symm rfl (by decide) (by decide) (by decide) (by decide)
      (by decide)
  obtain ⟨frames, _, memories⟩ := whole.transparent parted rfl (by decide) (by decide)
  have at_whole : wholeEnd.1.workers[0]?.map (fun worker => (worker.lane, worker.phase)) =
      some (SampleLane.query.lane, .polling) := by decide
  have at_parted : partedEnd.1.workers[2]?.map (fun worker => (worker.lane, worker.phase)) =
      some (SampleLane.query.lane, .polling) := by decide
  obtain ⟨worker, at_id, of_whole⟩ := Option.map_eq_some_iff.mp at_whole
  obtain ⟨heir, at_heir, of_parted⟩ := Option.map_eq_some_iff.mp at_parted
  simp only [Prod.mk.injEq] at of_whole of_parted
  have current := Current.of_last at_id of_whole.1 (by rw [of_whole.2]; exact nofun) rfl
  have current_heir := Current.of_last at_heir of_parted.1 (by rw [of_parted.2]; exact nofun) rfl
  refine ⟨by decide, ?_, worker, heir, at_id, at_heir, ?_⟩
  · rw [← frames]
    decide
  · exact (memories 0 2 worker heir current current_heir (by simp [Worker.Remembers, of_whole.2])
      (by simp [Worker.Remembers, of_parted.2])).2 (by decide)

end TrafficReplay.Run
