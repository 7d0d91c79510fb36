import Mathlib.Data.List.Forall2
import Mathlib.Data.List.Induction
import TrafficReplay.Proofs.Lane.Lifecycle
import TrafficReplay.Proofs.Lane.Prepared
import TrafficReplay.Proofs.Lane.Recall

namespace TrafficReplay

theorem history_of_none {step : LaneStep} (nothing : step.moment? = none) : history [step] = [] := by
  simp [history, nothing]

theorem history_of_some {step : LaneStep} {moment : Moment} (one : step.moment? = some moment) :
    history [step] = [moment] := by
  simp [history, one]

/-- What holds of a lane's memory and history as long as each moment changes both alike. -/
structure MemoryInvariant (holds : LaneMemory → List Moment → Prop) : Prop where
  same : ∀ {memory other : LaneMemory} {past : List Moment}, holds memory past →
    other.home = memory.home → other.liveCursors = memory.liveCursors → holds other past
  recalled : ∀ {memory : LaneMemory} {past : List Moment} (common : CursorTable) (lane : LaneId)
    (reply : Frame), holds memory past →
      holds (memory.correlate common lane reply).1 (past ++ [.recalled reply])
  answered : ∀ {memory : LaneMemory} {past : List Moment} (common : CursorTable) (frame : Frame)
    (miss : Bool) (cursorId : Int64), holds memory past →
      holds (memory.onReply common frame miss cursorId).1 (past ++ [.answered frame miss cursorId])
  killed : ∀ {memory : LaneMemory} {past : List Moment} (common : CursorTable) (frame : Frame),
    holds memory past →
      holds (memory.releaseCursors common frame).1 (past ++ [.killed frame])

theorem recalling : MemoryInvariant LaneMemory.Recalls where
  same recalls home live := recalls.of_same home live
  recalled _ lane reply recalls := recalls.correlate lane reply
  answered common frame miss cursorId recalls := recalls.answer common frame miss cursorId
  killed common frame recalls := recalls.kill common frame

theorem remembering : MemoryInvariant LaneMemory.Remembered where
  same remembered _ live := remembered.of_same live
  recalled common lane reply remembered := remembered.correlate common lane reply
  answered common frame miss cursorId remembered := remembered.answer common frame miss cursorId
  killed common frame remembered := remembered.kill common frame

namespace Worker

/-- The bindings of the lane are in force, or on their way to another worker. -/
def Remembers (worker : Worker) : Prop :=
  match worker.phase with
  | .leaving ending | .concluding ending => ending = .done ∧ worker.report.yielded = true
  | .draining => False
  | .ended => worker.handoff = .passed worker.memory
  | _ => True

theorem not_remembers_draining {worker : Worker} (phase : worker.phase = .draining) :
    ¬worker.Remembers := by
  simp [Remembers, phase]

variable {around : Surroundings} {worker : Worker} {shared : Shared} {action : WorkerAction}
  {outcome : Outcome} {past : List Moment} {holds : LaneMemory → List Moment → Prop}

theorem Shift.moment {phase : WorkerPhase} {after : Shared} {effects : List LaneEffect}
    (shift : Shift around worker shared action phase after effects) :
    LaneStep.moment? ⟨worker, action, effects⟩ = none := by
  cases shift with
  | isDue at_phase request | paces at_phase request => simp [LaneStep.moment?, at_phase, request]
  | awaits at_phase answered =>
    have other : (OpCode.killCursors).expectsReply = false := rfl
    simp only [LaneStep.moment?, at_phase, ite_eq_right_iff]
    intro kills
    rw [kills, other] at answered
    cases answered
  | passesOver at_phase late => simp [LaneStep.moment?, at_phase, late]
  | runsOut at_phase =>
    rcases at_phase with ⟨at_phase, _⟩ | ⟨_, at_phase⟩ <;> simp [LaneStep.moment?, at_phase]
  | connects at_phase =>
    rcases at_phase with ⟨rfl, _⟩ | ⟨rfl, _⟩ <;> rfl
  | isRefused _ cause | isDenied _ cause => rcases cause with rfl | ⟨rfl, _⟩ <;> rfl
  | seesSignal at_phase | idles at_phase => simp [LaneStep.moment?, at_phase]
  | _ => simp_all [LaneStep.moment?]

theorem Fails.moment {issue : Issue} {error : OpError} {effects : List LaneEffect}
    (cause : Fails worker.phase action issue error) :
    LaneStep.moment? ⟨worker, action, effects⟩ = none := by
  cases cause with
  | sending | waiting => rfl
  | reading at_phase own unreadable => simp [LaneStep.moment?, at_phase, unreadable]

theorem Stops.moment {fired : Bool} {issue : Issue} {error : OpError} {ending : LaneEnding}
    {effects : List LaneEffect} (cause : Stops worker.phase fired action issue error ending) :
    LaneStep.moment? ⟨worker, action, effects⟩ = none := by
  cases cause with
  | cancelled => rfl
  | sending _ cause => rcases cause with rfl | ⟨_, rfl, _⟩ <;> rfl
  | closed | garbled => rfl

theorem Step.remembered (step : Step around worker shared action outcome)
    (undecided : worker.handoff = .undecided) (remembers : outcome.1.Remembers) :
    worker.Remembers := by
  cases step with
  | shifts shift =>
    cases shift with
    | leaves at_phase =>
      simp only [Remembers, at_phase]
      exact remembers
    | reportsRefusal => exact absurd remembers.1 nofun
    | runsOut at_phase =>
      rcases at_phase with ⟨at_phase, _⟩ | ⟨_, at_phase⟩ <;> simp [Remembers, at_phase]
    | connects at_phase =>
      rcases at_phase with ⟨_, at_phase, _⟩ | ⟨_, at_phase⟩ <;> simp [Remembers, at_phase]
    | succeeds at_phase | getsSlot at_phase | findsNoSlot at_phase | countsItself at_phase
    | announcesItself at_phase | queuesUp at_phase | takesSlot at_phase | seesSignal at_phase
    | idles at_phase | watches at_phase | parks at_phase | isDue at_phase | paces at_phase
    | givesUpTrying _ at_phase | givesUpQueueing _ at_phase | givesUpConnecting _ at_phase
    | givesUpAuthenticating _ at_phase | givesUpWaiting _ at_phase | wakes at_phase
    | authenticates at_phase | isRefused at_phase | isDenied at_phase | waited at_phase
    | writes at_phase | awaits at_phase | passesOver at_phase => simp [Remembers, at_phase]
  | takes phase => rcases phase with ⟨phase, _⟩ | ⟨_, phase⟩ <;> simp [Remembers, phase]
  | fails cause => cases cause <;> simp [Remembers, *]
  | stops cause =>
    cases cause with
    | cancelled _ at_phase =>
      rcases at_phase with ⟨_, at_phase⟩ | at_phase <;> simp [Remembers, at_phase]
    | sending at_phase | closed at_phase | garbled at_phase => simp [Remembers, at_phase]
  | bequeaths phase yielded => simp [Remembers, phase, yielded]
  | diesOut | concludes | drainsDry => simp [Remembers, finish, undecided, withMemory] at remembers
  | endsCancelled => simp [Remembers, finishCancelled, finish, undecided] at remembers
  | drainsReply phase | drains phase => exact absurd remembers (not_remembers_draining phase)
  | aborts => exact remembers.elim
  | resumes phase | yields phase | shutsQueue phase | correlates phase | withholds phase
  | transmits phase | skips _ phase | plays phase | hears phase | closes phase =>
    simp [Remembers, phase]

/-- A step changes a lane's memory as it changes the lane's history. -/
theorem Step.keeps (invariant : MemoryInvariant holds)
    (step : Step around worker shared action outcome)
    (own : ∀ memory, around.legacy ≠ .passed memory) (undecided : worker.handoff = .undecided)
    (before : worker.Remembers → holds worker.memory past) (remembers : outcome.1.Remembers) :
    holds outcome.1.memory (past ++ history [⟨worker, action, outcome.2.2⟩]) := by
  have kept := before (step.remembered undecided remembers)
  have quiet : LaneStep.moment? ⟨worker, action, outcome.2.2⟩ = none →
      outcome.1.memory.home = worker.memory.home →
      outcome.1.memory.liveCursors = worker.memory.liveCursors →
      holds outcome.1.memory (past ++ history [⟨worker, action, outcome.2.2⟩]) := by
    intro nothing home live
    rw [history_of_none nothing, List.append_nil]
    exact invariant.same kept home live
  cases step with
  | shifts shift => exact quiet shift.moment rfl rfl
  | resumes _ legacy => exact absurd legacy (own _)
  | @correlates record phase response =>
    have moment (effects : List LaneEffect) :
        LaneStep.moment? ⟨worker, .advance, effects⟩ = some (.recalled record.frame) := by
      simp [LaneStep.moment?, phase, response]
    rw [history_of_some (moment _)]
    exact invariant.recalled shared.common worker.lane record.frame kept
  | fails cause => exact quiet cause.moment rfl rfl
  | stops cause => exact quiet cause.moment rfl rfl
  | @plays issue outcome told phase unanswered learnt played =>
    by_cases kills : issue.record.frame.opCode = .killCursors
    · have moment : LaneStep.moment? ⟨worker, .sent,
          [.reports (.ofOutcome worker.lane told.1.seq issue.record outcome)]⟩ =
          some (.killed issue.record.frame) := by
        simp [LaneStep.moment?, phase, kills]
      rw [history_of_some moment]
      have killed := invariant.killed shared.common issue.record.frame kept
      have same : told = worker.memory.releaseCursors shared.common issue.record.frame := by
        rw [← learnt]
        exact if_pos kills
      rw [← same] at killed
      exact invariant.same killed rfl rfl
    · have same : told = (worker.memory, shared.common) := by
        rw [← learnt]
        exact if_neg kills
      subst same
      exact quiet (by simp [LaneStep.moment?, phase, kills]) rfl rfl
  | @hears issue reply summary outcome told phase answers readable learnt played =>
    have moment : LaneStep.moment? ⟨worker, .received reply,
        [.reports (.ofOutcome worker.lane told.1.seq issue.record outcome)]⟩ =
        some (.answered issue.record.frame issue.miss summary.cursorId) := by
      simp [LaneStep.moment?, phase, answers, readable]
    rw [history_of_some moment]
    have answered := invariant.answered shared.common issue.record.frame issue.miss
      summary.cursorId kept
    rw [learnt] at answered
    dsimp only
    split
    · exact invariant.same answered rfl rfl
    · exact invariant.same answered rfl rfl
  | @closes ending phase =>
    have passes : worker.handsOver ending = true := by
      simpa [handsOver, Remembers, close] using remembers
    refine quiet ?_ ?_ ?_
    · simp [LaneStep.moment?, phase]
    · simp [close, passes]
    · simp [close, passes]
  | diesOut | concludes | drainsDry => simp [Remembers, finish, undecided, withMemory] at remembers
  | endsCancelled => simp [Remembers, finishCancelled, finish, undecided] at remembers
  | drainsReply phase | drains phase => exact absurd remembers (not_remembers_draining phase)
  | aborts => exact remembers.elim
  | takes phase =>
    rcases phase with ⟨phase, _⟩ | ⟨_, phase⟩ <;>
      exact quiet (by simp [LaneStep.moment?, phase]) rfl rfl
  | yields phase | shutsQueue phase | withholds phase | transmits phase | bequeaths phase =>
    exact quiet (by simp [LaneStep.moment?, phase]) rfl rfl
  | skips => exact quiet rfl rfl rfl

theorem Step.bequest (step : Step around worker shared action outcome)
    (undecided : worker.handoff = .undecided) :
    (outcome.1.phase ≠ .ended → outcome.1.handoff = .undecided) ∧
      ∀ memory, outcome.1.handoff = .passed memory →
        outcome.1.Remembers ∧ outcome.1.memory = memory := by
  have going : outcome.1.handoff = .undecided →
      (outcome.1.phase ≠ .ended → outcome.1.handoff = .undecided) ∧
        ∀ memory, outcome.1.handoff = .passed memory →
          outcome.1.Remembers ∧ outcome.1.memory = memory := by
    intro still
    exact ⟨fun _ => still, fun memory passed => absurd (still.symm.trans passed) nofun⟩
  cases step with
  | bequeaths =>
    refine ⟨fun going => absurd rfl going, fun memory passed => ?_⟩
    cases passed
    exact ⟨rfl, rfl⟩
  | diesOut | concludes | drainsDry | endsCancelled =>
    refine ⟨fun going => absurd rfl going, fun memory passed => ?_⟩
    simp [finish, finishCancelled, withMemory, undecided] at passed
  | hears =>
    refine going ?_
    dsimp only
    split <;> exact undecided
  | _ => exact going undecided

theorem Step.inherits (step : Step around worker shared action outcome)
    (undecided : worker.handoff = .undecided) {predecessor : WorkerId} {memory : LaneMemory}
    (waiting : worker.phase = .succeeding predecessor) (legacy : around.legacy = .passed memory)
    (remembers : outcome.1.Remembers) :
    outcome.1.memory = memory ∧ LaneStep.moment? ⟨worker, action, outcome.2.2⟩ = none := by
  cases step.of_succeeding waiting with
  | startsAnew nothing => rcases nothing with none | none <;> simp [none] at legacy
  | resumes passed =>
    rw [legacy] at passed
    cases passed
    exact ⟨rfl, by simp [LaneStep.moment?, waiting]⟩
  | givesUp => simp [Remembers, finishCancelled, finish, undecided] at remembers

end Worker

namespace LaneRun

variable {scope : CursorScope} {log : List LaneStep} {worker : Worker}

theorem bequest (run : LaneRun scope log worker) :
    (worker.phase ≠ .ended → worker.handoff = .undecided) ∧
      ∀ memory, worker.handoff = .passed memory → worker.Remembers ∧ worker.memory = memory := by
  induction run with
  | opened => exact ⟨fun _ => rfl, nofun⟩
  | fed _ _ ih => exact ih
  | steps _ _ step ih => exact step.bequest (ih.1 step.not_ended)
  | inherits _ _ _ _ _ _ step _ ih => exact step.bequest (ih.1 step.not_ended)

theorem keeps {holds : LaneMemory → List Moment → Prop} (invariant : MemoryInvariant holds)
    (fresh : holds (.fresh scope) []) (run : LaneRun scope log worker)
    (remembers : worker.Remembers) : holds worker.memory (history log) := by
  induction run with
  | opened => exact fresh
  | fed _ _ ih => exact ih remembers
  | steps run own step ih =>
    rw [history_append]
    exact step.keeps invariant own (run.bequest.1 step.not_ended) ih remembers
  | inherits run passed heir _ waiting legacy step ih =>
    obtain ⟨kept, same⟩ := run.bequest.2 _ passed
    obtain ⟨memory, nothing⟩ :=
      step.inherits (heir.bequest.1 step.not_ended) waiting legacy remembers
    rw [history_append, history_of_none nothing, List.append_nil, memory, ← same]
    exact ih kept

/-- As long as a lane's bindings are in force, they are what its history says. -/
theorem recalls (run : LaneRun .lane log worker) (remembers : worker.Remembers) :
    worker.memory.Recalls (history log) :=
  run.keeps recalling .fresh remembers

theorem remembered (run : LaneRun scope log worker) (remembers : worker.Remembers) :
    worker.memory.Remembered (history log) :=
  run.keeps remembering (.fresh scope) remembers

end LaneRun

def Untranslated (past : List Moment) (recorded : Int64) : Prop :=
  recorded ≠ 0 ∧ ∀ live, ¬Translates past recorded live

/-- What is sent for a recorded cursor id: zero, which stands for no cursor, for itself, the live
    cursor that the history translates the id to, and the id itself when there is none. -/
def SentFor (past : List Moment) (recorded sent : Int64) : Prop :=
  if recorded = 0 then sent = 0
  else ∀ live, sent = live ↔
    Translates past recorded live ∨ live = recorded ∧ Untranslated past recorded

theorem SentFor.translated {past : List Moment} {recorded sent live : Int64}
    (sentFor : SentFor past recorded sent) (nonzero : recorded ≠ 0)
    (translates : Translates past recorded live) : sent = live := by
  unfold SentFor at sentFor
  rw [if_neg nonzero] at sentFor
  exact (sentFor live).mpr (.inl translates)

namespace LaneMemory

variable {memory : LaneMemory} {past : List Moment}

theorem Recalls.lookup (recalls : memory.Recalls past) (common : CursorTable) {recorded : Int64}
    (nonzero : recorded ≠ 0) {live : Int64} :
    memory.lookup common recorded = .bound live ↔ Translates past recorded live := by
  obtain ⟨table, own, bound⟩ := recalls.bound
  unfold LaneMemory.lookup
  rw [if_neg nonzero, own]
  exact bound recorded live

theorem lookup_miss {common : CursorTable} {recorded id : Int64}
    (miss : memory.lookup common recorded = .miss id) : id = recorded := by
  unfold LaneMemory.lookup at miss
  split at miss
  · cases miss
  · exact CursorTable.resolve_miss _ miss

theorem Recalls.isMiss (recalls : memory.Recalls past) (common : CursorTable) (recorded : Int64) :
    (memory.lookup common recorded).isMiss = true ↔ Untranslated past recorded := by
  unfold Untranslated
  by_cases zero : recorded = 0
  · simp [LaneMemory.lookup, zero, CursorLookup.isMiss]
  · constructor
    · intro miss
      refine ⟨zero, fun live translates => ?_⟩
      rw [(recalls.lookup common zero).mpr translates] at miss
      cases miss
    · rintro ⟨_, nothing⟩
      cases found : memory.lookup common recorded with
      | bound live => exact absurd ((recalls.lookup common zero).mp found) (nothing live)
      | miss id => rfl

theorem Recalls.misses (recalls : memory.Recalls past) (common : CursorTable) (ids : List Int64) :
    memory.misses common ids = true ↔ ∃ recorded ∈ ids, Untranslated past recorded := by
  simp [LaneMemory.misses, lookups, ← recalls.isMiss common]

theorem Recalls.sentFor (recalls : memory.Recalls past) (common : CursorTable)
    (recorded : Int64) : SentFor past recorded (memory.lookup common recorded).liveId := by
  unfold SentFor
  split
  · rename_i zero
    simp [LaneMemory.lookup, zero, CursorLookup.liveId]
  · rename_i nonzero
    intro live
    rw [← recalls.lookup common nonzero, ← recalls.isMiss common]
    cases found : memory.lookup common recorded with
    | bound bound => simp [CursorLookup.liveId, CursorLookup.isMiss]
    | miss id =>
      rw [lookup_miss found]
      simp [CursorLookup.liveId, CursorLookup.isMiss, eq_comm]

theorem Recalls.translated (recalls : memory.Recalls past) (common : CursorTable)
    (ids : List Int64) : List.Forall₂ (SentFor past) ids (memory.translated common ids) := by
  unfold LaneMemory.translated lookups
  rw [List.map_map, List.forall₂_map_right_iff, List.forall₂_same]
  exact fun recorded _ => recalls.sentFor common recorded

end LaneMemory

theorem Worker.step?_due {worker : Worker} {record : Record} (due : worker.phase = .due record)
    (around : Surroundings) (shared : Shared) :
    worker.step? around shared .advance = some (issue around record worker shared) := by
  simp only [step?, advance?, due]

/-- Translation on the wire. When the time of a request for more or of one that kills cursors has
    come, each recorded id in it is sent as the history of the lane has it, unless some id is not
    translated and the policy is to fail; then nothing is sent, the operation is reported as
    stale, and no binding changes. -/
theorem LaneRun.cursors_on_the_wire {log : List LaneStep} {worker : Worker} {record : Record}
    {ids : List Int64} (run : LaneRun .lane log worker) (due : worker.phase = .due record)
    (names : LaneMemory.namesCursors record.frame = true)
    (read : record.frame.cursorIds = .ok ids) (around : Surroundings) (shared : Shared) :
    ∃ outcome, worker.step? around shared .advance = some outcome ∧
      ((around.settings.onMiss = .passThrough ∨ ∀ recorded ∈ ids,
          ¬Untranslated (history log) recorded) →
        ∃ frame sent issue, outcome.2.2 = [.transmits record frame] ∧
          outcome.1.phase = .sending issue frame.bytes ∧ issue.record = record ∧
          (issue.miss = true ↔ ∃ recorded ∈ ids, Untranslated (history log) recorded) ∧
          record.frame.withCursorIds sent = .ok frame ∧ frame.cursorIds = .ok sent ∧
          List.Forall₂ (SentFor (history log)) ids sent) ∧
      (around.settings.onMiss = .fail → (∃ recorded ∈ ids, Untranslated (history log) recorded) →
        ∃ stat, outcome.2.2 = [.reports stat] ∧ stat.requestId = record.requestId ∧
          stat.error = some .staleCursor ∧ stat.miss = true ∧ outcome.2.1 = shared ∧
          outcome.1.memory.home = worker.memory.home ∧
          outcome.1.memory.liveCursors = worker.memory.liveCursors) := by
  have recalls := run.recalls (by simp [Worker.Remembers, due])
  refine ⟨_, Worker.step?_due due around shared, ?_⟩
  have preparation := worker.memory.prepare_preparation shared.common around.settings.onMiss
    record.frame
  unfold Worker.issue
  generalize worker.memory.prepare shared.common around.settings.onMiss record.frame = prepared
    at preparation
  cases preparation with
  | plain other => exact absurd names (by simp [other])
  | unreadable _ bad => exact absurd read (by simp [bad])
  | @stale found _ same miss strict =>
    rw [read] at same
    cases same
    have untranslated := (recalls.misses shared.common ids).mp miss
    refine ⟨fun allowed => ?_, fun _ _ => ⟨_, rfl, rfl, rfl, rfl, rfl, rfl, rfl⟩⟩
    rcases allowed with lenient | all
    · exact absurd (lenient.symm.trans strict) nofun
    · obtain ⟨recorded, member, nothing⟩ := untranslated
      exact absurd nothing (all recorded member)
  | @translated found frame _ same lenient made =>
    rw [read] at same
    cases same
    refine ⟨fun _ => ⟨frame, _, _, rfl, rfl, rfl, recalls.misses shared.common ids, made,
      Frame.cursorIds_withCursorIds made, recalls.translated shared.common ids⟩, ?_⟩
    intro strict untranslated
    have passes := lenient ((recalls.misses shared.common ids).mpr untranslated)
    exact absurd (strict.symm.trans passes) nofun

namespace SampleLane

def query : Record := ⟨⟨1, 0, .query, [], Frame.empty_body_le⟩, default, "client", "server"⟩

def reply (requestId : Int32) (cursorId : UInt8) : Frame :=
  ⟨requestId, 1, .reply, [0, 0, 0, 0, cursorId, 0, 0, 0, 0, 0, 0, 0, 0, 0, 0, 0, 0, 0, 0, 0], by
    simp [headerLength, frameLimit]⟩

def answer : Record := ⟨reply 2 42, default, "server", "client"⟩

def more : Record :=
  ⟨⟨3, 0, .getMore, [0, 0, 0, 0, 99, 0, 5, 0, 0, 0, 42, 0, 0, 0, 0, 0, 0, 0], by decide⟩, default,
    "client", "server"⟩

def around : Surroundings where
  id := 0
  settings := ⟨.unthrottled, 0, .fail, false⟩
  reading := ⟨default, default⟩
  fed := true
  hasHeir := false
  legacy := .dropped

def shared : Shared := ⟨.ofLimit 1, .empty, [], .fresh⟩

def queued : Worker :=
  { Worker.opened query.lane .lane none with queue := [query, answer, more] }

def asked (cursorId : UInt8) : List WorkerAction :=
  [.advance, .advance, .advance, .wrote 16, .sent, .received (reply 9 cursorId)]

theorem fed (queue : List Record) : LaneRun .lane [] { queued with queue := queue } := by
  induction queue using List.reverseRecOn with
  | nil => exact .opened query.lane none
  | append_singleton queue record ih => exact ih.fed record

theorem walks {queue : List Record} {actions : List WorkerAction} {last : Worker × List LaneStep}
    (walk : Worker.walk? around { queued with queue := queue } shared actions = some last) :
    LaneRun .lane last.2 last.1 :=
  (fed queue).walk (fun _ => Handoff.noConfusion) walk

def walked : Option (Worker × List LaneStep) :=
  queued.walk? around shared
    ([.advance, .connected] ++ asked 77 ++ List.replicate 4 .advance)

def last : Worker × List LaneStep := walked.get (by decide)

theorem laneRun : LaneRun .lane last.2 last.1 := by
  have steps : walked = some last := (Option.some_get _).symm
  exact walks steps

theorem translates : Translates (history last.2) 42 77 := by
  have recalls := laneRun.recalls trivial
  exact (recalls.lookup .empty (by decide)).mp (by rfl)

end SampleLane

/-- The request for more goes out with cursor 77. -/
theorem sampleLane_on_the_wire :
    SampleLane.last.1.phase = .due SampleLane.more ∧ SampleLane.more.frame.cursorIds = .ok [42] ∧
      ∃ outcome, SampleLane.last.1.step? SampleLane.around SampleLane.shared .advance =
          some outcome ∧
        ∃ frame, outcome.2.2 = [.transmits SampleLane.more frame] ∧ frame.cursorIds = .ok [77] := by
  have due : SampleLane.last.1.phase = .due SampleLane.more := by rfl
  have read : SampleLane.more.frame.cursorIds = .ok [42] := by rfl
  obtain ⟨outcome, step, sends, _⟩ := SampleLane.laneRun.cursors_on_the_wire due rfl read
    SampleLane.around SampleLane.shared
  have bound : ∀ recorded ∈ [(42 : Int64)],
      ¬Untranslated (history SampleLane.last.2) recorded := by
    intro recorded member untranslated
    rw [List.mem_singleton] at member
    subst member
    exact untranslated.2 77 SampleLane.translates
  obtain ⟨frame, sent, _, transmits, _, _, _, _, named, sentFor⟩ := sends (.inr bound)
  refine ⟨due, read, outcome, step, frame, transmits, ?_⟩
  cases sentFor with
  | cons for_first rest =>
    cases rest
    rw [named, for_first.translated (by decide) SampleLane.translates]

end TrafficReplay
