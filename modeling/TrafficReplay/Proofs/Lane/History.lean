import TrafficReplay.Proofs.Lane.Queue
import TrafficReplay.Proofs.Latest

namespace TrafficReplay

inductive Moment where
  | recalled (reply : Frame)
  | answered (request : Frame) (miss : Bool) (cursorId : Int64)
  | killed (request : Frame)

structure LaneStep where
  before : Worker
  action : WorkerAction
  effects : List LaneEffect

def LaneStep.moment? (step : LaneStep) : Option Moment :=
  match step.action, step.before.phase with
  | .advance, .holding record => if record.isResponse then some (.recalled record.frame) else none
  | .received reply, .awaiting issue =>
    if reply.responseTo = issue.record.requestId then
      match reply.replySummary with
      | .ok summary => some (.answered issue.record.frame issue.miss summary.cursorId)
      | .error _ => none
    else none
  | .sent, .sending issue [] =>
    if issue.record.frame.opCode = .killCursors then some (.killed issue.record.frame) else none
  | _, _ => none

def history (log : List LaneStep) : List Moment := log.filterMap LaneStep.moment?

theorem history_append (first second : List LaneStep) :
    history (first ++ second) = history first ++ history second := List.filterMap_append

/-- The steps of a lane up to now, and the worker that takes the next one. Records come in and
    surroundings change at will; a worker that was passed the memory of another one goes on with
    the steps of that one. -/
inductive LaneRun (scope : CursorScope) : List LaneStep → Worker → Prop
  | opened (lane : LaneId) (predecessor : Option WorkerId) :
      LaneRun scope [] (.opened lane scope predecessor)
  | fed {log : List LaneStep} {worker : Worker} (run : LaneRun scope log worker)
      (record : Record) : LaneRun scope log { worker with queue := worker.queue ++ [record] }
  | steps {log : List LaneStep} {worker : Worker} {around : Surroundings} {shared : Shared}
      {action : WorkerAction} {outcome : Worker.Outcome} (run : LaneRun scope log worker)
      (own : ∀ memory, around.legacy ≠ .passed memory)
      (step : Worker.Step around worker shared action outcome) :
      LaneRun scope (log ++ [⟨worker, action, outcome.2.2⟩]) outcome.1
  | inherits {log : List LaneStep} {old worker : Worker} {memory : LaneMemory}
      {around : Surroundings} {shared : Shared} {action : WorkerAction} {outcome : Worker.Outcome}
      (run : LaneRun scope log old) (passed : old.handoff = .passed memory)
      {predecessor : WorkerId} (heir : LaneRun scope [] worker) (same : worker.lane = old.lane)
      (waiting : worker.phase = .succeeding predecessor)
      (legacy : around.legacy = .passed memory)
      (step : Worker.Step around worker shared action outcome) :
      LaneRun scope (log ++ [⟨worker, action, outcome.2.2⟩]) outcome.1

def Worker.walk? (around : Surroundings) (worker : Worker) (shared : Shared) :
    List WorkerAction → Option (Worker × List LaneStep)
  | [] => some (worker, [])
  | action :: rest =>
    match worker.step? around shared action with
    | none => none
    | some (after, later, effects) =>
      match after.walk? around later rest with
      | none => none
      | some (last, more) => some (last, ⟨worker, action, effects⟩ :: more)

theorem Worker.walk?_induction {motive : List LaneStep → Worker → Prop} {worker last : Worker}
    {around : Surroundings} {shared : Shared} {actions : List WorkerAction} {more : List LaneStep}
    (walk : worker.walk? around shared actions = some (last, more)) (start : motive [] worker)
    (carries : ∀ {steps : List LaneStep} {worker : Worker} {shared : Shared} {action : WorkerAction}
      {outcome : Outcome}, motive steps worker → Step around worker shared action outcome →
        motive (steps ++ [⟨worker, action, outcome.2.2⟩]) outcome.1) : motive more last := by
  induction actions generalizing motive worker shared more with
  | nil =>
    cases walk
    exact start
  | cons action rest ih =>
    simp only [Worker.walk?] at walk
    split at walk
    · cases walk
    · rename_i after later effects step
      split at walk
      · cases walk
      · rename_i last' tail walked
        cases walk
        -- The rest of the walk starts out from what holds after its first step.
        apply ih (motive := fun steps => motive (⟨worker, action, effects⟩ :: steps)) walked
        · exact carries start (step_of_step? step)
        · exact fun before step => carries before step

theorem LaneRun.walk {scope : CursorScope} {log more : List LaneStep} {worker last : Worker}
    {around : Surroundings} {shared : Shared} {actions : List WorkerAction}
    (run : LaneRun scope log worker) (own : ∀ memory, around.legacy ≠ .passed memory)
    (walk : worker.walk? around shared actions = some (last, more)) :
    LaneRun scope (log ++ more) last := by
  apply Worker.walk?_induction walk
  · rw [List.append_nil]
    exact run
  · intro steps worker shared action outcome before step
    rw [← List.append_assoc]
    exact before.steps own step

/-- Something happened, and nothing since then has undone it. What a moment means may depend on what
    was before it. -/
def Since (cause undone : List Moment → Moment → Prop) (past : List Moment) : Prop :=
  ∃ before moment after, past = before ++ moment :: after ∧ cause before moment ∧
    ∀ between later rest, after = between ++ later :: rest →
      ¬undone (before ++ moment :: between) later

theorem not_since_nil {cause undone : List Moment → Moment → Prop} : ¬Since cause undone [] := by
  rintro ⟨before, moment, after, split, _⟩
  exact absurd split (by simp)

theorem since_concat {cause undone : List Moment → Moment → Prop} {past : List Moment}
    {moment : Moment} :
    Since cause undone (past ++ [moment]) ↔
      cause past moment ∨ Since cause undone past ∧ ¬undone past moment := by
  constructor
  · rintro ⟨before, first, after, split, caused, kept⟩
    rcases concat_split split with ⟨rfl, rfl, rfl⟩ | ⟨front, rfl, rfl⟩
    · exact .inl caused
    · refine .inr ⟨⟨before, first, front, rfl, caused, ?_⟩, kept front moment [] rfl⟩
      intro between later rest front_split
      refine kept between later (rest ++ [moment]) ?_
      rw [front_split, List.append_assoc, List.cons_append]
  · rintro (caused | ⟨⟨before, first, after, rfl, caused, kept⟩, spared⟩)
    · refine ⟨past, moment, [], rfl, caused, ?_⟩
      intro between later rest split
      exact absurd split (by simp)
    · refine ⟨before, first, after ++ [moment], by simp, caused, ?_⟩
      intro between later rest split
      rcases concat_split split with ⟨rfl, rfl, rfl⟩ | ⟨front, rfl, rfl⟩
      · exact spared
      · exact kept between later front rfl

namespace Moment

/-- A live reply leaves a cursor open that a recorded reply may name later on. The reply to a request
    for more whose cursor is bound does not. -/
def Leaves (requestId : Int32) (live : Int64) : Moment → Prop
  | .answered request miss cursorId =>
    request.requestId = requestId ∧ cursorId = live ∧ live ≠ 0 ∧
      ¬(request.opCode = .getMore ∧ miss = false)
  | _ => False

/-- A recorded reply uses up the cursor of the request that it answers. -/
def Consumes (requestId : Int32) : Moment → Prop
  | .recalled reply => reply.responseTo = requestId
  | _ => False

/-- A sent request kills a cursor that the recording names. -/
def Kills (recorded : Int64) : Moment → Prop
  | .killed request => ∃ ids, request.cursorIds = .ok ids ∧ recorded ∈ ids
  | _ => False

/-- A request for more whose cursor was bound is answered without a cursor. -/
def Exhausts (recorded : Int64) : Moment → Prop
  | .answered request miss cursorId =>
    request.opCode = .getMore ∧ miss = false ∧ cursorId = 0 ∧
      ∃ ids, request.cursorIds = .ok ids ∧ recorded ∈ ids
  | _ => False

end Moment

/-- The live cursor left open by the latest request of some id, unless a recorded reply has used it
    up. -/
def LeftOpen (past : List Moment) (requestId : Int32) (live : Int64) : Prop :=
  Since (fun _ moment => moment.Leaves requestId live)
    (fun _ moment => (∃ other, moment.Leaves requestId other) ∨ moment.Consumes requestId) past

/-- A recorded reply binds the cursor it names to the live cursor of the request that it answers. -/
def Binds (past : List Moment) (moment : Moment) (recorded live : Int64) : Prop :=
  ∃ reply summary, moment = .recalled reply ∧ reply.replySummary = .ok summary ∧
    summary.cursorId = recorded ∧ recorded ≠ 0 ∧ LeftOpen past reply.responseTo live

/-- A recorded cursor stands for a live one: the latest recorded reply that bound it bound it to that
    one, and neither was it killed since then nor did a request for more exhaust it. -/
def Translates (past : List Moment) (recorded live : Int64) : Prop :=
  Since (fun before moment => Binds before moment recorded live)
    (fun before moment => (∃ other, Binds before moment recorded other) ∨ moment.Kills recorded ∨
      moment.Exhausts recorded) past

end TrafficReplay
