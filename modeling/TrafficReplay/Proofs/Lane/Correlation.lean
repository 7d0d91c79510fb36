import TrafficReplay.Proofs.Lane.Course
import TrafficReplay.Proofs.Lane.Translation

namespace TrafficReplay

namespace LaneStep

def executes? (step : LaneStep) : Option Record :=
  match step.action, step.before.phase with
  | .advance, .due record => some record
  | _, _ => none

def answerAfter (requestId : Int32) (known : Option Int64) (step : LaneStep) : Option Int64 :=
  match step.executes?, step.moment? with
  | some record, _ => if record.requestId = requestId then none else known
  | none, some (.answered request _ cursorId) =>
    if request.requestId = requestId then some cursorId else known
  | none, _ => known

theorem moment?_of_executes {step : LaneStep} {record : Record}
    (executes : step.executes? = some record) : step.moment? = none := by
  unfold executes? at executes
  split at executes
  · rename_i action phase
    simp [moment?, action, phase]
  · cases executes

theorem received_of_answered {step : LaneStep} {request : Frame} {miss : Bool} {cursorId : Int64}
    (answered : step.moment? = some (.answered request miss cursorId)) :
    ∃ issue reply summary, step.before.phase = .awaiting issue ∧ step.action = .received reply ∧
      reply.responseTo = issue.record.requestId ∧ reply.replySummary = .ok summary ∧
      issue.record.frame = request ∧ summary.cursorId = cursorId := by
  unfold moment? at answered
  split at answered
  · split at answered <;> cases answered
  · rename_i reply issue arrived phase
    split at answered
    · rename_i own
      split at answered
      · rename_i summary readable
        cases answered
        exact ⟨issue, reply, summary, phase, arrived, own, readable, rfl, rfl⟩
      · cases answered
    · cases answered
  · split at answered <;> cases answered
  · cases answered

theorem aired_of_answered {step : LaneStep} {request : Frame} {miss : Bool} {cursorId : Int64}
    (answered : step.moment? = some (.answered request miss cursorId)) :
    ∃ record, step.before.phase.aired? = some record ∧ record.frame = request := by
  obtain ⟨issue, _, _, phase, _, _, _, same, _⟩ := received_of_answered answered
  exact ⟨issue.record, by rw [phase]; rfl, same⟩

end LaneStep

def executed (log : List LaneStep) : List Record := log.filterMap LaneStep.executes?

theorem executed_append (first second : List LaneStep) :
    executed (first ++ second) = executed first ++ executed second := List.filterMap_append

/-- The cursor id that the live server returned to the last request with some id that was executed
    on a lane, if it got a reply. -/
def lastAnswer (log : List LaneStep) (requestId : Int32) : Option Int64 :=
  log.foldl (LaneStep.answerAfter requestId) none

/-- The last request with some id was executed while a cursor was left open under the id, left none
    itself, and no recorded reply to the id has come since then. -/
def Overlooked (log : List LaneStep) (requestId : Int32) : Prop :=
  ∃ before step after record, log = before ++ step :: after ∧ step.executes? = some record ∧
    record.requestId = requestId ∧ (∃ live, LeftOpen (history before) requestId live) ∧
    (∀ later ∈ after, ∀ other, later.executes? = some other → other.requestId ≠ requestId) ∧
    ∀ moment ∈ history after, (∀ live, ¬moment.Leaves requestId live) ∧ ¬moment.Consumes requestId

section log

variable {log : List LaneStep} {step : LaneStep} {requestId : Int32} {live : Int64}

theorem lastAnswer_concat (log : List LaneStep) (step : LaneStep) (requestId : Int32) :
    lastAnswer (log ++ [step]) requestId =
      step.answerAfter requestId (lastAnswer log requestId) := by
  simp only [lastAnswer, List.foldl_append, List.foldl_cons, List.foldl_nil]

theorem lastAnswer_executed {record : Record} (executes : step.executes? = some record) :
    lastAnswer (log ++ [step]) record.requestId = none := by
  rw [lastAnswer_concat]
  simp [LaneStep.answerAfter, executes]

theorem lastAnswer_kept
    (other : ∀ record, step.executes? = some record → record.requestId ≠ requestId)
    (unanswered : ∀ request miss cursorId, step.moment? = some (.answered request miss cursorId) →
      request.requestId ≠ requestId) :
    lastAnswer (log ++ [step]) requestId = lastAnswer log requestId := by
  rw [lastAnswer_concat]
  unfold LaneStep.answerAfter
  split
  · rename_i record executes
    rw [if_neg (other record executes)]
  · rename_i request miss cursorId _ answered
    rw [if_neg (unanswered request miss cursorId answered)]
  · rfl

theorem Overlooked.concat (overlooked : Overlooked log requestId)
    (other : ∀ record, step.executes? = some record → record.requestId ≠ requestId)
    (spared : ∀ moment, step.moment? = some moment →
      (∀ live, ¬moment.Leaves requestId live) ∧ ¬moment.Consumes requestId) :
    Overlooked (log ++ [step]) requestId := by
  obtain ⟨before, first, after, record, split, executes, own, left, none_later, kept⟩ := overlooked
  refine ⟨before, first, after ++ [step], record, by rw [split]; simp, executes, own, left, ?_, ?_⟩
  · intro later member found
    rcases List.mem_append.mp member with old | new
    · exact none_later later old found
    · rw [List.mem_singleton.mp new]
      exact other found
  · intro moment member
    rw [history_append] at member
    rcases List.mem_append.mp member with old | new
    · exact kept moment old
    · obtain ⟨found, same, happened⟩ := List.mem_filterMap.mp new
      rw [List.mem_singleton.mp same] at happened
      exact spared moment happened

theorem LeftOpen.ne_zero {past : List Moment} (left : LeftOpen past requestId live) :
    live ≠ 0 := by
  obtain ⟨_, moment, _, _, leaves, _⟩ := left
  cases moment with
  | answered => exact leaves.2.2.1
  | recalled | killed => exact leaves.elim

/-- A cursor that is left open is in the last answer, or the last request was overlooked. -/
def Explained (log : List LaneStep) : Prop :=
  ∀ requestId live, LeftOpen (history log) requestId live →
    lastAnswer log requestId = some live ∨ Overlooked log requestId

theorem Explained.nil : Explained [] := fun _ _ left => absurd left not_since_nil

theorem Explained.concat (explained : Explained log)
    (unanswered : ∀ request miss cursorId, step.moment? = some (.answered request miss cursorId) →
      lastAnswer log request.requestId = none) : Explained (log ++ [step]) := by
  intro requestId live left
  rw [history_append] at left
  by_cases again : ∃ record, step.executes? = some record ∧ record.requestId = requestId
  · obtain ⟨record, executes, own⟩ := again
    rw [history_of_none (LaneStep.moment?_of_executes executes), List.append_nil] at left
    exact .inr ⟨log, step, [], record, rfl, executes, own, ⟨live, left⟩, List.forall_mem_nil _,
      List.forall_mem_nil _⟩
  · have other : ∀ record, step.executes? = some record → record.requestId ≠ requestId :=
      fun record executes own => again ⟨record, executes, own⟩
    cases happened : step.moment? with
    | none =>
      rw [history_of_none happened, List.append_nil] at left
      rcases explained requestId live left with known | overlooked
      · left
        rwa [lastAnswer_kept other (by simp [happened])]
      · exact .inr (overlooked.concat other (by simp [happened]))
    | some moment =>
      rw [history_of_some happened] at left
      unfold LeftOpen at left
      rw [since_concat] at left
      rcases left with leaves | ⟨before, kept⟩
      · -- The step is the live reply that leaves the cursor open.
        cases moment with
        | recalled | killed => exact leaves.elim
        | answered request miss cursorId =>
          obtain ⟨own, rfl, _⟩ := leaves
          have unexecuted : step.executes? = none := by
            cases executes : step.executes? with
            | none => rfl
            | some record =>
              rw [LaneStep.moment?_of_executes executes] at happened
              cases happened
          left
          rw [lastAnswer_concat]
          simp [LaneStep.answerAfter, unexecuted, happened, own]
      · rcases explained requestId live before with known | overlooked
        · left
          rw [lastAnswer_kept other, known]
          intro request miss cursorId answered own
          have unknown := unanswered request miss cursorId answered
          rw [own, known] at unknown
          cases unknown
        · refine .inr (overlooked.concat other fun found same => ?_)
          rw [happened] at same
          cases same
          exact ⟨fun other leaves => kept (.inl ⟨other, leaves⟩), fun used => kept (.inr used)⟩

/-- At any time, only requests that were executed have been answered. -/
def Requested (log : List LaneStep) : Prop :=
  ∀ before after, log = before ++ after → ∀ request miss cursorId,
    .answered request miss cursorId ∈ history before → ∃ record ∈ executed before,
      record.frame = request

theorem Requested.concat (requested : Requested log)
    (asked : ∀ request miss cursorId, step.moment? = some (.answered request miss cursorId) →
      ∃ record ∈ executed log, record.frame = request) : Requested (log ++ [step]) := by
  intro before after split request miss cursorId answered
  rcases List.eq_nil_or_concat after with rfl | ⟨front, last, rfl⟩
  · rw [List.append_nil] at split
    subst split
    rw [history_append] at answered
    have found : ∃ record ∈ executed log, record.frame = request := by
      rcases List.mem_append.mp answered with old | new
      · exact requested log [] (List.append_nil log).symm request miss cursorId old
      · obtain ⟨found, same, happened⟩ := List.mem_filterMap.mp new
        rw [List.mem_singleton.mp same] at happened
        exact asked request miss cursorId happened
    obtain ⟨record, member, frame⟩ := found
    exact ⟨record, by rw [executed_append]; exact List.mem_append_left _ member, frame⟩
  · rw [List.concat_eq_append, ← List.append_assoc] at split
    obtain ⟨earlier, _⟩ := List.append_inj' split rfl
    exact requested before front earlier request miss cursorId answered

theorem Overlooked.repeated (overlooked : Overlooked log requestId) (requested : Requested log) :
    1 < (executed log).countP fun record => record.requestId = requestId := by
  obtain ⟨before, step, after, record, split, executes, own, ⟨live, left⟩, _⟩ := overlooked
  obtain ⟨front, moment, rest, past, leaves, _⟩ := left
  have earlier : 0 < (executed before).countP fun record => record.requestId = requestId := by
    cases moment with
    | recalled | killed => exact leaves.elim
    | answered request miss cursorId =>
      have answered : Moment.answered request miss cursorId ∈ history before := by simp [past]
      obtain ⟨found, member, frame⟩ := requested before _ split request miss cursorId answered
      refine List.countP_pos_iff.mpr ⟨found, member, ?_⟩
      have same : found.requestId = requestId := by
        rw [Record.requestId, frame]
        exact leaves.1
      simp [same]
  have now : executed (step :: after) = record :: executed after := by
    simp [executed, executes]
  rw [split, executed_append, now, List.countP_append, List.countP_cons]
  simp only [own, decide_true, if_true]
  omega

end log

namespace Worker

variable {around : Surroundings} {worker : Worker} {shared : Shared} {action : WorkerAction}
  {outcome : Outcome} {log : List LaneStep}

theorem Shift.executes {phase : WorkerPhase} {after : Shared} {effects : List LaneEffect}
    (shift : Shift around worker shared action phase after effects) :
    LaneStep.executes? ⟨worker, action, effects⟩ = none := by
  cases shift with
  | runsOut at_phase =>
    rcases at_phase with ⟨at_phase, _⟩ | ⟨_, at_phase⟩ <;> simp [LaneStep.executes?, at_phase]
  | connects at_phase => rcases at_phase with ⟨rfl, _⟩ | ⟨rfl, _⟩ <;> rfl
  | isRefused _ cause | isDenied _ cause => rcases cause with rfl | ⟨rfl, _⟩ <;> rfl
  | _ => simp_all [LaneStep.executes?]

/-- A request that is out after a step was executed in it, or was out before and got no answer. -/
theorem Step.airs (step : Step around worker shared action outcome) {record : Record}
    (aired : outcome.1.phase.aired? = some record) :
    LaneStep.executes? ⟨worker, action, outcome.2.2⟩ = some record ∨
      worker.phase.aired? = some record ∧
        LaneStep.executes? ⟨worker, action, outcome.2.2⟩ = none ∧
        LaneStep.moment? ⟨worker, action, outcome.2.2⟩ = none := by
  have unfailed : ∀ failed : Worker,
      (afterFailure around.settings failed).phase.aired? ≠ some record := by
    intro failed
    rcases afterFailure_phase around.settings failed with phase | phase <;> rw [phase] <;>
      exact nofun
  cases step with
  | shifts shift =>
    exact .inr ⟨shift.quiet.2.1.symm.trans aired, shift.executes, shift.moment⟩
  | transmits phase =>
    cases aired
    exact .inl (by simp [LaneStep.executes?, phase])
  | withholds | fails => exact absurd aired (unfailed _)
  | hears =>
    revert aired
    dsimp only
    split
    · exact fun aired => absurd aired (unfailed _)
    · exact nofun
  | drainsReply phase | drains phase =>
    have draining : worker.phase = .draining := phase
    simp only [emit, draining] at aired
    cases aired
  | _ => cases aired

end Worker

theorem OpMove.unaired {lane : LaneId} {before after : WorkerPhase} {effects : List LaneEffect}
    (move : OpMove lane before effects after) (free : before.held? = none) :
    after.aired? = none := by
  cases aired : after.aired? with
  | none => rfl
  | some record =>
    have held := WorkerPhase.held?_of_aired? aired
    cases move with
    | passes _ same => exact absurd (held.symm.trans (same.trans free)) nofun
    | drops _ _ unheld | drains _ unheld => exact absurd (held.symm.trans unheld) nofun
    | takes _ unaired => exact absurd (aired.symm.trans unaired) nofun
    | transmits found | reports found => exact absurd (found.symm.trans free) nofun

/-- How the answers on a lane go with its requests. -/
structure Attributed (log : List LaneStep) (worker : Worker) : Prop where
  known : ∀ record, worker.phase.aired? = some record →
    record ∈ executed log ∧ lastAnswer log record.requestId = none
  explained : Explained log
  requested : Requested log

namespace LaneRun

variable {scope : CursorScope} {log : List LaneStep} {worker : Worker} {record : Record}

theorem attributed (run : LaneRun scope log worker) : Attributed log worker := by
  induction run with
  | opened lane predecessor =>
    refine ⟨fun record aired => ?_, .nil, fun before after split => ?_⟩
    · cases predecessor <;> cases aired
    · obtain ⟨rfl, _⟩ := List.append_eq_nil_iff.mp split.symm
      exact nofun
  | fed _ _ ih => exact ⟨ih.known, ih.explained, ih.requested⟩
  | steps _ _ step ih =>
    constructor
    case known =>
      intro record aired
      rw [executed_append]
      rcases step.airs aired with executes | ⟨before, unexecuted, silent⟩
      · exact ⟨List.mem_append_right _ (by simp [executed, executes]), lastAnswer_executed executes⟩
      · obtain ⟨member, unknown⟩ := ih.known record before
        rw [lastAnswer_kept (by simp [unexecuted]) (by simp [silent])]
        exact ⟨List.mem_append_left _ member, unknown⟩
    case explained =>
      refine ih.explained.concat fun request miss cursorId answered => ?_
      obtain ⟨record, aired, rfl⟩ := LaneStep.aired_of_answered answered
      exact (ih.known record aired).2
    case requested =>
      refine ih.requested.concat fun request miss cursorId answered => ?_
      obtain ⟨record, aired, frame⟩ := LaneStep.aired_of_answered answered
      exact ⟨record, (ih.known record aired).1, frame⟩
  | @inherits _ _ heir _ _ _ _ _ _ _ predecessor _ _ waiting _ step ih =>
    have free : heir.phase.held? = none := by rw [waiting]; rfl
    have idle : heir.phase.aired? = none := by rw [waiting]; rfl
    have unanswered : ∀ {effects : List LaneEffect} {action : WorkerAction} request miss cursorId,
        LaneStep.moment? ⟨heir, action, effects⟩ ≠ some (.answered request miss cursorId) := by
      intro effects action request miss cursorId answered
      obtain ⟨record, aired, _⟩ := LaneStep.aired_of_answered answered
      exact absurd (idle.symm.trans aired) nofun
    have unaired := step.op_move.unaired free
    constructor
    case known => exact fun record aired => absurd (unaired.symm.trans aired) nofun
    case explained =>
      exact ih.explained.concat fun _ _ _ answered => absurd answered (unanswered _ _ _)
    case requested =>
      exact ih.requested.concat fun _ _ _ answered => absurd answered (unanswered _ _ _)

/-- A recorded reply binds its cursor id to the cursor in the last answer to the request that it
    answers, or binds nothing, unless that request was overlooked. -/
theorem binds_last_answer (run : LaneRun scope log worker)
    (holding : worker.phase = .holding record) (response : record.isResponse = true)
    (settled : ¬Overlooked log record.frame.responseTo) (around : Surroundings)
    (shared : Shared) :
    ∃ outcome, worker.step? around shared .advance = some outcome ∧
      ((∃ summary live, record.frame.replySummary = .ok summary ∧
          outcome.2.2 = [.binds summary.cursorId live] ∧
          (outcome.1.memory.home, outcome.2.1.common) =
            worker.memory.home.bind shared.common worker.lane summary.cursorId live ∧
          lastAnswer log record.frame.responseTo = some live ∧ live ≠ 0) ∨
        (outcome.2.2 = [] ∧ outcome.1.memory.home = worker.memory.home ∧
          outcome.2.1.common = shared.common)) := by
  have remembered := run.remembered (by simp [Worker.Remembers, holding])
  have step : worker.step? around shared .advance =
      some (Worker.consider around record worker shared) := by
    simp only [Worker.step?, Worker.advance?, holding]
  refine ⟨_, step, ?_⟩
  unfold Worker.consider LaneMemory.correlate
  rw [if_pos response]
  cases found : worker.memory.binding? record.frame with
  | none => exact .inr ⟨rfl, rfl, rfl⟩
  | some pair =>
    obtain ⟨recorded, live⟩ := pair
    left
    unfold LaneMemory.binding? at found
    split at found
    · rename_i cursor summary held readable
      split at found
      · cases found
      · cases found
        have left_open := (remembered record.frame.responseTo live).mp held
        have known := (run.attributed.explained _ live left_open).resolve_right settled
        exact ⟨summary, live, readable, rfl, rfl, known, left_open.ne_zero⟩
    · cases found

end LaneRun

namespace SampleLane

def walkedOnce : Option (Worker × List LaneStep) :=
  queued.walk? around shared ([.advance, .connected] ++ asked 77 ++ [.advance])

/-- The query is sent once more before the recorded reply comes. -/
def walkedTwice : Option (Worker × List LaneStep) :=
  Worker.walk? around { queued with queue := [query, query, answer] } shared
    ([.advance, .connected] ++ asked 77 ++ asked 0 ++ [.advance])

def once : Worker × List LaneStep := walkedOnce.get (by decide)

def twice : Worker × List LaneStep := walkedTwice.get (by decide)

end SampleLane

/-- The recorded reply binds cursor 42 to cursor 77, which the only query was answered with. -/
theorem sampleLane_binds_answer :
    LaneRun .lane SampleLane.once.2 SampleLane.once.1 ∧
      SampleLane.once.1.phase = .holding SampleLane.answer ∧
      lastAnswer SampleLane.once.2 1 = some 77 ∧
      ∃ outcome, SampleLane.once.1.step? SampleLane.around SampleLane.shared .advance =
        some outcome ∧ outcome.2.2 = [.binds 42 77] := by
  have steps : SampleLane.walkedOnce = some SampleLane.once := (Option.some_get _).symm
  have run := SampleLane.walks steps
  have holding : SampleLane.once.1.phase = .holding SampleLane.answer := rfl
  have answer : lastAnswer SampleLane.once.2 1 = some 77 := rfl
  have unrepeated :
      (executed SampleLane.once.2).countP (fun record => record.requestId = 1) = 1 := by decide
  have settled : ¬Overlooked SampleLane.once.2 SampleLane.answer.frame.responseTo := by
    intro overlooked
    have repeated := overlooked.repeated run.attributed.requested
    exact absurd (unrepeated ▸ repeated) (Nat.lt_irrefl 1)
  have emits : (SampleLane.once.1.step? SampleLane.around SampleLane.shared .advance).map
      (fun outcome => outcome.2.2.length) = some 1 := by decide
  have named : SampleLane.answer.frame.replySummary.map ReplySummary.cursorId = .ok 42 := rfl
  obtain ⟨outcome, step, binding | ⟨nothing, _⟩⟩ :=
    run.binds_last_answer holding rfl settled SampleLane.around SampleLane.shared
  · obtain ⟨summary, live, readable, binds, _, known, _⟩ := binding
    rw [readable] at named
    have cursor : summary.cursorId = 42 := Except.ok.inj named
    rw [cursor, Option.some.inj (known.symm.trans answer)] at binds
    exact ⟨run, holding, answer, outcome, step, binds⟩
  · rw [step, Option.map_some, nothing] at emits
    cases emits

/-- The second query with the id was answered without a cursor, and the recorded reply binds cursor
    42 to the one that the first query was answered with. -/
theorem repeated_binds_stale_cursor :
    LaneRun .lane SampleLane.twice.2 SampleLane.twice.1 ∧
      SampleLane.twice.1.phase = .holding SampleLane.answer ∧
      SampleLane.answer.frame.responseTo = 1 ∧ lastAnswer SampleLane.twice.2 1 = some 0 ∧
      ∃ outcome, SampleLane.twice.1.step? SampleLane.around SampleLane.shared .advance =
        some outcome ∧ outcome.2.2 = [.binds 42 77] := by
  have steps : SampleLane.walkedTwice = some SampleLane.twice := (Option.some_get _).symm
  have emits : (SampleLane.twice.1.step? SampleLane.around SampleLane.shared .advance).map
      (fun outcome => outcome.2.2) = some [.binds 42 77] := by decide
  obtain ⟨outcome, step, binds⟩ := Option.map_eq_some_iff.mp emits
  exact ⟨SampleLane.walks steps, rfl, rfl, rfl, outcome, step, binds⟩

end TrafficReplay
