import TrafficReplay.Proofs.Lane.Translation
import TrafficReplay.Proofs.Run.Lifecycle

namespace TrafficReplay.Run

theorem markTaken_markTaken (worker : Worker) :
    markTaken (markTaken worker) = markTaken worker := by
  unfold markTaken
  cases handoff : worker.handoff <;> simp [handoff]

theorem markTaken_of_undecided {worker : Worker} (undecided : worker.handoff = .undecided) :
    markTaken worker = worker := by
  simp [markTaken, undecided]

theorem markTaken_not_passed (worker : Worker) (memory : LaneMemory) :
    (markTaken worker).handoff ≠ .passed memory := by
  unfold markTaken
  cases handoff : worker.handoff <;> simp [handoff]

theorem markTaken_push (worker : Worker) (queue : List Record) :
    { markTaken worker with queue := queue } = markTaken { worker with queue := queue } := by
  obtain ⟨lane, held, accepting, memory, report, handoff, phase⟩ := worker
  cases handoff <;> rfl

theorem Step.settings {run after : Run} {action : RunAction} {effects : Effects}
    (step : Step run action after effects) : after.settings = run.settings := by
  cases step with
  | routes step => cases step <;> rfl
  | works | cancels => rfl

theorem Trace.settings {settings : RunSettings} {actions : List RunAction} {effects : Effects}
    {run : Run} (trace : Trace settings actions effects run) : run.settings = settings := by
  induction trace with
  | start => rfl
  | step _ step ih => rw [(step_of_step? step).settings, ih]

/-- A worker has a lane's history behind it, in which what it did itself comes last. -/
inductive Continues (scope : CursorScope) (done : List LaneEffect) : Worker → Prop
  | goes {log : List LaneStep} {worker : Worker} (run : LaneRun scope log worker)
      (last : done <:+ log.flatMap LaneStep.effects)
      (fresh : ∀ predecessor, worker.phase = .succeeding predecessor → log = []) :
      Continues scope done worker
  | gone {log : List LaneStep} {worker : Worker} (run : LaneRun scope log worker)
      (last : done <:+ log.flatMap LaneStep.effects) (ended : worker.phase = .ended) :
      Continues scope done (markTaken worker)

namespace Continues

variable {scope : CursorScope} {done : List LaneEffect} {worker : Worker}

theorem going (continues : Continues scope done worker) (going : worker.phase ≠ .ended) :
    ∃ log, LaneRun scope log worker ∧ done <:+ log.flatMap LaneStep.effects ∧
      ∀ predecessor, worker.phase = .succeeding predecessor → log = [] := by
  cases continues with
  | goes run last fresh => exact ⟨_, run, last, fresh⟩
  | @gone log before run last ended =>
    obtain ⟨handoff, marked⟩ := markTaken_fields before
    rw [marked] at going
    exact absurd ended going

theorem passes (continues : Continues scope done worker) {memory : LaneMemory}
    (passed : worker.handoff = .passed memory) :
    ∃ log, LaneRun scope log worker ∧ done <:+ log.flatMap LaneStep.effects := by
  cases continues with
  | goes run last => exact ⟨_, run, last⟩
  | gone => exact absurd passed (markTaken_not_passed _ memory)

theorem marked (continues : Continues scope done worker) :
    Continues scope done (markTaken worker) := by
  cases continues with
  | @goes log _ run last fresh =>
    by_cases ended : worker.phase = .ended
    · exact .gone run last ended
    · rw [markTaken_of_undecided (run.bequest.1 ended)]
      exact .goes run last fresh
  | gone run last ended =>
    rw [markTaken_markTaken]
    exact .gone run last ended

theorem push (continues : Continues scope done worker) (record : Record) :
    Continues scope done { worker with queue := worker.queue ++ [record] } := by
  cases continues with
  | goes run last fresh => exact .goes (run.fed record) last fresh
  | @gone log before run last ended =>
    obtain ⟨handoff, marked⟩ := markTaken_fields before
    have queue : (markTaken before).queue = before.queue := by rw [marked]
    rw [queue, markTaken_push]
    exact .gone (run.fed record) last ended

end Continues

/-- In every interleaving, what the workers do are steps of lane runs. -/
theorem Trace.continues {settings : RunSettings} {actions : List RunAction} {effects : Effects}
    {run : Run} (trace : Trace settings actions effects run) {id : Nat} {worker : Worker}
    (at_id : run.workers[id]? = some worker) :
    Continues settings.scope (effects.ofWorker id) worker := by
  induction trace generalizing id worker with
  | start => cases at_id
  | @step actions effects new run after reading action trace step ih =>
    have change := (step_of_step? step).change at_id
    rw [Effects.ofWorker_append]
    generalize new.ofWorker id = done at change
    cases change with
    | @opened record predecessor fresh opens =>
      rw [trace.ofWorker_none (List.getElem?_eq_none (Nat.le_of_eq fresh.symm)), trace.settings]
      exact .goes (.opened record.lane predecessor) (List.suffix_refl _) fun _ _ => rfl
    | kept was =>
      rw [List.append_nil]
      exact ih was
    | bequeathed was =>
      rw [List.append_nil]
      exact (ih was).marked
    | pushed was =>
      rw [List.append_nil]
      exact (ih was).push _
    | @worked old reading action outcome was move =>
      obtain ⟨log, laneRun, last, fresh⟩ := (ih was).going move.not_ended
      have logged : ∀ {before : List LaneStep},
          effects.ofWorker id <:+ before.flatMap LaneStep.effects →
          effects.ofWorker id ++ outcome.2.2 <:+
            (before ++ [LaneStep.mk old action outcome.2.2]).flatMap LaneStep.effects := by
        rintro before ⟨earlier, whole⟩
        refine ⟨earlier, ?_⟩
        rw [List.flatMap_append, ← whole, List.append_assoc, List.flatMap_singleton]
      have moved : ∀ predecessor, outcome.1.phase = .succeeding predecessor →
          ∀ steps : List LaneStep, steps = [] :=
        fun predecessor waiting => absurd waiting (move.not_succeeding predecessor)
      -- A worker that takes a memory over goes on with the lane run of its predecessor.
      by_cases passed : ∃ memory, run.legacyOf old = .passed memory
      · obtain ⟨memory, legacy⟩ := passed
        have own := legacy
        unfold legacyOf at legacy
        split at legacy
        · rename_i predecessor waiting
          split at legacy
          · rename_i former at_former
            obtain ⟨earlier, formerRun, _⟩ := (ih at_former).passes legacy
            have new : log = [] := fresh predecessor waiting
            subst new
            obtain ⟨_, ⟨found, at_found, lane⟩, _⟩ :=
              trace.linked.preceded id predecessor old was waiting
            rw [at_former] at at_found
            cases at_found
            have nothing : effects.ofWorker id = [] := List.suffix_nil.mp last
            refine .goes (formerRun.inherits legacy laneRun lane.symm waiting own move)
              (logged ?_) fun predecessor waiting => moved predecessor waiting _
            rw [nothing]
            exact List.nil_suffix
          · cases legacy
        · cases legacy
      · refine .goes (laneRun.steps ?_ move) (logged last)
          fun predecessor waiting => moved predecessor waiting _
        exact fun memory legacy => passed ⟨memory, legacy⟩

end TrafficReplay.Run
