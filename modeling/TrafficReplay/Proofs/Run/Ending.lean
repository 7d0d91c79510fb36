import TrafficReplay.Proofs.Run.Outcome
import TrafficReplay.Proofs.Run.Progress
import TrafficReplay.Proofs.Run.Solo

namespace TrafficReplay

def RunAction.isOwn : RunAction → Bool
  | .router (.next _) | .cancel => false
  | .router _ => true
  | .worker _ action => action.isOwn

theorem WorkerAction.isDecisive_of_isOwn {action : WorkerAction} (own : action.isOwn = true)
    (phase : WorkerPhase) : action.isDecisive phase := by
  cases action with
  | advance | elapsed | timedOut => exact True.intro
  | _ => cases own

theorem drawn_of_isOwn {actions : List RunAction}
    (own : ∀ action ∈ actions, action.isOwn = true) : drawn actions = [] := by
  apply List.filterMap_eq_nil_iff.mpr
  intro action member
  have nothing := own action member
  unfold RunAction.item?
  split
  · cases nothing
  · rfl

theorem sum_set_lt {weights : List Nat} {index old new : Nat} (at_index : weights[index]? = some old)
    (lower : new < old) : (weights.set index new).sum < weights.sum := by
  induction weights generalizing index with
  | nil => cases at_index
  | cons first rest ih =>
    cases index with
    | zero =>
      cases at_index
      exact Nat.add_lt_add_right lower rest.sum
    | succ index => exact Nat.add_lt_add_left (ih at_index) first

namespace Run

variable {settings : RunSettings} {steps : List (Run × RunAction)} {actions : List RunAction}
  {effects : Effects} {run after : Run}

/-- A measure of what a run still has to do once its stream has ended. -/
def workLeft (run : Run) : Nat :=
  run.router.rank + 10 * (run.workers.map Worker.rank).sum + 3 * run.shared.events.length +
    2 * (run.workers.length - run.joined.length)

theorem workLeft_works {id : Nat} {worker : Worker} {reading : Reading} {action : WorkerAction}
    {outcome : Worker.Outcome} (at_id : run.workers[id]? = some worker)
    (move : Worker.Step (run.surroundings reading id worker) worker run.shared action outcome)
    (own : action.isOwn = true) :
    workLeft { run with
      shared := outcome.2.1
      workers := (takeLegacy run.workers worker outcome.1).set id outcome.1 } < run.workLeft := by
  have ranks := map_works Worker.rank (fun _ _ => rfl) run id worker outcome.1
  have at_rank : (run.workers.map Worker.rank)[id]? = some worker.rank := by
    rw [List.getElem?_map, at_id]
    rfl
  have less := sum_set_lt at_rank (move.descends (WorkerAction.isDecisive_of_isOwn own _))
  have told : outcome.2.1.events.length ≤ run.shared.events.length + 1 := by
    rw [(talks at_id move).events, List.length_append]
    exact Nat.add_le_add_left Option.length_toList_le _
  unfold workLeft
  simp only [ranks, List.length_set, length_takeLegacy]
  omega

theorem RouterStep.winds_up {action : RouterAction} (step : RouterStep run action after)
    (joins : after.Joins) (past : run.isRouting = false) (new : action ≠ .again) :
    (RunAction.router action).isOwn = true ∧ after.isRouting = false ∧
      after.workLeft < run.workLeft := by
  cases step with
  | looksAgain => exact absurd rfl new
  | draws phase | meetsFailure phase | meetsEnd phase | opens phase | replaces phase
  | delivers phase | givesUp phase => simp [isRouting, phase] at past
  | @stops mode phase | @looks mode phase =>
    cases mode with
    | routing => simp [isRouting, phase] at past
    | waiting =>
      refine ⟨rfl, rfl, ?_⟩
      simp only [workLeft, fail, phase, RouterPhase.rank]
      omega
  | @notes mode _ _ _ phase events | @breaksOff mode _ _ _ phase events =>
    cases mode with
    | routing => simp [isRouting, phase] at past
    | waiting =>
      refine ⟨rfl, rfl, ?_⟩
      simp only [workLeft, fail, phase, events, RouterPhase.rank, List.length_cons]
      omega
  | joins phase =>
    have within : run.joined.length + 1 ≤ run.workers.length := by
      have all := joins.length_le
      rw [List.length_append] at all
      exact all
    rcases phase with ⟨mode, phase, rfl⟩ | ⟨fault, phase, rfl⟩
    · cases mode with
      | routing => simp [isRouting, phase] at past
      | waiting =>
        refine ⟨rfl, rfl, ?_⟩
        simp only [workLeft, phase, RouterPhase.rank, List.length_append, List.length_singleton]
        omega
    · refine ⟨rfl, rfl, ?_⟩
      simp only [workLeft, phase, RouterPhase.rank, List.length_append, List.length_singleton]
      omega
  | settles phase | breaksOffLate phase | settlesStopped phase =>
    refine ⟨rfl, rfl, ?_⟩
    simp only [workLeft, fail, phase, RouterPhase.rank, List.length_nil]
    omega

/-- Once its stream has ended, a run that has not finished can take a step by itself, and what is left to
    do becomes less. -/
theorem Trace.goes_on (trace : Trace settings actions effects run) (slots : 0 < settings.laneLimit)
    (room : 0 < settings.queueDepth) (past : run.isRouting = false)
    (unfinished : run.isFinished = false) :
    ∃ reading action after new, run.step? reading action = some (after, new) ∧
      action.isOwn = true ∧ after.isRouting = false ∧ after.workLeft < run.workLeft := by
  by_cases waits : run.Waits
  · obtain ⟨id, worker, at_id, restless⟩ := trace.exists_restless slots room unfinished waits
    have unfed : run.isFed id = false := by
      rw [isFed, trace.unfed past]
      rfl
    obtain ⟨action, outcome, own, possible⟩ := Worker.goes_on_alone unfed restless
    obtain ⟨after, new, step⟩ := step?_of_worker at_id possible
    refine ⟨_, _, after, new, step, own, ?_⟩
    cases step_of_step? step with
    | works at_same move => exact ⟨past, workLeft_works at_same move own⟩
  · simp only [Waits, not_forall] at waits
    obtain ⟨reading, action, new, possible⟩ := waits
    obtain ⟨⟨after, done⟩, step⟩ := Option.ne_none_iff_exists'.mp possible
    have joins := (trace.step step).joins
    refine ⟨reading, _, after, done, step, ?_⟩
    cases step_of_step? step with
    | routes routed => exact routed.winds_up joins past new

/-- Once its stream has ended, a run can always finish, and nobody has to do anything for it: what
    does not come in time is given up. -/
theorem Course.can_finish (course : Course settings steps effects run)
    (slots : 0 < settings.laneLimit) (room : 0 < settings.queueDepth)
    (past : run.isRouting = false) :
    ∃ more new after, Course settings (steps ++ more) (effects ++ new) after ∧
      (∀ step ∈ more, step.2.isOwn = true) ∧ after.isFinished = true := by
  generalize measure : run.workLeft = left
  induction left using Nat.strongRecOn generalizing steps effects run with
  | ind left ih =>
    by_cases finished : run.isFinished = true
    · refine ⟨[], [], run, ?_, List.forall_mem_nil _, finished⟩
      rw [List.append_nil, List.append_nil]
      exact course
    · obtain ⟨reading, action, next, done, step, own, still_past, less⟩ :=
        course.trace.goes_on slots room past (Bool.eq_false_iff.mpr finished)
      obtain ⟨more, new, after, ends, all_own, at_end⟩ :=
        ih _ (measure ▸ less) (course.step step) still_past rfl
      refine ⟨(run, action) :: more, done ++ new, after, ?_, ?_, at_end⟩
      · rw [List.append_assoc, List.append_assoc] at ends
        exact ends
      · exact List.forall_mem_cons.mpr ⟨own, all_own⟩

theorem Course.can_finish_uncancelled (course : Course settings steps effects run)
    (slots : 0 < settings.laneLimit) (room : 0 < settings.queueDepth)
    (uncancelled : .cancel ∉ steps.map Prod.snd) (past : run.isRouting = false) :
    ∃ more new after result, Course settings (steps ++ more) (effects ++ new) after ∧
      .cancel ∉ (steps ++ more).map Prod.snd ∧
      drawn ((steps ++ more).map Prod.snd) = drawn (steps.map Prod.snd) ∧
      after.router = .finished result := by
  obtain ⟨more, new, after, ends, own, at_end⟩ := course.can_finish slots room past
  have all_own : ∀ action ∈ more.map Prod.snd, action.isOwn = true := by
    intro action member
    obtain ⟨step, among, rfl⟩ := List.mem_map.mp member
    exact own step among
  obtain ⟨result, phase⟩ := isFinished_iff.mp at_end
  refine ⟨more, new, after, result, ends, ?_, ?_, phase⟩
  · rw [List.map_append]
    intro asked
    rcases List.mem_append.mp asked with before | later
    · exact uncancelled before
    · cases all_own _ later
  · rw [List.map_append, drawn_append, drawn_of_isOwn all_own, List.append_nil]

end Run

end TrafficReplay
