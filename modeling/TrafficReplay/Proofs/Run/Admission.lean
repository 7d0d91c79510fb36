import TrafficReplay.Proofs.Run.History
import TrafficReplay.Proofs.Run.Limit

namespace TrafficReplay

def LaneEffect.isSend : LaneEffect → Bool
  | .transmits _ _ | .wrote _ => true
  | .took _ | .connects | .waits _ _ | .binds _ _ | .reports _ | .hangsUp => false

def WorkerPhase.isAdmitted (phase : WorkerPhase) : Bool :=
  phase.isConnected && phase ≠ .authenticating

namespace Worker

/-- What a step means to the admission of a worker whose target asks for credentials. -/
inductive Admission (before : WorkerPhase) (action : WorkerAction) (effects : List LaneEffect)
    (after : WorkerPhase) : Prop
  | outside (shut : after.isAdmitted = false) (unsent : ∀ effect ∈ effects, effect.isSend = false)
  | enters (proved : action = .authenticated) (unsent : ∀ effect ∈ effects, effect.isSend = false)
  | inside (admitted : before.isAdmitted = true) (same : action ≠ .connected)

variable {around : Surroundings} {worker : Worker} {shared : Shared} {action : WorkerAction}
  {outcome : Outcome}

theorem Shift.admission {phase : WorkerPhase} {after : Shared} {effects : List LaneEffect}
    (guarded : around.settings.authenticates = true)
    (shift : Shift around worker shared action phase after effects) :
    Admission worker.phase action effects phase := by
  have unsent : ∀ effect ∈ ([] : List LaneEffect), effect.isSend = false := List.forall_mem_nil _
  cases shift with
  | connects at_phase =>
    rcases at_phase with ⟨_, _, unguarded⟩ | ⟨rfl, _⟩
    · exact absurd (guarded.symm.trans unguarded) (by decide)
    · exact .enters rfl unsent
  | runsOut at_phase =>
    rcases at_phase with ⟨at_phase, _⟩ | ⟨_, at_phase⟩ <;> exact .inside (by rw [at_phase]; rfl) nofun
  | seesSignal at_phase | idles at_phase | watches at_phase | parks at_phase | isDue at_phase
  | paces at_phase | givesUpWaiting _ at_phase | wakes at_phase | waited at_phase
  | writes at_phase | awaits at_phase | passesOver at_phase =>
    exact .inside (by rw [at_phase]; rfl) nofun
  | getsSlot | takesSlot | isDenied | givesUpAuthenticating =>
    exact .outside rfl (by simp [LaneEffect.isSend])
  | succeeds | findsNoSlot | countsItself | announcesItself | queuesUp | leaves | reportsRefusal
  | givesUpTrying | givesUpQueueing | givesUpConnecting | authenticates | isRefused =>
    exact .outside rfl unsent

theorem Step.admission (guarded : around.settings.authenticates = true)
    (step : Step around worker shared action outcome) :
    Admission worker.phase action outcome.2.2 outcome.1.phase := by
  have unsent : ∀ effect ∈ ([] : List LaneEffect), effect.isSend = false := List.forall_mem_nil _
  cases step with
  | shifts shift => exact shift.admission guarded
  | takes at_phase =>
    rcases at_phase with ⟨at_phase, _⟩ | ⟨_, at_phase⟩ <;> exact .inside (by rw [at_phase]; rfl) nofun
  | fails cause =>
    cases cause with
    | sending at_phase | waiting at_phase | reading at_phase =>
      exact .inside (by rw [at_phase]; rfl) nofun
  | stops cause =>
    cases cause with
    | cancelled _ at_phase =>
      rcases at_phase with ⟨_, at_phase⟩ | at_phase <;> exact .inside (by rw [at_phase]; rfl) nofun
    | sending at_phase cause =>
      rcases cause with rfl | ⟨_, rfl, _⟩ <;> exact .inside (by rw [at_phase]; rfl) nofun
    | closed at_phase | garbled at_phase => exact .inside (by rw [at_phase]; rfl) nofun
  | yields at_phase | shutsQueue at_phase | correlates at_phase | withholds at_phase
  | transmits at_phase | skips _ at_phase | plays at_phase | hears at_phase | closes at_phase =>
    exact .inside (by rw [at_phase]; rfl) nofun
  | drainsReply at_phase | drains at_phase =>
    have draining : worker.phase = .draining := at_phase
    refine .outside ?_ (by simp [LaneEffect.isSend])
    simp only [emit, draining]
    rfl
  | resumes | bequeaths | diesOut | concludes | endsCancelled | aborts | drainsDry =>
    exact .outside rfl unsent

end Worker

namespace Run

/-- The handshake on the connection that the worker made last has succeeded. -/
def IsAdmitted (actions : List RunAction) (id : WorkerId) : Prop :=
  ∃ before later, actions = before ++ .worker id .authenticated :: later ∧
    RunAction.worker id .connected ∉ later

variable {settings : RunSettings} {actions : List RunAction} {effects new : Effects}
  {run after : Run} {action : RunAction} {reading : Reading} {id : WorkerId}

theorem isAdmitted_now (actions : List RunAction) (id : WorkerId) :
    IsAdmitted (actions ++ [.worker id .authenticated]) id :=
  ⟨actions, [], rfl, List.not_mem_nil⟩

theorem IsAdmitted.concat (admitted : IsAdmitted actions id)
    (same : action ≠ .worker id .connected) : IsAdmitted (actions ++ [action]) id := by
  obtain ⟨before, later, rfl, kept⟩ := admitted
  refine ⟨before, later ++ [action], by simp, ?_⟩
  simp [kept, same.symm]

theorem holdsSlot_of_isAdmitted {phase : WorkerPhase} (inside : phase.isAdmitted = true) :
    phase.holdsSlot = true := by
  rw [WorkerPhase.isAdmitted, Bool.and_eq_true] at inside
  exact WorkerPhase.holdsSlot_of_isConnected inside.1

theorem Trace.admitted (trace : Trace settings actions effects run)
    (guarded : settings.lane.authenticates = true) {phase : WorkerPhase}
    (at_id : run.phases[id]? = some phase) (inside : phase.isAdmitted = true) :
    IsAdmitted actions id := by
  induction trace generalizing phase with
  | start => cases at_id
  | @step actions effects new run after reading action trace step ih =>
    have change := (step_of_step? step).phaseChange
    generalize after.phases = phases, after.shared.pool = pool at change at_id
    -- Only a step of the worker itself can bring it in, and only by authenticating.
    cases change with
    | others foreign slotless =>
      rw [List.getElem?_append] at at_id
      split at at_id
      · exact (ih at_id inside).concat (foreign _ _)
      · have slot := slotless phase (List.mem_of_getElem? at_id)
        exact absurd (slot.symm.trans (holdsSlot_of_isAdmitted inside)) (by decide)
    | @own by_id worker reading action outcome was move =>
      rcases getElem?_set_some at_id with ⟨rfl, rfl⟩ | ⟨other, kept⟩
      · cases move.admission (by rw [surroundings, trace.settings, guarded]) with
        | outside shut => exact absurd (shut.symm.trans inside) (by decide)
        | enters proved =>
          subst proved
          exact isAdmitted_now _ _
        | inside admitted same => exact (ih was admitted).concat (by simpa using same)
      · exact (ih kept inside).concat (by simp [other.symm])

/-- Nothing that was recorded goes out on a connection that is not authenticated. -/
theorem Trace.admitted_before_send (trace : Trace settings actions effects run)
    (guarded : settings.lane.authenticates = true)
    (step : run.step? reading action = some (after, new)) {effect : LaneEffect}
    (done : (id, effect) ∈ new) (sends : effect.isSend = true) : IsAdmitted actions id := by
  have change := (step_of_step? step).phaseChange
  generalize after.phases = phases, after.shared.pool = pool at change
  cases change with
  | others => cases done
  | own was move =>
    obtain ⟨_, member, same⟩ := List.mem_map.mp done
    cases same
    cases move.admission (by rw [surroundings, trace.settings, guarded]) with
    | outside _ unsent | enters _ unsent =>
      exact absurd ((unsent effect member).symm.trans sends) (by decide)
    | inside admitted => exact trace.admitted guarded was admitted

end Run

end TrafficReplay
