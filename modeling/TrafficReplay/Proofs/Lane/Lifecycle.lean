import TrafficReplay.Proofs.Lane.Queue

namespace TrafficReplay

/-- What a worker is busy with. -/
inductive Business where
  | free
  | considers (record : Record)
  | asks (issue : Issue)

namespace Business

def issue? : Business → Option Issue
  | .asks issue => some issue
  | .free | .considers _ => none

def record? : Business → Option Record
  | .free => none
  | .considers record => some record
  | .asks issue => some issue.record

end Business

namespace WorkerPhase

def business : WorkerPhase → Business
  | .holding record | .pacing record | .due record => .considers record
  | .sending issue _ | .awaiting issue => .asks issue
  | _ => .free

def ending? : WorkerPhase → Option LaneEnding
  | .closing ending | .leaving ending | .concluding ending => some ending
  | _ => none

def pending? : WorkerPhase → Option Record
  | .pacing record | .due record => some record
  | .sending issue _ | .awaiting issue => some issue.record
  | _ => none

def held? : WorkerPhase → Option Record
  | .holding record => some record
  | phase => phase.pending?

theorem held?_eq (phase : WorkerPhase) : phase.held? = phase.business.record? := by
  cases phase <;> rfl

theorem asked_of_idle {phase : WorkerPhase} (idle : phase.pending? = none) (record : Record)
    (pending : phase.pending? = some record) : record.isResponse = false := by
  rw [idle] at pending
  cases pending

end WorkerPhase

namespace Worker

/-- What holds of a worker at any time. -/
structure Sound (fed : Bool) (worker : Worker) : Prop where
  decided : worker.handoff = .undecided ↔ worker.phase ≠ .ended
  closed : worker.phase = .ended → worker.accepting = false
  starved : worker.phase.ending? = some .done → worker.isStarved fed = true
  asked : ∀ record, worker.phase.pending? = some record → record.isResponse = false
  yielding : ∀ stamp, worker.phase = .yielding stamp → worker.report.yielded = true
  draining : worker.phase = .draining → worker.report.abort.isSome = true

/-- What holds of a worker while nothing has been cancelled. -/
structure Calm (fed : Bool) (worker : Worker) : Prop where
  uncancelled : worker.phase.ending? ≠ some .cancelled
  emptied : worker.phase = .ended → worker.queue = []
  unskipped : worker.report.skipped = 0
  yielded : worker.accepting = false → fed = true → worker.report.yielded = true

theorem isStarved_iff {worker : Worker} {fed : Bool} :
    worker.isStarved fed = true ↔ worker.queue = [] ∧ (worker.accepting = true → fed = false) := by
  cases accepting : worker.accepting <;> cases fed <;> simp [isStarved, accepting]

theorem Sound.opened (fed : Bool) (lane : LaneId) (scope : CursorScope)
    (predecessor : Option WorkerId) : (opened lane scope predecessor).Sound fed := by
  cases predecessor <;>
    exact ⟨⟨fun _ => nofun, fun _ => rfl⟩, nofun, nofun, WorkerPhase.asked_of_idle rfl, nofun, nofun⟩

theorem Calm.opened (fed : Bool) (lane : LaneId) (scope : CursorScope)
    (predecessor : Option WorkerId) : (opened lane scope predecessor).Calm fed := by
  cases predecessor <;> exact ⟨nofun, nofun, rfl, nofun⟩

theorem Sound.unfed {fed after : Bool} {worker : Worker} (sound : worker.Sound fed)
    (less : after = true → fed = true) : worker.Sound after := by
  refine { sound with starved := ?_ }
  intro isDone
  obtain ⟨empty, unfed⟩ := isStarved_iff.mp (sound.starved isDone)
  refine isStarved_iff.mpr ⟨empty, fun accepting => ?_⟩
  cases after with
  | false => rfl
  | true => exact absurd (less rfl) (by simp [unfed accepting])

theorem Calm.unfed {fed after : Bool} {worker : Worker} (calm : worker.Calm fed)
    (less : after = true → fed = true) : worker.Calm after :=
  { calm with yielded := fun closed still => calm.yielded closed (less still) }

theorem Sound.push {worker : Worker} (sound : worker.Sound true)
    (accepting : worker.accepting = true) (record : Record) :
    Worker.Sound true { worker with queue := worker.queue ++ [record] } := by
  refine { sound with starved := ?_ }
  intro isDone
  have unfed := (isStarved_iff.mp (sound.starved isDone)).2 accepting
  cases unfed

theorem Calm.push {worker : Worker} (calm : worker.Calm true) (sound : worker.Sound true)
    (accepting : worker.accepting = true) (record : Record) :
    Worker.Calm true { worker with queue := worker.queue ++ [record] } := by
  refine { calm with emptied := ?_ }
  intro ended
  exact absurd accepting (by simp [sound.closed ended])

variable {fed : Bool} {around : Surroundings} {worker : Worker} {shared : Shared}
  {action : WorkerAction} {outcome : Outcome}

theorem Shift.business {phase : WorkerPhase} {after : Shared} {effects : List LaneEffect}
    (shift : Shift around worker shared action phase after effects) :
    phase.business = worker.phase.business := by
  cases shift with
  | runsOut at_phase =>
    rcases at_phase with ⟨at_phase, _⟩ | ⟨_, at_phase⟩ <;>
      simp only [at_phase, WorkerPhase.business]
  | connects at_phase =>
    rcases at_phase with ⟨_, at_phase, _⟩ | ⟨_, at_phase⟩ <;>
      simp only [at_phase, WorkerPhase.business]
  | succeeds at_phase | getsSlot at_phase | findsNoSlot at_phase | countsItself at_phase
  | announcesItself at_phase | queuesUp at_phase | takesSlot at_phase | seesSignal at_phase
  | idles at_phase | watches at_phase | parks at_phase | isDue at_phase | paces at_phase
  | leaves at_phase | reportsRefusal at_phase | givesUpTrying _ at_phase
  | givesUpQueueing _ at_phase | givesUpConnecting _ at_phase | givesUpAuthenticating _ at_phase
  | givesUpWaiting _ at_phase | wakes at_phase | authenticates at_phase | isRefused at_phase
  | isDenied at_phase | waited at_phase | writes at_phase | awaits at_phase
  | passesOver at_phase => simp only [at_phase, WorkerPhase.business]

theorem Shift.ending {phase : WorkerPhase} {after : Shared} {effects : List LaneEffect}
    (shift : Shift around worker shared action phase after effects) {ending : LaneEnding}
    (ends : phase.ending? = some ending) :
    worker.phase.ending? = some ending ∨
      ending = .done ∧ worker.isStarved around.fed = true ∨
      ending = .cancelled ∧ shared.signal.fired = true ∨
      (∃ fault, ending = .refused fault) ∨ ending = .aborted .connectFailed := by
  cases shift with
  | runsOut _ starved => cases ends; exact .inr (.inl ⟨rfl, starved⟩)
  | seesSignal _ fired | givesUpTrying fired | givesUpQueueing fired | givesUpConnecting fired
  | givesUpAuthenticating fired | givesUpWaiting fired =>
    cases ends
    exact .inr (.inr (.inl ⟨rfl, fired⟩))
  | leaves at_phase =>
    left
    rw [at_phase]
    exact ends
  | reportsRefusal => cases ends; exact .inr (.inr (.inr (.inr rfl)))
  | isRefused | isDenied => cases ends; exact .inr (.inr (.inr (.inl ⟨_, rfl⟩)))
  | _ => cases ends

theorem Shift.pending {phase : WorkerPhase} {after : Shared} {effects : List LaneEffect}
    (shift : Shift around worker shared action phase after effects) {record : Record}
    (pending : phase.pending? = some record) :
    worker.phase.pending? = some record ∨
      worker.phase = .holding record ∧ record.isResponse = false := by
  cases shift with
  | isDue at_phase request | paces at_phase request =>
    cases pending
    exact .inr ⟨at_phase, request⟩
  | waited at_phase | writes at_phase | awaits at_phase | passesOver at_phase =>
    left
    rw [at_phase]
    exact pending
  | _ => cases pending

theorem Shift.not_ended {phase : WorkerPhase} {after : Shared} {effects : List LaneEffect}
    (shift : Shift around worker shared action phase after effects) : phase ≠ .ended := by
  cases shift <;> exact nofun

theorem Shift.not_yielding {phase : WorkerPhase} {after : Shared} {effects : List LaneEffect}
    (shift : Shift around worker shared action phase after effects) (stamp : Nat) :
    phase ≠ .yielding stamp := by
  cases shift <;> exact nofun

theorem Shift.not_draining {phase : WorkerPhase} {after : Shared} {effects : List LaneEffect}
    (shift : Shift around worker shared action phase after effects) : phase ≠ .draining := by
  cases shift <;> exact nofun

theorem Sound.of_phase {worker : Worker} (undecided : worker.handoff = .undecided)
    (going : worker.phase ≠ .ended) (notDone : worker.phase.ending? ≠ some .done)
    (asked : ∀ record, worker.phase.pending? = some record → record.isResponse = false)
    (notYielding : ∀ stamp, worker.phase ≠ .yielding stamp)
    (draining : worker.phase = .draining → worker.report.abort.isSome = true) :
    worker.Sound fed :=
  ⟨⟨fun _ => going, fun _ => undecided⟩, fun ended => absurd ended going,
    fun isDone => absurd isDone notDone, asked,
    fun stamp yields => absurd yields (notYielding stamp), draining⟩

theorem Sound.finish {worker : Worker} : worker.finish.Sound fed := by
  refine ⟨⟨fun undecided => ?_, fun going => absurd rfl going⟩, fun _ => rfl, nofun,
    WorkerPhase.asked_of_idle rfl, nofun, nofun⟩
  simp only [Worker.finish] at undecided
  split at undecided
  · cases undecided
  · rename_i decided
    exact absurd undecided decided

theorem Sound.afterFailure {settings : LaneSettings} {worker : Worker}
    (undecided : worker.handoff = .undecided) : (afterFailure settings worker).Sound fed := by
  rcases afterFailure_phase settings worker with phase | phase <;>
    exact .of_phase undecided (by rw [phase]; exact nofun) (by rw [phase]; exact nofun)
      (WorkerPhase.asked_of_idle (by rw [phase]; rfl)) (by rw [phase]; exact fun _ => nofun)
      (by rw [phase]; exact nofun)

/-- Whatever a worker is busy with is a request. -/
theorem Step.asked (step : Step around worker shared action outcome)
    (asked : ∀ record, worker.phase.pending? = some record → record.isResponse = false) :
    ∀ record, outcome.1.phase.pending? = some record → record.isResponse = false := by
  intro record pending
  have unfailed : ∀ failed, (afterFailure around.settings failed).phase.pending? ≠ some record := by
    intro failed
    rcases afterFailure_phase around.settings failed with phase | phase <;> rw [phase] <;> exact nofun
  cases step with
  | shifts shift =>
    rcases shift.pending pending with before | ⟨_, request⟩
    · exact asked record before
    · exact request
  | transmits phase =>
    cases pending
    exact asked _ (by rw [phase]; rfl)
  | withholds | fails => exact absurd pending (unfailed _)
  | hears =>
    revert pending
    dsimp only
    split
    · exact fun pending => absurd pending (unfailed _)
    · exact nofun
  | drainsReply phase | drains phase =>
    rw [show _ = _ from phase] at pending
    cases pending
  | _ => cases pending

theorem Step.sound (step : Step around worker shared action outcome)
    (sound : worker.Sound around.fed) : outcome.1.Sound around.fed := by
  have undecided : worker.handoff = .undecided := sound.decided.mpr step.not_ended
  have asked := step.asked sound.asked
  cases step with
  | @shifts _ phase _ _ shift =>
    refine ⟨⟨fun _ => shift.not_ended, fun _ => undecided⟩,
      fun ended => absurd ended shift.not_ended, ?_, asked,
      fun stamp yields => absurd yields (shift.not_yielding stamp),
      fun drains => absurd drains shift.not_draining⟩
    intro isDone
    rcases shift.ending isDone with before | ⟨_, starved⟩ | ⟨other, _⟩ | ⟨_, other⟩ | other
    · exact sound.starved before
    · exact starved
    all_goals cases other
  | yields phase =>
    exact ⟨⟨fun _ => nofun, fun _ => undecided⟩, nofun, nofun, asked, fun _ _ => rfl, nofun⟩
  | withholds => exact .afterFailure undecided
  | fails => exact .afterFailure undecided
  | hears =>
    dsimp only
    split
    · exact .afterFailure undecided
    · exact .of_phase undecided nofun nofun (WorkerPhase.asked_of_idle rfl) nofun nofun
  | closes phase =>
    refine ⟨⟨fun _ => nofun, fun _ => undecided⟩, nofun, ?_, asked, nofun, nofun⟩
    intro isDone
    refine sound.starved ?_
    rw [phase]
    exact isDone
  | bequeaths | diesOut | concludes | drainsDry | endsCancelled => exact .finish
  | drainsReply phase | drains phase =>
    exact .of_phase undecided (by rw [show _ = _ from phase]; exact nofun)
      (by rw [show _ = _ from phase]; exact nofun) asked
      (by rw [show _ = _ from phase]; exact fun _ => nofun) (fun _ => sound.draining phase)
  | stops cause => cases cause <;> exact .of_phase undecided nofun nofun asked nofun nofun
  | aborts => exact .of_phase undecided nofun nofun asked nofun fun _ => rfl
  | resumes | takes | shutsQueue | correlates | transmits | skips | plays =>
    exact .of_phase undecided nofun nofun asked nofun nofun

theorem Step.skipped (step : Step around worker shared action outcome)
    (quiet : shared.signal.fired = false) (uncancelled : worker.phase.ending? ≠ some .cancelled) :
    outcome.1.report.skipped = worker.report.skipped := by
  cases step with
  | skips fired => exact absurd fired (by simp [quiet])
  | endsCancelled phase =>
    rcases phase with ⟨_, phase⟩ | ⟨_, fired, _⟩
    · exact absurd (by rw [phase]; rfl) uncancelled
    · exact absurd fired (by simp [quiet])
  | hears => dsimp only; split <;> rfl
  | _ => rfl

theorem Step.flags (step : Step around worker shared action outcome) :
    (worker.report.yielded = true → outcome.1.report.yielded = true) ∧
      (worker.report.abort.isSome = true → outcome.1.report.abort.isSome = true) := by
  cases step with
  | yields => exact ⟨fun _ => rfl, id⟩
  | aborts => exact ⟨id, fun _ => rfl⟩
  | hears => dsimp only; split <;> exact ⟨id, id⟩
  | _ => exact ⟨id, id⟩

theorem Step.uncancelled (step : Step around worker shared action outcome)
    (quiet : shared.signal.fired = false) (uncancelled : worker.phase.ending? ≠ some .cancelled) :
    outcome.1.phase.ending? ≠ some .cancelled := by
  cases step with
  | shifts shift =>
    intro ends
    rcases shift.ending ends with before | ⟨other, _⟩ | ⟨_, fired⟩ | ⟨_, other⟩ | other
    · exact uncancelled before
    · cases other
    · exact absurd fired (by simp [quiet])
    · cases other
    · cases other
  | stops cause =>
    cases cause with
    | cancelled fired => exact absurd fired (by simp [quiet])
    | _ => exact nofun
  | skips fired => exact absurd fired (by simp [quiet])
  | withholds | fails =>
    rcases afterFailure_phase around.settings _ with phase | phase <;> rw [phase] <;> exact nofun
  | hears =>
    dsimp only
    split
    · rcases afterFailure_phase around.settings _ with phase | phase <;> rw [phase] <;> exact nofun
    · exact nofun
  | closes phase =>
    rw [phase] at uncancelled
    exact uncancelled
  | drainsReply phase | drains phase =>
    rw [show _ = _ from phase]
    exact nofun
  | _ => exact nofun

/-- A worker that ends undisturbed is out of records, and has yielded if more may come. -/
theorem Step.ends (step : Step around worker shared action outcome)
    (quiet : shared.signal.fired = false) (sound : worker.Sound around.fed)
    (uncancelled : worker.phase.ending? ≠ some .cancelled) (ended : outcome.1.phase = .ended) :
    worker.isStarved around.fed = true ∧ outcome.1.queue = worker.queue := by
  cases step with
  | shifts shift => exact absurd ended shift.not_ended
  | bequeaths phase | diesOut phase | concludes phase =>
    exact ⟨sound.starved (by rw [phase]; rfl), rfl⟩
  | endsCancelled phase =>
    rcases phase with ⟨_, phase⟩ | ⟨_, fired, _⟩
    · exact absurd (by rw [phase]; rfl) uncancelled
    · exact absurd fired (by simp [quiet])
  | drainsDry phase starved => exact ⟨starved, rfl⟩
  | withholds | fails => exact absurd ended (afterFailure_not_ended _ _)
  | hears =>
    revert ended
    dsimp only
    split
    · exact fun ended => absurd ended (afterFailure_not_ended _ _)
    · exact nofun
  | drainsReply phase | drains phase =>
    exact absurd (phase.symm.trans ended) nofun
  | _ => cases ended

theorem Step.shuts (step : Step around worker shared action outcome)
    (was_open : worker.accepting = true) (shut : outcome.1.accepting = false) :
    (∃ stamp, worker.phase = .yielding stamp) ∨ outcome.1.phase = .ended := by
  cases step with
  | shutsQueue phase => exact .inl ⟨_, phase⟩
  | bequeaths | diesOut | concludes | endsCancelled | drainsDry => exact .inr rfl
  | hears =>
    revert shut
    dsimp only
    split <;> exact fun shut => absurd was_open (by simp [show worker.accepting = false from shut])
  | _ => exact absurd was_open (by simp [show worker.accepting = false from shut])

theorem Step.calm (step : Step around worker shared action outcome)
    (quiet : shared.signal.fired = false) (sound : worker.Sound around.fed)
    (calm : worker.Calm around.fed) : outcome.1.Calm around.fed := by
  refine ⟨step.uncancelled quiet calm.uncancelled, ?_,
    (step.skipped quiet calm.uncancelled).trans calm.unskipped, ?_⟩
  · intro ended
    obtain ⟨starved, same⟩ := step.ends quiet sound calm.uncancelled ended
    rw [same]
    exact (isStarved_iff.mp starved).1
  · intro shut fed
    apply step.flags.1
    cases before : worker.accepting with
    | false => exact calm.yielded before fed
    | true =>
      rcases step.shuts before shut with ⟨stamp, phase⟩ | ended
      · exact sound.yielding stamp phase
      · obtain ⟨starved, _⟩ := step.ends quiet sound calm.uncancelled ended
        exact absurd fed (by simp [(isStarved_iff.mp starved).2 before])

theorem Step.drains_on (step : Step around worker shared action outcome)
    (draining : worker.phase = .draining) :
    outcome.1.phase = .draining ∨ outcome.1.phase = .ended := by
  cases step with
  | drainsReply | drains => exact .inl draining
  | drainsDry | endsCancelled => exact .inr rfl
  | shifts shift => cases shift <;> simp_all
  | fails cause => cases cause <;> simp_all
  | stops cause => cases cause <;> simp_all
  | _ => simp_all

def OutOnceAborted (worker : Worker) : Prop :=
  worker.report.abort.isSome = true → worker.phase = .draining ∨ worker.phase = .ended

theorem OutOnceAborted.abort_eq_none (out : worker.OutOnceAborted)
    (undrained : worker.phase ≠ .draining) (going : worker.phase ≠ .ended) :
    worker.report.abort = none := by
  rw [← Option.not_isSome_iff_eq_none]
  intro aborted
  rcases out aborted with phase | phase
  · exact undrained phase
  · exact going phase

theorem Step.outOnceAborted (step : Step around worker shared action outcome)
    (before : worker.OutOnceAborted) : outcome.1.OutOnceAborted := by
  intro aborted
  have kept : outcome.1.report.abort = worker.report.abort ∨ outcome.1.phase = .draining := by
    cases step with
    | aborts => exact .inr rfl
    | hears => dsimp only; split <;> exact .inl rfl
    | _ => exact .inl rfl
  rcases kept with same | draining
  · rcases before (same ▸ aborted) with draining | ended
    · exact step.drains_on draining
    · exact absurd ended step.not_ended
  · exact .inl draining

end Worker

end TrafficReplay
