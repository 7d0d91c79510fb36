import TrafficReplay.Proofs.Lane.Lifecycle

namespace TrafficReplay

/-- How an attempt to connect ends, the handshake included where the target asks for one. -/
inductive Contact where
  | made
  | failed (fault : LinkFault)
deriving DecidableEq

def Contact.event (lane : LaneId) : Contact → LaneEvent
  | .made => .connected lane
  | .failed fault => .connectFailed lane fault

namespace WorkerPhase

def contact? (authenticates : Bool) : WorkerPhase → WorkerAction → Option Contact
  | .connecting, .connected => if authenticates then none else some .made
  | .connecting, .refused fault => some (.failed fault)
  | .connecting, .timedOut => some (.failed .connectTimedOut)
  | .authenticating, .authenticated => some .made
  | .authenticating, .denied reason => some (.failed (.denied reason))
  | .authenticating, .timedOut => some (.failed (.denied authenticationTimedOut))
  | _, _ => none

/-- A contact that the worker has yet to tell about. -/
def untold? (phase : WorkerPhase) : Option Contact :=
  match phase.ending? with
  | some (.refused fault) => some (.failed fault)
  | _ => none

def event? (authenticates : Bool) (lane : LaneId) :
    WorkerPhase → WorkerAction → Option LaneEvent
  | .connecting, .connected => if authenticates then none else some (.connected lane)
  | .authenticating, .authenticated => some (.connected lane)
  | .concluding (.refused fault), .advance => some (.connectFailed lane fault)
  | .concluding (.aborted reason), .advance => some (.aborted lane reason)
  | _, _ => none

end WorkerPhase

namespace Worker

inductive Tells (authenticates : Bool) (worker : Worker) (action : WorkerAction)
    (after : WorkerPhase) (events new : List LaneEvent) : Prop
  | silent (contact : worker.phase.contact? authenticates action = none)
      (event : worker.phase.event? authenticates worker.lane action = none) (same : new = events)
      (untold : after.untold? = worker.phase.untold?)
  | made (contact : worker.phase.contact? authenticates action = some .made)
      (event : worker.phase.event? authenticates worker.lane action = some (.connected worker.lane))
      (sent : new = events ++ [.connected worker.lane])
      (untold : worker.phase.untold? = none) (told : after.untold? = none)
  | failed {fault : LinkFault}
      (contact : worker.phase.contact? authenticates action = some (.failed fault))
      (event : worker.phase.event? authenticates worker.lane action = none) (same : new = events)
      (before : worker.phase.untold? = none) (untold : after.untold? = some (.failed fault))
  | reports {fault : LinkFault} (contact : worker.phase.contact? authenticates action = none)
      (event : worker.phase.event? authenticates worker.lane action =
        some (.connectFailed worker.lane fault))
      (sent : new = events ++ [.connectFailed worker.lane fault])
      (untold : worker.phase.untold? = some (.failed fault)) (told : after.untold? = none)
  | aborts {reason : LaneAbort} (contact : worker.phase.contact? authenticates action = none)
      (event : worker.phase.event? authenticates worker.lane action =
        some (.aborted worker.lane reason))
      (sent : new = events ++ [.aborted worker.lane reason])
      (untold : worker.phase.untold? = none) (told : after.untold? = none)

variable {around : Surroundings} {worker : Worker} {shared : Shared} {action : WorkerAction}
  {outcome : Outcome}

theorem Shift.tells {phase : WorkerPhase} {after : Shared} {effects : List LaneEffect}
    (shift : Shift around worker shared action phase after effects) :
    Tells around.settings.authenticates worker action phase shared.events after.events := by
  cases shift with
  | connects phase =>
    rcases phase with ⟨rfl, phase, unguarded⟩ | ⟨rfl, phase⟩
    · exact .made (by simp [phase, WorkerPhase.contact?, unguarded])
        (by simp [phase, WorkerPhase.event?, unguarded]) rfl (by rw [phase]; rfl) rfl
    · exact .made (by rw [phase]; rfl) (by rw [phase]; rfl) rfl (by rw [phase]; rfl) rfl
  | isRefused phase cause =>
    rcases cause with rfl | ⟨rfl, rfl⟩ <;>
      exact .failed (by rw [phase]; rfl) (by rw [phase]; rfl) rfl (by rw [phase]; rfl) rfl
  | isDenied phase cause =>
    rcases cause with rfl | ⟨rfl, rfl⟩ <;>
      exact .failed (by rw [phase]; rfl) (by rw [phase]; rfl) rfl (by rw [phase]; rfl) rfl
  | reportsRefusal phase =>
    exact .reports (by rw [phase]; rfl) (by rw [phase]; rfl) rfl (by rw [phase]; rfl) rfl
  | authenticates phase guarded =>
    exact .silent (by simp [phase, WorkerPhase.contact?, guarded])
      (by simp [phase, WorkerPhase.event?, guarded]) rfl (by rw [phase]; rfl)
  | runsOut phase =>
    rcases phase with ⟨phase, _⟩ | ⟨stamp, phase⟩ <;>
      exact .silent (by rw [phase]; rfl) (by rw [phase]; rfl) rfl (by rw [phase]; rfl)
  | passesOver phase =>
    exact .silent (by rw [phase]; rfl) (by rw [phase]; rfl) rfl (by rw [phase])
  | givesUpTrying _ phase | givesUpQueueing _ phase | givesUpConnecting _ phase
  | givesUpAuthenticating _ phase | givesUpWaiting _ phase | succeeds phase | getsSlot phase
  | findsNoSlot phase | countsItself phase | announcesItself phase | queuesUp phase
  | takesSlot phase | seesSignal phase | idles phase | watches phase | parks phase | isDue phase
  | paces phase | leaves phase | wakes phase | waited phase | writes phase | awaits phase =>
    exact .silent (by rw [phase]; rfl) (by rw [phase]; rfl) rfl (by rw [phase]; rfl)

theorem afterFailure_untold (settings : LaneSettings) (worker : Worker) :
    (afterFailure settings worker).phase.untold? = none := by
  rcases afterFailure_phase settings worker with phase | phase <;> rw [phase] <;> rfl

theorem Step.tells (step : Step around worker shared action outcome) :
    Tells around.settings.authenticates worker action outcome.1.phase shared.events
      outcome.2.1.events := by
  cases step with
  | shifts shift => exact shift.tells
  | aborts phase =>
    exact .aborts (by rw [phase]; rfl) (by rw [phase]; rfl) rfl (by rw [phase]; rfl) rfl
  | fails cause =>
    cases cause with
    | sending phase | waiting phase | reading phase =>
      exact .silent (by rw [phase]; rfl) (by rw [phase]; rfl) rfl
        (by rw [phase, afterFailure_untold]; rfl)
  | withholds phase =>
    exact .silent (by rw [phase]; rfl) (by rw [phase]; rfl) rfl
      (by rw [phase, afterFailure_untold]; rfl)
  | hears phase =>
    refine .silent (by rw [phase]; rfl) (by rw [phase]; rfl) rfl ?_
    dsimp only
    split
    · rw [phase, afterFailure_untold]
      rfl
    · rw [phase]
      rfl
  | stops cause =>
    cases cause with
    | cancelled _ phase =>
      rcases phase with ⟨_, phase⟩ | phase <;>
        exact .silent (by rw [phase]; rfl) (by rw [phase]; rfl) rfl (by rw [phase]; rfl)
    | sending phase cause =>
      rcases cause with rfl | ⟨_, rfl, _⟩ <;>
        exact .silent (by rw [phase]; rfl) (by rw [phase]; rfl) rfl (by rw [phase]; rfl)
    | closed phase | garbled phase =>
      exact .silent (by rw [phase]; rfl) (by rw [phase]; rfl) rfl (by rw [phase]; rfl)
  | endsCancelled phase =>
    rcases phase with ⟨rfl, phase⟩ | ⟨rfl, _, ⟨_, phase⟩ | phase⟩ <;>
      exact .silent (by rw [phase]; rfl) (by rw [phase]; rfl) rfl (by rw [phase]; rfl)
  | takes phase =>
    rcases phase with ⟨phase, _⟩ | ⟨_, phase⟩ <;>
      exact .silent (by rw [phase]; rfl) (by rw [phase]; rfl) rfl (by rw [phase]; rfl)
  | drainsReply phase | drains phase =>
    exact .silent (by rw [phase]; rfl) (by rw [phase]; rfl) rfl rfl
  | closes phase => exact .silent (by rw [phase]; rfl) (by rw [phase]; rfl) rfl (by rw [phase]; rfl)
  | skips _ phase | resumes phase | yields phase | shutsQueue phase | correlates phase
  | transmits phase | plays phase | bequeaths phase | diesOut phase | concludes phase
  | drainsDry phase =>
    exact .silent (by rw [phase]; rfl) (by rw [phase]; rfl) rfl (by rw [phase]; rfl)

end Worker

end TrafficReplay
