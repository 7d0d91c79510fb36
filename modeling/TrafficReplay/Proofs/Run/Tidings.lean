import TrafficReplay.Proofs.Lane.Contact
import TrafficReplay.Proofs.Run.LaneOrder
import TrafficReplay.Proofs.Run.Slots

namespace TrafficReplay

def LaneEvent.isFatal (policy : ConnectFailurePolicy) : LaneEvent → Bool
  | .connectFailed _ _ => policy = .abortRun
  | .connected _ | .aborted _ _ => false

namespace Run

/-- A run along with the steps that led to it, each next to the run in which it was taken. -/
inductive Course (settings : RunSettings) : List (Run × RunAction) → Effects → Run → Prop
  | start : Course settings [] [] (start settings .fresh)
  | step {steps : List (Run × RunAction)} {effects new : Effects} {run after : Run}
      {reading : Reading} {action : RunAction} (course : Course settings steps effects run)
      (step : run.step? reading action = some (after, new)) :
      Course settings (steps ++ [(run, action)]) (effects ++ new) after

variable {settings : RunSettings} {steps : List (Run × RunAction)} {actions : List RunAction}
  {effects new : Effects} {run after : Run} {lane : LaneId} {contact : Contact}

theorem Course.trace (course : Course settings steps effects run) :
    Trace settings (steps.map Prod.snd) effects run := by
  induction course with
  | start => exact .start
  | step _ step ih =>
    rw [List.map_append]
    exact ih.step step

theorem Trace.course (trace : Trace settings actions effects run) :
    ∃ steps, Course settings steps effects run ∧ steps.map Prod.snd = actions := by
  induction trace with
  | start => exact ⟨[], .start, rfl⟩
  | step _ step ih =>
    obtain ⟨steps, course, rfl⟩ := ih
    exact ⟨_, course.step step, List.map_append⟩

def contactIn? : Run × RunAction → Option (LaneId × Contact)
  | (run, .worker id action) =>
    run.workers[id]?.bind fun worker =>
      (worker.phase.contact? run.settings.lane.authenticates action).map fun contact =>
        (worker.lane, contact)
  | _ => none

def sentIn? : Run × RunAction → Option LaneEvent
  | (run, .worker id action) =>
    run.workers[id]?.bind fun worker =>
      worker.phase.event? run.settings.lane.authenticates worker.lane action
  | _ => none

def heard (run : Run) : List LaneEvent → List LaneEvent
  | [] => []
  | event :: rest =>
    event :: match run.note event with
      | .ok run => run.heard rest
      | .error _ => []

def seenIn : Run × RunAction → List LaneEvent
  | (run, .router .event) => run.shared.events.take 1
  | (run, .router .settle) =>
    match run.router with
    | .choosing .waiting => run.heard run.shared.events
    | _ => []
  | _ => []

def contacts (steps : List (Run × RunAction)) : List (LaneId × Contact) := steps.filterMap contactIn?

def sent (steps : List (Run × RunAction)) : List LaneEvent := steps.filterMap sentIn?

def seen (steps : List (Run × RunAction)) : List LaneEvent := steps.flatMap seenIn

theorem contacts_concat (steps : List (Run × RunAction)) (step : Run × RunAction) :
    contacts (steps ++ [step]) = contacts steps ++ (contactIn? step).toList := by
  unfold contacts
  rw [List.filterMap_append]
  cases found : contactIn? step <;> simp [found]

theorem sent_concat (steps : List (Run × RunAction)) (step : Run × RunAction) :
    sent (steps ++ [step]) = sent steps ++ (sentIn? step).toList := by
  unfold sent
  rw [List.filterMap_append]
  cases found : sentIn? step <;> simp [found]

theorem seen_concat (steps : List (Run × RunAction)) (step : Run × RunAction) :
    seen (steps ++ [step]) = seen steps ++ seenIn step := by
  unfold seen
  rw [List.flatMap_append, List.flatMap_singleton]

structure Talks (run : Run) (id : Nat) (action : WorkerAction) (worker : Worker)
    (outcome : Worker.Outcome) : Prop where
  contact : contactIn? (run, .worker id action) =
    (worker.phase.contact? run.settings.lane.authenticates action).map fun contact =>
      (worker.lane, contact)
  event : sentIn? (run, .worker id action) =
    worker.phase.event? run.settings.lane.authenticates worker.lane action
  tells : worker.Tells run.settings.lane.authenticates action outcome.1.phase run.shared.events
    outcome.2.1.events

theorem talks {id : Nat} {worker : Worker} {reading : Reading} {action : WorkerAction}
    {outcome : Worker.Outcome} (at_id : run.workers[id]? = some worker)
    (step : Worker.Step (run.surroundings reading id worker) worker run.shared action outcome) :
    run.Talks id action worker outcome :=
  ⟨by simp only [contactIn?, at_id, Option.bind_some],
    by simp only [sentIn?, at_id, Option.bind_some], step.tells⟩

theorem Talks.events {id : Nat} {action : WorkerAction} {worker : Worker} {outcome : Worker.Outcome}
    (talks : run.Talks id action worker outcome) :
    outcome.2.1.events = run.shared.events ++ (sentIn? (run, .worker id action)).toList := by
  rw [talks.event]
  cases talks.tells with
  | silent _ event same | failed _ event same => rw [event, same]; exact (List.append_nil _).symm
  | made _ event sent | reports _ event sent | aborts _ event sent => rw [event, sent]; rfl

def untold (run : Run) : List (LaneId × Option Contact) :=
  run.workers.map fun worker => (worker.lane, worker.phase.untold?)

theorem mem_set_iff {α : Type} {list : List α} {index : Nat} {old new element : α}
    (at_index : list[index]? = some old) (different : element ≠ old) :
    element ∈ list.set index new ↔ element = new ∨ element ∈ list := by
  obtain ⟨below, found⟩ := List.getElem?_eq_some_iff.mp at_index
  constructor
  · intro member
    exact (List.mem_or_eq_of_mem_set member).symm
  · rintro (rfl | member)
    · exact List.mem_set below _
    · obtain ⟨other, at_other, rfl⟩ := List.mem_iff_getElem.mp member
      have apart : index ≠ other := by
        rintro rfl
        exact different found
      exact List.mem_iff_getElem.mpr ⟨other, by simpa using at_other, by simp [apart]⟩

/-- Every contact has been told of, or a worker is about to tell. -/
def Told (steps : List (Run × RunAction)) (run : Run) : Prop :=
  ∀ lane contact, (lane, contact) ∈ contacts steps ↔
    contact.event lane ∈ sent steps ∨ (lane, some contact) ∈ run.untold

theorem Contact.event_eq_iff (other : Contact) {there : LaneId} :
    contact.event lane = other.event there ↔ (lane, contact) = (there, other) := by
  cases contact <;> cases other <;> simp [Contact.event]

theorem Talks.told {id : Nat} {action : WorkerAction} {worker : Worker} {outcome : Worker.Outcome}
    (talks : run.Talks id action worker outcome) (told : Told steps run)
    (at_id : run.workers[id]? = some worker)
    (set : after.untold = run.untold.set id (worker.lane, outcome.1.phase.untold?)) :
    Told (steps ++ [(run, .worker id action)]) after := by
  intro lane contact
  have at_untold : run.untold[id]? = some (worker.lane, worker.phase.untold?) := by
    rw [untold, List.getElem?_map, at_id]
    rfl
  have kept (same : outcome.1.phase.untold? = worker.phase.untold?) : after.untold = run.untold := by
    obtain ⟨below, found⟩ := List.getElem?_eq_some_iff.mp at_untold
    rw [set, same, ← found, List.set_getElem_self]
  rw [contacts_concat, sent_concat, talks.contact, talks.event, List.mem_append, List.mem_append,
    told lane contact]
  cases talks.tells with
  | silent contact event _ same =>
    rw [contact, event, kept same]
    simp
  | made made event _ before told =>
    have same : contact.event lane = .connected worker.lane ↔
        (lane, contact) = (worker.lane, .made) := Contact.event_eq_iff .made
    rw [made, event, kept (told.trans before.symm)]
    simp only [Option.map_some, Option.toList_some, List.mem_singleton, same]
    tauto
  | @failed fault failed event _ before untold =>
    have different : (lane, some contact) ≠ (worker.lane, worker.phase.untold?) := by simp [before]
    rw [failed, event, set, mem_set_iff at_untold different, untold]
    simp only [Option.map_some, Option.toList_some, Option.toList_none, List.mem_singleton,
      List.not_mem_nil, or_false, Prod.mk.injEq, Option.some.injEq]
    tauto
  | @reports fault none event _ untold told =>
    have same : contact.event lane = .connectFailed worker.lane fault ↔
        (lane, contact) = (worker.lane, .failed fault) :=
      Contact.event_eq_iff (.failed fault)
    rw [none, event]
    simp only [Option.map_none, Option.toList_none, Option.toList_some, List.not_mem_nil, or_false,
      List.mem_singleton, same]
    by_cases own : (lane, contact) = (worker.lane, .failed fault)
    · have member := List.mem_of_getElem? at_untold
      cases own
      rw [untold] at member
      exact ⟨fun _ => .inl (.inr rfl), fun _ => .inr member⟩
    · have different : (lane, some contact) ≠ (worker.lane, worker.phase.untold?) := by
        rw [untold]
        simpa using own
      rw [set, mem_set_iff at_untold different, told]
      simp [own]
  | aborts none event _ before told =>
    rw [none, event, kept (told.trans before.symm)]
    cases contact <;> simp [Contact.event]

/-- No contact is forgotten, and none is made up. -/
theorem Course.told (course : Course settings steps effects run) : Told steps run := by
  induction course with
  | start => simp [Told, contacts, sent, untold, Run.start]
  | @step steps effects new run after reading action course step ih =>
    cases step_of_step? step with
    | works at_id move =>
      refine (talks at_id move).told ih at_id ?_
      rw [untold, map_works (fun worker => (worker.lane, worker.phase.untold?)) fun _ _ => rfl,
        move.lane]
      rfl
    | cancels =>
      intro lane contact
      rw [contacts_concat, sent_concat]
      have same : run.cancel.untold = run.untold := rfl
      simpa [contactIn?, sentIn?, same] using ih lane contact
    | @routes action _ routed =>
      intro lane contact
      have untold : (lane, some contact) ∈ after.untold ↔ (lane, some contact) ∈ run.untold := by
        obtain ⟨_, same | ⟨opened, scope, predecessor, more⟩⟩ :=
          routed.map (fun worker => (worker.lane, worker.phase.untold?)) fun _ _ => rfl
        · rw [untold, same, untold]
        · have nothing : (Worker.opened opened scope predecessor).phase.untold? = none := by
            cases predecessor <;> rfl
          rw [untold, more, nothing, untold]
          simp
      rw [contacts_concat, sent_concat, untold]
      simpa [contactIn?, sentIn?] using ih lane contact

theorem Course.contacts_iff (course : Course settings steps effects run)
    (ended : ∀ worker ∈ run.workers, worker.phase = .ended) :
    (lane, contact) ∈ contacts steps ↔ contact.event lane ∈ sent steps := by
  rw [course.told lane contact]
  have nothing : (lane, some contact) ∉ run.untold := by
    intro member
    obtain ⟨worker, found, same⟩ := List.mem_map.mp member
    rw [ended worker found] at same
    exact absurd (Prod.mk.inj same).2 nofun
  simp [nothing]

theorem Course.contact_lane (course : Course settings steps effects run)
    (made : (lane, contact) ∈ contacts steps) : ∃ worker ∈ run.workers, worker.lane = lane := by
  induction course with
  | start => cases made
  | @step steps effects new run after reading action course step ih =>
    have move := step_of_step? step
    have stays : (∃ worker ∈ run.workers, worker.lane = lane) →
        ∃ worker ∈ after.workers, worker.lane = lane := by
      rintro ⟨old, member, of_lane⟩
      obtain ⟨id, was⟩ := List.getElem?_of_mem member
      obtain ⟨worker, at_id⟩ := move.stays was
      exact ⟨worker, List.mem_of_getElem? at_id, (move.lane was at_id).trans of_lane⟩
    rw [contacts_concat, List.mem_append] at made
    refine stays (made.elim ih fun now => ?_)
    cases move with
    | cancels | routes => simp [contactIn?] at now
    | works at_id move =>
      rw [(talks at_id move).contact] at now
      simp only [Option.mem_toList, Option.map_eq_some_iff, Prod.mk.injEq] at now
      obtain ⟨_, _, of_lane, _⟩ := now
      exact ⟨_, List.mem_of_getElem? at_id, of_lane⟩

end Run

end TrafficReplay
