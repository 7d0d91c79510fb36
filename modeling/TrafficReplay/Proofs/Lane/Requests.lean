import TrafficReplay.Proofs.Lane.Correlation

namespace TrafficReplay

def LaneEffect.request? : LaneEffect → Option (Record × Frame)
  | .transmits record frame => some (record, frame)
  | _ => none

def sentRequests (effects : List LaneEffect) : List (Record × Frame) :=
  effects.filterMap LaneEffect.request?

theorem sentRequests_append (first second : List LaneEffect) :
    sentRequests (first ++ second) = sentRequests first ++ sentRequests second :=
  List.filterMap_append

theorem sentRequests_of_quiet {effects : List LaneEffect}
    (quiet : ∀ effect ∈ effects, effect.isQuiet = true) : sentRequests effects = [] := by
  apply List.filterMap_eq_nil_iff.mpr
  intro effect member
  have still := quiet effect member
  cases effect with
  | transmits => cases still
  | _ => rfl

def requestsOf (log : List LaneStep) : List (Record × Frame) :=
  sentRequests (log.flatMap LaneStep.effects)

theorem requestsOf_append (first second : List LaneStep) :
    requestsOf (first ++ second) = requestsOf first ++ requestsOf second := by
  simp only [requestsOf, List.flatMap_append, sentRequests_append]

theorem requestsOf_concat (log : List LaneStep) (step : LaneStep) :
    requestsOf (log ++ [step]) = requestsOf log ++ sentRequests step.effects := by
  have single : requestsOf [step] = sentRequests step.effects := by
    rw [requestsOf, List.flatMap_singleton]
  rw [requestsOf_append, single]

theorem WorkerPhase.pending?_of_aired? {phase : WorkerPhase} {record : Record}
    (aired : phase.aired? = some record) : phase.pending? = some record := by
  unfold aired? at aired
  split at aired
  · exact aired
  · exact aired
  · cases aired

def WorkerPhase.unsent (phase : WorkerPhase) : List Record :=
  if phase.aired?.isSome then [] else phase.held?.toList

theorem WorkerPhase.unsent_of_free {phase : WorkerPhase} (free : phase.held? = none) :
    phase.unsent = [] := by
  unfold unsent
  rw [free]
  split <;> rfl

theorem LaneMemory.prepare_requestId {memory : LaneMemory} {common : CursorTable}
    {policy : CursorMissPolicy} {frame sent : Frame} {miss : Bool}
    (prepared : memory.prepare common policy frame = ⟨.ok sent, miss⟩) :
    sent.requestId = frame.requestId := by
  have preparation := memory.prepare_preparation common policy frame
  rw [prepared] at preparation
  cases preparation with
  | plain => rfl
  | translated _ _ _ made => exact Frame.withCursorIds_requestId made

namespace Worker

variable {around : Surroundings} {worker : Worker} {shared : Shared} {action : WorkerAction}
  {outcome : Outcome}

theorem Step.sent_requestId (step : Step around worker shared action outcome) {record : Record}
    {frame : Frame} (sends : .transmits record frame ∈ outcome.2.2) :
    frame.requestId = record.requestId := by
  cases step with
  | transmits phase prepared =>
    cases List.mem_singleton.mp sends
    exact LaneMemory.prepare_requestId prepared
  | shifts shift => cases shift <;> simp_all
  | @correlates other => cases worker.memory.binding? other.frame <;> simp_all
  | _ => simp_all [close]

/-- A step sends nothing and has no other request out than before, or it sends the one that is out. -/
theorem Step.request_sent (step : Step around worker shared action outcome) :
    sentRequests outcome.2.2 = [] ∧
        (∀ record, outcome.1.phase.aired? = some record → worker.phase.aired? = some record) ∨
      ∃ record frame, sentRequests outcome.2.2 = [(record, frame)] ∧
        frame.requestId = record.requestId ∧ worker.phase.held? = some record ∧
        outcome.1.phase.aired? = some record := by
  have unaired (free : outcome.1.phase.held? = none) (record : Record) :
      outcome.1.phase.aired? = some record → worker.phase.aired? = some record := by
    intro aired
    exact absurd ((WorkerPhase.held?_of_aired? aired).symm.trans free) nofun
  have named := @step.sent_requestId
  have move := step.op_move
  generalize outcome.2.2 = effects at *
  cases move with
  | passes quiet _ same =>
    left
    exact ⟨sentRequests_of_quiet quiet, fun record aired => same.symm.trans aired⟩
  | drops quiet _ free => exact .inl ⟨sentRequests_of_quiet quiet, unaired free⟩
  | takes _ none => exact .inl ⟨rfl, fun record aired => nomatch none.symm.trans aired⟩
  | @transmits record frame _ held _ aired =>
    right
    exact ⟨record, frame, rfl, named List.mem_cons_self, held, aired⟩
  | reports _ _ free => exact .inl ⟨rfl, unaired free⟩
  | drains _ free => exact .inl ⟨rfl, unaired free⟩

theorem Step.begins (step : Step around worker shared action outcome) {predecessor : WorkerId}
    (waiting : worker.phase = .succeeding predecessor) :
    outcome.2.2 = [] ∧ ∀ reply, action ≠ .received reply := by
  cases step.of_succeeding waiting <;> exact ⟨rfl, nofun⟩

theorem Step.sends_taken (step : Step around worker shared action outcome) :
    ((sentRequests outcome.2.2).map Prod.fst ++ outcome.1.phase.unsent).Sublist
      (worker.phase.unsent ++ taken outcome.2.2) := by
  have unsent_failed := fun failed =>
    WorkerPhase.unsent_of_free (afterFailure_free around.settings failed).1
  have free : ∀ {effects : List LaneEffect} {phase : WorkerPhase} {records : List Record},
      sentRequests effects = [] → phase.unsent = [] →
        ((sentRequests effects).map Prod.fst ++ phase.unsent).Sublist records := by
    intro effects phase records silent none
    rw [silent, none]
    exact List.nil_sublist _
  cases step with
  | @shifts _ _ _ effects shift =>
    obtain ⟨quiet, aired, _⟩ := shift.quiet
    have silent : sentRequests effects = [] := sentRequests_of_quiet quiet
    rw [silent, shift.taken, List.append_nil]
    simp only [WorkerPhase.unsent, enter, aired, shift.held.1]
    exact List.Sublist.refl _
  | takes phase =>
    have none : worker.phase.unsent = [] := by
      rcases phase with ⟨phase, _⟩ | ⟨_, phase⟩ <;> rw [phase] <;> rfl
    rw [none]
    exact List.Sublist.refl _
  | transmits phase =>
    rw [phase]
    exact List.Sublist.refl _
  | withholds | fails => exact free rfl (unsent_failed _)
  | hears =>
    dsimp only
    split
    · exact free rfl (unsent_failed _)
    · exact free rfl rfl
  | @correlates record =>
    apply free _ rfl
    cases worker.memory.binding? record.frame <;> rfl
  | drainsReply phase | drains phase => exact free rfl (by rw [show _ = _ from phase]; rfl)
  | _ => exact free rfl rfl

end Worker

structure Sends (log : List LaneStep) (worker : Worker) : Prop where
  out : ∀ record, worker.phase.aired? = some record →
    ∃ earlier frame, requestsOf log = earlier ++ [(record, frame)]
  each : ∀ sent ∈ requestsOf log,
    sent.2.requestId = sent.1.requestId ∧ sent.1.isResponse = false
  asked : ∀ record, worker.phase.pending? = some record → record.isResponse = false
  within : ((requestsOf log).map Prod.fst ++ worker.phase.unsent).Sublist
    (taken (log.flatMap LaneStep.effects))

namespace LaneRun

variable {scope : CursorScope} {log : List LaneStep} {worker : Worker}

theorem sends (run : LaneRun scope log worker) : Sends log worker := by
  induction run with
  | opened lane predecessor =>
    have none_sent : requestsOf [] = [] := rfl
    have free : (Worker.opened lane scope predecessor).phase.held? = none := by
      cases predecessor <;> rfl
    have idle : (Worker.opened lane scope predecessor).phase.pending? = none := by
      cases predecessor <;> rfl
    constructor
    case out =>
      intro record aired
      exact absurd ((WorkerPhase.held?_of_aired? aired).symm.trans free) nofun
    case asked => exact WorkerPhase.asked_of_idle idle
    case within =>
      rw [none_sent, WorkerPhase.unsent_of_free free]
      exact List.nil_sublist _
    case each =>
      rw [none_sent]
      exact List.forall_mem_nil _
  | fed _ _ ih => exact ⟨ih.out, ih.each, ih.asked, ih.within⟩
  | @steps log worker around shared action outcome _ _ step ih =>
    constructor
    case out =>
      intro record aired
      rw [requestsOf_concat]
      rcases step.request_sent with ⟨silent, before⟩ | ⟨other, frame, sends, _, _, airs⟩
      · rw [silent, List.append_nil]
        exact ih.out record (before record aired)
      · cases aired.symm.trans airs
        exact ⟨requestsOf log, frame, by rw [sends]⟩
    case each =>
      rw [requestsOf_concat]
      rcases step.request_sent with ⟨silent, _⟩ | ⟨other, frame, sends, named, _, airs⟩
      · rw [silent, List.append_nil]
        exact ih.each
      · rw [sends]
        have request := step.asked ih.asked other (WorkerPhase.pending?_of_aired? airs)
        exact List.forall_mem_append.mpr ⟨ih.each, List.forall_mem_singleton.mpr ⟨named, request⟩⟩
    case asked => exact step.asked ih.asked
    case within =>
      rw [requestsOf_concat, List.map_append, List.append_assoc, List.flatMap_append,
        List.flatMap_singleton, taken_append]
      have taking := ih.within.append (List.Sublist.refl (taken outcome.2.2))
      rw [List.append_assoc] at taking
      exact (step.sends_taken.append_left _).trans taking
  | @inherits log _ heir _ around shared action outcome _ _ _ run _ waiting _ step ih own =>
    -- The heir takes over with nothing out, so all that was sent and taken is its predecessor's.
    obtain ⟨nothing, _⟩ := step.begins waiting
    have idle := step.op_move.unaired (by rw [waiting]; rfl)
    have silent : requestsOf (log ++ [⟨heir, action, outcome.2.2⟩]) = requestsOf log := by
      rw [requestsOf_concat, nothing]
      exact List.append_nil _
    constructor
    case out => exact fun record aired => absurd (idle.symm.trans aired) nofun
    case each =>
      rw [silent]
      exact ih.each
    case asked => exact step.asked own.asked
    case within =>
      have none := step.sends_taken
      rw [nothing, waiting] at none
      have free : outcome.1.phase.unsent = [] := List.sublist_nil.mp none
      rw [silent, free, List.append_nil, List.flatMap_append, List.flatMap_singleton, nothing,
        List.append_nil]
      exact (List.sublist_append_left _ _).trans ih.within

/-- A lane sends requests that it has taken, each of them at most once, in order. -/
theorem requestsOf_sublist (run : LaneRun scope log worker) :
    ((requestsOf log).map Prod.fst).Sublist (requests (taken (log.flatMap LaneStep.effects))) := by
  have all : requests ((requestsOf log).map Prod.fst) = (requestsOf log).map Prod.fst := by
    apply List.filter_eq_self.mpr
    intro record member
    obtain ⟨sent, known, rfl⟩ := List.mem_map.mp member
    simp [(run.sends.each sent known).2]
  rw [← all]
  exact ((List.sublist_append_left _ _).trans run.sends.within).filter _

end LaneRun

end TrafficReplay
