import TrafficReplay.Proofs.Lane.Accounting

namespace TrafficReplay

def WorkerPhase.aired? : WorkerPhase → Option Record
  | .sending issue _ | .awaiting issue => some issue.record
  | _ => none

theorem WorkerPhase.aired?_eq (phase : WorkerPhase) :
    phase.aired? = phase.business.issue?.map Issue.record := by
  cases phase <;> rfl

theorem WorkerPhase.held?_of_aired? {phase : WorkerPhase} {record : Record}
    (aired : phase.aired? = some record) : phase.held? = some record := by
  unfold aired? at aired
  split at aired
  · exact aired
  · exact aired
  · cases aired

def LaneEffect.isQuiet : LaneEffect → Bool
  | .took _ | .transmits _ _ | .reports _ => false
  | .connects | .waits _ _ | .wrote _ | .binds _ _ | .hangsUp => true

def LaneEffect.isWrite : LaneEffect → Bool
  | .wrote _ => true
  | _ => false

/-- What a step means to the operations of a lane. -/
inductive OpMove (lane : LaneId) (before : WorkerPhase) : List LaneEffect → WorkerPhase → Prop
  | passes {effects : List LaneEffect} {after : WorkerPhase}
      (quiet : ∀ effect ∈ effects, effect.isQuiet = true) (held : after.held? = before.held?)
      (aired : after.aired? = before.aired?)
      (writes : before.aired?.isSome = true → ∀ effect ∈ effects, effect.isWrite = true) :
      OpMove lane before effects after
  | drops {effects : List LaneEffect} {after : WorkerPhase}
      (quiet : ∀ effect ∈ effects, effect.isQuiet = true) (unaired : before.aired? = none)
      (free : after.held? = none) : OpMove lane before effects after
  | takes {record : Record} {after : WorkerPhase} (free : before.held? = none)
      (unaired : after.aired? = none) : OpMove lane before [.took record] after
  | transmits {record : Record} {frame : Frame} {after : WorkerPhase}
      (held : before.held? = some record) (unaired : before.aired? = none)
      (aired : after.aired? = some record) : OpMove lane before [.transmits record frame] after
  | reports {record : Record} {stat : Stat} {after : WorkerPhase}
      (held : before.held? = some record) (describes : DescribesOn lane stat record)
      (free : after.held? = none) : OpMove lane before [.reports stat] after
  | drains {record : Record} {stat : Stat} {after : WorkerPhase} (free : before.held? = none)
      (unheld : after.held? = none) : OpMove lane before [.took record, .reports stat] after

namespace Worker

variable {around : Surroundings} {worker : Worker} {shared : Shared} {action : WorkerAction}
  {outcome : Outcome}

theorem Shift.quiet {phase : WorkerPhase} {after : Shared} {effects : List LaneEffect}
    (shift : Shift around worker shared action phase after effects) :
    (∀ effect ∈ effects, effect.isQuiet = true) ∧ phase.aired? = worker.phase.aired? ∧
      (worker.phase.aired?.isSome = true → ∀ effect ∈ effects, effect.isWrite = true) := by
  have aired : phase.aired? = worker.phase.aired? := by
    rw [WorkerPhase.aired?_eq, WorkerPhase.aired?_eq, shift.business]
  refine ⟨by cases shift <;> simp [LaneEffect.isQuiet], aired, fun busy => ?_⟩
  rw [← aired] at busy
  cases shift with
  | writes => simp [LaneEffect.isWrite]
  | getsSlot | takesSlot | paces | givesUpAuthenticating | isDenied => cases busy
  | _ => exact List.forall_mem_nil _

/-- Whatever a step does to the operations of its lane is one of the moves listed. -/
theorem Step.op_move (step : Step around worker shared action outcome) :
    OpMove worker.lane worker.phase outcome.2.2 outcome.1.phase := by
  have freed := fun failed => (afterFailure_free around.settings failed).1
  have silent : ∀ effect ∈ ([] : List LaneEffect), effect.isQuiet = true := List.forall_mem_nil _
  cases step with
  | shifts shift =>
    obtain ⟨quiet, aired, writes⟩ := shift.quiet
    exact .passes quiet shift.held.1 aired writes
  | takes phase =>
    refine .takes ?_ rfl
    rcases phase with ⟨phase, _⟩ | ⟨_, phase⟩ <;> rw [phase] <;> rfl
  | correlates phase =>
    refine .drops ?_ (by rw [phase]; rfl) rfl
    cases worker.memory.binding? _ <;> simp [LaneEffect.isQuiet]
  | withholds phase => exact .reports (by rw [phase]; rfl) ⟨_, _, rfl⟩ (freed _)
  | transmits phase => exact .transmits (by rw [phase]; rfl) (by rw [phase]; rfl) rfl
  | skips _ phase => exact .drops silent (by rw [phase]; rfl) rfl
  | fails cause => exact .reports cause.held.1 ⟨_, _, rfl⟩ (freed _)
  | stops cause => exact .reports cause.held.1 ⟨_, _, rfl⟩ rfl
  | plays phase => exact .reports (by rw [phase]; rfl) ⟨_, _, rfl⟩ rfl
  | hears phase =>
    refine .reports (by rw [phase]; rfl) ⟨_, _, rfl⟩ ?_
    dsimp only
    split
    · exact freed _
    · rfl
  | closes phase => exact .drops (by simp [close, LaneEffect.isQuiet]) (by rw [phase]; rfl) rfl
  | endsCancelled phase =>
    refine .drops silent ?_ rfl
    rcases phase with ⟨_, phase⟩ | ⟨_, _, ⟨_, phase⟩ | phase⟩ <;> rw [phase] <;> rfl
  | drainsReply phase =>
    have draining : worker.phase = .draining := phase
    refine .takes (by rw [draining]; rfl) ?_
    dsimp only
    rw [draining]
    rfl
  | drains phase =>
    have draining : worker.phase = .draining := phase
    refine .drains (by rw [draining]; rfl) ?_
    simp only [emit, draining]
    rfl
  | resumes phase | yields phase | shutsQueue phase | bequeaths phase | diesOut phase
  | concludes phase | aborts phase | drainsDry phase =>
    exact .drops silent (by rw [phase]; rfl) rfl

end Worker

/-- Before each stat record another record is taken. -/
def Renewed (effects : List LaneEffect) : Prop :=
  ∀ front stat rest, effects = front ++ .reports stat :: rest → taken front ≠ []

theorem Renewed.append {effects new : List LaneEffect} (renewed : Renewed effects)
    (more : ∀ front stat rest, new = front ++ .reports stat :: rest →
      taken (effects ++ front) ≠ []) : Renewed (effects ++ new) := by
  intro front stat rest split
  rcases List.append_eq_append_iff.mp split with ⟨middle, found, remains⟩ | ⟨middle, found, remains⟩
  · rw [found]
    exact more middle stat rest remains
  · cases middle with
    | nil =>
      rw [List.append_nil] at found
      have anew := more [] stat rest remains.symm
      rwa [List.append_nil, found] at anew
    | cons first middle =>
      cases remains
      exact renewed front stat middle found

theorem Renewed.append_unreported {effects new : List LaneEffect} (renewed : Renewed effects)
    (unreported : ∀ effect ∈ new, effect.stat? = none) : Renewed (effects ++ new) := by
  refine renewed.append fun front stat rest split => ?_
  have reported := unreported (.reports stat) (by simp [split])
  cases reported

/-- What comes after an operation's transmission has begun. -/
inductive Aftermath (lane : LaneId) (record : Record) (back : List LaneEffect)
    (phase : WorkerPhase) : Prop
  | underway (writes : ∀ effect ∈ back, effect.isWrite = true)
      (aired : phase.aired? = some record)
  | told {middle rest : List LaneEffect} {stat : Stat}
      (split : back = middle ++ .reports stat :: rest)
      (writes : ∀ effect ∈ middle, effect.isWrite = true)
      (describes : DescribesOn lane stat record) (renewed : Renewed rest)
      (renews : phase.held?.isSome = true → taken rest ≠ [])

theorem stat?_of_isQuiet {effect : LaneEffect} (quiet : effect.isQuiet = true) :
    effect.stat? = none := by
  cases effect <;> first | rfl | cases quiet

section aftermath

variable {lane : LaneId} {record : Record} {back new : List LaneEffect}
  {before after : WorkerPhase}

theorem Aftermath.move (aftermath : Aftermath lane record back before)
    (move : OpMove lane before new after) : Aftermath lane record (back ++ new) after := by
  cases aftermath with
  | underway writes aired =>
    have held := WorkerPhase.held?_of_aired? aired
    cases move with
    | passes _ _ same written =>
      refine .underway (fun effect member => ?_) (same.trans aired)
      rcases List.mem_append.mp member with old | recent
      · exact writes effect old
      · exact written (by rw [aired]; rfl) effect recent
    | drops _ unaired | transmits _ unaired => exact absurd (aired.symm.trans unaired) nofun
    | takes free | drains free => exact absurd (held.symm.trans free) nofun
    | reports found describes free =>
      cases held.symm.trans found
      exact .told rfl writes describes (fun front _ _ split => by simp at split) (by simp [free])
  | @told middle rest stat split writes describes renewed renews =>
    -- The split stays where it is, and the rest grows.
    have grown : back ++ new = middle ++ .reports stat :: (rest ++ new) := by
      rw [split, List.append_assoc, List.cons_append]
    cases move with
    | passes quiet held =>
      have unreported := fun effect member => stat?_of_isQuiet (quiet effect member)
      refine .told grown writes describes (renewed.append_unreported unreported) fun holds => ?_
      rw [held] at holds
      rw [taken_append]
      exact fun none => renews holds (List.append_eq_nil_iff.mp none).1
    | drops quiet _ free =>
      have unreported := fun effect member => stat?_of_isQuiet (quiet effect member)
      exact .told grown writes describes (renewed.append_unreported unreported) (by simp [free])
    | takes =>
      refine .told grown writes describes (renewed.append_unreported (by simp [LaneEffect.stat?]))
        fun _ => ?_
      simp [taken, LaneEffect.taken?]
    | transmits held =>
      have again := renews (by rw [held]; rfl)
      refine .told grown writes describes (renewed.append_unreported (by simp [LaneEffect.stat?]))
        fun _ => ?_
      rw [taken_append]
      exact fun none => again (List.append_eq_nil_iff.mp none).1
    | reports held _ free =>
      have again := renews (by rw [held]; rfl)
      refine .told grown writes describes (renewed.append ?_) (by simp [free])
      intro front stat rest recent
      rw [taken_append]
      exact fun none => again (List.append_eq_nil_iff.mp none).1
    | drains _ unheld =>
      refine .told grown writes describes (renewed.append ?_) (by simp [unheld])
      intro front stat more recent
      cases front with
      | nil => cases recent
      | cons first front =>
        have first_taken := (List.cons.inj recent).1
        simp [taken, LaneEffect.taken?, ← first_taken]

def Answered (lane : LaneId) (effects : List LaneEffect) (phase : WorkerPhase) : Prop :=
  ∀ front record frame back, effects = front ++ .transmits record frame :: back →
    Aftermath lane record back phase

theorem Answered.move {effects : List LaneEffect} (answered : Answered lane effects before)
    (move : OpMove lane before new after) : Answered lane (effects ++ new) after := by
  intro front record frame back split
  have begun : ∀ fore, new = fore ++ .transmits record frame :: back →
      Aftermath lane record back after := by
    intro fore recent
    have member : LaneEffect.transmits record frame ∈ new := by simp [recent]
    cases move with
    | passes quiet | drops quiet => cases quiet _ member
    | takes | reports | drains => simp at member
    | transmits _ _ aired =>
      cases fore with
      | nil =>
        cases recent
        exact .underway (List.forall_mem_nil _) aired
      | cons first fore => simp at recent
  rcases List.append_eq_append_iff.mp split with ⟨middle, found, remains⟩ | ⟨middle, found, remains⟩
  · exact begun middle remains
  · cases middle with
    | nil => exact begun [] remains.symm
    | cons first middle =>
      cases remains
      exact (answered front record frame middle found).move move

end aftermath

end TrafficReplay
