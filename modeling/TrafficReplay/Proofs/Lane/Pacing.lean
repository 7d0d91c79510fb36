import Mathlib.Data.List.Chain
import TrafficReplay.Proofs.Lane.Translation

namespace TrafficReplay

theorem Duration.nanos_ofNanos (n : Nat) :
    (Duration.ofNanos n).nanos = min n (2 ^ 64 * nanosPerSecond - 1) := by
  unfold ofNanos
  split
  · rename_i fits
    exact (Nat.min_eq_left (Nat.le_sub_one_of_lt fits)).symm
  · rename_i large
    exact (Nat.min_eq_right (Nat.le_trans (Nat.sub_le ..) (Nat.le_of_not_lt large))).symm

theorem Duration.eq_zero_of_isZero {d : Duration} (empty : d.isZero = true) : d = .zero := by
  obtain ⟨nanos, fits⟩ := d
  obtain rfl : nanos = 0 := of_decide_eq_true empty
  rfl

section zero

theorem roundHalfEven_zero (den : Nat) : roundHalfEven 0 den = 0 := by
  unfold roundHalfEven
  dsimp only
  rw [Nat.zero_div, Nat.zero_mod]
  split
  · rfl
  · rw [if_neg (by omega)]

theorem Double.units_zero : Double.zero.units = 0 := by decide

theorem Double.ofRatio_zero (den : Nat) : Double.ofRatio 0 den = .zero := by
  have small : (0 : Nat) < 2 ^ 53 := by decide
  simp only [ofRatio, Nat.zero_mul, Nat.zero_div, if_pos small, Nat.pow_zero, Nat.mul_one,
    roundHalfEven_zero]
  rfl

theorem Duration.toSeconds_zero : (Duration.ofNanos 0).toSeconds = .zero := by
  have seconds : (Duration.ofNanos 0).seconds = 0 := by decide
  have subsecond : (Duration.ofNanos 0).subsecond = 0 := by decide
  rw [toSeconds, seconds, subsecond, Double.ofNat, Double.ofRatio_zero, Double.ofRatio_zero,
    Double.addMagnitudes, Double.units_zero, Nat.zero_add, Double.ofRatio_zero]

theorem Duration.ofSeconds_zero : Duration.ofSeconds .zero = .zero := by
  have finite : Double.zero.isFinite = true := by decide
  rw [ofSeconds, if_pos finite, Double.units_zero, Nat.zero_mul, roundHalfEven_zero]
  rfl

end zero

namespace Throttle

variable {throttle : Throttle} {last next : Timestamp}

/-- Nothing is paced at a speed that is zero, negative, infinite or not a number. -/
theorem delay_of_speed (odd : throttle.speed.isZero = true ∨ throttle.speed.isNegative = true ∨
    throttle.speed.isFinite = false ∨ throttle.speed.isNaN = true) :
    throttle.delay last next = .zero := by
  apply if_pos
  unfold isUnthrottled Double.isPositive
  rcases odd with odd | odd | odd | odd <;> simp [odd]

theorem delay_of_not_later (late : next.nanos ≤ last.nanos) : throttle.delay last next = .zero := by
  unfold delay Timestamp.since?
  split
  · rfl
  · by_cases same : last.nanos ≤ next.nanos
    · have none_passes : (next.nanos - last.nanos).toNat = 0 := by omega
      rw [if_pos same, none_passes]
      simp only [Duration.toSeconds_zero, Double.divMagnitudes, Double.units_zero,
        Double.ofRatio_zero, Duration.ofSeconds_zero]
    · rw [if_neg same]

end Throttle

theorem LaneClock.waitBefore_nanos (throttle : Throttle) (captured next : Timestamp)
    (issued now : Instant) :
    ((LaneClock.waitBefore ⟨some (captured, issued)⟩ throttle next now).nanos : Int) =
      max 0 ((throttle.delay captured next).nanos - max 0 ((now.nanos : Int) - issued.nanos)) := by
  have fits := (throttle.delay captured next).nanos_lt
  simp only [waitBefore, Duration.monus, Instant.elapsedSince, Duration.nanos_ofNanos]
  omega

def LaneEffect.issued? : LaneEffect → Option Record
  | .transmits record _ => some record
  | _ => none

def LaneEffect.delay? : LaneEffect → Option Duration
  | .waits _ delay => some delay
  | _ => none

structure TimedStep where
  step : LaneStep
  now : Instant

namespace TimedStep

def issues? (timed : TimedStep) : Option (Record × Instant) :=
  (timed.step.effects.findSome? LaneEffect.issued?).map fun record => (record, timed.now)

def looksAt? (timed : TimedStep) : Option Record :=
  match timed.step.before.phase with
  | .holding record => if record.isResponse then none else some record
  | _ => none

def wait (timed : TimedStep) : Duration :=
  (timed.step.effects.findSome? LaneEffect.delay?).getD .zero

variable {step : LaneStep} {now : Instant} {record : Record}

theorem issues?_of_some (sends : step.effects.findSome? LaneEffect.issued? = some record) :
    issues? ⟨step, now⟩ = some (record, now) := by
  rw [issues?, sends, Option.map_some]

theorem issues?_of_none (silent : step.effects.findSome? LaneEffect.issued? = none) :
    issues? ⟨step, now⟩ = none := by
  rw [issues?, silent, Option.map_none]

theorem looksAt?_eq_some (holding : step.before.phase = .holding record)
    (request : record.isResponse = false) : looksAt? ⟨step, now⟩ = some record := by
  simp [looksAt?, holding, request]

theorem holding_of_looksAt? {timed : TimedStep} (looks : timed.looksAt? = some record) :
    timed.step.before.phase = .holding record ∧ record.isResponse = false := by
  unfold looksAt? at looks
  split at looks
  · rename_i held phase
    split at looks
    · cases looks
    · rename_i request
      cases looks
      exact ⟨phase, Bool.not_eq_true _ ▸ request⟩
  · cases looks

end TimedStep

def lastIssue? (log : List TimedStep) : Option (Record × Instant) :=
  (log.filterMap TimedStep.issues?).getLast?

def clockAfter (log : List TimedStep) : LaneClock :=
  ⟨(lastIssue? log).map fun (record, now) => (record.seen, now)⟩

section lastIssue

variable {log between : List TimedStep} {timed : TimedStep} {issue : Record × Instant}

theorem lastIssue?_of_none (nothing : timed.issues? = none) :
    lastIssue? (log ++ [timed]) = lastIssue? log := by
  simp [lastIssue?, nothing]

theorem lastIssue?_of_some (issues : timed.issues? = some issue) :
    lastIssue? (log ++ [timed]) = some issue := by
  simp [lastIssue?, issues]

theorem lastIssue?_of_between (issues : timed.issues? = some issue)
    (nothing : ∀ other ∈ between, other.issues? = none) :
    lastIssue? (log ++ timed :: between) = some issue := by
  have none_between : between.filterMap TimedStep.issues? = [] :=
    List.filterMap_eq_nil_iff.mpr nothing
  simp [lastIssue?, issues, none_between]

end lastIssue

/-- The request that is on its way from the queue to the wire. -/
def WorkerPhase.readied? : WorkerPhase → Option Record
  | .pacing record | .due record => some record
  | _ => none

def WorkerPhase.isDue : WorkerPhase → Bool
  | .due _ => true
  | _ => false

namespace Worker

variable {around : Surroundings} {worker : Worker} {shared : Shared} {action : WorkerAction}
  {outcome : Outcome}

/-- What a step does to the clock of a lane: only a request that is issued moves it. -/
inductive ClockChange (now : Instant) (worker after : Worker) (effects : List LaneEffect) : Prop
  | issues {record : Record} (due : worker.phase = .due record)
      (sends : effects.findSome? LaneEffect.issued? = some record)
      (moved : after.memory.clock = ⟨some (record.seen, now)⟩) : ClockChange now worker after effects
  | keeps (silent : effects.findSome? LaneEffect.issued? = none)
      (same : after.memory.clock = worker.memory.clock) : ClockChange now worker after effects

theorem Shift.silent_clock {phase : WorkerPhase} {after : Shared} {effects : List LaneEffect}
    (shift : Shift around worker shared action phase after effects) :
    effects.findSome? LaneEffect.issued? = none := by
  cases shift <;> rfl

theorem Step.clock (step : Step around worker shared action outcome)
    (own : ∀ memory, around.legacy ≠ .passed memory) :
    ClockChange around.reading.now worker outcome.1 outcome.2.2 := by
  cases step with
  | shifts shift => exact .keeps shift.silent_clock rfl
  | resumes _ legacy => exact absurd legacy (own _)
  | correlates =>
    refine .keeps ?_ (by rw [LaneMemory.correlate_same])
    cases worker.memory.binding? _ <;> rfl
  | transmits phase => exact .issues phase rfl rfl
  | @plays issue played told _ _ learnt =>
    refine .keeps rfl ?_
    have same : told.1.clock = worker.memory.clock := by
      rw [← learnt, afterSending]
      split
      · rw [LaneMemory.releaseCursors_same]
      · rfl
    exact same
  | @hears issue reply summary played told _ _ _ learnt =>
    refine .keeps rfl ?_
    have same : told.1.clock = worker.memory.clock := by rw [← learnt, LaneMemory.onReply_same]
    dsimp only
    split <;> exact same
  | closes =>
    refine .keeps rfl ?_
    unfold close
    dsimp only
    split <;> rfl
  | _ => exact .keeps rfl rfl

theorem Step.of_holding (step : Step around worker shared action outcome) {record : Record}
    (holding : worker.phase = .holding record) (request : record.isResponse = false) :
    ((outcome.2.2.findSome? LaneEffect.delay?).getD .zero =
        worker.memory.clock.waitBefore around.settings.throttle record.seen around.reading.now) ∧
      outcome.2.2.findSome? LaneEffect.issued? = none := by
  cases step with
  | shifts shift =>
    cases shift with
    | isDue phase _ now =>
      cases holding.symm.trans phase
      exact ⟨(Duration.eq_zero_of_isZero now).symm, rfl⟩
    | paces phase =>
      cases holding.symm.trans phase
      exact ⟨rfl, rfl⟩
    | _ => simp_all
  | fails cause => cases cause <;> simp_all
  | stops cause => cases cause <;> simp_all
  | _ => simp_all

theorem Step.readies (step : Step around worker shared action outcome) {record : Record}
    (readied : outcome.1.phase.readied? = some record) :
    worker.phase = .holding record ∧ record.isResponse = false ∧
        (outcome.1.phase = .due record → outcome.2.2.findSome? LaneEffect.delay? = none) ∨
      worker.phase = .pacing record ∧ action = .elapsed ∧ outcome.1.phase = .due record ∧
        outcome.2.2 = [] := by
  have unfailed : ∀ failed, (afterFailure around.settings failed).phase.readied? ≠ some record := by
    intro failed
    rcases afterFailure_phase around.settings failed with phase | phase <;> rw [phase] <;> exact nofun
  cases step with
  | shifts shift =>
    cases shift with
    | isDue phase request =>
      cases readied
      exact .inl ⟨phase, request, fun _ => rfl⟩
    | paces phase request =>
      cases readied
      exact .inl ⟨phase, request, nofun⟩
    | waited phase =>
      cases readied
      exact .inr ⟨phase, rfl, rfl, rfl⟩
    | _ => cases readied
  | withholds | fails => exact absurd readied (unfailed _)
  | hears =>
    revert readied
    dsimp only
    split
    · exact fun readied => absurd readied (unfailed _)
    · exact nofun
  | drainsReply phase | drains phase =>
    rw [show _ = _ from phase] at readied
    cases readied
  | _ => cases readied

end Worker

/-- A run of a lane at some speed, with the readings of the clock at which its steps are taken. -/
inductive PacedRun (throttle : Throttle) (scope : CursorScope) : List TimedStep → Worker → Prop
  | opened (lane : LaneId) (predecessor : Option WorkerId) :
      PacedRun throttle scope [] (.opened lane scope predecessor)
  | fed {log : List TimedStep} {worker : Worker} (run : PacedRun throttle scope log worker)
      (record : Record) :
      PacedRun throttle scope log { worker with queue := worker.queue ++ [record] }
  | steps {log : List TimedStep} {worker : Worker} {around : Surroundings} {shared : Shared}
      {action : WorkerAction} {outcome : Worker.Outcome} (run : PacedRun throttle scope log worker)
      (paced : around.settings.throttle = throttle)
      (own : ∀ memory, around.legacy ≠ .passed memory)
      (step : Worker.Step around worker shared action outcome) :
      PacedRun throttle scope
        (log ++ [⟨⟨worker, action, outcome.2.2⟩, around.reading.now⟩]) outcome.1
  | inherits {log : List TimedStep} {old worker : Worker} {memory : LaneMemory}
      {around : Surroundings} {shared : Shared} {action : WorkerAction} {outcome : Worker.Outcome}
      (run : PacedRun throttle scope log old) (passed : old.handoff = .passed memory)
      {predecessor : WorkerId} (heir : PacedRun throttle scope [] worker)
      (same : worker.lane = old.lane) (waiting : worker.phase = .succeeding predecessor)
      (paced : around.settings.throttle = throttle) (legacy : around.legacy = .passed memory)
      (step : Worker.Step around worker shared action outcome) :
      PacedRun throttle scope
        (log ++ [⟨⟨worker, action, outcome.2.2⟩, around.reading.now⟩]) outcome.1

namespace PacedRun

variable {throttle : Throttle} {scope : CursorScope} {log : List TimedStep} {worker : Worker}

theorem laneRun (run : PacedRun throttle scope log worker) :
    LaneRun scope (log.map TimedStep.step) worker := by
  induction run with
  | opened lane predecessor => exact .opened lane predecessor
  | fed _ record ih => exact ih.fed record
  | steps _ _ own step ih =>
    rw [List.map_append]
    exact ih.steps own step
  | inherits _ passed _ same waiting _ legacy step ih heir =>
    rw [List.map_append]
    exact ih.inherits passed heir same waiting legacy step

/-- The step with which a worker takes a lane over issues nothing and looks at nothing. -/
theorem takeover_silent {around : Surroundings} {shared : Shared} {action : WorkerAction}
    {outcome : Worker.Outcome} {predecessor : WorkerId}
    (waiting : worker.phase = .succeeding predecessor)
    (step : Worker.Step around worker shared action outcome) :
    outcome.2.2.findSome? LaneEffect.issued? = none ∧ outcome.1.phase.readied? = none := by
  cases step.of_succeeding waiting <;> exact ⟨rfl, rfl⟩

/-- While a lane remembers, its clock shows the request that it has issued last. -/
theorem clock (run : PacedRun throttle scope log worker) (remembers : worker.Remembers) :
    worker.memory.clock = clockAfter log := by
  induction run with
  | opened => rfl
  | fed _ _ ih => exact ih remembers
  | @steps log worker around shared action outcome run _ own step ih =>
    have before := ih (step.remembered (run.laneRun.bequest.1 step.not_ended) remembers)
    cases step.clock own with
    | issues _ sends moved =>
      rw [clockAfter, lastIssue?_of_some (TimedStep.issues?_of_some sends), moved]
      rfl
    | keeps silent same =>
      rw [clockAfter, lastIssue?_of_none (TimedStep.issues?_of_none silent), same]
      exact before
  | @inherits log old worker memory around shared action outcome run passed _ heir _ waiting _
      legacy step ih =>
    obtain ⟨kept, same⟩ := run.laneRun.bequest.2 memory passed
    obtain ⟨took, _⟩ := step.inherits (heir.laneRun.bequest.1 step.not_ended) waiting legacy remembers
    have silent := (takeover_silent waiting step).1
    rw [clockAfter, lastIssue?_of_none (TimedStep.issues?_of_none silent), took, ← same]
    exact ih kept

end PacedRun

/-- How a request came to be ready: a step has looked at it, and if it had to wait, the wait is over
    when it is due. -/
inductive Readied (log : List TimedStep) : WorkerPhase → Prop
  | idle {phase : WorkerPhase} (unready : phase.readied? = none) : Readied log phase
  | waits {record : Record} {front : List TimedStep} {looks : TimedStep}
      (split : log = front ++ [looks]) (looked : looks.looksAt? = some record)
      (silent : looks.issues? = none) : Readied log (.pacing record)
  | atOnce {record : Record} {front : List TimedStep} {looks : TimedStep}
      (split : log = front ++ [looks]) (looked : looks.looksAt? = some record)
      (silent : looks.issues? = none) (now : looks.wait = .zero) : Readied log (.due record)
  | waited {record : Record} {front : List TimedStep} {looks rings : TimedStep}
      (split : log = front ++ [looks, rings]) (looked : looks.looksAt? = some record)
      (silent : looks.issues? = none) (rang : rings.step.action = .elapsed)
      (quiet : rings.issues? = none) : Readied log (.due record)

theorem PacedRun.readied {throttle : Throttle} {scope : CursorScope} {log : List TimedStep}
    {worker : Worker} (run : PacedRun throttle scope log worker) : Readied log worker.phase := by
  induction run with
  | opened _ predecessor => cases predecessor <;> exact .idle rfl
  | fed _ _ ih => exact ih
  | @steps log worker around shared action outcome run _ own step ih =>
    cases readied : outcome.1.phase.readied? with
    | none => exact .idle readied
    | some record =>
      -- A record gets due as it is looked at, or when the wait that was begun then is over.
      rcases step.readies readied with ⟨holding, request, at_once⟩ | ⟨pacing, rang, due, nothing⟩
      · have looked : TimedStep.looksAt? ⟨⟨worker, action, outcome.2.2⟩, around.reading.now⟩ =
            some record := TimedStep.looksAt?_eq_some holding request
        have silent := (step.of_holding holding request).2
        cases phase : outcome.1.phase with
        | pacing other =>
          rw [phase] at readied
          cases readied
          exact .waits rfl looked (TimedStep.issues?_of_none silent)
        | due other =>
          rw [phase] at readied
          cases readied
          have now : TimedStep.wait ⟨⟨worker, action, outcome.2.2⟩, around.reading.now⟩ = .zero := by
            rw [TimedStep.wait, at_once phase, Option.getD_none]
          exact .atOnce rfl looked (TimedStep.issues?_of_none silent) now
        | _ =>
          rw [phase] at readied
          cases readied
      · rw [due]
        rw [pacing] at ih
        cases ih with
        | idle unready => cases unready
        | waits split looked silent =>
          have quiet : TimedStep.issues? ⟨⟨worker, action, outcome.2.2⟩, around.reading.now⟩ =
              none := by
            rw [TimedStep.issues?, nothing]
            rfl
          subst split
          exact .waited (List.append_assoc ..) looked silent rang quiet
  | inherits _ _ _ _ waiting _ _ step => exact .idle (takeover_silent waiting step).2

structure Paced (throttle : Throttle) (before : List TimedStep) (timed : TimedStep) : Prop where
  wait : ∀ record, timed.looksAt? = some record →
    timed.wait = (clockAfter before).waitBefore throttle record.seen timed.now
  issue : ∀ record issued, timed.issues? = some (record, issued) →
    issued = timed.now ∧ timed.step.before.phase = .due record ∧ Readied before (.due record)

namespace PacedRun

variable {throttle : Throttle} {scope : CursorScope} {log before after : List TimedStep}
  {worker : Worker} {timed : TimedStep}

theorem paced_step {around : Surroundings} {shared : Shared} {action : WorkerAction}
    {outcome : Worker.Outcome} (run : PacedRun throttle scope log worker)
    (paced : around.settings.throttle = throttle) (own : ∀ memory, around.legacy ≠ .passed memory)
    (step : Worker.Step around worker shared action outcome) :
    Paced throttle log ⟨⟨worker, action, outcome.2.2⟩, around.reading.now⟩ := by
  constructor
  · intro record looks
    obtain ⟨holding, request⟩ := TimedStep.holding_of_looksAt? looks
    have holding : worker.phase = .holding record := holding
    have remembers : worker.Remembers := by simp [Worker.Remembers, holding]
    have waits := (step.of_holding holding request).1
    rw [run.clock remembers, paced] at waits
    exact waits
  · intro record issued issues
    cases step.clock own with
    | issues due sends =>
      cases (TimedStep.issues?_of_some sends).symm.trans issues
      have readied := run.readied
      rw [due] at readied
      exact ⟨rfl, due, readied⟩
    | keeps silent => cases (TimedStep.issues?_of_none silent).symm.trans issues

theorem paced (run : PacedRun throttle scope log worker) (split : log = before ++ timed :: after) :
    Paced throttle before timed := by
  induction run generalizing before timed after with
  | opened => exact absurd split (by simp)
  | fed _ _ ih => exact ih split
  | steps run paced own step ih =>
    rcases concat_split split with ⟨rfl, rfl, rfl⟩ | ⟨front, rfl, rfl⟩
    · exact run.paced_step paced own step
    · exact ih rfl
  | inherits run _ _ _ waiting _ _ step ih =>
    rcases concat_split split with ⟨rfl, rfl, rfl⟩ | ⟨front, rfl, rfl⟩
    · constructor
      · intro record looks
        cases waiting.symm.trans (TimedStep.holding_of_looksAt? looks).1
      · intro record issued issues
        have silent := (takeover_silent waiting step).1
        cases (TimedStep.issues?_of_none silent).symm.trans issues
    · exact ih rfl

end PacedRun

/-- From one step to the next the clock does not go back before a request is issued, and a timer does
    not fire before the wait that it was set to is over. -/
structure Timely (earlier later : TimedStep) : Prop where
  onward : later.step.before.phase.isDue = true → earlier.now.nanos ≤ later.now.nanos
  punctual : later.step.action = .elapsed →
    earlier.now.nanos + earlier.wait.nanos ≤ later.now.nanos

instance : DecidableRel Timely := fun earlier later =>
  decidable_of_iff ((later.step.before.phase.isDue = true → earlier.now.nanos ≤ later.now.nanos) ∧
      (later.step.action = .elapsed →
        earlier.now.nanos + earlier.wait.nanos ≤ later.now.nanos))
    ⟨fun both => ⟨both.1, both.2⟩, fun timely => ⟨timely.onward, timely.punctual⟩⟩

/-- A request that is issued was looked at before, nothing was issued since then, and the wait is over. -/
theorem PacedRun.waited {throttle : Throttle} {scope : CursorScope}
    {log before after : List TimedStep} {worker : Worker} {timed : TimedStep} {record : Record}
    {issued : Instant} (run : PacedRun throttle scope log worker) (timely : log.IsChain Timely)
    (split : log = before ++ timed :: after) (issues : timed.issues? = some (record, issued)) :
    ∃ early looks late, before = early ++ looks :: late ∧ looks.looksAt? = some record ∧
      (∀ other ∈ looks :: late, other.issues? = none) ∧
      looks.now.nanos + looks.wait.nanos ≤ issued.nanos := by
  obtain ⟨rfl, phase, readied⟩ := (run.paced split).issue record issued issues
  have due : timed.step.before.phase.isDue = true := by
    rw [phase]
    rfl
  subst split
  cases readied with
  | idle unready => cases unready
  | @atOnce _ front looks split looked silent now =>
    subst split
    rw [List.append_assoc, List.singleton_append, List.isChain_append_cons_cons] at timely
    have onward := timely.2.1.onward due
    refine ⟨front, looks, [], rfl, looked, List.forall_mem_singleton.mpr silent, ?_⟩
    rw [now]
    exact onward
  | @waited _ front looks rings split looked silent rang quiet =>
    subst split
    have shape : front ++ [looks, rings] ++ timed :: after =
        front ++ looks :: rings :: timed :: after := by simp
    rw [shape, List.isChain_append_cons_cons, List.isChain_cons_cons] at timely
    obtain ⟨_, set, ring, _⟩ := timely
    refine ⟨front, looks, [rings], rfl, looked, ?_, ?_⟩
    · exact List.forall_mem_cons.mpr ⟨silent, List.forall_mem_singleton.mpr quiet⟩
    · exact Nat.le_trans (set.punctual rang) (ring.onward due)

theorem between_of_silent {front between early late : List TimedStep} {first looks : TimedStep}
    {issue : Record × Instant} (split : front ++ first :: between = early ++ looks :: late)
    (issues : first.issues? = some issue) (silent : ∀ other ∈ looks :: late, other.issues? = none) :
    ∃ rest, between = rest ++ looks :: late ∧ early = front ++ first :: rest := by
  have apart : first ∉ looks :: late := fun member => by
    rw [silent first member] at issues
    cases issues
  rcases List.append_eq_append_iff.mp split with ⟨more, rfl, same⟩ | ⟨more, rfl, same⟩
  · cases more with
    | nil => exact absurd ((List.cons.inj same).1 ▸ List.mem_cons_self) apart
    | cons other rest =>
      obtain ⟨rfl, rfl⟩ := List.cons.inj same
      exact ⟨rest, rfl, rfl⟩
  · exact absurd (same ▸ List.mem_append_right more List.mem_cons_self) apart

structure WaitsRightly (throttle : Throttle) (before : List TimedStep) (timed : TimedStep)
    (next : Record) : Prop where
  left : ∀ last issued, lastIssue? before = some (last, issued) →
    (timed.wait.nanos : Int) = max 0 ((throttle.delay last.seen next.seen).nanos -
      max 0 ((timed.now.nanos : Int) - issued.nanos))
  first : lastIssue? before = none → timed.wait = .zero
  late : ∀ last issued, lastIssue? before = some (last, issued) →
    next.seen.nanos ≤ last.seen.nanos → timed.wait = .zero
  unpaced : throttle.speed.isZero = true ∨ throttle.speed.isNegative = true ∨
    throttle.speed.isFinite = false ∨ throttle.speed.isNaN = true → timed.wait = .zero

theorem LaneClock.waitBefore_zero {clock : LaneClock} {throttle : Throttle} {next : Timestamp}
    {now : Instant} (undelayed : ∀ last issued, clock.last = some (last, issued) →
      throttle.delay last next = .zero) : clock.waitBefore throttle next now = .zero := by
  unfold waitBefore
  split
  · rfl
  · rename_i last issued found
    rw [undelayed last issued found]
    exact Duration.eq_zero_of_isZero (decide_eq_true (Nat.zero_sub _))

theorem Paced.waitsRightly {throttle : Throttle} {before : List TimedStep} {timed : TimedStep}
    {next : Record} (paced : Paced throttle before timed) (looks : timed.looksAt? = some next) :
    WaitsRightly throttle before timed next := by
  have wait := paced.wait next looks
  have shows {last : Record} {issued : Instant} (found : lastIssue? before = some (last, issued)) :
      clockAfter before = ⟨some (last.seen, issued)⟩ := by rw [clockAfter, found, Option.map_some]
  constructor
  · intro last issued found
    rw [wait, shows found]
    exact LaneClock.waitBefore_nanos throttle last.seen next.seen issued timed.now
  · intro none_issued
    rw [wait, clockAfter, none_issued]
    rfl
  · intro last issued found late
    rw [wait, shows found]
    apply LaneClock.waitBefore_zero
    rintro _ _ same
    cases same
    exact Throttle.delay_of_not_later late
  · intro odd
    rw [wait]
    exact LaneClock.waitBefore_zero fun _ _ _ => Throttle.delay_of_speed odd

/-- Pacing is kept along a lane. The wait before a request is what is left of the delay after the last
    one issued; between the two at least the delay passes, counted from where the wait is computed if
    the clock has gone back until then; and only what is issued moves the clock of the lane. -/
theorem PacedRun.pacing_kept {throttle : Throttle} {scope : CursorScope} {log : List TimedStep}
    {worker : Worker} (run : PacedRun throttle scope log worker) :
    (∀ before timed after next, log = before ++ timed :: after → timed.looksAt? = some next →
      WaitsRightly throttle before timed next) ∧
      (log.IsChain Timely → ∀ front first between second after a b issuedA issuedB,
        log = front ++ first :: (between ++ second :: after) →
        first.issues? = some (a, issuedA) → (∀ timed ∈ between, timed.issues? = none) →
        second.issues? = some (b, issuedB) →
        ∃ looks ∈ between, looks.looksAt? = some b ∧
          (issuedA.nanos ≤ looks.now.nanos →
            issuedA.nanos + (throttle.delay a.seen b.seen).nanos ≤ issuedB.nanos) ∧
          (looks.now.nanos < issuedA.nanos →
            looks.now.nanos + (throttle.delay a.seen b.seen).nanos ≤ issuedB.nanos)) ∧
      (worker.Remembers → worker.memory.clock.last =
        (lastIssue? log).map fun (record, issued) => (record.seen, issued)) ∧
      ∀ around shared action outcome, (∀ memory, around.legacy ≠ .passed memory) →
        Worker.Step around worker shared action outcome →
        (∀ record frame, .transmits record frame ∉ outcome.2.2) →
        outcome.1.memory.clock = worker.memory.clock := by
  refine ⟨fun _ _ _ _ split looks => (run.paced split).waitsRightly looks, ?_, ?_, ?_⟩
  · intro timely front first between second after a b issuedA issuedB split issuesA silent issuesB
    have whole : log = (front ++ first :: between) ++ second :: after := by simp [split]
    obtain ⟨early, looks, late, place, looked, quiet, rung⟩ := run.waited timely whole issuesB
    obtain ⟨rest, rfl, rfl⟩ := between_of_silent place issuesA quiet
    have there : log = (front ++ first :: rest) ++ looks :: (late ++ second :: after) := by
      simp [split]
    have last : lastIssue? (front ++ first :: rest) = some (a, issuedA) :=
      lastIssue?_of_between issuesA fun other member => silent other (List.mem_append_left _ member)
    have left := ((run.paced there).waitsRightly looked).left a issuedA last
    refine ⟨looks, by simp, looked, ?_, ?_⟩ <;> omega
  · intro remembers
    rw [run.clock remembers]
    rfl
  · intro around shared action outcome own step unsent
    cases step.clock own with
    | keeps _ same => exact same
    | issues _ sends =>
      obtain ⟨effect, member, sent⟩ := List.exists_of_findSome?_eq_some sends
      cases effect with
      | transmits record frame => exact absurd member (unsent record frame)
      | _ => cases sent

theorem PacedRun.walk {throttle : Throttle} {scope : CursorScope} {log : List TimedStep}
    {worker last : Worker} {around : Surroundings} {shared : Shared} {actions : List WorkerAction}
    {more : List LaneStep} (run : PacedRun throttle scope log worker)
    (paced : around.settings.throttle = throttle) (own : ∀ memory, around.legacy ≠ .passed memory)
    (walk : worker.walk? around shared actions = some (last, more)) :
    PacedRun throttle scope (log ++ more.map fun step => ⟨step, around.reading.now⟩) last := by
  apply Worker.walk?_induction walk
  · rw [List.map_nil, List.append_nil]
    exact run
  · intro steps worker shared action outcome before step
    rw [List.map_append, ← List.append_assoc]
    exact before.steps paced own step

namespace SampleLane

def steady (second : Nat) : Surroundings :=
  { around with
    settings := { around.settings with throttle := ⟨.one⟩ }
    reading := ⟨⟨second * nanosPerSecond⟩, default⟩
    hasHeir := true }

def contended : Shared := { shared with pool := { shared.pool with waiting := 1 } }

def later : Record := { query with seen := ⟨5 * nanosPerSecond⟩ }

def walkedToDue : Option (Worker × List LaneStep) :=
  Worker.walk? (steady 1) { queued with queue := [query] } contended
    [.advance, .connected, .advance, .advance]

def firstDue : Worker × List LaneStep := walkedToDue.get (by decide +kernel)

def firstIssued : Worker.Outcome :=
  (firstDue.1.step? (steady 1) contended .advance).get (by decide +kernel)

def walkedToEnd : Option (Worker × List LaneStep) :=
  firstIssued.1.walk? (steady 2) contended
    ([.wrote 16, .sent, .received (reply 9 0)] ++ List.replicate 8 .advance)

def firstEnd : Worker × List LaneStep := walkedToEnd.get (by decide +kernel)

def heir : Worker := { Worker.opened query.lane .lane (some 0) with queue := [later] }

def inheriting : Surroundings := { steady 3 with legacy := .passed firstEnd.1.memory }

def inherited : Worker.Outcome := (heir.step? inheriting contended .advance).get (by decide +kernel)

def walkedToWait : Option (Worker × List LaneStep) :=
  inherited.1.walk? (steady 3) contended [.advance, .connected, .advance, .advance]

def waiting : Worker × List LaneStep := walkedToWait.get (by decide +kernel)

def walkedToRing : Option (Worker × List LaneStep) :=
  waiting.1.walk? (steady 6) contended [.elapsed]

def secondDue : Worker × List LaneStep := walkedToRing.get (by decide +kernel)

def secondIssued : Worker.Outcome :=
  (secondDue.1.step? (steady 6) contended .advance).get (by decide +kernel)

def inSecond (second : Nat) (steps : List LaneStep) : List TimedStep :=
  steps.map fun step => ⟨step, (steady second).reading.now⟩

def firstStep : TimedStep := ⟨⟨firstDue.1, .advance, firstIssued.2.2⟩, (steady 1).reading.now⟩

def takeover : TimedStep := ⟨⟨heir, .advance, inherited.2.2⟩, inheriting.reading.now⟩

def secondStep : TimedStep := ⟨⟨secondDue.1, .advance, secondIssued.2.2⟩, (steady 6).reading.now⟩

def meanwhile : List TimedStep :=
  inSecond 2 firstEnd.2 ++ takeover :: (inSecond 3 waiting.2 ++ inSecond 6 secondDue.2)

def paced : List TimedStep := inSecond 1 firstDue.2 ++ firstStep :: (meanwhile ++ [secondStep])

theorem walked_eq {walked : Option (Worker × List LaneStep)} (goes : walked.isSome = true) :
    walked = some ((walked.get goes).1, (walked.get goes).2) := (Option.some_get goes).symm

theorem pacedRun : PacedRun ⟨.one⟩ .lane paced secondIssued.1 := by
  have own (second : Nat) (memory : LaneMemory) : (steady second).legacy ≠ .passed memory := nofun
  have to_due : walkedToDue = some (firstDue.1, firstDue.2) := walked_eq (by decide +kernel)
  have issues : firstDue.1.step? (steady 1) contended .advance = some firstIssued :=
    (Option.some_get _).symm
  have to_end : walkedToEnd = some (firstEnd.1, firstEnd.2) := walked_eq (by decide +kernel)
  have takes_over : heir.step? inheriting contended .advance = some inherited :=
    (Option.some_get _).symm
  have to_wait : walkedToWait = some (waiting.1, waiting.2) := walked_eq (by decide +kernel)
  have to_ring : walkedToRing = some (secondDue.1, secondDue.2) := walked_eq (by decide +kernel)
  have issues_again : secondDue.1.step? (steady 6) contended .advance = some secondIssued :=
    (Option.some_get _).symm
  have passed : firstEnd.1.handoff = .passed firstEnd.1.memory := by decide +kernel
  have fed : PacedRun ⟨.one⟩ .lane [] { queued with queue := [query] } :=
    (PacedRun.opened query.lane none).fed query
  have fed_heir : PacedRun ⟨.one⟩ .lane [] heir := (PacedRun.opened query.lane (some 0)).fed later
  have due := fed.walk rfl (own 1) to_due
  have ended := (due.steps rfl (own 1) (Worker.step_of_step? issues)).walk rfl (own 2) to_end
  have resumed := ended.inherits passed fed_heir rfl rfl rfl rfl (Worker.step_of_step? takes_over)
  have rung := (resumed.walk rfl (own 3) to_wait).walk rfl (own 6) to_ring
  have again := rung.steps rfl (own 6) (Worker.step_of_step? issues_again)
  simp only [paced, meanwhile, inSecond, firstStep, takeover, secondStep, List.append_assoc,
    List.cons_append, List.nil_append] at again ⊢
  exact again

end SampleLane

/-- Of the five seconds between the two queries two have passed when the worker that takes the lane over
    looks at the second one, which waits for the other three. -/
theorem sampleLane_keeps_distance :
    PacedRun ⟨.one⟩ .lane SampleLane.paced SampleLane.secondIssued.1 ∧
      SampleLane.paced.IsChain Timely ∧
      ∃ looks ∈ SampleLane.meanwhile, looks.looksAt? = some SampleLane.later ∧
        looks.now.nanos = 3000000000 ∧ looks.wait.nanos = 3000000000 ∧
        SampleLane.firstStep.now.nanos +
            (Throttle.delay ⟨.one⟩ SampleLane.query.seen SampleLane.later.seen).nanos ≤
          SampleLane.secondStep.now.nanos := by
  have timely : SampleLane.paced.IsChain Timely := by decide +kernel
  have delay : (Throttle.delay ⟨.one⟩ SampleLane.query.seen SampleLane.later.seen).nanos =
      5000000000 := by decide +kernel
  have begun : SampleLane.firstStep.now.nanos = 1000000000 := by decide +kernel
  have first : SampleLane.firstStep.issues? =
      some (SampleLane.query, SampleLane.firstStep.now) := by decide +kernel
  have second : SampleLane.secondStep.issues? =
      some (SampleLane.later, SampleLane.secondStep.now) := by decide +kernel
  have silent : ∀ timed ∈ SampleLane.meanwhile, timed.issues? = none := by decide +kernel
  have in_three : ∀ timed ∈ SampleLane.meanwhile, timed.looksAt? = some SampleLane.later →
      timed.now.nanos = 3000000000 := by decide +kernel
  obtain ⟨waits, apart, _⟩ := SampleLane.pacedRun.pacing_kept
  obtain ⟨looks, member, looked, onward, _⟩ :=
    apart timely _ _ _ _ [] _ _ _ _ rfl first silent second
  have now := in_three looks member looked
  obtain ⟨early, late, split⟩ := List.append_of_mem member
  have place : SampleLane.paced =
      (SampleLane.inSecond 1 SampleLane.firstDue.2 ++ SampleLane.firstStep :: early) ++
        looks :: (late ++ [SampleLane.secondStep]) := by
    rw [SampleLane.paced, split]
    simp only [List.append_assoc, List.cons_append]
  have last : lastIssue? (SampleLane.inSecond 1 SampleLane.firstDue.2 ++
      SampleLane.firstStep :: early) = some (SampleLane.query, SampleLane.firstStep.now) :=
    lastIssue?_of_between first fun other inside =>
      silent other (split ▸ List.mem_append_left _ inside)
  have left := (waits _ looks _ _ place looked).left _ _ last
  rw [delay, now, begun] at left
  have wait : looks.wait.nanos = 3000000000 := by omega
  have reached : SampleLane.firstStep.now.nanos ≤ looks.now.nanos := by
    rw [begun, now]
    decide
  exact ⟨SampleLane.pacedRun, timely, looks, member, looked, now, wait, onward reached⟩

end TrafficReplay
