import TrafficReplay.Proofs.Lane.Tale

namespace TrafficReplay

namespace WorkerPhase

theorem business_free {phase : WorkerPhase} (idle : phase.held? = none) :
    phase.business = .free := by
  cases phase <;> first | rfl | cases idle

theorem held?_of_ending {phase : WorkerPhase} {ending : LaneEnding}
    (ends : phase.ending? = some ending) : phase.held? = none := by
  cases phase <;> first | rfl | cases ends

end WorkerPhase

namespace Worker

def answer? (worker : Worker) (action : WorkerAction) : Option (Instant × Answer) :=
  match action, worker.phase with
  | .sent, .sending issue [] =>
    if issue.record.frame.opCode.expectsReply then none else some (issue.issuedAt, .needless)
  | .sendFailed fault, .sending issue _ =>
    if fault.kind.losesLink then none else some (issue.issuedAt, .unsent)
  | .received reply, .awaiting issue =>
    if reply.responseTo = issue.record.requestId then
      some (issue.issuedAt, .reply reply.replySummary.toOption)
    else none
  | .timedOut, .awaiting issue => some (issue.issuedAt, .late)
  | _, _ => none

def Lost (worker : Worker) : Prop :=
  worker.report.abort.isSome = true ∨ ∃ reason, worker.phase.ending? = some (.aborted reason)

variable {around : Surroundings} {worker after : Worker} {shared : Shared} {action : WorkerAction}
  {outcome : Outcome}

theorem answer?_of_free (free : worker.phase.business = .free) : worker.answer? action = none := by
  cases phase : worker.phase with
  | holding | pacing | due | sending | awaiting =>
    rw [phase] at free
    cases free
  | _ => cases action <;> simp only [answer?, phase]

theorem answer?_of_considers {record : Record}
    (considers : worker.phase.business = .considers record) : worker.answer? action = none := by
  cases phase : worker.phase with
  | holding | pacing | due => cases action <;> simp only [answer?, phase]
  | _ =>
    rw [phase] at considers
    cases considers

theorem remembers_of_busy (busy : worker.phase.business ≠ .free) : worker.Remembers := by
  unfold Remembers
  cases phase : worker.phase with
  | holding | pacing | due | sending | awaiting => trivial
  | _ =>
    rw [phase] at busy
    exact absurd rfl busy

theorem Step.lost (step : Step around worker shared action outcome) (lost : worker.Lost) :
    outcome.1.Lost := by
  rcases lost with aborted | ⟨reason, ends⟩
  · exact .inl (step.flags.2 aborted)
  have idle := WorkerPhase.held?_of_ending ends
  cases step with
  | shifts shift =>
    cases shift with
    | leaves at_phase =>
      rw [at_phase] at ends
      exact .inr ⟨reason, ends⟩
    | runsOut at_phase =>
      rcases at_phase with ⟨at_phase, _⟩ | ⟨_, at_phase⟩ <;> rw [at_phase] at ends <;> cases ends
    | connects at_phase =>
      rcases at_phase with ⟨_, at_phase, _⟩ | ⟨_, at_phase⟩ <;> rw [at_phase] at ends <;> cases ends
    | _ => simp_all [WorkerPhase.ending?]
  | closes phase =>
    rw [phase] at ends
    exact .inr ⟨reason, ends⟩
  | aborts => exact .inl rfl
  | takes phase =>
    rcases phase with ⟨phase, _⟩ | ⟨_, phase⟩ <;> rw [phase] at ends <;> cases ends
  | endsCancelled phase =>
    rcases phase with ⟨_, phase⟩ | ⟨_, _, ⟨_, phase⟩ | phase⟩ <;> rw [phase] at ends <;> cases ends
  | fails cause => exact absurd (cause.held.1.symm.trans idle) nofun
  | stops cause => exact absurd (cause.held.1.symm.trans idle) nofun
  | _ => simp_all [WorkerPhase.ending?]

theorem Shift.answer? {phase : WorkerPhase} {later : Shared} {effects : List LaneEffect}
    (shift : Shift around worker shared action phase later effects) :
    worker.answer? action = none := by
  have same := shift.business
  cases shift with
  | writes => rfl
  | awaits at_phase answered => simp only [Worker.answer?, at_phase, answered, if_true]
  | passesOver at_phase late => simp only [Worker.answer?, at_phase, late, if_false]
  | isDue | paces | waited => exact answer?_of_considers same.symm
  | _ => exact answer?_of_free same.symm

structure Silent (effects : List LaneEffect) : Prop where
  taken : taken effects = []
  transmitted : transmitted effects = []
  reported : reported effects = []

theorem Silent.nil : Silent [] := ⟨rfl, rfl, rfl⟩

theorem Silent.binds (found : Option (Int64 × Int64)) :
    Silent (found.map fun (recorded, live) => .binds recorded live).toList where
  taken := taken_binds found
  transmitted := transmitted_binds found
  reported := reported_binds found

theorem Shift.silent {phase : WorkerPhase} {later : Shared} {effects : List LaneEffect}
    (shift : Shift around worker shared action phase later effects) : Silent effects :=
  ⟨shift.taken, by cases shift <;> rfl, shift.reported⟩

/-- What a step of a worker that is not lost means for the tale of its lane. -/
inductive Act (policy : CursorMissPolicy) (worker : Worker) (common : CursorTable)
    (heard : Option (Instant × Answer)) (after : Worker) (new : List LaneEffect) : Prop
  | keeps (same : after.phase.business = worker.phase.business) (silent : Silent new)
      (deaf : heard = none)
      (memory : after.Remembers → worker.Remembers ∧ after.memory = worker.memory)
  | takes {record : Record} (was : worker.phase.business = .free) (remembers : worker.Remembers)
      (is : after.phase.business = .considers record) (took : new = [.took record])
      (deaf : heard = none) (memory : after.memory = worker.memory)
  | correlates {record : Record} (was : worker.phase.business = .considers record)
      (response : record.isResponse = true) (is : after.phase.business = .free)
      (silent : Silent new) (deaf : heard = none)
      (memory : after.memory = (worker.memory.correlate common worker.lane record.frame).1)
  | withholds {record : Record} {error : OpError} {miss : Bool} {stat : Stat}
      (was : worker.phase.business = .considers record) (request : record.isResponse = false)
      (prepared : worker.memory.prepare common policy record.frame = ⟨.error error, miss⟩)
      (is : after.phase.business = .free) (reports : new = [.reports stat])
      (tells : stat.timeless =
        .ofOutcome worker.lane worker.memory.seq record (.failed error default miss))
      (deaf : heard = none)
      (memory : after.memory = worker.memory.posted (.failed error default miss))
  | asks {record : Record} {frame : Frame} {issue : Issue}
      (was : worker.phase.business = .considers record) (request : record.isResponse = false)
      (prepared : worker.memory.prepare common policy record.frame = ⟨.ok frame, issue.miss⟩)
      (is : after.phase.business = .asks issue) (about : issue.record = record)
      (transmits : new = [.transmits record frame]) (deaf : heard = none)
      (memory : after.memory = worker.memory.issued record.seen issue.issuedAt)
  | settles {issue : Issue} {answer : Answer} {stat : Stat}
      (was : worker.phase.business = .asks issue) (is : after.phase.business = .free)
      (reports : new = [.reports stat])
      (tells : stat.timeless =
        .ofOutcome worker.lane worker.memory.seq issue.record (answer.outcome issue.miss))
      (hears : heard = some (issue.issuedAt, answer))
      (memory : after.memory =
        (worker.memory.told common issue.record.frame issue.miss answer).posted
          (answer.outcome issue.miss))

theorem afterFailure_free_memory (settings : LaneSettings) (worker : Worker) :
    (afterFailure settings worker).phase.business = .free ∧
      (afterFailure settings worker).memory = worker.memory.fail := by
  refine ⟨?_, rfl⟩
  rcases afterFailure_phase settings worker with phase | phase <;> rw [phase] <;> rfl

theorem Fails.act {issue : Issue} {error : OpError}
    (cause : Fails worker.phase action issue error) :
    worker.phase.business = .asks issue ∧ ∃ answer : Answer,
      worker.answer? action = some (issue.issuedAt, answer) ∧
      answer.outcome issue.miss = .failed error default issue.miss ∧
      ∀ common, worker.memory.told common issue.record.frame issue.miss answer = worker.memory := by
  cases cause with
  | sending at_phase kept =>
    refine ⟨by rw [at_phase]; rfl, .unsent, ?_, rfl, fun _ => rfl⟩
    simp [answer?, at_phase, kept]
  | waiting at_phase =>
    exact ⟨by rw [at_phase]; rfl, .late, by simp only [answer?, at_phase], rfl, fun _ => rfl⟩
  | reading at_phase own unreadable =>
    refine ⟨by rw [at_phase]; rfl, .reply none, ?_, rfl, fun _ => rfl⟩
    simp only [answer?, at_phase, own, if_true, unreadable, Except.toOption]

theorem Step.act (step : Step around worker shared action outcome)
    (quiet : shared.signal.fired = false) (sound : worker.Sound around.fed)
    (going : ∀ predecessor, worker.phase ≠ .succeeding predecessor) (kept : ¬outcome.1.Lost) :
    Act around.settings.onMiss worker shared.common (worker.answer? action) outcome.1
      outcome.2.2 := by
  have undecided : worker.handoff = .undecided := sound.decided.mpr step.not_ended
  have remembered := step.remembered undecided
  -- Most steps from one phase between two records to another.
  have roams : worker.phase.business = .free → outcome.1.phase.business = .free →
      outcome.2.2 = [] → (outcome.1.Remembers → outcome.1.memory = worker.memory) →
      Act around.settings.onMiss worker shared.common (worker.answer? action) outcome.1
        outcome.2.2 := by
    intro was is nothing memory
    refine .keeps (is.trans was.symm) (nothing ▸ .nil) (answer?_of_free was) fun remembers => ?_
    exact ⟨remembered remembers, memory remembers⟩
  cases step with
  | shifts shift =>
    exact .keeps shift.business shift.silent shift.answer? fun remembers =>
      ⟨remembered remembers, rfl⟩
  | resumes phase => exact absurd phase (going _)
  | takes phase =>
    rcases phase with ⟨phase, _⟩ | ⟨_, phase⟩ <;>
      exact .takes (by rw [phase]; rfl) (by simp [Remembers, phase]) rfl rfl
        (answer?_of_free (by rw [phase]; rfl)) rfl
  | yields phase | shutsQueue phase => exact roams (by rw [phase]; rfl) rfl rfl fun _ => rfl
  | @correlates record phase response =>
    have was : worker.phase.business = .considers record := by rw [phase]; rfl
    exact .correlates was response rfl (.binds _) (answer?_of_considers was) rfl
  | @withholds record error miss phase prepared =>
    have was : worker.phase.business = .considers record := by rw [phase]; rfl
    have request := sound.asked record (by rw [phase]; rfl)
    obtain ⟨free, memory⟩ := afterFailure_free_memory around.settings _
    refine .withholds was request prepared free rfl ?_ (answer?_of_considers was) memory
    rw [LaneMemory.miss_of_prepare_error prepared]
    rfl
  | @transmits record frame miss phase prepared =>
    have was : worker.phase.business = .considers record := by rw [phase]; rfl
    exact .asks was (sound.asked record (by rw [phase]; rfl)) prepared rfl rfl rfl
      (answer?_of_considers was) rfl
  | skips fired => exact absurd fired (by simp [quiet])
  | fails cause =>
    obtain ⟨was, answer, hears, outcome, told⟩ := cause.act
    obtain ⟨free, memory⟩ := afterFailure_free_memory around.settings _
    refine .settles was free rfl ?_ hears ?_
    · rw [outcome]
      rfl
    · rw [memory, told, outcome]
      rfl
  | stops cause =>
    cases cause with
    | cancelled fired => exact absurd fired (by simp [quiet])
    | _ => exact absurd (.inr ⟨_, rfl⟩) kept
  | @plays issue outcome told phase unanswered learnt played =>
    have memory : told.1 =
        worker.memory.told shared.common issue.record.frame issue.miss .needless := by
      rw [← learnt, LaneMemory.told, afterSending]
      split <;> rfl
    have hears : worker.answer? .sent = some (issue.issuedAt, .needless) := by
      simp [answer?, phase, unanswered]
    refine .settles (by rw [phase]; rfl) rfl rfl ?_ hears ?_
    · rw [played, memory, LaneMemory.told_seq]
      rfl
    · rw [← memory, played]
      rfl
  | @hears issue reply summary outcome told phase own readable learnt played =>
    have memory : told.1 =
        worker.memory.told shared.common issue.record.frame issue.miss (.reply summary) := by
      rw [← learnt]
      rfl
    have hears : worker.answer? (.received reply) = some (issue.issuedAt, .reply summary) := by
      simp only [answer?, phase, own, if_true, readable, Except.toOption]
    have tells : (Stat.ofOutcome worker.lane told.1.seq issue.record outcome).timeless =
        .ofOutcome worker.lane worker.memory.seq issue.record
          (Answer.outcome (.reply summary) issue.miss) := by
      rw [played, memory, LaneMemory.told_seq]
      rfl
    cases failed : summary.failed with
    | true =>
      obtain ⟨free, posted⟩ := afterFailure_free_memory around.settings
        ((worker.withMemory told.1).emit issue.record outcome).1
      refine .settles (by rw [phase]; rfl) free rfl tells hears ?_
      rw [← memory, if_pos rfl, posted]
      simp only [LaneMemory.posted, Answer.outcome, failed]
      rfl
    | false =>
      refine .settles (by rw [phase]; rfl) rfl rfl tells hears ?_
      rw [← memory]
      simp only [LaneMemory.posted, Answer.outcome, failed]
      rfl
  | @closes ending phase =>
    refine .keeps (by rw [phase]; rfl) ⟨rfl, rfl, rfl⟩ (answer?_of_free (by rw [phase]; rfl)) ?_
    intro remembers
    have handsOver : worker.handsOver ending = true := by
      simpa [Worker.handsOver, Remembers, close] using remembers
    exact ⟨remembered remembers, by simp only [close, handsOver, if_true]⟩
  | bequeaths phase => exact roams (by rw [phase]; rfl) rfl rfl fun _ => rfl
  | concludes phase => exact roams (by rw [phase]; rfl) rfl rfl fun _ => rfl
  | diesOut phase =>
    refine roams (by rw [phase]; rfl) rfl rfl fun remembers => ?_
    simp [Remembers, finish, undecided, withMemory] at remembers
  | endsCancelled phase =>
    rcases phase with ⟨_, phase⟩ | ⟨_, fired, _⟩
    · exact roams (by rw [phase]; rfl) rfl rfl fun _ => rfl
    · exact absurd fired (by simp [quiet])
  | aborts => exact absurd (.inl rfl) kept
  | drainsReply phase | drains phase | drainsDry phase =>
    exact absurd (.inl (sound.draining phase)) kept

end Worker

structure Tale.Covers (tale : Tale) (effects : List LaneEffect) (open_frames : List Frame)
    (heard : Nat) : Prop where
  stats : (reported effects).map Stat.timeless = tale.stats
  frames : transmitted effects = tale.frames ++ open_frames
  heard : heard = tale.frames.length

theorem Tale.Covers.silent {tale : Tale} {effects new : List LaneEffect} {open_frames : List Frame}
    {heard : Nat} (covers : tale.Covers effects open_frames heard)
    (reports : reported new = []) (sends : transmitted new = []) :
    tale.Covers (effects ++ new) open_frames heard := by
  refine ⟨?_, ?_, covers.heard⟩
  · rw [reported_append, reports, List.append_nil]
    exact covers.stats
  · rw [transmitted_append, sends, List.append_nil]
    exact covers.frames

theorem Tale.Covers.withheld {tale : Tale} {effects : List LaneEffect} {heard : Nat}
    (covers : tale.Covers effects [] heard) {lane : LaneId} {record : Record} {outcome : OpOutcome}
    {stat : Stat} (tells : stat.timeless = .ofOutcome lane tale.memory.seq record outcome) :
    (tale.emit lane record outcome).Covers (effects ++ [.reports stat]) [] heard := by
  have one : reported [.reports stat] = [stat] := rfl
  have none : transmitted [.reports stat] = [] := rfl
  refine ⟨?_, ?_, covers.heard⟩
  · rw [reported_append, List.map_append, covers.stats, one, List.map_singleton, tells]
    rfl
  · rw [transmitted_append, none, List.append_nil]
    exact covers.frames

theorem Tale.Covers.settled {tale : Tale} {effects : List LaneEffect} {frame : Frame} {heard : Nat}
    (covers : tale.Covers effects [frame] heard) {lane : LaneId} {record : Record}
    {outcome : OpOutcome} {stat : Stat} {memory : LaneMemory}
    (tells : stat.timeless = .ofOutcome lane memory.seq record outcome) :
    ({ tale with memory := memory, frames := tale.frames ++ [frame] }.emit lane record
      outcome).Covers (effects ++ [LaneEffect.reports stat]) [] (heard + 1) := by
  have one : reported [.reports stat] = [stat] := rfl
  have none : transmitted [.reports stat] = [] := rfl
  refine ⟨?_, ?_, ?_⟩
  · rw [reported_append, List.map_append, covers.stats, one, List.map_singleton, tells]
    rfl
  · rw [transmitted_append, none, List.append_nil, covers.frames]
    exact (List.append_nil _).symm
  · have longer : (tale.frames ++ [frame]).length = tale.frames.length + 1 := List.length_append
    exact (congrArg (· + 1) covers.heard).trans longer.symm

namespace Worker

/-- Where a worker stands in the tale of the records that its lane has taken. -/
inductive Stands (policy : CursorMissPolicy) (lane : LaneId) (answers : Nat → Instant × Answer)
    (effects : List LaneEffect) (heard : Nat) (worker : Worker) : Prop
  | free (is : worker.phase.business = .free)
      (covers : (tell policy lane answers (taken effects)).Covers effects [] heard)
      (memory : worker.Remembers → worker.memory = (tell policy lane answers (taken effects)).memory)
  | considers {record : Record} {earlier : List Record}
      (is : worker.phase.business = .considers record) (took : taken effects = earlier ++ [record])
      (covers : (tell policy lane answers earlier).Covers effects [] heard)
      (memory : worker.memory = (tell policy lane answers earlier).memory)
  | asks {issue : Issue} {frame : Frame} {earlier : List Record}
      (is : worker.phase.business = .asks issue)
      (took : taken effects = earlier ++ [issue.record])
      (request : issue.record.isResponse = false)
      (covers : (tell policy lane answers earlier).Covers effects [frame] heard)
      (prepared : (tell policy lane answers earlier).memory.prepare .empty policy
        issue.record.frame = ⟨.ok frame, issue.miss⟩)
      (memory : worker.memory =
        (tell policy lane answers earlier).memory.issued issue.record.seen issue.issuedAt)

variable {policy : CursorMissPolicy} {lane : LaneId} {answers : Nat → Instant × Answer}
  {effects new : List LaneEffect} {heard : Nat} {worker after : Worker} {common : CursorTable}
  {answer : Option (Instant × Answer)}

theorem Stands.opened (policy : CursorMissPolicy) (lane : LaneId)
    (answers : Nat → Instant × Answer) : Stands policy lane answers [] 0 (opened lane .lane none) :=
  .free rfl ⟨rfl, rfl, rfl⟩ fun _ => rfl

theorem Stands.of_same (stands : worker.Stands policy lane answers effects heard)
    (business : after.phase.business = worker.phase.business)
    (memory : after.Remembers → worker.Remembers ∧ after.memory = worker.memory) :
    after.Stands policy lane answers effects heard := by
  have busy : worker.phase.business ≠ .free → after.memory = worker.memory := fun busy =>
    (memory (remembers_of_busy (business ▸ busy))).2
  cases stands with
  | free is covers known =>
    refine .free (business.trans is) covers fun remembers => ?_
    obtain ⟨before, same⟩ := memory remembers
    exact same.trans (known before)
  | considers is took covers known =>
    exact .considers (business.trans is) took covers ((busy (by rw [is]; exact nofun)).trans known)
  | asks is took request covers prepared known =>
    exact .asks (business.trans is) took request covers prepared
      ((busy (by rw [is]; exact nofun)).trans known)

theorem Stands.between (stands : worker.Stands policy lane answers effects heard)
    (is : worker.phase.business = .free) :
    (tell policy lane answers (taken effects)).Covers effects [] heard ∧
      (worker.Remembers → worker.memory = (tell policy lane answers (taken effects)).memory) := by
  cases stands with
  | free _ covers memory => exact ⟨covers, memory⟩
  | considers other | asks other => exact absurd (other.symm.trans is) nofun

theorem taken_reports (effects : List LaneEffect) (stat : Stat) :
    taken (effects ++ [.reports stat]) = taken effects := by
  rw [taken_append]
  exact List.append_nil _

theorem Stands.considering {record : Record}
    (stands : worker.Stands policy lane answers effects heard)
    (is : worker.phase.business = .considers record) :
    ∃ earlier, taken effects = earlier ++ [record] ∧
      (tell policy lane answers earlier).Covers effects [] heard ∧
      worker.memory = (tell policy lane answers earlier).memory := by
  cases stands with
  | free other | asks other => exact absurd (is.symm.trans other) nofun
  | considers other took covers memory =>
    cases is.symm.trans other
    exact ⟨_, took, covers, memory⟩

theorem Stands.lengthened (stands : worker.Stands policy lane answers effects heard)
    (silent : Silent new) : worker.Stands policy lane answers (effects ++ new) heard := by
  have same : taken (effects ++ new) = taken effects := by
    rw [taken_append, silent.taken, List.append_nil]
  cases stands with
  | free is covers memory =>
    rw [← same] at covers memory
    exact .free is (covers.silent silent.reported silent.transmitted) memory
  | considers is took covers memory =>
    exact .considers is (same.trans took) (covers.silent silent.reported silent.transmitted) memory
  | asks is took request covers prepared memory =>
    exact .asks is (same.trans took) request (covers.silent silent.reported silent.transmitted)
      prepared memory

theorem Stands.act (stands : worker.Stands policy lane answers effects heard)
    (act : Act policy worker common answer after new) (of_lane : worker.lane = lane)
    (told : ∀ pair, answer = some pair → answers heard = pair) :
    after.Stands policy lane answers (effects ++ new) (heard + answer.toList.length) := by
  subst of_lane
  cases act with
  | keeps same silent deaf memory =>
    subst deaf
    exact (stands.lengthened silent).of_same same memory
  | takes was remembers is took deaf memory =>
    subst took deaf
    obtain ⟨covers, known⟩ := stands.between was
    refine .considers is ?_ (covers.silent rfl rfl) (memory.trans (known remembers))
    rw [taken_append]
    rfl
  | correlates was response is silent deaf memory =>
    subst deaf
    obtain ⟨earlier, took, covers, known⟩ := stands.considering was
    have own := tell_private policy worker.lane answers earlier
    have story := tell_response policy worker.lane answers earlier response
    rw [← took, ← List.append_nil (taken effects), ← silent.taken, ← taken_append] at story
    refine .free is ?_ fun _ => ?_
    · rw [story]
      have still := covers.silent silent.reported silent.transmitted
      exact ⟨still.stats, still.frames, still.heard⟩
    · rw [story, memory, known]
      exact (own.correlate ..).1
  | @withholds record error miss stat was request prepared is reports tells deaf memory =>
    subst reports deaf
    obtain ⟨earlier, took, covers, known⟩ := stands.considering was
    rw [known, (tell_private policy worker.lane answers earlier).prepare] at prepared
    have story := tell_withheld request prepared
    rw [← took, ← taken_reports effects stat] at story
    refine .free is ?_ fun _ => ?_
    · rw [story]
      exact covers.withheld (known ▸ tells)
    · rw [story, memory, known]
      rfl
  | asks was request prepared is about transmits deaf memory =>
    subst about transmits deaf
    obtain ⟨earlier, took, covers, known⟩ := stands.considering was
    rw [known, (tell_private policy worker.lane answers earlier).prepare] at prepared
    refine .asks is ?_ request ⟨?_, ?_, covers.heard⟩ prepared (known ▸ memory)
    · rw [taken_append]
      exact (List.append_nil _).trans took
    · rw [reported_append]
      exact (congrArg (List.map Stat.timeless) (List.append_nil _)).trans covers.stats
    · rw [transmitted_append, covers.frames, List.append_nil]
      rfl
  | @settles issue answer stat was is reports tells hears memory =>
    subst reports hears
    cases stands with
    | free other | considers other => exact absurd (was.symm.trans other) nofun
    | @asks found frame earlier other took request covers prepared known =>
      cases was.symm.trans other
      have own : ((tell policy worker.lane answers earlier).memory.issued issue.record.seen
        issue.issuedAt).IsPrivate := tell_private policy worker.lane answers earlier
      -- The answer heard now is the one that the tale looks up under the number of the frame.
      have hears_now : answers (tell policy worker.lane answers earlier).frames.length =
          (issue.issuedAt, answer) := by
        rw [← covers.heard]
        exact told _ rfl
      have story := tell_answered request prepared hears_now
      rw [← took, ← taken_reports effects stat] at story
      refine .free is ?_ fun _ => ?_
      · rw [story]
        refine covers.settled ?_
        rw [LaneMemory.told_seq, tells, known]
      · rw [story, memory, known, (own.told ..).1]
        rfl

end Worker

end TrafficReplay
