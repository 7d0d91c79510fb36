import TrafficReplay.Proofs.Lane.Dialogue
import TrafficReplay.Proofs.Latest

namespace TrafficReplay

def OpError.isVerdict : OpError → Bool
  | .serverError | .malformedResponse => true
  | _ => false

structure Echoes (stat : Stat) (record : Record) (summary : ReplySummary) : Prop where
  named : stat.requestId = record.requestId
  returned : stat.numReturned = summary.numberReturned
  verdict : stat.error = if summary.failed then some .serverError else none

inductive Unanswered (step : LaneStep) (stat : Stat) : Prop
  | forgotten {issue : Issue} (sent : step.before.phase = .sending issue [])
      (unasked : issue.record.frame.opCode.expectsReply = false)
      (named : stat.requestId = issue.record.requestId) (nothing : stat.numReturned = 0)
      (fine : stat.error = none)
  | failed {error : OpError} (cause : stat.error = some error)
      (unread : error.isVerdict = false) (nothing : stat.numReturned = 0)

structure Learns (worker : Worker) (common : CursorTable) (issue : Issue) (summary : ReplySummary)
    (outcome : Worker.Outcome) : Prop where
  home : outcome.1.memory.home =
    (worker.memory.onReply common issue.record.frame issue.miss summary.cursorId).1.home
  liveCursors : outcome.1.memory.liveCursors =
    (worker.memory.onReply common issue.record.frame issue.miss summary.cursorId).1.liveCursors
  common : outcome.2.1.common =
    (worker.memory.onReply common issue.record.frame issue.miss summary.cursorId).2

namespace Worker

variable {around : Surroundings} {worker : Worker} {shared : Shared} {action : WorkerAction}
  {outcome : Outcome}

theorem Step.receives {reply : Frame} {summary : ReplySummary}
    (step : Step around worker shared (.received reply) outcome)
    (readable : reply.replySummary = .ok summary) :
    ∃ issue, worker.phase = .awaiting issue ∧
      (reply.responseTo ≠ issue.record.requestId ∧ outcome = (worker, shared, []) ∨
        reply.responseTo = issue.record.requestId ∧
          (∃ stat, reported outcome.2.2 = [stat] ∧ Echoes stat issue.record summary) ∧
          Learns worker shared.common issue summary outcome) := by
  cases step with
  | shifts shift =>
    cases shift with
    | @passesOver issue _ waiting late =>
      refine ⟨issue, waiting, .inl ⟨late, ?_⟩⟩
      rw [← waiting, enter_phase]
    | connects cause => rcases cause with ⟨other, _⟩ | ⟨other, _⟩ <;> cases other
    | isRefused _ cause | isDenied _ cause => rcases cause with other | ⟨other, _⟩ <;> cases other
  | fails cause =>
    cases cause with
    | reading _ _ unreadable => cases readable.symm.trans unreadable
  | stops cause =>
    cases cause with
    | sending _ cause => rcases cause with other | ⟨_, other, _⟩ <;> cases other
  | endsCancelled cause => rcases cause with ⟨other, _⟩ | ⟨other, _⟩ <;> cases other
  | @hears issue _ found played told waiting own same learnt outcome =>
    cases readable.symm.trans same
    subst learnt outcome
    refine ⟨issue, waiting, .inr ⟨own, ⟨_, rfl, rfl, rfl, rfl⟩, ?_⟩⟩
    constructor
    case common => rfl
    all_goals split <;> rfl

theorem Step.unanswered (step : Step around worker shared action outcome)
    (unheard : ∀ reply, action ≠ .received reply)
    (intact : ∀ fault, action ≠ .receiveFailed (.frame fault)) {stat : Stat}
    (reports : stat ∈ reported outcome.2.2) :
    Unanswered ⟨worker, action, outcome.2.2⟩ stat := by
  cases step with
  | shifts shift =>
    rw [shift.reported] at reports
    cases reports
  | correlates =>
    rw [reported_binds] at reports
    cases reports
  | @withholds record error miss _ prepared =>
    cases List.mem_singleton.mp reports
    refine .failed rfl ?_ rfl
    have preparation := worker.memory.prepare_preparation shared.common around.settings.onMiss
      record.frame
    rw [prepared] at preparation
    cases preparation <;> rfl
  | fails cause =>
    cases List.mem_singleton.mp reports
    cases cause with
    | sending | waiting => exact .failed rfl rfl rfl
    | reading => exact absurd rfl (unheard _)
  | stops cause =>
    cases List.mem_singleton.mp reports
    cases cause with
    | cancelled | sending | closed => exact .failed rfl rfl rfl
    | garbled => exact absurd rfl (intact _)
  | plays sent unasked _ played =>
    cases List.mem_singleton.mp reports
    subst played
    exact .forgotten sent unasked rfl rfl rfl
  | hears => exact absurd rfl (unheard _)
  | drains _ _ _ lost =>
    cases List.mem_singleton.mp reports
    subst lost
    exact .failed rfl rfl rfl
  | _ => cases reports

end Worker

structure OwnReply (sent : List (Record × Frame)) (answers : List (Nat × Frame)) (step : LaneStep)
    (issue : Issue) (reply : Frame) (summary : ReplySummary) : Prop where
  waiting : step.before.phase = .awaiting issue
  arrived : step.action = .received reply
  replied : ∃ earlier frame, sent = earlier ++ [(issue.record, frame)] ∧
    (earlier.length, reply) ∈ answers
  own : reply.responseTo = issue.record.requestId
  readable : reply.replySummary = .ok summary
  stat : ∃ stat, reported step.effects = [stat] ∧ Echoes stat issue.record summary
  learns : ∀ around shared outcome, Worker.Step around step.before shared step.action outcome →
    Learns step.before shared.common issue summary outcome

/-- A worker reads the server's reply to an earlier request, and goes on as if it had not. -/
structure LateReply (sent : List (Record × Frame)) (answers : List (Nat × Frame)) (step : LaneStep)
    (reply : Frame) : Prop where
  old : ∃ number, number + 1 < sent.length ∧ (number, reply) ∈ answers
  other : ∀ issue, step.before.phase = .awaiting issue →
    reply.responseTo ≠ issue.record.requestId
  silent : step.effects = []
  dropped : ∀ around shared outcome, Worker.Step around step.before shared step.action outcome →
    outcome = (step.before, shared, [])

/-- What a step tells of a request comes from the server's reply to that request, if it tells of a
    reply at all. -/
structure Unshifted (sent : List (Record × Frame)) (answers : List (Nat × Frame))
    (step : LaneStep) : Prop where
  stats : ∀ stat ∈ reported step.effects, Unanswered step stat ∨
    ∃ issue reply summary, OwnReply sent answers step issue reply summary ∧
      Echoes stat issue.record summary
  replies : ∀ reply, step.action = .received reply → LateReply sent answers step reply ∨
    ∃ issue summary, OwnReply sent answers step issue reply summary

theorem Unshifted.more {sent : List (Record × Frame)} {answers : List (Nat × Frame)}
    {step : LaneStep} (unshifted : Unshifted sent answers step) (answer : Nat × Frame) :
    Unshifted sent (answers ++ [answer]) step := by
  have heard {issue : Issue} {reply : Frame} {summary : ReplySummary}
      (heard : OwnReply sent answers step issue reply summary) :
      OwnReply sent (answers ++ [answer]) step issue reply summary := by
    obtain ⟨earlier, frame, split, replied⟩ := heard.replied
    exact { heard with replied := ⟨earlier, frame, split, List.mem_append_left _ replied⟩ }
  constructor
  · intro stat reports
    rcases unshifted.stats stat reports with unanswered | ⟨issue, reply, summary, hears, echoes⟩
    · exact .inl unanswered
    · exact .inr ⟨issue, reply, summary, heard hears, echoes⟩
  · intro reply arrived
    rcases unshifted.replies reply arrived with late | ⟨issue, summary, hears⟩
    · obtain ⟨number, before, replied⟩ := late.old
      exact .inl { late with old := ⟨number, before, List.mem_append_left _ replied⟩ }
    · exact .inr ⟨issue, summary, heard hears⟩

theorem Honest.place {earlier : List (Record × Frame)} {last : Record × Frame}
    {answer : Nat × Frame} (honest : Honest (earlier ++ [last]) answer)
    (distinct : ((earlier ++ [last]).map fun sent => sent.1.requestId).Nodup) :
    answer.1 + 1 < (earlier ++ [last]).length ∧ answer.2.responseTo ≠ last.1.requestId ∨
      answer.1 = earlier.length ∧ answer.2.responseTo = last.1.requestId := by
  obtain ⟨request, found, carries⟩ := honest.asked
  obtain ⟨known, at_number⟩ := List.getElem?_eq_some_iff.mp found
  rw [List.length_append, List.length_singleton] at known
  by_cases before : answer.1 < earlier.length
  · left
    rw [List.getElem_append_left before] at at_number
    have member : request ∈ earlier := at_number ▸ List.getElem_mem before
    rw [List.map_append, List.nodup_append] at distinct
    have apart := distinct.2.2 request.1.requestId (List.mem_map_of_mem member) last.1.requestId
      (List.mem_singleton.mpr rfl)
    refine ⟨?_, carries ▸ apart⟩
    rw [List.length_append, List.length_singleton]
    omega
  · right
    have same : answer.1 = earlier.length := by omega
    rw [same, List.getElem?_concat_length] at found
    cases found
    exact ⟨same, carries⟩

/-- A reply that is read is that to the request that was sent last, or is ignored. -/
theorem Attuned.reply_cases {log : List LaneStep} {worker : Worker} {channel : Channel}
    {around : Surroundings} {shared : Shared} {outcome : Worker.Outcome} {reply : Frame}
    {number : Nat} (attuned : Attuned log channel) (sends : Sends log worker)
    (distinct : ((requestsOf log).map fun sent => sent.1.requestId).Nodup)
    (replied : (number, reply) ∈ channel.answers)
    (step : Worker.Step around worker shared (.received reply) outcome) :
    LateReply (requestsOf log) channel.answers ⟨worker, .received reply, outcome.2.2⟩ reply ∨
      ∃ issue summary, OwnReply (requestsOf log) channel.answers
        ⟨worker, .received reply, outcome.2.2⟩ issue reply summary := by
  have honest := attuned.honest _ replied
  obtain ⟨summary, readable⟩ := honest.readable
  obtain ⟨issue, waiting, heard⟩ := step.receives readable
  obtain ⟨earlier, frame, split⟩ := sends.out issue.record (by rw [waiting]; rfl)
  rw [split] at honest distinct
  -- The worker would do the same in any other surroundings.
  have again : ∀ around shared outcome,
      Worker.Step around worker shared (.received reply) outcome →
      (reply.responseTo ≠ issue.record.requestId → outcome = (worker, shared, [])) ∧
        (reply.responseTo = issue.record.requestId →
          Learns worker shared.common issue summary outcome) := by
    intro around shared outcome step
    obtain ⟨other, still, cases⟩ := step.receives readable
    cases waiting.symm.trans still
    rcases cases with ⟨apart, same⟩ | ⟨own, _, learns⟩
    · exact ⟨fun _ => same, fun own => absurd own apart⟩
    · exact ⟨fun apart => absurd own apart, fun _ => learns⟩
  rcases honest.place distinct with ⟨before, apart⟩ | ⟨place, own⟩
  · left
    constructor
    case old => exact ⟨number, split ▸ before, replied⟩
    case other =>
      intro other still
      cases waiting.symm.trans still
      exact apart
    case silent => exact congrArg (fun after => after.2.2) ((again _ _ _ step).1 apart)
    case dropped => exact fun around shared outcome step => (again _ _ _ step).1 apart
  · right
    rcases heard with ⟨apart, _⟩ | ⟨_, stat, _⟩
    · exact absurd own apart
    · cases place
      exact ⟨issue, summary, waiting, rfl, ⟨earlier, frame, split, replied⟩, own, readable, stat,
        fun around shared outcome step => (again _ _ _ step).2 own⟩

/-- Whatever a worker does, it does not take the reply to one request for that to another. -/
theorem Attuned.unshifted {log : List LaneStep} {worker : Worker} {channel left : Channel}
    {around : Surroundings} {shared : Shared} {action : WorkerAction} {outcome : Worker.Outcome}
    (attuned : Attuned log channel) (sends : Sends log worker)
    (distinct : ((requestsOf log).map fun sent => sent.1.requestId).Nodup)
    (step : Worker.Step around worker shared action outcome)
    (told : channel.tell? action = some left) :
    Unshifted (requestsOf log) channel.answers ⟨worker, action, outcome.2.2⟩ := by
  obtain ⟨_, _, intact, answered⟩ := attuned.tells told
  by_cases hears : ∃ reply, action = .received reply
  · obtain ⟨reply, rfl⟩ := hears
    obtain ⟨number, replied⟩ := answered reply rfl
    have cases := attuned.reply_cases sends distinct replied step
    constructor
    · intro stat reports
      right
      rcases cases with late | ⟨issue, summary, heard⟩
      · rw [late.silent] at reports
        cases reports
      · obtain ⟨only, same, echoes⟩ := heard.stat
        rw [same] at reports
        cases List.mem_singleton.mp reports
        exact ⟨issue, reply, summary, heard, echoes⟩
    · intro other same
      cases same
      exact cases
  · have unheard : ∀ reply, action ≠ .received reply := fun reply same => hears ⟨reply, same⟩
    constructor
    · intro stat reports
      exact .inl (step.unanswered unheard intact reports)
    · exact fun reply heard => absurd heard (unheard reply)

namespace Dialogue

variable {scope : CursorScope} {log : List LaneStep} {worker : Worker} {channel : Channel}

theorem unshifted (dialogue : Dialogue scope log worker channel)
    (distinct : ((requestsOf log).map fun sent => sent.1.requestId).Nodup) :
    ∀ before step after, log = before ++ step :: after →
      Unshifted (requestsOf before) channel.answers step := by
  induction dialogue with
  | opened => exact fun before step after split => absurd split (by simp)
  | fed _ _ ih => exact ih distinct
  | arrives _ _ ih => exact ih distinct
  | answers _ _ _ _ _ _ ih =>
    exact fun before step after split => (ih distinct before step after split).more _
  | @steps log worker channel left around shared action outcome dialogue own step told ih =>
    rw [requestsOf_concat, List.map_append, List.nodup_append] at distinct
    have same : (left.after outcome.2.2).answers = channel.answers := by
      rw [Channel.after_answers, (dialogue.attuned.tells told).1]
    rw [same]
    intro before found after split
    rcases concat_split split with ⟨rfl, rfl, rfl⟩ | ⟨front, rfl, earlier⟩
    · exact dialogue.attuned.unshifted dialogue.laneRun.sends distinct.1 step told
    · exact ih distinct.1 before found front earlier
  | @inherits log _ worker channel _ _ _ _ outcome _ _ _ _ _ waiting _ step ih =>
    rw [requestsOf_concat, List.map_append, List.nodup_append] at distinct
    obtain ⟨nothing, unheard⟩ := step.begins waiting
    intro before found after split
    rcases concat_split split with ⟨rfl, rfl, rfl⟩ | ⟨front, rfl, earlier⟩
    · refine ⟨fun stat reports => ?_, fun reply heard => absurd heard (unheard reply)⟩
      rw [nothing] at reports
      cases reports
    · exact ih distinct.1 before found front earlier

/-- A cursor that a lane's history tells of comes from the server's reply to the same request. -/
theorem answered (dialogue : Dialogue scope log worker channel)
    (distinct : ((requestsOf log).map fun sent => sent.1.requestId).Nodup) {request : Frame}
    {miss : Bool} {cursorId : Int64} (told : .answered request miss cursorId ∈ history log) :
    ∃ number record frame reply summary, (requestsOf log)[number]? = some (record, frame) ∧
      record.frame = request ∧ (number, reply) ∈ channel.answers ∧
      reply.replySummary = .ok summary ∧ summary.cursorId = cursorId := by
  obtain ⟨step, member, moment⟩ := List.mem_filterMap.mp told
  obtain ⟨before, after, rfl⟩ := List.append_of_mem member
  obtain ⟨issue, reply, summary, waiting, arrived, own, readable, same, cursor⟩ :=
    LaneStep.received_of_answered moment
  rcases (dialogue.unshifted distinct before step after rfl).replies reply arrived with
    late | ⟨other, found, heard⟩
  · exact absurd own (late.other issue waiting)
  · cases waiting.symm.trans heard.waiting
    cases readable.symm.trans heard.readable
    obtain ⟨earlier, frame, split, replied⟩ := heard.replied
    refine ⟨earlier.length, issue.record, frame, reply, summary, ?_, same, replied, readable, cursor⟩
    have whole : requestsOf (before ++ step :: after) =
        earlier ++ (issue.record, frame) :: requestsOf (step :: after) := by
      rw [requestsOf_append, split, List.append_assoc]
      rfl
    rw [whole, List.getElem?_append_right (Nat.le_refl _), Nat.sub_self]
    rfl

/-- Replies never shift. As long as the requests of a lane have distinct ids, each stat record tells of
    the server's only reply to the same request, or of a request without a reply; a reply to an earlier
    request changes nothing; and a cursor that is remembered for a request comes from the reply to
    it. -/
theorem replies_never_shift (dialogue : Dialogue scope log worker channel)
    (distinct : ((requests (taken (log.flatMap LaneStep.effects))).map Record.requestId).Nodup) :
    (channel.answers.map Prod.fst).Nodup ∧
      (∀ before step after, log = before ++ step :: after →
        Unshifted (requestsOf before) channel.answers step) ∧
      (worker.Remembers → ∀ requestId live,
        worker.memory.liveCursors.lookup requestId = some live →
          ∃ number record frame reply summary, (requestsOf log)[number]? = some (record, frame) ∧
            record.requestId = requestId ∧ (number, reply) ∈ channel.answers ∧
            reply.replySummary = .ok summary ∧ summary.cursorId = live) := by
  have distinct : ((requestsOf log).map fun sent => sent.1.requestId).Nodup := by
    have within := dialogue.laneRun.requestsOf_sublist.map Record.requestId
    rw [List.map_map] at within
    exact distinct.sublist within
  refine ⟨dialogue.attuned.once, dialogue.unshifted distinct, ?_⟩
  intro remembers requestId live held
  obtain ⟨before, moment, after, past, leaves, _⟩ :=
    (dialogue.laneRun.remembered remembers requestId live).mp held
  cases moment with
  | recalled | killed => exact leaves.elim
  | answered request miss cursorId =>
    obtain ⟨own, rfl, _⟩ := leaves
    have told : Moment.answered request miss cursorId ∈ history log := by simp [past]
    obtain ⟨number, record, frame, reply, summary, sent, rfl, replied, readable, cursor⟩ :=
      dialogue.answered distinct told
    exact ⟨number, record, frame, reply, summary, sent, own, replied, readable, cursor⟩

theorem walk {more : List LaneStep} {last : Worker} {left : Channel} {around : Surroundings}
    {shared : Shared} {actions : List WorkerAction} (dialogue : Dialogue scope log worker channel)
    (own : ∀ memory, around.legacy ≠ .passed memory)
    (walk : worker.walk? around shared actions = some (last, more))
    (told : more.foldlM Channel.hear? channel = some left) :
    Dialogue scope (log ++ more) last left := by
  revert left
  apply Worker.walk?_induction walk
  · intro left told
    cases told
    rw [List.append_nil]
    exact dialogue
  · intro steps worker shared action outcome before step left told
    simp only [List.foldlM_append, List.foldlM_cons, List.foldlM_nil, bind_pure] at told
    obtain ⟨middle, heard, last_heard⟩ := Option.bind_eq_some_iff.mp told
    obtain ⟨unread, told_last, rfl⟩ := Option.map_eq_some_iff.mp last_heard
    rw [← List.append_assoc]
    exact (before heard).steps own step told_last

end Dialogue

namespace SampleLane

def second : Record := ⟨⟨5, 0, .query, [], Frame.empty_body_le⟩, default, "client", "server"⟩

def returning (requestId : Int32) (count : UInt8) : Frame :=
  ⟨9, requestId, .reply, [0, 0, 0, 0, 0, 0, 0, 0, 0, 0, 0, 0, 0, 0, 0, 0, count, 0, 0, 0], by
    simp [headerLength, frameLimit]⟩

def asks : List WorkerAction := [.advance, .advance, .advance, .wrote 16, .sent]

def walkedToFirst : Option (Worker × List LaneStep) :=
  Worker.walk? around { queued with queue := [query, second] } shared
    ([.advance, .connected] ++ asks)

def first : Worker × List LaneStep := walkedToFirst.get (by decide)

/-- The reply to the first query has only begun to arrive when the wait for it ends. -/
def begun : Channel := (Channel.fresh.answer 0 (returning 1 7)).arrive 10

def walkedToSecond : Option (Worker × List LaneStep) :=
  first.1.walk? around shared (.timedOut :: asks)

def next : Worker × List LaneStep := walkedToSecond.get (by decide)

def caughtUp : Channel := (begun.answer 1 (returning 5 3)).arrive 62

def walkedToLast : Option (Worker × List LaneStep) :=
  next.1.walk? around shared [.received (returning 1 7), .received (returning 5 3)]

def served : Worker × List LaneStep := walkedToLast.get (by decide)

def allServed : List LaneStep := first.2 ++ next.2 ++ served.2

/-- Neither half of the late reply is lost, and each reply is read off when its turn comes. -/
theorem dialogue : Dialogue .lane allServed served.1 { caughtUp with received := .empty } := by
  have own : ∀ memory, around.legacy ≠ .passed memory := fun _ => Handoff.noConfusion
  have to_first : walkedToFirst = some first := (Option.some_get _).symm
  have to_second : walkedToSecond = some next := (Option.some_get _).symm
  have to_last : walkedToLast = some served := (Option.some_get _).symm
  have fed : Dialogue .lane [] { queued with queue := [query, second] } .fresh :=
    ((Dialogue.opened query.lane none).fed query).fed second
  have asked_first : Dialogue .lane first.2 first.1 .fresh := fed.walk own to_first rfl
  have answered_first : Dialogue .lane first.2 first.1 begun :=
    (asked_first.answers 0 rfl nofun rfl rfl).arrives 10
  have asked_second : Dialogue .lane (first.2 ++ next.2) next.1 begun :=
    answered_first.walk own to_second rfl
  have answered_second : Dialogue .lane (first.2 ++ next.2) next.1 caughtUp :=
    (asked_second.answers 1 rfl (by decide) rfl rfl).arrives 62
  exact answered_second.walk own to_last rfl

end SampleLane

/-- The reply to the first query comes once the wait for it has ended, half of it before the second
    query is sent. The second query gets its own reply all the same. -/
theorem sampleLane_keeps_pace :
    Dialogue .lane SampleLane.allServed SampleLane.served.1
        { SampleLane.caughtUp with received := .empty } ∧
      requests (taken (SampleLane.allServed.flatMap LaneStep.effects)) =
        [SampleLane.query, SampleLane.second] ∧
      (reported (SampleLane.allServed.flatMap LaneStep.effects)).map
          (fun stat => (stat.requestId, stat.numReturned, stat.error)) =
        [(1, 0, some .responseTimeout), (5, 3, none)] ∧
      ∃ before step issue summary, SampleLane.allServed = before ++ [step] ∧
        OwnReply (requestsOf before) SampleLane.caughtUp.answers step issue
          (SampleLane.returning 5 3) summary := by
  have asked : requests (taken (SampleLane.allServed.flatMap LaneStep.effects)) =
      [SampleLane.query, SampleLane.second] := rfl
  obtain ⟨_, unshifted, _⟩ := SampleLane.dialogue.replies_never_shift (by rw [asked]; decide)
  have split : SampleLane.allServed = SampleLane.allServed.dropLast ++
      [SampleLane.allServed.getLast (by decide)] := (List.dropLast_append_getLast _).symm
  have reads : (SampleLane.allServed.getLast (by decide)).action =
      .received (SampleLane.returning 5 3) := rfl
  rcases (unshifted _ _ _ split).replies _ reads with late | ⟨issue, summary, heard⟩
  · exact absurd late.silent (by decide)
  · exact ⟨SampleLane.dialogue, asked, rfl, _, _, issue, summary, split, heard⟩

end TrafficReplay
