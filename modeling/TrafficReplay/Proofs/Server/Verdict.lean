import TrafficReplay.Lane.Worker
import TrafficReplay.Proofs.Server.Failure

namespace TrafficReplay

/-- An answer is there if and only if the request expects one. It is an answer to this request, and it
    can be read whether the request failed. -/
structure Frame.IsAnswered (request : Frame) (fails : Prop) (answered : Option Frame) : Prop where
  awaited : answered.isSome = request.opCode.expectsReply
  own : ∀ answer, answered = some answer → answer.responseTo = request.requestId
  tells : ∀ answer, answered = some answer →
    ∃ summary, answer.replySummary = .ok summary ∧ (summary.failed = true ↔ fails)

namespace Frame

variable {request answer : Frame} {requestId : Int32} {doc : Document} {fails : Prop}
  {answered : Option Frame}

theorem isAnswered_none (silent : request.opCode.expectsReply = false) :
    request.IsAnswered fails none :=
  ⟨silent.symm, nofun, nofun⟩

theorem isAnswered_some {summary : ReplySummary} (expects : request.opCode.expectsReply = true)
    (own : answer.responseTo = request.requestId) (read : answer.replySummary = .ok summary)
    (failed : summary.failed = true ↔ fails) : request.IsAnswered fails (some answer) := by
  refine ⟨expects.symm, ?_, ?_⟩
  · rintro _ ⟨⟩
    exact own
  · rintro _ ⟨⟩
    exact ⟨summary, read, failed⟩

theorem isAnswered_reply {flags start : Int32} {cursor : Int64} {docs : List Document}
    (expects : request.opCode.expectsReply = true)
    (made : (Frame.reply requestId request.requestId flags cursor start docs).map some = .ok answered)
    (failed : flags &&& (cursorNotFoundFlag ||| queryFailureFlag) ≠ 0 ↔ fails) :
    request.IsAnswered fails answered := by
  obtain ⟨answer, built, rfl⟩ := map_eq_ok.mp made
  obtain ⟨_, _, _, own⟩ := ofParts_ok built
  exact isAnswered_some expects own (reply_summary built) (by simpa using failed)

theorem commandReply_summary {responseTo : Int32} (plain : fieldsPlain doc = true)
    (told : doc.contains "ok" = true)
    (made : Frame.commandReply requestId responseTo doc = .ok answer) :
    answer.responseTo = responseTo ∧ answer.replySummary = .ok (.ofCommand doc) := by
  obtain ⟨_, code, _, own⟩ := ofParts_ok made
  have said : (Saying.commandReply responseTo doc).build requestId = .ok answer := made
  have read : answer.replyDocument = .ok doc := Saying.isReadIn_of_build said (List.forall_mem_nil _)
    (by simpa [Saying.documents] using plain)
  refine ⟨own, ?_⟩
  simp only [replyDocument, replySummary, code] at read ⊢
  obtain ⟨pair, first, same⟩ := bind_eq_ok.mp read
  obtain rfl : pair.1 = doc := Except.ok.inj same
  simp only [first, bind, Except.bind, told, ↓reduceIte]
  rfl

theorem msg_summary {responseTo : Int32} (plain : fieldsPlain doc = true)
    (made : Frame.msg requestId responseTo doc = .ok answer) :
    answer.responseTo = responseTo ∧ answer.replySummary = .ok (.ofCommand doc) := by
  obtain ⟨_, code, _, own⟩ := ofParts_ok made
  have said : (Saying.msg responseTo doc).build requestId = .ok answer := made
  have read : answer.replyDocument = .ok doc := (Saying.isReadIn_of_build said (List.forall_mem_nil _)
    (by simpa [Saying.documents] using plain)).2.2
  refine ⟨own, ?_⟩
  simp only [replyDocument, replySummary, code] at read ⊢
  rw [read]
  rfl

theorem isAnswered_command (expects : request.opCode.expectsReply = true)
    (plain : fieldsPlain doc = true) (told : doc.contains "ok" = true)
    (made : (Frame.commandReply requestId request.requestId doc).map some = .ok answered)
    (failed : (ReplySummary.ofCommand doc).failed = true ↔ fails) :
    request.IsAnswered fails answered := by
  obtain ⟨answer, built, rfl⟩ := map_eq_ok.mp made
  obtain ⟨own, read⟩ := commandReply_summary plain told built
  exact isAnswered_some expects own read failed

theorem isAnswered_msg (expects : request.opCode.expectsReply = true)
    (plain : fieldsPlain doc = true)
    (made : (Frame.msg requestId request.requestId doc).map some = .ok answered)
    (failed : (ReplySummary.ofCommand doc).failed = true ↔ fails) :
    request.IsAnswered fails answered := by
  obtain ⟨answer, built, rfl⟩ := map_eq_ok.mp made
  obtain ⟨own, read⟩ := msg_summary plain built
  exact isAnswered_some expects own read failed

end Frame

namespace Server

variable {server : Server} {request : Frame} {answered : Option Frame}

def MissesCursor (server : Server) (request : Frame) : Prop :=
  request.opCode = .getMore ∧ ∃ id, request.cursorIds = .ok [id] ∧ server.isOpen id = false

theorem not_missesCursor (other : request.opCode ≠ .getMore) : ¬server.MissesCursor request :=
  fun misses => other misses.1

theorem isAnswered_batch {docs : List Document} {limit : Int32} {cursor : Option Int64} {fails : Prop}
    (expects : request.opCode.expectsReply = true)
    (answer : (server.batch request.requestId docs limit cursor).2 = .ok answered)
    (passes : ¬fails) : request.IsAnswered fails answered := by
  obtain ⟨id, made⟩ := batch_answer server request.requestId docs limit cursor
  exact Frame.isAnswered_reply expects (made.symm.trans answer)
    (iff_of_false (by decide) passes)

theorem isAnswered_getMore (code : request.opCode = .getMore)
    (answer : (server.getMore request).2 = .ok answered) :
    request.IsAnswered (server.MissesCursor request) answered := by
  have expects : request.opCode.expectsReply = true := by rw [code]; rfl
  unfold getMore at answer
  split at answer
  · cases answer
  · rename_i limit id parts
    obtain ⟨_, _, _, _, read⟩ := (moreParts_eq_ok code).mp parts
    split at answer
    · rename_i docs held
      refine isAnswered_batch expects answer ?_
      rintro ⟨_, other, read_other, closed⟩
      cases read.symm.trans read_other
      simp [isOpen, held] at closed
    · rename_i absent
      have closed : server.isOpen id = false := by simp [isOpen, absent]
      dsimp only at answer
      exact Frame.isAnswered_reply expects answer (iff_of_true (by decide) ⟨code, id, read, closed⟩)

theorem isAnswered_apply (server : Server) (answer : (server.apply request).2 = .ok answered) :
    request.IsAnswered (server.MissesCursor request) answered := by
  have plain : fieldsPlain success = true := by decide +kernel
  unfold apply at answer
  split at answer
  case h_1 code =>
    split at answer
    · cases answer
    · cases answer
      exact Frame.isAnswered_none (by rw [code]; rfl)
  case h_2 code =>
    have expects : request.opCode.expectsReply = true := by rw [code]; rfl
    have passes : ¬server.MissesCursor request := not_missesCursor (by rw [code]; decide)
    split at answer
    · exact Frame.isAnswered_reply expects answer (iff_of_false (by decide) passes)
    · unfold query at answer
      split at answer
      · cases answer
      · exact isAnswered_batch expects answer passes
  case h_3 code => exact isAnswered_getMore code answer
  case h_4 code =>
    split at answer
    · cases answer
    · cases answer
      exact Frame.isAnswered_none (by rw [code]; rfl)
  case h_5 code =>
    exact Frame.isAnswered_command (by rw [code]; rfl) plain (by decide) answer
      (iff_of_false (by decide) (not_missesCursor (by rw [code]; decide)))
  case h_6 code =>
    exact Frame.isAnswered_msg (by rw [code]; rfl) plain answer
      (iff_of_false (by decide) (not_missesCursor (by rw [code]; decide)))
  case h_7 insert query more kill command msg =>
    cases answer
    refine Frame.isAnswered_none ?_
    cases code : request.opCode <;> simp_all [OpCode.expectsReply]

theorem isAnswered_handle (answer : (server.handle request).2 = .ok answered) :
    request.IsAnswered (server.MissesCursor request) answered :=
  isAnswered_apply (server.record request) answer

theorem isAnswered_refuse (answer : (server.refuse request).2 = .ok answered) :
    request.IsAnswered True answered := by
  have plain : fieldsPlain refusal = true := by decide +kernel
  unfold refuse at answer
  dsimp only at answer
  split at answer
  case h_1 code | h_2 code =>
    exact Frame.isAnswered_reply (by rw [code]; rfl) answer (iff_of_true (by decide) trivial)
  case h_3 code =>
    exact Frame.isAnswered_command (by rw [code]; rfl) plain (by decide) answer
      (iff_of_true (by decide) trivial)
  case h_4 code =>
    exact Frame.isAnswered_msg (by rw [code]; rfl) plain answer (iff_of_true (by decide) trivial)
  case h_5 query more command msg =>
    cases answer
    refine Frame.isAnswered_none ?_
    cases code : request.opCode <;> simp_all [OpCode.expectsReply]

end Server

/-- A lane that has sent a request waits if and only if there is an answer. It takes the answer for one
    to this request, and its record of the operation says whether the request failed. -/
structure Issue.IsSettled (issue : Issue) (fails : Prop) (answered : Option Frame) : Prop where
  waits : ∀ (around : Surroundings) (worker : Worker) (shared : Shared),
    worker.phase = .sending issue [] → ∃ after others effects,
      worker.step? around shared .sent = some (after, others, effects) ∧
        (after.phase = .awaiting issue ↔ answered.isSome = true)
  settles : ∀ (around : Surroundings) (worker : Worker) (shared : Shared) (answer : Frame),
    answered = some answer → worker.phase = .awaiting issue → ∃ after others stat,
      worker.step? around shared (.received answer) = some (after, others, [.reports stat]) ∧
        after.phase ≠ .awaiting issue ∧ stat.requestId = issue.record.requestId ∧
        (stat.error = some .serverError ∧ fails ∨ stat.error = none ∧ ¬fails)

namespace Frame.IsAnswered

variable {request : Frame} {fails : Prop} {answered : Option Frame} {issue : Issue}

theorem waits (told : request.IsAnswered fails answered)
    (code : issue.record.frame.opCode = request.opCode) (around : Surroundings) (worker : Worker)
    (shared : Shared) (sending : worker.phase = .sending issue []) : ∃ after others effects,
      worker.step? around shared .sent = some (after, others, effects) ∧
        (after.phase = .awaiting issue ↔ answered.isSome = true) := by
  have stepped : worker.step? around shared .sent = some (Worker.sent around issue worker shared) := by
    simp only [Worker.step?, sending]
  by_cases expects : issue.record.frame.opCode.expectsReply = true
  · simp only [Worker.sent, expects, ↓reduceIte] at stepped
    exact ⟨_, _, _, stepped, iff_of_true rfl (by rw [told.awaited, ← code, expects])⟩
  · simp only [Worker.sent, if_neg expects] at stepped
    exact ⟨_, _, _, stepped, iff_of_false nofun (by rwa [told.awaited, ← code])⟩

theorem settles (told : request.IsAnswered fails answered)
    (same : issue.record.requestId = request.requestId) (around : Surroundings) (worker : Worker)
    (shared : Shared) {answer : Frame} (given : answered = some answer)
    (awaiting : worker.phase = .awaiting issue) : ∃ after others stat,
      worker.step? around shared (.received answer) = some (after, others, [.reports stat]) ∧
        after.phase ≠ .awaiting issue ∧ stat.requestId = issue.record.requestId ∧
        (stat.error = some .serverError ∧ fails ∨ stat.error = none ∧ ¬fails) := by
  obtain ⟨summary, read, failed⟩ := told.tells answer given
  have own : answer.responseTo = issue.record.requestId := (told.own answer given).trans same.symm
  have stepped : worker.step? around shared (.received answer) =
      some (Worker.received around issue answer worker shared) := by
    simp only [Worker.step?, awaiting]
  have past : ¬answer.responseTo ≠ issue.record.requestId := not_not.mpr own
  simp only [Worker.received, if_neg past, read] at stepped
  refine ⟨_, _, _, stepped, ?_, rfl, ?_⟩
  · by_cases fault : summary.failed = true
    · simp only [fault, ↓reduceIte, Worker.afterFailure]
      split <;> nofun
    · simp only [fault, Worker.afterSuccess]
      nofun
  · by_cases fault : summary.failed = true
    · exact .inl ⟨if_pos fault, failed.mp fault⟩
    · exact .inr ⟨if_neg fault, fun fails => fault (failed.mpr fails)⟩

end Frame.IsAnswered

namespace Server

/-- Whoever handles or refuses a request without a fault answers what a lane waits for: an answer if
    one is expected, to this request, that fails if the request is refused or names a cursor that is
    not open. Whoever is refused has changed nothing. -/
theorem answers_what_lanes_await :
    (∀ (server : Server) (request : Frame) (answered : Option Frame),
      (server.handle request).2 = .ok answered →
      request.IsAnswered (server.MissesCursor request) answered ∧
        ∀ issue : Issue, issue.record.requestId = request.requestId →
          issue.record.frame.opCode = request.opCode →
          issue.IsSettled (server.MissesCursor request) answered) ∧
    (∀ (server : Server) (request : Frame) (answered : Option Frame),
      (server.refuse request).2 = .ok answered →
      request.IsAnswered True answered ∧
        ∀ issue : Issue, issue.record.requestId = request.requestId →
          issue.record.frame.opCode = request.opCode → issue.IsSettled True answered) ∧
    ∀ (server : Server) (request : Frame),
      (server.refuse request).1.collections = server.collections ∧
        (server.refuse request).1.cursors = server.cursors := by
  refine ⟨fun server request answered handled => ?_, fun server request answered refused => ?_,
    fun _ _ => ⟨rfl, rfl⟩⟩
  · have told := isAnswered_handle handled
    exact ⟨told, fun issue same code => ⟨told.waits code, fun around worker shared _ =>
      told.settles same around worker shared⟩⟩
  · have told := isAnswered_refuse refused
    exact ⟨told, fun issue same code => ⟨told.waits code, fun around worker shared _ =>
      told.settles same around worker shared⟩⟩

def sampleIssue : Issue := ⟨⟨sampleMore, default, "client", "server"⟩, false, default, default⟩

/-- A request for more of a cursor that is not open yet, and the same request on a connection that has
    not authenticated. -/
theorem sampleMore_awaited :
    (ofHistory samplePast).MissesCursor sampleMore ∧
    (∃ answer, ((ofHistory samplePast).handle sampleMore).2 = .ok (some answer) ∧
      answer.responseTo = 3 ∧ sampleIssue.IsSettled ((ofHistory samplePast).MissesCursor sampleMore)
        (some answer)) ∧
    ∃ answer, ((ofHistory samplePast).refuse sampleMore).2 = .ok (some answer) ∧
      answer.responseTo = 3 ∧ sampleIssue.IsSettled True (some answer) := by
  have named : sampleMore.cursorIds = .ok [sampleCursor] := ok_of_toOption (by decide +kernel)
  have closed : (ofHistory samplePast).isOpen sampleCursor = false := by decide +kernel
  have missing : (ofHistory samplePast).summary? sampleMore = some ⟨0, 0, true⟩ := by decide +kernel
  obtain ⟨answer, handled, _⟩ := answered_of_summary missing
  obtain ⟨refused, given⟩ := Option.isSome_iff_exists.mp
    (show ((ofHistory samplePast).refuse sampleMore).2.toOption.join.isSome by decide +kernel)
  have refuses : ((ofHistory samplePast).refuse sampleMore).2 = .ok (some refused) :=
    ok_of_toOption (Option.join_eq_some_iff.mp given)
  obtain ⟨handles, spurns, _⟩ := answers_what_lanes_await
  obtain ⟨told, settled⟩ := handles (ofHistory samplePast) sampleMore (some answer) handled
  obtain ⟨told_too, settled_too⟩ := spurns (ofHistory samplePast) sampleMore (some refused) refuses
  exact ⟨⟨rfl, sampleCursor, named, closed⟩,
    ⟨answer, handled, told.own answer rfl, settled sampleIssue rfl rfl⟩,
    refused, refuses, told_too.own refused rfl, settled_too sampleIssue rfl rfl⟩

end Server

end TrafficReplay
