import TrafficReplay.Proofs.Cursor
import TrafficReplay.Proofs.Wire.Reply
import TrafficReplay.Server.Basic

namespace TrafficReplay

structure Frame.Answers (answer request : Frame) (summary : ReplySummary) : Prop where
  responseTo : answer.responseTo = request.requestId
  code : answer.opCode.isResponse = true ∨ answer.opCode = .msg ∧ request.opCode = .msg
  read : answer.replySummary = .ok summary
  holds : answer.opCode = .reply ∨ summary.cursorId = 0

namespace Server

variable {server after : Server} {request answer : Frame} {id other : Int64}

def isOpen (server : Server) (id : Int64) : Bool := (server.cursors.lookup id).isSome

theorem isOpen_closeCursor : (server.closeCursor id).isOpen other = true ↔
    other ≠ id ∧ server.isOpen other = true := by
  unfold isOpen closeCursor
  by_cases same : other = id
  · rw [same, lookup_filter_self]
    simp
  · rw [lookup_filter_ne same]
    simp [same]

theorem isOpen_openCursor {docs : List Document} : (server.openCursor id docs).isOpen other = true ↔
    other = id ∨ server.isOpen other = true := by
  have closed : (server.closeCursor id).isOpen other = true ↔
      other ≠ id ∧ server.isOpen other = true := isOpen_closeCursor
  unfold isOpen at closed ⊢
  unfold openCursor
  rw [List.lookup_append, Option.isSome_or, Bool.or_eq_true, closed]
  by_cases same : other = id
  · simp [same]
  · simp [same, List.lookup_cons, beq_eq_false_iff_ne.mpr same]

theorem closeCursor_of_not_open (closed : server.isOpen id = false) :
    server.closeCursor id = server := by
  have absent : ∀ entry ∈ server.cursors, decide (entry.1 ≠ id) = true := by
    unfold isOpen at closed
    rw [Option.isSome_eq_false_iff, Option.isNone_iff_eq_none, List.lookup_eq_none_iff] at closed
    intro entry member
    exact decide_eq_true (bne_iff_ne.mp (closed entry member)).symm
  unfold closeCursor
  rw [List.filter_eq_self.mpr absent]

theorem mem_of_isOpen (opened : server.isOpen id = true) : id ∈ server.cursors.map Prod.fst := by
  obtain ⟨docs, found⟩ := Option.isSome_iff_exists.mp opened
  exact List.mem_map_of_mem (mem_of_lookup found)

theorem isOpen_foldl_closeCursor {ids : List Int64} :
    (ids.foldl closeCursor server).isOpen other = true ↔
      other ∉ ids ∧ server.isOpen other = true := by
  induction ids generalizing server with
  | nil => simp
  | cons first rest ih =>
    rw [List.foldl_cons, ih, isOpen_closeCursor, List.mem_cons, not_or]
    exact ⟨fun ⟨later, first, opened⟩ => ⟨⟨first, later⟩, opened⟩,
      fun ⟨⟨first, later⟩, opened⟩ => ⟨later, first, opened⟩⟩

/-- What becomes of the cursors when a request is handled without a fault, and what is answered. Of
    cursor zero, which stands for none, nothing is said. -/
inductive Handling (server : Server) (request : Frame) (after : Server) : Option Frame → Prop
  | keepsSilent (code : request.opCode.expectsReply = false)
      (other : request.opCode ≠ .killCursors) (kept : ∀ id, after.isOpen id = server.isOpen id) :
      Handling server request after none
  | kills {ids : List Int64} (code : request.opCode = .killCursors)
      (read : request.cursorIds = .ok ids)
      (kept : ∀ id, after.isOpen id = true ↔ id ∉ ids ∧ server.isOpen id = true) :
      Handling server request after none
  | answers {answer : Frame} {summary : ReplySummary}
      (code : request.opCode.expectsReply = true) (other : request.opCode ≠ .getMore)
      (answers : answer.Answers request summary)
      (kept : ∀ id, id ≠ 0 →
        (after.isOpen id = true ↔ id = summary.cursorId ∨ server.isOpen id = true)) :
      Handling server request after (some answer)
  | continues {answer : Frame} {summary : ReplySummary} {id : Int64}
      (code : request.opCode = .getMore) (read : request.cursorIds = .ok [id])
      (answers : answer.Answers request summary)
      (named : summary.cursorId ≠ 0 → summary.cursorId = id ∧ server.isOpen id = true)
      (kept : ∀ other, other ≠ 0 → (after.isOpen other = true ↔
        server.isOpen other = true ∧ (other = id → summary.cursorId ≠ 0))) :
      Handling server request after (some answer)

theorem answers_reply {requestId responseTo flags start : Int32} {cursor : Int64}
    {docs : List Document} (made : Frame.reply requestId responseTo flags cursor start docs = .ok answer)
    (own : responseTo = request.requestId) :
    answer.Answers request ⟨cursor, Int32.ofNat docs.length,
      flags &&& (cursorNotFoundFlag ||| queryFailureFlag) ≠ 0⟩ := by
  obtain ⟨_, code, _, own_response⟩ := Frame.ofParts_ok made
  exact ⟨own_response.trans own, .inl (by rw [code]; rfl), Frame.reply_summary made, .inl code⟩

theorem ok_of_toOption {ε α : Type} {made : Except ε α} {value : α}
    (some : made.toOption = some value) : made = .ok value := by
  cases made with
  | error fault => cases some
  | ok held =>
    cases some
    rfl

theorem answers_commandReply {requestId : Int32}
    (made : Frame.commandReply requestId request.requestId success = .ok answer) :
    answer.Answers request ⟨0, 0, false⟩ := by
  obtain ⟨encoded, code, _, own_response⟩ := Frame.ofParts_ok made
  refine ⟨own_response, .inl (by rw [code]; rfl), ?_, .inr rfl⟩
  have body : answer.body = (Frame.encodeParts? [.document success, .document []]).get
      (by decide +kernel) := by simp only [encoded, Option.get_some]
  simp only [Frame.replySummary, code, body]
  exact ok_of_toOption (by decide +kernel)

theorem answers_msg {requestId : Int32} (asked : request.opCode = .msg)
    (made : Frame.msg requestId request.requestId success = .ok answer) :
    answer.Answers request ⟨0, 0, false⟩ := by
  obtain ⟨encoded, code, _, own_response⟩ := Frame.ofParts_ok made
  refine ⟨own_response, .inr ⟨code, asked⟩, ?_, .inr rfl⟩
  have body : answer.body = (Frame.encodeParts? [.int32 0, .byte 0, .document success]).get
      (by decide +kernel) := by simp only [encoded, Option.get_some]
  simp only [Frame.replySummary, Frame.messageDocument, code, body]
  exact ok_of_toOption (by decide +kernel)

theorem batch_answers {responseTo : Int32} {docs : List Document} {limit : Int32}
    {cursor : Option Int64} {answered : Option Frame}
    (handled : server.batch responseTo docs limit cursor = (after, .ok answered))
    (own : responseTo = request.requestId) :
    ∃ answer summary, answered = some answer ∧ answer.Answers request summary ∧
      (summary.cursorId ≠ 0 → ∀ id, cursor = some id → summary.cursorId = id) ∧
      ∀ id, id ≠ 0 →
        (after.isOpen id = true ↔ id = summary.cursorId ∨ server.isOpen id = true) := by
  unfold batch at handled
  generalize batchLimit limit = limits at handled
  generalize server.lastCursor + cursorStride = new at handled
  obtain ⟨size, single⟩ := limits
  dsimp only at handled
  split at handled
  · obtain ⟨rfl, mapped⟩ := Prod.mk.inj handled
    obtain ⟨answer, made, rfl⟩ := map_eq_ok.mp mapped
    refine ⟨answer, _, rfl, answers_reply made own, fun nonzero => absurd rfl nonzero, ?_⟩
    intro id nonzero
    simp only [nonzero, false_or]
    rfl
  · split at handled
    · rename_i id
      obtain ⟨rfl, mapped⟩ := Prod.mk.inj handled
      obtain ⟨answer, made, rfl⟩ := map_eq_ok.mp mapped
      refine ⟨answer, _, rfl, answers_reply made own, ?_, fun _ _ => isOpen_openCursor⟩
      rintro _ other same
      cases same
      rfl
    · obtain ⟨rfl, mapped⟩ := Prod.mk.inj handled
      obtain ⟨answer, made, rfl⟩ := map_eq_ok.mp mapped
      refine ⟨answer, _, rfl, answers_reply made own, ?_, fun _ _ => isOpen_openCursor⟩
      intro _ other same
      cases same

theorem moreParts_eq_ok (code : request.opCode = .getMore) {limit : Int32} :
    moreParts request = .ok (limit, id) ↔ ∃ ns next, readCString request.body 4 = .ok (ns, next) ∧
      readInt32 request.body next = .ok limit ∧ request.cursorIds = .ok [id] := by
  unfold moreParts
  constructor
  · intro parts
    obtain ⟨⟨ns, next⟩, text, parts⟩ := bind_eq_ok.mp parts
    obtain ⟨held, number, parts⟩ := bind_eq_ok.mp parts
    obtain ⟨ids, read, parts⟩ := bind_eq_ok.mp parts
    obtain ⟨rfl, first⟩ := Prod.mk.inj (Except.ok.inj parts)
    obtain ⟨fields, placed, count⟩ := Frame.cursorFieldsAt_of_cursorIds read
    cases placed with
    | more =>
      obtain ⟨only, rfl⟩ := List.length_eq_one_iff.mp count.symm
      cases first
      exact ⟨ns, next, text, number, read⟩
    | killed other | answered other => exact absurd (code.symm.trans other) nofun
    | absent others => exact absurd code others.1
  · rintro ⟨ns, next, text, number, read⟩
    simp [text, number, read, bind, Except.bind, pure, Except.pure]

theorem getMore_handling (code : request.opCode = .getMore) {answered : Option Frame}
    (handled : server.getMore request = (after, .ok answered)) :
    Handling server request after answered := by
  unfold getMore at handled
  split at handled
  · cases handled
  · rename_i limit id parts
    obtain ⟨_, _, _, _, read⟩ := (moreParts_eq_ok code).mp parts
    split at handled
    · rename_i rest held
      have opened : server.isOpen id = true := by simp [isOpen, held]
      obtain ⟨answer, summary, rfl, answers, named, kept⟩ := batch_answers handled rfl
      refine .continues code read answers (fun nonzero => ⟨named nonzero id rfl, opened⟩) ?_
      intro other nonzero
      rw [kept other nonzero, isOpen_closeCursor]
      by_cases same : other = id
      · subst same
        by_cases exhausted : summary.cursorId = 0
        · simp [exhausted, nonzero]
        · simp [named exhausted other rfl, opened, nonzero]
      · by_cases exhausted : summary.cursorId = 0
        · simp [exhausted, nonzero, same]
        · simp [named exhausted id rfl, same]
    · rename_i absent
      have closed : server.isOpen id = false := by simp [isOpen, absent]
      obtain ⟨rfl, mapped⟩ := Prod.mk.inj handled
      obtain ⟨answer, made, rfl⟩ := map_eq_ok.mp mapped
      refine .continues code read (answers_reply made rfl) (fun nonzero => absurd rfl nonzero) ?_
      intro other nonzero
      have same : server.countRequest.isOpen other = server.isOpen other := rfl
      rw [same]
      refine ⟨fun opened => ⟨opened, ?_⟩, And.left⟩
      rintro rfl
      exact absurd opened (by simp [closed])

theorem counted_handling {made : Except FrameFault Frame} {answered : Option Frame} {number : Int32}
    {failed : Bool} (code : request.opCode.expectsReply = true) (other : request.opCode ≠ .getMore)
    (handled : (server.countRequest, made.map some) = (after, .ok answered))
    (answers : ∀ answer, made = .ok answer → answer.Answers request ⟨0, number, failed⟩) :
    Handling server request after answered := by
  obtain ⟨rfl, mapped⟩ := Prod.mk.inj handled
  obtain ⟨answer, made, rfl⟩ := map_eq_ok.mp mapped
  refine .answers code other (answers answer made) fun id nonzero => ?_
  simp only [nonzero, false_or]
  rfl

/-- Whatever a server does with a request is one of the ways listed. -/
theorem apply_handling {answered : Option Frame}
    (handled : server.apply request = (after, .ok answered)) :
    Handling server request after answered := by
  unfold apply at handled
  split at handled
  case h_1 code =>
    split at handled
    · cases handled
    · cases handled
      exact .keepsSilent (by rw [code]; rfl) (by simp [code]) fun _ => rfl
  case h_2 code =>
    have expects : request.opCode.expectsReply = true := by rw [code]; rfl
    have other : request.opCode ≠ .getMore := by simp [code]
    split at handled
    · exact counted_handling expects other handled fun answer made => answers_reply made rfl
    · unfold query at handled
      split at handled
      · cases handled
      · obtain ⟨answer, summary, rfl, answers, _, kept⟩ := batch_answers handled rfl
        exact .answers expects other answers kept
  case h_3 code => exact getMore_handling code handled
  case h_4 code =>
    split at handled
    · cases handled
    · rename_i ids read
      cases handled
      exact .kills code read fun id => isOpen_foldl_closeCursor
  case h_5 code =>
    exact counted_handling (by rw [code]; rfl) (by simp [code]) handled fun answer made =>
      answers_commandReply made
  case h_6 code =>
    exact counted_handling (by rw [code]; rfl) (by simp [code]) handled fun answer made =>
      answers_msg code made
  case h_7 insert query more kill command msg =>
    cases handled
    refine .keepsSilent ?_ kill fun _ => rfl
    cases code : request.opCode <;> simp_all [OpCode.expectsReply]

theorem handle_handling {answered : Option Frame}
    (handled : server.handle request = (after, .ok answered)) :
    Handling server request after answered := by
  cases apply_handling handled with
  | keepsSilent code other kept => exact .keepsSilent code other kept
  | kills code read kept => exact .kills code read kept
  | answers code other answers kept => exact .answers code other answers kept
  | continues code read answers named kept => exact .continues code read answers named kept

end Server

end TrafficReplay
