import TrafficReplay.Proofs.Lane.Prepared
import TrafficReplay.Proofs.Lane.Recall
import TrafficReplay.Proofs.Server.Likeness

namespace TrafficReplay

/-- A request as the server got it, and what was recorded of it. -/
structure Exchange where
  asked : Frame
  request : Record
  reply : Option Record

namespace Exchange

def tape (exchange : Exchange) : List Record := exchange.request :: exchange.reply.toList

def named (exchange : Exchange) : List Int64 := exchange.asked.cursorIds.toOption.getD []

def summary (exchange : Exchange) : ReplySummary :=
  match exchange.reply with
  | some reply => reply.frame.replySummary.toOption.getD ⟨0, 0, false⟩
  | none => ⟨0, 0, false⟩

/-- Whether a request for more or one that kills cursors names one that is not open. -/
def isStale (server : Server) (exchange : Exchange) : Bool :=
  LaneMemory.namesCursors exchange.asked &&
    exchange.named.any fun id => id ≠ 0 && !server.isOpen id

end Exchange

inductive Replied (rho : Int64 → Int64) : Option Frame → Option Record → Prop
  | silent : Replied rho none none
  | renamed {answer : Frame} {reply : Record} (written : answer.renamed rho = .ok reply.frame) :
      Replied rho (some answer) (some reply)

structure Frame.IsRequest (frame : Frame) : Prop where
  code : frame.opCode.isResponse = false
  unanswering : frame.responseTo = 0
  numbered : frame.opCode = .msg → frame.requestId ≠ 0

structure Exchange.Recorded (rho : Int64 → Int64) (lane : LaneId) (server : Server)
    (exchange : Exchange) (after : Server) : Prop where
  handled : ∃ answer, server.handle exchange.asked = (after, .ok answer) ∧
    Replied rho answer exchange.reply
  written : exchange.asked.renamed rho = .ok exchange.request.frame
  asks : exchange.asked.IsRequest
  travels : ∀ record ∈ exchange.tape, record.lane = lane

/-- A server handles the requests of a lane one after another. -/
inductive Recording (rho : Int64 → Int64) (lane : LaneId) : Server → List Exchange → Prop
  | nothing {server : Server} : Recording rho lane server []
  | first {server after : Server} {exchange : Exchange} {more : List Exchange}
      (recorded : exchange.Recorded rho lane server after) (rest : Recording rho lane after more) :
      Recording rho lane server (exchange :: more)

namespace Recording

def issued : Server → List Exchange → List Int64
  | server, [] => server.cursors.map Prod.fst
  | server, exchange :: more =>
    server.cursors.map Prod.fst ++ issued (server.handle exchange.asked).1 more

/-- Zero, the cursors that are open at some time, and those that requests name. -/
def inUse (server : Server) (exchanges : List Exchange) : List Int64 :=
  0 :: (issued server exchanges ++ exchanges.flatMap Exchange.named)

end Recording

/-- A renaming of the cursors in use. It keeps them apart and takes none of them to one that the
    server issues; a cursor that the server never issues may keep its id. -/
structure Renames (rho : Int64 → Int64) (server : Server) (exchanges : List Exchange) : Prop where
  zero : rho 0 = 0
  injective : ∀ a ∈ Recording.inUse server exchanges, ∀ b ∈ Recording.inUse server exchanges,
    rho a = rho b → a = b
  foreign : ∀ id ∈ Recording.inUse server exchanges, id ≠ 0 →
    rho id ∉ Recording.issued server exchanges

open Recording

variable {rho : Int64 → Int64} {lane : LaneId} {server after : Server} {exchange : Exchange}
  {more exchanges : List Exchange}

theorem mem_issued_of_isOpen {id : Int64} (opened : server.isOpen id = true) :
    id ∈ issued server exchanges := by
  have member := Server.mem_of_isOpen opened
  cases exchanges with
  | nil => exact member
  | cons exchange more => exact List.mem_append_left _ member

theorem mem_inUse_of_isOpen {id : Int64} (opened : server.isOpen id = true) :
    id ∈ inUse server exchanges :=
  List.mem_cons_of_mem _ (List.mem_append_left _ (mem_issued_of_isOpen opened))

theorem mem_inUse_of_named {id : Int64} (named : id ∈ exchange.named) :
    id ∈ inUse server (exchange :: more) := by
  refine List.mem_cons_of_mem _ (List.mem_append_right _ ?_)
  rw [List.flatMap_cons]
  exact List.mem_append_left _ named

namespace Exchange.Recorded

theorem after_eq (recorded : exchange.Recorded rho lane server after) :
    (server.handle exchange.asked).1 = after := by
  obtain ⟨answer, handled, _⟩ := recorded.handled
  rw [handled]

theorem issued_later (recorded : exchange.Recorded rho lane server after) {id : Int64}
    (member : id ∈ issued after more) : id ∈ issued server (exchange :: more) := by
  refine List.mem_append_right _ ?_
  rw [recorded.after_eq]
  exact member

theorem named_eq (recorded : exchange.Recorded rho lane server after) :
    exchange.asked.cursorIds = .ok exchange.named := by
  obtain ⟨ids, read, _⟩ := Frame.renamed_ok recorded.written
  rw [Exchange.named, read]
  rfl

theorem request_eq (recorded : exchange.Recorded rho lane server after) :
    exchange.asked.withCursorIds (exchange.named.map rho) = .ok exchange.request.frame := by
  obtain ⟨ids, read, made⟩ := Frame.renamed_ok recorded.written
  rw [Exchange.named, read]
  exact made

theorem same (recorded : exchange.Recorded rho lane server after) :
    exchange.asked.SameButCursors exchange.request.frame := .of_withCursorIds recorded.request_eq

theorem request_named (recorded : exchange.Recorded rho lane server after) :
    exchange.request.frame.cursorIds = .ok (exchange.named.map rho) :=
  Frame.cursorIds_withCursorIds recorded.request_eq

theorem is_request (recorded : exchange.Recorded rho lane server after) :
    exchange.request.isResponse = false := by
  simp [Record.isResponse, Record.responseTo, recorded.same.opCode, recorded.same.responseTo,
    recorded.asks.code, recorded.asks.unanswering]

theorem request_lane (recorded : exchange.Recorded rho lane server after) :
    exchange.request.lane = lane := recorded.travels _ List.mem_cons_self

theorem code_ne_reply (recorded : exchange.Recorded rho lane server after) :
    exchange.asked.opCode ≠ .reply := by
  intro code
  have response := recorded.asks.code
  rw [code] at response
  cases response

theorem named_eq_nil (recorded : exchange.Recorded rho lane server after)
    (other : LaneMemory.namesCursors exchange.asked = false) : exchange.named = [] := by
  obtain ⟨fields, placed, count⟩ := Frame.cursorFieldsAt_of_cursorIds recorded.named_eq
  cases placed with
  | more code | killed code => simp [LaneMemory.namesCursors, code] at other
  | answered code => exact absurd code recorded.code_ne_reply
  | absent => exact List.length_eq_zero_iff.mp count.symm

end Exchange.Recorded

/-- An answer, as the server gives it and as it is recorded. -/
structure Exchange.Answered (rho : Int64 → Int64) (server : Server) (exchange : Exchange)
    (after : Server) (answer : Frame) (reply : Record) (summary : ReplySummary) : Prop where
  handling : Server.Handling server exchange.asked after (some answer)
  answers : answer.Answers exchange.asked summary
  read : reply.frame.replySummary = .ok { summary with cursorId := rho summary.cursorId }
  responseTo : reply.frame.responseTo = exchange.request.frame.requestId
  is_response : reply.isResponse = true

theorem Exchange.Recorded.reply_eq_none (recorded : exchange.Recorded rho lane server after)
    (handled : server.handle exchange.asked = (after, .ok none)) : exchange.reply = none := by
  obtain ⟨answer, found, replied⟩ := recorded.handled
  rw [handled] at found
  cases found
  generalize exchange.reply = reply at replied
  cases replied
  rfl

theorem Exchange.Recorded.answered (recorded : exchange.Recorded rho lane server after)
    (zero : rho 0 = 0) {answer : Frame}
    (handled : server.handle exchange.asked = (after, .ok (some answer))) :
    ∃ reply summary, exchange.reply = some reply ∧
      exchange.Answered rho server after answer reply summary := by
  obtain ⟨found, found_handled, replied⟩ := recorded.handled
  rw [handled] at found_handled
  cases found_handled
  generalize exchange.reply = held at replied
  cases replied with
  | @renamed _ reply written =>
    have handling := Server.handle_handling handled
    have answers : ∃ summary, answer.Answers exchange.asked summary := by
      cases handling with
      | answers _ _ answers => exact ⟨_, answers⟩
      | continues _ _ answers => exact ⟨_, answers⟩
    obtain ⟨summary, answers⟩ := answers
    obtain ⟨ids, _, made⟩ := Frame.renamed_ok written
    have same := Frame.SameButCursors.of_withCursorIds made
    refine ⟨reply, summary, rfl, handling, answers,
      Frame.replySummary_renamed answers.read written zero answers.holds, ?_, ?_⟩
    · rw [same.responseTo, answers.responseTo, recorded.same.requestId]
    · rcases answers.code with code | ⟨_, message⟩
      · simp [Record.isResponse, same.opCode, code]
      · have nonzero := recorded.asks.numbered message
        simp [Record.isResponse, Record.responseTo, same.responseTo, answers.responseTo, nonzero]

namespace Renames

theorem rest (renames : Renames rho server (exchange :: more))
    (recorded : exchange.Recorded rho lane server after) : Renames rho after more := by
  have issued_later : ∀ id ∈ issued after more, id ∈ issued server (exchange :: more) :=
    fun id member => recorded.issued_later member
  have used_later : ∀ id ∈ inUse after more, id ∈ inUse server (exchange :: more) := by
    intro id member
    rcases List.mem_cons.mp member with rfl | member
    · exact List.mem_cons_self
    · refine List.mem_cons_of_mem _ ?_
      rcases List.mem_append.mp member with member | member
      · exact List.mem_append_left _ (issued_later id member)
      · refine List.mem_append_right _ ?_
        rw [List.flatMap_cons]
        exact List.mem_append_right _ member
  exact ⟨renames.zero, fun a a_used b b_used => renames.injective a (used_later a a_used) b
    (used_later b b_used), fun id used nonzero issued_again => renames.foreign id
    (used_later id used) nonzero (issued_later _ issued_again)⟩

theorem eq_zero (renames : Renames rho server exchanges) {id : Int64}
    (used : id ∈ inUse server exchanges) : rho id = 0 ↔ id = 0 := by
  constructor
  · intro zero
    exact renames.injective id used 0 List.mem_cons_self (zero.trans renames.zero.symm)
  · rintro rfl
    exact renames.zero

/-- The new name of a cursor is not the name of one that is open. -/
theorem not_open (renames : Renames rho server exchanges) {id : Int64}
    (used : id ∈ inUse server exchanges) (nonzero : id ≠ 0) : server.isOpen (rho id) = false := by
  rw [Bool.eq_false_iff]
  exact fun opened => renames.foreign id used nonzero (mem_issued_of_isOpen opened)

end Renames

namespace LaneMemory

/-- A lane of its own has bound exactly the cursors that are open on a server, each under its new
    name, and no cursor waits to be bound. -/
structure Mirrors (memory : LaneMemory) (rho : Int64 → Int64) (server : Server) : Prop where
  bound : ∃ table, memory.home = .own table ∧ ∀ recorded live,
    table.resolve recorded = .bound live ↔
      live ≠ 0 ∧ server.isOpen live = true ∧ recorded = rho live
  settled : memory.liveCursors = []

variable {memory other : LaneMemory}

theorem Mirrors.fresh (rho : Int64 → Int64) : (fresh .lane).Mirrors rho .empty := by
  refine ⟨⟨.empty, rfl, fun recorded live => ?_⟩, rfl⟩
  rw [CursorTable.resolve_empty]
  constructor
  · exact nofun
  · rintro ⟨_, opened, _⟩
    cases opened

theorem Mirrors.of_same (mirrors : memory.Mirrors rho server) (home : other.home = memory.home)
    (live : other.liveCursors = memory.liveCursors) : other.Mirrors rho server :=
  ⟨home ▸ mirrors.bound, live ▸ mirrors.settled⟩

theorem Mirrors.of_open (mirrors : memory.Mirrors rho server)
    (kept : ∀ id, id ≠ 0 → (after.isOpen id = true ↔ server.isOpen id = true)) :
    memory.Mirrors rho after := by
  obtain ⟨table, own, bound⟩ := mirrors.bound
  refine ⟨⟨table, own, fun recorded live => ?_⟩, mirrors.settled⟩
  rw [bound]
  refine and_congr_right fun nonzero => ?_
  rw [kept live nonzero]

theorem Mirrors.lookup (mirrors : memory.Mirrors rho server)
    (renames : Renames rho server exchanges) (common : CursorTable) {id : Int64}
    (used : id ∈ inUse server exchanges) : memory.lookup common (rho id) =
      if id = 0 ∨ server.isOpen id = true then .bound id else .miss (rho id) := by
  obtain ⟨table, own, bound⟩ := mirrors.bound
  unfold LaneMemory.lookup
  by_cases zero : id = 0
  · simp [zero, renames.zero]
  · rw [if_neg (mt (renames.eq_zero used).mp zero), own]
    simp only [CursorHome.table, zero, false_or]
    by_cases opened : server.isOpen id = true
    · rw [if_pos opened]
      exact (bound _ _).mpr ⟨zero, opened, rfl⟩
    · rw [if_neg opened]
      cases found : table.resolve (rho id) with
      | miss recorded => rw [CursorTable.resolve_miss table found]
      | bound live =>
        obtain ⟨_, live_open, same⟩ := (bound _ _).mp found
        have equal := renames.injective id used live (mem_inUse_of_isOpen live_open) same
        rw [equal] at opened
        exact absurd live_open opened

/-- A recorded request goes out as one that the server cannot tell from the one recorded. -/
theorem Mirrors.prepare (mirrors : memory.Mirrors rho server)
    (renames : Renames rho server (exchange :: more))
    (recorded : exchange.Recorded rho lane server after) (common : CursorTable) :
    ∃ sent others, memory.prepare common .passThrough exchange.request.frame =
        ⟨.ok sent, exchange.isStale server⟩ ∧
      exchange.asked.SameButCursors sent ∧ sent.cursorIds = .ok others ∧
      List.Forall₂ server.SameOpen exchange.named others := by
  have lookup : ∀ id ∈ exchange.named, memory.lookup common (rho id) =
      if id = 0 ∨ server.isOpen id = true then .bound id else .miss (rho id) :=
    fun id member => mirrors.lookup renames common (mem_inUse_of_named member)
  have names : namesCursors exchange.request.frame = namesCursors exchange.asked := by
    simp only [namesCursors, recorded.same.opCode]
  have preparation := memory.prepare_preparation common .passThrough exchange.request.frame
  generalize memory.prepare common .passThrough exchange.request.frame = prepared at preparation
  cases preparation with
  | plain other =>
    have none := recorded.named_eq_nil (names ▸ other)
    have read := recorded.request_named
    rw [none] at read ⊢
    exact ⟨_, [], by simp [Exchange.isStale, none], recorded.same, read, .nil⟩
  | unreadable _ bad => exact absurd (recorded.request_named.symm.trans bad) nofun
  | stale _ _ _ strict => cases strict
  | @translated found sent named read _ made =>
    rw [recorded.request_named] at read
    cases read
    have stale : memory.misses common (exchange.named.map rho) = exchange.isStale server := by
      rw [Bool.eq_iff_iff]
      simp only [misses, lookups, Exchange.isStale, ← names, named, Bool.true_and, List.any_map,
        List.any_eq_true, Function.comp_apply]
      refine exists_congr fun id => and_congr_right fun member => ?_
      rw [lookup id member]
      by_cases zero : id = 0
      · simp [zero, CursorLookup.isMiss]
      · by_cases opened : server.isOpen id = true <;> simp [zero, opened, CursorLookup.isMiss]
    refine ⟨sent, _, by rw [stale], recorded.same.trans (.of_withCursorIds made),
      Frame.cursorIds_withCursorIds made, ?_⟩
    unfold translated lookups
    rw [List.map_map, List.map_map, List.forall₂_map_right_iff, List.forall₂_same]
    intro id member
    simp only [Function.comp_apply, lookup id member]
    by_cases bound : id = 0 ∨ server.isOpen id = true
    · rw [if_pos bound]
      exact .inl rfl
    · rw [if_neg bound]
      rw [not_or] at bound
      exact .inr ⟨by simpa using bound.2, renames.not_open (mem_inUse_of_named member) bound.1⟩

theorem Mirrors.releaseCursors (mirrors : memory.Mirrors rho server)
    (renames : Renames rho server (exchange :: more))
    (recorded : exchange.Recorded rho lane server after) (common : CursorTable)
    (kept : ∀ id, id ≠ 0 →
      (after.isOpen id = true ↔ id ∉ exchange.named ∧ server.isOpen id = true)) :
    (memory.releaseCursors common exchange.request.frame).1.Mirrors rho after := by
  obtain ⟨table, own, bound⟩ := mirrors.bound
  unfold LaneMemory.releaseCursors
  rw [recorded.request_named]
  dsimp only
  rw [releaseIds_own own]
  refine ⟨⟨_, rfl, fun id live => ?_⟩, mirrors.settled⟩
  rw [CursorTable.resolve_foldl_release]
  have named_too : server.isOpen live = true →
      (rho live ∈ exchange.named.map rho ↔ live ∈ exchange.named) := by
    intro opened
    refine ⟨fun member => ?_, List.mem_map_of_mem⟩
    obtain ⟨other, other_named, same⟩ := List.mem_map.mp member
    rw [← renames.injective other (mem_inUse_of_named other_named) live
      (mem_inUse_of_isOpen opened) same]
    exact other_named
  constructor
  · intro found
    split at found
    · cases found
    · rename_i absent
      obtain ⟨nonzero, opened, rfl⟩ := (bound id live).mp found
      rw [named_too opened] at absent
      exact ⟨nonzero, (kept live nonzero).mpr ⟨absent, opened⟩, rfl⟩
  · rintro ⟨nonzero, opened, rfl⟩
    obtain ⟨absent, opened_before⟩ := (kept live nonzero).mp opened
    rw [if_neg (mt (named_too opened_before).mp absent)]
    exact (bound _ _).mpr ⟨nonzero, opened_before, rfl⟩

theorem Mirrors.plays (mirrors : memory.Mirrors rho server)
    (renames : Renames rho server (exchange :: more))
    (recorded : exchange.Recorded rho lane server after)
    (handled : server.handle exchange.asked = (after, .ok none)) (common : CursorTable) :
    (if exchange.request.frame.opCode = .killCursors
      then memory.releaseCursors common exchange.request.frame
      else (memory, common)).1.Mirrors rho after := by
  rw [recorded.same.opCode]
  cases Server.handle_handling handled with
  | keepsSilent _ other kept =>
    rw [if_neg other]
    exact mirrors.of_open fun id _ => by rw [kept]
  | kills code read kept =>
    rw [if_pos code]
    rw [recorded.named_eq] at read
    cases read
    exact mirrors.releaseCursors renames recorded common fun id _ => kept id

theorem correlate_settled (settled : memory.liveCursors = []) (common : CursorTable) (lane : LaneId)
    (reply : Frame) : (memory.correlate common lane reply).1 = memory := by
  obtain ⟨home, live, clock, seq, failures⟩ := memory
  dsimp only at settled
  subst settled
  rfl

theorem Mirrors.correlate (mirrors : memory.Mirrors rho server)
    (renames : Renames rho server (exchange :: more))
    (recorded : exchange.Recorded rho lane server after) {answer : Frame} {reply : Record}
    {summary : ReplySummary}
    (answered : exchange.Answered rho server after answer reply summary)
    (nonzero : summary.cursorId ≠ 0)
    (kept : ∀ id, id ≠ 0 →
      (after.isOpen id = true ↔ id = summary.cursorId ∨ server.isOpen id = true))
    (common : CursorTable) (owner : LaneId) :
    ((memory.remember exchange.request.frame.requestId summary.cursorId).correlate common owner
      reply.frame).1.Mirrors rho after := by
  obtain ⟨table, own, bound⟩ := mirrors.bound
  have opened : after.isOpen summary.cursorId = true := (kept _ nonzero).mpr (.inl rfl)
  have used : summary.cursorId ∈ inUse server (exchange :: more) :=
    List.mem_cons_of_mem _ (List.mem_append_left _
      (recorded.issued_later (mem_issued_of_isOpen opened)))
  have named : rho summary.cursorId ≠ 0 := mt (renames.eq_zero used).mp nonzero
  have remembered : (memory.remember exchange.request.frame.requestId
      summary.cursorId).liveCursors.lookup reply.frame.responseTo = some summary.cursorId := by
    rw [answered.responseTo, lookup_remember_self]
  have binds : (memory.remember exchange.request.frame.requestId summary.cursorId).binding?
      reply.frame = some (rho summary.cursorId, summary.cursorId) := by
    simp only [binding?, remembered, answered.read, if_neg named]
  unfold LaneMemory.correlate
  rw [binds]
  dsimp only
  refine ⟨⟨table.bind owner (rho summary.cursorId) summary.cursorId, ?_, fun id live => ?_⟩, ?_⟩
  · simp [CursorHome.bind, CursorHome.modify, remember, forget, own]
  · by_cases same : id = rho summary.cursorId
    · rw [same, CursorTable.resolve_bind_self]
      constructor
      · intro found
        cases found
        exact ⟨nonzero, opened, rfl⟩
      · rintro ⟨live_nonzero, live_open, equal⟩
        have live_used : live ∈ inUse server (exchange :: more) :=
          List.mem_cons_of_mem _ (List.mem_append_left _
            (recorded.issued_later (mem_issued_of_isOpen live_open)))
        rw [renames.injective _ used live live_used equal]
    · rw [CursorTable.resolve_bind_ne owner same, bound]
      refine and_congr_right fun live_nonzero => ?_
      rw [kept live live_nonzero]
      constructor
      · rintro ⟨live_open, equal⟩
        exact ⟨.inr live_open, equal⟩
      · rintro ⟨rfl | live_open, equal⟩
        · exact absurd equal same
        · exact ⟨live_open, equal⟩
  · simp [remember, forget, mirrors.settled, answered.responseTo]

/-- A request that is answered leaves a memory that, once the recorded reply is looked at, mirrors the
    server afterwards. -/
theorem Mirrors.hears (mirrors : memory.Mirrors rho server)
    (renames : Renames rho server (exchange :: more))
    (recorded : exchange.Recorded rho lane server after) {answer : Frame} {reply : Record}
    {summary : ReplySummary} (answered : exchange.Answered rho server after answer reply summary)
    (common later : CursorTable) (owner : LaneId) :
    ((memory.onReply common exchange.request.frame (exchange.isStale server)
      summary.cursorId).1.correlate later owner reply.frame).1.Mirrors rho after := by
  have unremembered : ∀ {told : LaneMemory}, told.Mirrors rho after →
      (told.correlate later owner reply.frame).1.Mirrors rho after := by
    intro told told_mirrors
    rw [correlate_settled told_mirrors.settled]
    exact told_mirrors
  have one : ∀ {other : ReplySummary}, answer.Answers exchange.asked other → other = summary := by
    intro other answers
    have read := answers.read.symm.trans answered.answers.read
    cases read
    rfl
  unfold onReply
  rw [recorded.same.opCode]
  cases answered.handling with
  | answers _ other answers kept =>
    cases one answers
    rw [if_neg (by simp [other])]
    by_cases none : summary.cursorId = 0
    · rw [if_pos none]
      refine unremembered (mirrors.of_open fun id nonzero => ?_)
      rw [kept id nonzero, none]
      simp [nonzero]
    · rw [if_neg none]
      exact mirrors.correlate renames recorded answered none kept later owner
  | @continues _ _ id code read answers named kept =>
    cases one answers
    have single : exchange.named = [id] := Except.ok.inj (recorded.named_eq.symm.trans read)
    have stale_iff : exchange.isStale server = true ↔ id ≠ 0 ∧ server.isOpen id = false := by
      simp [Exchange.isStale, namesCursors, code, single]
    by_cases stale : exchange.isStale server = true
    · -- The cursor is not open, so that the answer names none and nothing changes.
      obtain ⟨_, closed⟩ := stale_iff.mp stale
      have none : summary.cursorId = 0 := by
        by_contra some
        exact absurd (named some).2 (by simp [closed])
      rw [if_neg (by simp [stale]), if_pos none]
      refine unremembered (mirrors.of_open fun other nonzero => ?_)
      rw [kept other nonzero]
      refine and_iff_left_of_imp fun opened same => ?_
      rw [same, closed] at opened
      cases opened
    · rw [if_pos (by simp [code, stale])]
      by_cases none : summary.cursorId = 0
      · rw [if_pos none]
        refine unremembered (mirrors.releaseCursors renames recorded common fun other nonzero => ?_)
        rw [kept other nonzero, single, none]
        simp [and_comm]
      · rw [if_neg none]
        refine unremembered (mirrors.of_open fun other nonzero => ?_)
        rw [kept other nonzero]
        simp [none]

theorem Mirrors.correlate_of_same {common : CursorTable} {owner : LaneId} {reply : Frame}
    (mirrors : (memory.correlate common owner reply).1.Mirrors rho server)
    (home : other.home = memory.home) (live : other.liveCursors = memory.liveCursors) :
    (other.correlate common owner reply).1.Mirrors rho server := by
  have binding : other.binding? reply = memory.binding? reply := by
    simp only [binding?, live]
  refine mirrors.of_same ?_ ?_ <;> unfold LaneMemory.correlate forget <;> rw [binding]
  · split
    · exact home
    · rw [home]
  · split <;> simp only [live]

end LaneMemory

end TrafficReplay
