import TrafficReplay.Proofs.Lane.Recording
import TrafficReplay.Proofs.Run.LaneOrder

namespace TrafficReplay

inductive Server.Handles : Server → List Frame → Prop
  | nothing {server : Server} : Handles server []
  | first {server after : Server} {frame : Frame} {more : List Frame} {answered : Option Frame}
      (handled : server.handle frame = (after, .ok answered)) (rest : after.Handles more) :
      Handles server (frame :: more)

variable {rho : Int64 → Int64} {client host : String} {server after : Server} {asked : Frame}

def Exchange.record? (rho : Int64 → Int64) (client host : String) (server : Server)
    (asked : Frame) : Option (Server × Exchange) :=
  match server.handle asked with
  | (_, .error _) => none
  | (after, .ok answered) =>
    match asked.renamed rho, answered.map (Frame.renamed rho) with
    | .ok request, none => some (after, ⟨asked, ⟨request, default, client, host⟩, none⟩)
    | .ok request, some (.ok reply) =>
      some (after, ⟨asked, ⟨request, default, client, host⟩, some ⟨reply, default, host, client⟩⟩)
    | _, _ => none

def record? (rho : Int64 → Int64) (client host : String) : Server → List Frame →
    Option (List Exchange)
  | _, [] => some []
  | server, asked :: more =>
    match Exchange.record? rho client host server asked with
    | none => none
    | some (after, exchange) => (record? rho client host after more).map (exchange :: ·)

theorem Exchange.record?_recorded {exchange : Exchange} (request : asked.IsRequest)
    (recorded : Exchange.record? rho client host server asked = some (after, exchange)) :
    exchange.Recorded rho (.ofEndpoints client host) server after := by
  have back : LaneId.ofEndpoints host client = .ofEndpoints client host :=
    LaneId.ofEndpoints_eq_iff.mpr (.inr ⟨rfl, rfl⟩)
  unfold Exchange.record? at recorded
  split at recorded
  · cases recorded
  · rename_i later answered handled
    split at recorded
    · rename_i written silent
      cases recorded
      obtain rfl := Option.map_eq_none_iff.mp silent
      refine ⟨⟨none, handled, .silent⟩, written, request, fun record member => ?_⟩
      obtain rfl := List.mem_singleton.mp member
      rfl
    · rename_i written answered_with
      cases recorded
      obtain ⟨answer, rfl, renamed⟩ := Option.map_eq_some_iff.mp answered_with
      refine ⟨⟨some answer, handled, .renamed renamed⟩, written, request, fun record member => ?_⟩
      rcases List.mem_cons.mp member with rfl | member
      · rfl
      · obtain rfl := List.mem_singleton.mp member
        exact back
    · cases recorded

theorem recording_of_record? {frames : List Frame} {exchanges : List Exchange}
    (requests : ∀ frame ∈ frames, frame.IsRequest)
    (recorded : record? rho client host server frames = some exchanges) :
    Recording rho (.ofEndpoints client host) server exchanges := by
  induction frames generalizing server exchanges with
  | nil =>
    cases recorded
    exact .nothing
  | cons asked more ih =>
    simp only [record?] at recorded
    split at recorded
    · cases recorded
    · rename_i after exchange first
      obtain ⟨rest, later, rfl⟩ := Option.map_eq_some_iff.mp recorded
      exact .first (Exchange.record?_recorded (requests _ List.mem_cons_self) first)
        (ih (fun frame member => requests frame (List.mem_cons_of_mem _ member)) later)

theorem Frame.renamed_of_cursorIds (rho : Int64 → Int64) {frame : Frame} {ids : List Int64}
    (read : frame.cursorIds = .ok ids) : ∃ other, frame.renamed rho = .ok other := by
  have count : (ids.map rho).length = ids.length := List.length_map ..
  obtain ⟨other, made⟩ := Frame.withCursorIds_ok read count
  refine ⟨other, ?_⟩
  simp only [renamed, read, bind, Except.bind, made]

theorem Frame.cursorIds_absent {frame : Frame} (code : frame.opCode ≠ .getMore ∧
    frame.opCode ≠ .killCursors ∧ frame.opCode ≠ .reply) : frame.cursorIds = .ok [] := by
  simp [cursorIds, cursorFields_of_at (.absent code), bind, Except.bind, pure, Except.pure]

theorem Frame.cursorIds_of_replySummary {frame : Frame} {summary : ReplySummary}
    (read : frame.replySummary = .ok summary) : ∃ ids, frame.cursorIds = .ok ids := by
  by_cases code : frame.opCode = .reply
  · have inside : 4 + 8 ≤ frame.body.length := by
      by_contra outside
      have missing : readInt64 frame.body 4 = .error (.truncated 4) := by
        simp only [readInt64, slice?, if_neg outside]
      simp only [replySummary, code, missing, bind, Except.bind] at read
      split at read <;> cases read
    obtain ⟨id, found⟩ := readInt64_ok inside
    refine ⟨[id], ?_⟩
    simp only [cursorIds, cursorFields_of_at (.answered code (by omega)), List.mapM_cons,
      List.mapM_nil, found, bind, Except.bind, pure, Except.pure]
  · refine ⟨[], cursorIds_absent ⟨fun other => ?_, fun other => ?_, code⟩⟩ <;>
      simp [replySummary, other] at read

theorem Exchange.record?_handled (rho : Int64 → Int64) (client host : String)
    {answered : Option Frame} (request : asked.IsRequest)
    (handled : server.handle asked = (after, .ok answered)) :
    ∃ exchange, exchange.asked = asked ∧
      Exchange.record? rho client host server asked = some (after, exchange) := by
  have not_reply : asked.opCode ≠ .reply := by
    intro reply
    have code := request.code
    rw [reply] at code
    cases code
  have writes : ∃ ids, asked.cursorIds = .ok ids := by
    cases Server.handle_handling handled with
    | keepsSilent code other =>
      refine ⟨[], Frame.cursorIds_absent ⟨fun more => ?_, other, not_reply⟩⟩
      rw [more] at code
      cases code
    | answers code other =>
      refine ⟨[], Frame.cursorIds_absent ⟨other, fun kills => ?_, not_reply⟩⟩
      rw [kills] at code
      cases code
    | kills _ read => exact ⟨_, read⟩
    | continues _ read => exact ⟨_, read⟩
  obtain ⟨ids, read⟩ := writes
  obtain ⟨written, renamed⟩ := Frame.renamed_of_cursorIds rho read
  cases answered with
  | none =>
    refine ⟨⟨asked, ⟨written, default, client, host⟩, none⟩, rfl, ?_⟩
    simp only [Exchange.record?, handled, renamed, Option.map_none]
  | some answer =>
    have readable : ∃ summary, answer.replySummary = .ok summary := by
      cases Server.handle_handling handled with
      | answers _ _ answers => exact ⟨_, answers.read⟩
      | continues _ _ answers => exact ⟨_, answers.read⟩
    obtain ⟨summary, readable⟩ := readable
    obtain ⟨named, found⟩ := Frame.cursorIds_of_replySummary readable
    obtain ⟨reply, renamed_reply⟩ := Frame.renamed_of_cursorIds rho found
    refine ⟨⟨asked, ⟨written, default, client, host⟩, some ⟨reply, default, host, client⟩⟩, rfl, ?_⟩
    simp only [Exchange.record?, handled, renamed, Option.map_some, renamed_reply]

theorem record?_handled {frames : List Frame} (handles : server.Handles frames)
    (requests : ∀ frame ∈ frames, frame.IsRequest) :
    ∃ exchanges, record? rho client host server frames = some exchanges ∧
      exchanges.map Exchange.asked = frames := by
  induction handles with
  | nothing => exact ⟨[], rfl, rfl⟩
  | @first server after frame more answered handled _ ih =>
    obtain ⟨exchange, asked, first⟩ := Exchange.record?_handled rho client host
      (requests frame List.mem_cons_self) handled
    obtain ⟨rest, later, same⟩ := ih fun other member => requests other
      (List.mem_cons_of_mem _ member)
    refine ⟨exchange :: rest, ?_, by rw [List.map_cons, asked, same]⟩
    simp only [record?, first, later, Option.map_some]

end TrafficReplay
