import TrafficReplay.Proofs.Server.Paging

namespace TrafficReplay

def FitsReply (docs : List Document) : Prop :=
  (∀ doc ∈ docs, doc.encode?.isSome) ∧
    headerLength + 20 + (docs.flatMap Document.bytes).length ≤ frameLimit

theorem fitsReply_iff {requestId responseTo flags start : Int32} {cursor : Int64}
    {docs : List Document} : FitsReply docs ↔
      ∃ answer, Frame.reply requestId responseTo flags cursor start docs = .ok answer := by
  let saying : Frame.Saying := .reply responseTo flags cursor start docs
  have size : saying.size = headerLength + 20 + (docs.flatMap Document.bytes).length := by
    simp only [saying, Frame.Saying.size, Frame.Saying.body, List.length_append, length_int32Bytes,
      length_int64Bytes]
    omega
  constructor
  · rintro ⟨encodable, short⟩
    have made : ∃ answer, saying.build requestId = .ok answer :=
      ⟨_, Frame.Saying.build_eq_ok.mpr ⟨encodable, by rw [size]; exact short, rfl⟩⟩
    exact made
  · rintro ⟨answer, made⟩
    have said : saying.build requestId = .ok answer := made
    obtain ⟨encodable, short, _⟩ := Frame.Saying.build_eq_ok.mp said
    rw [size] at short
    exact ⟨encodable, short⟩

namespace Server

variable {server : Server} {frame : Frame} {fault : FrameFault}

/-- A batch that cannot be sent, although it is not all that a client may ask for. -/
inductive LosesBatch (server : Server) (frame : Frame) : Prop
  | query {parts : QueryParts} (kind : frame.kind = .query) (read : queryParts frame = .ok parts)
      (more : batchSize parts.limit < (server.matched parts).length)
      (several : ¬IsSingle parts.limit)
      (unfit : ¬FitsReply ((server.matched parts).take (batchSize parts.limit)))
  | page {id : Int64} {limit : Int32} {docs : List Document} (asks : frame.AsksMore id limit)
      (held : server.cursors.lookup id = some docs)
      (unfit : ¬FitsReply (docs.take (batchSize limit)))

theorem reply_error_iff {requestId responseTo flags start : Int32} {cursor : Int64}
    {docs : List Document} :
    (∃ fault, (Frame.reply requestId responseTo flags cursor start docs).map some = .error fault) ↔
      ¬FitsReply docs := by
  constructor
  · rintro ⟨fault, failed⟩ fits
    obtain ⟨answer, made⟩ := fitsReply_iff.mp fits
    rw [made] at failed
    cases failed
  · intro unfit
    cases made : Frame.reply requestId responseTo flags cursor start docs with
    | error fault => exact ⟨fault, rfl⟩
    | ok answer => exact absurd (fitsReply_iff.mpr ⟨answer, made⟩) unfit

theorem batch_answer (server : Server) (responseTo : Int32) (docs : List Document) (limit : Int32)
    (cursor : Option Int64) : ∃ id, (server.batch responseTo docs limit cursor).2 =
      (Frame.reply server.nextRequest responseTo 0 id 0 (docs.take (batchSize limit))).map some := by
  by_cases last : docs.length ≤ batchSize limit ∨ IsSingle limit
  · exact ⟨0, by rw [batch_of_last last]⟩
  · rw [not_or, Nat.not_le] at last
    exact ⟨_, (batch_of_more _ last.1 last.2 responseTo cursor).2.2⟩

theorem query_failure (kind : frame.kind = .query) (failed : (server.query frame).2 = .error fault) :
    server.LosesBatch frame ∨ (server.query frame).1.cursors = server.cursors := by
  unfold query at failed ⊢
  split
  · exact .inr rfl
  · rename_i parts read
    rw [read] at failed
    dsimp only at failed
    by_cases last : (server.matched parts).length ≤ batchSize parts.limit ∨ IsSingle parts.limit
    · rw [batch_of_last last]
      exact .inr rfl
    · rw [not_or, Nat.not_le] at last
      obtain ⟨id, answer⟩ := batch_answer server frame.requestId (server.matched parts) parts.limit none
      have unfit := reply_error_iff.mp ⟨fault, answer.symm.trans failed⟩
      exact .inl (.query kind read last.1 last.2 unfit)

theorem getMore_failure (code : frame.opCode = .getMore)
    (failed : (server.getMore frame).2 = .error fault) :
    server.LosesBatch frame ∨ (server.getMore frame).1.cursors = server.cursors := by
  unfold getMore at failed ⊢
  split
  · exact .inr rfl
  · rename_i limit id parts
    simp only [parts] at failed
    split
    · rename_i docs held
      simp only [held] at failed
      obtain ⟨same, answer⟩ := batch_answer (server.closeCursor id) frame.requestId docs limit (some id)
      have unfit := reply_error_iff.mp ⟨fault, answer.symm.trans failed⟩
      exact .inl (.page ⟨code, parts⟩ held unfit)
    · exact .inr rfl

/-- Nothing is stored by a request that fails, and cursors stay as they are unless a batch is lost. -/
theorem apply_failure (failed : (server.apply frame).2 = .error fault) :
    (server.apply frame).1.collections = server.collections ∧
      (server.LosesBatch frame ∨ (server.apply frame).1.cursors = server.cursors) := by
  by_cases code : frame.opCode = .insert
  · cases parts : insertion frame with
    | error fault =>
      rw [apply_insert_error code parts]
      exact ⟨rfl, .inr rfl⟩
    | ok pair =>
      rw [apply_insert code parts] at failed
      cases failed
  · refine ⟨apply_collections code, ?_⟩
    unfold apply at failed ⊢
    split
    case h_1 inserts => exact absurd inserts code
    case h_2 code =>
      simp only [code] at failed
      split
      · exact .inr rfl
      · rename_i plain
        rw [if_neg plain] at failed
        exact query_failure (kind_query_iff.mpr ⟨code, Bool.eq_false_iff.mpr plain⟩) failed
    case h_3 code =>
      simp only [code] at failed
      exact getMore_failure code failed
    case h_4 code =>
      simp only [code] at failed
      split
      · exact .inr rfl
      · rename_i ids read
        rw [read] at failed
        cases failed
    case h_5 | h_6 | h_7 => exact .inr rfl

theorem error_of_isNone {made : Except FrameFault (Option Frame)} (none : made.toOption.isNone) :
    ∃ fault, made = .error fault := by
  cases made with
  | error fault => exact ⟨fault, rfl⟩
  | ok answered => cases none

/-- A request that fails changes nothing, unless a batch is lost by it. -/
theorem failure_changes_nothing (failed : (server.handle frame).2 = .error fault)
    (kept : ¬server.LosesBatch frame) :
    (server.handle frame).1.collections = server.collections ∧
      (server.handle frame).1.cursors = server.cursors := by
  obtain ⟨collections, lost | cursors⟩ := apply_failure failed
  · cases lost with
    | query kind read more several unfit => exact absurd (.query kind read more several unfit) kept
    | page asks held unfit => exact absurd (.page asks held unfit) kept
  · exact ⟨collections, cursors⟩

def brokenInsert : Frame :=
  ⟨5, 0, .insert, (Frame.Saying.insert "db.c" [oneKey 1]).body ++ [12, 0, 0, 0], by decide +kernel⟩

/-- The insert comes in while a cursor is open. -/
theorem brokenInsert_changes_nothing :
    let server := ofHistory (samplePast ++ [.handles sampleQuery])
    server.isOpen sampleCursor = true ∧ (∃ fault, (server.handle brokenInsert).2 = .error fault) ∧
      (server.handle brokenInsert).1.collections = server.collections ∧
      (server.handle brokenInsert).1.cursors = server.cursors := by
  intro server
  have opened : server.isOpen sampleCursor = true := by decide +kernel
  obtain ⟨fault, failed⟩ := error_of_isNone
    (show (server.handle brokenInsert).2.toOption.isNone by decide +kernel)
  have kept : ¬server.LosesBatch brokenInsert := by
    rintro (⟨kind, _⟩ | ⟨⟨code, _⟩, _⟩)
    · exact absurd kind (by decide)
    · exact absurd code (by decide)
  exact ⟨opened, ⟨fault, failed⟩, failure_changes_nothing failed kept⟩

/-- An insert of a document with a pattern that cannot be written into a reply, since a NUL stands
    in it. -/
def patternInsert : Frame := framed 1
  (.insert "db.c" [[("r", .document [("$regularExpression",
    .document [("pattern", .text "a\x00b"), ("options", .text "")])])], oneKey 1, oneKey 2])
  (by decide +kernel)

def patternQuery : Frame := framed 2 (.query "db.c" 0 2 []) (by decide +kernel)

/-- The query is answered by a fault, and a cursor is open that nobody has been told of. -/
theorem patternQuery_opens_cursor : ¬∀ (history : List Happening) (frame : Frame) (fault : FrameFault),
    ((ofHistory history).handle frame).2 = .error fault →
    ((ofHistory history).handle frame).1.collections = (ofHistory history).collections ∧
      ((ofHistory history).handle frame).1.cursors = (ofHistory history).cursors := by
  intro claimed
  let server := ofHistory [.handles patternInsert]
  obtain ⟨fault, failed⟩ := error_of_isNone
    (show (server.handle patternQuery).2.toOption.isNone by decide +kernel)
  have closed : server.isOpen sampleCursor = false := by decide +kernel
  have opened : (server.handle patternQuery).1.isOpen sampleCursor = true := by decide +kernel
  obtain ⟨_, cursors⟩ := claimed [.handles patternInsert] patternQuery fault failed
  rw [isOpen_congr cursors, closed] at opened
  cases opened

theorem batchSize_pos (limit : Int32) : 0 < batchSize limit := by
  unfold batchSize
  split
  · decide
  · rename_i some
    refine Int.natAbs_pos.mpr fun zero => some ?_
    exact Int32.toInt_inj.mp zero

theorem Issued.newCursor_closed (issued : server.Issued) (now : 0 ≤ server.lastCursor)
    (next : 0 ≤ server.newCursor) : server.cursors.lookup server.newCursor = none := by
  by_contra held
  have opened : server.isOpen server.newCursor = true := Option.isSome_iff_ne_none.mpr held
  exact Int64.lt_irrefl (Int64.lt_of_lt_of_le (lt_newCursor now next) (issued _ opened).2)

theorem ne_nil_of_unfit {docs : List Document} {size : Nat} (unfit : ¬FitsReply (docs.take size)) :
    docs ≠ [] := by
  rintro rfl
  rw [List.take_nil] at unfit
  exact unfit ⟨List.forall_mem_nil _, by decide⟩

/-- Whenever a batch is lost, the request fails and cursors are not as before. -/
theorem LosesBatch.changes (loses : server.LosesBatch frame) (issued : server.Issued)
    (lasts : server.Lasts [.handles frame]) : (∃ fault, (server.handle frame).2 = .error fault) ∧
      ∃ id, (server.handle frame).1.cursors.lookup id ≠ server.cursors.lookup id := by
  cases loses with
  | @query parts kind read more several unfit =>
    have handled := handle_query server kind read
    obtain ⟨cursors, counter, said⟩ := batch_of_more (server.record frame) more several
      frame.requestId none
    rw [← handled] at cursors counter said
    obtain ⟨fault, failed⟩ := reply_error_iff.mpr unfit
    have next := lasts.2.now
    rw [after, counter] at next
    have closed := issued.newCursor_closed lasts.1 next
    refine ⟨⟨fault, said.trans failed⟩, server.newCursor, ?_⟩
    rw [cursors, closed]
    intro same
    cases (lookup_openCursor (server.record frame) server.newCursor _).symm.trans same
  | @page id limit docs asks held unfit =>
    have handled := handle_more asks held
    obtain ⟨same, said⟩ := batch_answer ((server.record frame).closeCursor id) frame.requestId docs
      limit (some id)
    rw [← handled] at said
    obtain ⟨fault, failed⟩ := reply_error_iff.mpr unfit
    refine ⟨⟨fault, said.trans failed⟩, id, ?_⟩
    rw [handled, held]
    by_cases last : docs.length ≤ batchSize limit ∨ IsSingle limit
    · rw [batch_of_last last]
      have closed : ((server.record frame).closeCursor id).countRequest.cursors.lookup id = none :=
        lookup_filter_self ..
      rw [closed]
      exact (Option.some_ne_none docs).symm
    · rw [not_or, Nat.not_le] at last
      rw [(batch_of_more _ last.1 last.2 frame.requestId (some id)).1]
      dsimp only [Option.getD_some]
      rw [lookup_openCursor]
      intro same
      have shorter := congrArg List.length (Option.some.inj same)
      have positive := batchSize_pos limit
      have some := List.length_pos_iff.mpr (ne_nil_of_unfit unfit)
      rw [List.length_drop] at shorter
      omega

end Server

end TrafficReplay
