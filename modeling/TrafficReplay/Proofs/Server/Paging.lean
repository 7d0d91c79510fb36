import TrafficReplay.Proofs.Server.Happenings

namespace TrafficReplay

structure Frame.Inquires (frame : Frame) (ns : String) (skip limit : Int32) (filter : Document) :
    Prop where
  kind : frame.kind = .query
  reads : ∃ next query stop, readCString frame.body 4 = .ok (ns, next) ∧
    readInt32 frame.body next = .ok skip ∧ readInt32 frame.body (next + 4) = .ok limit ∧
    readDocument frame.body (next + 8) = .ok (query, stop) ∧
    filter = (query.document? "$query").getD query

structure Frame.AsksMore (frame : Frame) (id : Int64) (limit : Int32) : Prop where
  code : frame.opCode = .getMore
  parts : Server.moreParts frame = .ok (limit, id)

structure Frame.IsBatch (answer : Frame) (cursor : Int64) (docs : List Document) : Prop where
  made : ∃ requestId responseTo, Frame.reply requestId responseTo 0 cursor 0 docs = .ok answer
  read : answer.replySummary = .ok ⟨cursor, Int32.ofNat docs.length, false⟩

def Frame.IsRefusal (answer : Frame) : Prop := answer.replySummary = .ok ⟨0, 0, true⟩

open Server (batchSize IsSingle)

/-- A client asks for more of a cursor time and again, and the server answers. In between anything may
    happen that concerns other cursors. -/
inductive Pages (id : Int64) : Server → List Happening → List (Int32 × Frame) → Prop
  | done {server : Server} : Pages id server [] []
  | aside {server : Server} {happening : Happening} {later : List Happening}
      {answers : List (Int32 × Frame)} (apart : ¬happening.Names id)
      (rest : Pages id (server.after happening) later answers) :
      Pages id server (happening :: later) answers
  | page {server : Server} {frame answer : Frame} {limit : Int32} {later : List Happening}
      {answers : List (Int32 × Frame)} (asks : frame.AsksMore id limit)
      (answered : (server.handle frame).2 = .ok (some answer))
      (rest : Pages id (server.after (.handles frame)) later answers) :
      Pages id server (.handles frame :: later) ((limit, answer) :: answers)

/-- What is answered to a client that pages through some documents: the cursor keeps its id as long as
    documents are left and more than one batch is wanted. -/
inductive Paged (id : Int64) : List Document → List (Int32 × Frame) → Prop
  | pending {left : List Document} : Paged id left []
  | more {left : List Document} {limit : Int32} {answer : Frame} {answers : List (Int32 × Frame)}
      (batch : answer.IsBatch id (left.take (batchSize limit))) (named : id ≠ 0)
      (some : batchSize limit < left.length) (several : ¬IsSingle limit)
      (rest : Paged id (left.drop (batchSize limit)) answers) :
      Paged id left ((limit, answer) :: answers)
  | last {left : List Document} {limit : Int32} {answer : Frame} {answers : List (Int32 × Frame)}
      (batch : answer.IsBatch 0 (left.take (batchSize limit)))
      (closing : left.length ≤ batchSize limit ∨ IsSingle limit)
      (refused : ∀ later ∈ answers, later.2.IsRefusal) :
      Paged id left ((limit, answer) :: answers)

theorem Paged.batches {id : Int64} {left : List Document} {answers : List (Int32 × Frame)}
    (paged : Paged id left answers) : ∃ batches : List (List Document),
      batches.flatten <+: left ∧
      List.Forall₂ (fun docs answer => ∃ cursor, answer.2.IsBatch cursor docs) batches
        (answers.take batches.length) ∧
      ∀ later ∈ answers.drop batches.length, later.2.IsRefusal := by
  induction paged with
  | pending => exact ⟨[], List.nil_prefix, .nil, List.forall_mem_nil _⟩
  | @more left limit answer answers batch _ _ _ _ ih =>
    obtain ⟨batches, inOrder, carried, refused⟩ := ih
    refine ⟨left.take (batchSize limit) :: batches, ?_, .cons ⟨id, batch⟩ carried, refused⟩
    obtain ⟨rest, whole⟩ := inOrder
    exact ⟨rest, by rw [List.flatten_cons, List.append_assoc, whole, List.take_append_drop]⟩
  | @last left limit answer answers batch _ refused =>
    refine ⟨[left.take (batchSize limit)], ?_, .cons ⟨0, batch⟩ .nil, refused⟩
    simpa using List.take_prefix (batchSize limit) left

namespace Server

variable {server later : Server} {frame answer : Frame} {id other : Int64} {limit : Int32}
  {left : List Document}

theorem isBatch_of_made {requestId responseTo : Int32} {cursor : Int64} {docs : List Document}
    (made : (Frame.reply requestId responseTo 0 cursor 0 docs).map some = .ok (some answer)) :
    answer.IsBatch cursor docs := by
  obtain ⟨frame, built, same⟩ := map_eq_ok.mp made
  cases same
  exact ⟨⟨requestId, responseTo, built⟩, Frame.reply_summary built⟩

theorem handle_more {docs : List Document} (asks : frame.AsksMore id limit)
    (held : server.cursors.lookup id = some docs) :
    server.handle frame =
      ((server.record frame).closeCursor id).batch frame.requestId docs limit (some id) := by
  have recorded : (server.record frame).cursors.lookup id = some docs := held
  simp only [handle, apply, asks.code, getMore, asks.parts, recorded]

theorem refusal_of_closed (asks : frame.AsksMore id limit)
    (closed : server.cursors.lookup id = none)
    (answered : (server.handle frame).2 = .ok (some answer)) :
    answer.IsRefusal ∧ (server.handle frame).1.cursors = server.cursors ∧
      (server.handle frame).1.lastCursor = server.lastCursor := by
  have recorded : (server.record frame).cursors.lookup id = none := closed
  simp only [handle, apply, asks.code, getMore, asks.parts, recorded] at answered ⊢
  obtain ⟨frame, built, same⟩ := map_eq_ok.mp answered
  cases same
  exact ⟨Frame.reply_summary built, rfl, rfl⟩

theorem refusals_of_closed {history : List Happening} {answers : List (Int32 × Frame)}
    (pages : Pages id server history answers) (closed : server.cursors.lookup id = none)
    (passed : id ≤ server.lastCursor) (lasts : server.Lasts history) :
    ∀ later ∈ answers, later.2.IsRefusal := by
  induction pages with
  | done => exact List.forall_mem_nil _
  | @aside server happening later answers apart _ ih =>
    have move := after_move server happening
    have grows := move.counter_le lasts.1 lasts.2.now
    exact ih ((move.kept apart passed lasts.1 lasts.2.now).trans closed)
      (Int64.le_trans passed grows) lasts.2
  | @page server frame answer limit later answers asks answered _ ih =>
    obtain ⟨refused, cursors, counter⟩ := refusal_of_closed asks closed answered
    have still : (server.after (.handles frame)).cursors.lookup id = none := by
      rw [after, cursors, closed]
    have passed_still : id ≤ (server.after (.handles frame)).lastCursor := by
      rw [after, counter]
      exact passed
    intro later member
    rcases List.mem_cons.mp member with rfl | member
    · exact refused
    · exact ih still passed_still lasts.2 later member

theorem lookup_openCursor (server : Server) (id : Int64) (docs : List Document) :
    (server.openCursor id docs).cursors.lookup id = some docs := by
  have closed : (server.closeCursor id).cursors.lookup id = none := lookup_filter_self ..
  rw [openCursor, List.lookup_append, closed]
  simp

theorem paged_of_open {history : List Happening} {answers : List (Int32 × Frame)}
    (pages : Pages id server history answers) (held : server.cursors.lookup id = some left)
    (positive : 0 < id) (passed : id ≤ server.lastCursor) (lasts : server.Lasts history) :
    Paged id left answers := by
  induction pages generalizing left with
  | done => exact .pending
  | @aside server happening later answers apart _ ih =>
    have move := after_move server happening
    have grows := move.counter_le lasts.1 lasts.2.now
    exact ih ((move.kept apart passed lasts.1 lasts.2.now).trans held)
      (Int64.le_trans passed grows) lasts.2
  | @page server frame answer limit later answers asks answered rest ih =>
    have handled := handle_more asks held
    -- Either the reply hands out the rest and the cursor is closed, or the cursor keeps the rest.
    by_cases last : left.length ≤ batchSize limit ∨ IsSingle limit
    · rw [batch_of_last last] at handled
      rw [handled] at answered
      have closed : (server.after (.handles frame)).cursors.lookup id = none := by
        rw [after, handled]
        exact lookup_filter_self ..
      have passed_still : id ≤ (server.after (.handles frame)).lastCursor := by
        rw [after, handled]
        exact passed
      exact .last (isBatch_of_made answered) last
        (refusals_of_closed rest closed passed_still lasts.2)
    · rw [not_or, Nat.not_le] at last
      obtain ⟨some, several⟩ := last
      obtain ⟨cursors, counter, said⟩ := batch_of_more
        ((server.record frame).closeCursor id) some several frame.requestId (.some id)
      rw [← handled] at cursors counter said
      have held_still : (server.after (.handles frame)).cursors.lookup id =
          .some (left.drop (batchSize limit)) := by
        rw [after, cursors]
        exact lookup_openCursor ..
      have passed_still : id ≤ (server.after (.handles frame)).lastCursor := by
        rw [after, counter]
        exact passed
      have named : id ≠ 0 := fun zero => Int64.lt_irrefl (zero ▸ positive)
      exact .more (isBatch_of_made (said.symm.trans answered)) named some several
        (ih held_still passed_still lasts.2)

theorem kind_query_iff :
    frame.kind = .query ↔ frame.opCode = .query ∧ frame.isCommandQuery = false := by
  constructor
  · intro kind
    unfold Frame.kind at kind
    split at kind <;> try cases kind
    rename_i code
    split at kind
    · cases kind
    · rename_i plain
      exact ⟨code, Bool.eq_false_iff.mpr plain⟩
  · rintro ⟨code, plain⟩
    simp only [Frame.kind, code, plain, Bool.false_eq_true, ↓reduceIte]

theorem handle_query (server : Server) {parts : QueryParts} (kind : frame.kind = .query)
    (read : queryParts frame = .ok parts) : server.handle frame =
      (server.record frame).batch frame.requestId (server.matched parts) parts.limit none := by
  obtain ⟨code, plain⟩ := kind_query_iff.mp kind
  have same : (server.record frame).matched parts = server.matched parts := rfl
  simp only [handle, apply, code, plain, Bool.false_eq_true, ↓reduceIte, query, read, same]

theorem queryParts_of_inquires {ns : String} {skip : Int32} {filter : Document}
    (inquires : frame.Inquires ns skip limit filter) :
    queryParts frame = .ok ⟨ns, skip.toInt.toNat, limit, filter⟩ := by
  obtain ⟨next, query, stop, text, skipped, limited, asked, rfl⟩ := inquires.reads
  simp only [queryParts, text, skipped, limited, asked, bind, Except.bind]
  rfl

structure Opens (server : Server) (query : Frame) (id : Int64) : Prop where
  kind : query.kind = .query
  named : id ≠ 0
  answers : ∃ answer summary, (server.handle query).2 = .ok (some answer) ∧
    answer.replySummary = .ok summary ∧ summary.cursorId = id

/-- What a query with an answer does. The documents that it does not get are left under a new id. -/
theorem query_cases {docs : List Document} {handled : Outcome}
    (batch : handled = (server.record frame).batch frame.requestId docs limit none)
    (answered : handled.2 = .ok (some answer)) :
    ((docs.length ≤ batchSize limit ∨ IsSingle limit) ∧
      answer.IsBatch 0 (docs.take (batchSize limit)) ∧ handled.1.cursors = server.cursors) ∨
    (batchSize limit < docs.length ∧ ¬IsSingle limit ∧
      answer.IsBatch server.newCursor (docs.take (batchSize limit)) ∧
      handled.1.cursors.lookup server.newCursor = some (docs.drop (batchSize limit)) ∧
      handled.1.lastCursor = server.newCursor) := by
  subst batch
  by_cases last : docs.length ≤ batchSize limit ∨ IsSingle limit
  · rw [batch_of_last last] at answered ⊢
    exact .inl ⟨last, isBatch_of_made answered, rfl⟩
  · rw [not_or, Nat.not_le] at last
    obtain ⟨some, several⟩ := last
    obtain ⟨cursors, counter, said⟩ := batch_of_more (server.record frame) some several
      frame.requestId none
    refine .inr ⟨some, several, isBatch_of_made (said.symm.trans answered), ?_, counter⟩
    rw [cursors]
    exact lookup_openCursor ..

theorem Opens.new (opens : server.Opens frame id) :
    id = server.newCursor ∧ (server.handle frame).1.lastCursor = server.newCursor := by
  obtain ⟨answer, summary, answered, summed, same⟩ := opens.answers
  cases read : queryParts frame with
  | error fault =>
    obtain ⟨code, plain⟩ := kind_query_iff.mp opens.kind
    simp [handle, apply, code, plain, query, read] at answered
  | ok parts =>
    rcases query_cases (handle_query server opens.kind read) answered with
      ⟨_, batch, _⟩ | ⟨_, _, batch, _, counter⟩
    · have said := Except.ok.inj (summed.symm.trans batch.read)
      rw [said] at same
      exact absurd same.symm opens.named
    · have said := Except.ok.inj (summed.symm.trans batch.read)
      rw [said] at same
      exact ⟨same.symm, counter⟩

theorem Opens.lt {between more : List Happening} {first second : Frame}
    (opens : server.Opens first id)
    (opens_too : ((server.after (.handles first)).become between).Opens second other)
    (lasts : server.Lasts (.handles first :: (between ++ .handles second :: more))) : id < other := by
  obtain ⟨before, now, rest⟩ := lasts.2.append
  obtain ⟨rfl, counter⟩ := opens.new
  obtain ⟨rfl, counter_too⟩ := opens_too.new
  have grows := counter_le_become before
  have next := rest.now
  rw [after, counter] at grows
  rw [after, counter_too] at next
  exact Int64.lt_of_le_of_lt grows (lt_newCursor now next)

theorem command_opens_nothing (code : frame.opCode = .query) (other : frame.kind ≠ .query)
    (answered : (server.handle frame).2 = .ok (some answer)) :
    (server.handle frame).1.cursors = server.cursors ∧
      answer.replySummary = .ok ⟨0, 1, false⟩ := by
  have commands : frame.isCommandQuery = true := by
    simpa [Frame.kind, code] using other
  have commanded : server.handle frame = (server.record frame).command frame := by
    simp only [handle, apply, code, commands, ↓reduceIte]
  rw [commanded] at answered ⊢
  obtain ⟨_, built, same⟩ := map_eq_ok.mp answered
  cases same
  exact ⟨rfl, Frame.reply_summary built⟩

theorem Issued.lookup_zero (issued : server.Issued) : server.cursors.lookup 0 = none := by
  by_contra held
  have opened : server.isOpen 0 = true := Option.isSome_iff_ne_none.mpr held
  exact Int64.lt_irrefl (issued 0 opened).1

theorem paged_of_query {history : List Happening} {answers : List (Int32 × Frame)} {ns : String}
    {skip : Int32} {filter : Document} {summary : ReplySummary}
    (inquires : frame.Inquires ns skip limit filter) (issued : server.Issued)
    (positive : 0 < server.lastCursor) (lasts : server.Lasts (.handles frame :: history))
    (answered : (server.handle frame).2 = .ok (some answer))
    (summed : answer.replySummary = .ok summary)
    (pages : Pages summary.cursorId (server.after (.handles frame)) history answers) :
    Paged summary.cursorId
      (((server.documents ns).filter (·.matches filter)).drop skip.toInt.toNat)
      ((limit, answer) :: answers) := by
  have batch := handle_query server inquires.kind (queryParts_of_inquires inquires)
  rcases query_cases batch answered with
    ⟨last, batch, cursors⟩ | ⟨some, several, batch, held, counter⟩
  · refine .last batch last (refusals_of_closed pages ?_ ?_ lasts.2)
    · rw [Except.ok.inj (summed.symm.trans batch.read), after, cursors]
      exact issued.lookup_zero
    · rw [Except.ok.inj (summed.symm.trans batch.read)]
      exact lasts.2.now
  · rw [Except.ok.inj (summed.symm.trans batch.read)] at pages ⊢
    have next := lasts.2.now
    rw [after, counter] at next
    have above := Int64.lt_trans positive (lt_newCursor lasts.1 next)
    have named : server.newCursor ≠ 0 := fun zero => Int64.lt_irrefl (zero ▸ above)
    refine .more batch named some several (paged_of_open pages held above ?_ lasts.2)
    rw [after, counter]
    exact Int64.le_refl _

theorem inquires_of_body {ns : String} {skip : Int32} {doc : Document}
    (code : frame.opCode = .query) (body : frame.body = (Frame.Saying.query ns skip limit doc).body)
    (clean : '\x00' ∉ ns.toList) (encodable : doc.encode?.isSome) (plain : fieldsPlain doc = true)
    (data : ¬Frame.commandSuffix.toList <:+ ns.toList) :
    frame.Inquires ns skip limit ((doc.document? "$query").getD doc) := by
  have skip_read : readInt32 frame.body (4 + (Utf8.encode ns).length + 1) = .ok skip := by
    have whole := readInt32_append (int32Bytes 0 ++ (Utf8.encode ns ++ [0]))
      (int32Bytes limit ++ doc.bytes) skip rfl
    simpa [body, Frame.Saying.body, ← Nat.add_assoc] using whole
  have limit_read : readInt32 frame.body (4 + (Utf8.encode ns).length + 1 + 4) = .ok limit := by
    have whole := readInt32_append (int32Bytes 0 ++ (Utf8.encode ns ++ 0 :: int32Bytes skip))
      doc.bytes limit rfl
    simpa [body, Frame.Saying.body, ← Nat.add_assoc] using whole
  have doc_read : readDocument frame.body (4 + (Utf8.encode ns).length + 1 + 8) =
      .ok (doc, 4 + (Utf8.encode ns).length + 1 + 8 + doc.bytes.length) := by
    have whole := readDocument_bytes
      (int32Bytes 0 ++ (Utf8.encode ns ++ 0 :: (int32Bytes skip ++ int32Bytes limit))) [] encodable
      plain (Frame.Saying.query_short body) rfl
    simpa [body, Frame.Saying.body, ← Nat.add_assoc] using whole
  obtain ⟨_, _, _, command, _⟩ := Frame.Saying.query_isReadIn code body clean encodable plain
  refine ⟨?_, _, doc, _, Frame.Saying.namespace_read clean body, skip_read, limit_read, doc_read, rfl⟩
  have other := mt command.mp data
  simp only [Frame.kind, code] at other ⊢
  split
  · rename_i commands
    exact absurd (if_pos commands) other
  · rfl

theorem asksMore_of_body {ns : String} (code : frame.opCode = .getMore)
    (body : frame.body = (Frame.Saying.getMore ns limit id).body) (clean : '\x00' ∉ ns.toList) :
    frame.AsksMore id limit := by
  have limit_read : readInt32 frame.body (4 + (Utf8.encode ns).length + 1) = .ok limit := by
    have whole := readInt32_append (int32Bytes 0 ++ (Utf8.encode ns ++ [0])) (int64Bytes id) limit rfl
    simpa [body, Frame.Saying.body, ← Nat.add_assoc] using whole
  obtain ⟨_, _, named⟩ := Frame.Saying.getMore_isReadIn code body clean
  exact ⟨code, (moreParts_eq_ok code).mpr
    ⟨ns, _, Frame.Saying.namespace_read clean body, limit_read, named⟩⟩

/-- What a query finds among all that has been inserted before it. -/
def found (history : List Happening) (ns : String) (skip : Int32) (filter : Document) :
    List Document :=
  ((stored ns history).filter (·.matches filter)).drop skip.toInt.toNat

theorem documents_ofHistory (history : List Happening) (ns : String) :
    (ofHistory history).documents ns = stored ns history :=
  documents_become empty history ns

theorem Opens.never_before {earlier between more : List Happening}
    (lasts : empty.Lasts (earlier ++ (between ++ .handles frame :: more)))
    (opens : (ofHistory (earlier ++ between)).Opens frame id) :
    (ofHistory earlier).isOpen id = false := by
  obtain ⟨first, rest⟩ := lasts.append
  obtain ⟨middle, last⟩ := rest.append
  rw [ofHistory, become_append] at opens
  obtain ⟨rfl, counter⟩ := opens.new
  have grows := counter_le_become middle
  have next := last.2.now
  rw [after, counter] at next
  rw [Bool.eq_false_iff]
  intro opened
  have passed := ((issued_ofHistory first).1 _ opened).2
  exact Int64.lt_irrefl (Int64.lt_of_lt_of_le (lt_newCursor last.1 next) (Int64.le_trans passed grows))

/-- Cursors have documents left as long as they are open, and no id is given twice. A client that asks
    for more of its cursor, whatever happens to others in between, gets all that its query has found in
    the order of insertion, batch after batch, and the cursor is named until it closes. -/
theorem pages_in_order :
    (∀ history, (ofHistory history).Sound) ∧
    (∀ (earlier between more : List Happening) (query : Frame) (id : Int64),
      empty.Lasts (earlier ++ (between ++ .handles query :: more)) →
      (ofHistory (earlier ++ between)).Opens query id → (ofHistory earlier).isOpen id = false) ∧
    (∀ (history between more : List Happening) (first second : Frame) (id other : Int64),
      empty.Lasts (history ++ .handles first :: (between ++ .handles second :: more)) →
      (ofHistory history).Opens first id →
      (ofHistory (history ++ .handles first :: between)).Opens second other → id ≠ other) ∧
    (∀ (history : List Happening) (command answer : Frame), command.opCode = .query →
      command.kind ≠ .query → ((ofHistory history).handle command).2 = .ok (some answer) →
      ((ofHistory history).handle command).1.cursors = (ofHistory history).cursors ∧
        answer.replySummary = .ok ⟨0, 1, false⟩) ∧
    ∀ (history later : List Happening) (query answer : Frame) (ns : String) (skip limit : Int32)
      (filter : Document) (summary : ReplySummary) (answers : List (Int32 × Frame)),
      empty.Lasts (history ++ .handles query :: later) → query.Inquires ns skip limit filter →
      ((ofHistory history).handle query).2 = .ok (some answer) →
      answer.replySummary = .ok summary →
      Pages summary.cursorId (ofHistory (history ++ [.handles query])) later answers →
      Paged summary.cursorId (found history ns skip filter) ((limit, answer) :: answers) ∧
      ∃ batches : List (List Document), batches.flatten <+: found history ns skip filter ∧
        List.Forall₂ (fun docs answer => ∃ cursor, answer.2.IsBatch cursor docs) batches
          (((limit, answer) :: answers).take batches.length) ∧
        ∀ refused ∈ ((limit, answer) :: answers).drop batches.length, refused.2.IsRefusal := by
  refine ⟨sound_ofHistory, fun _ _ _ _ _ lasts opens => opens.never_before lasts, ?_,
    fun _ _ _ code other answered => command_opens_nothing code other answered, ?_⟩
  · intro history between more first second id other lasts opens opens_too
    rw [ofHistory, become_append] at opens_too
    exact Int64.ne_of_lt (opens.lt opens_too lasts.append.2)
  · intro history later query answer ns skip limit filter summary answers lasts inquires answered
      summed pages
    obtain ⟨before, rest⟩ := lasts.append
    obtain ⟨issued, positive⟩ := issued_ofHistory before
    rw [ofHistory_concat] at pages
    have paged := paged_of_query inquires issued positive rest answered summed pages
    rw [documents_ofHistory] at paged
    exact ⟨paged, paged.batches⟩

def oneKey (n : Int32) : Document := [("k", .int32 n)]

def framed (requestId : Int32) (saying : Frame.Saying) (fits : saying.size ≤ frameLimit) : Frame :=
  ⟨requestId, saying.responseTo, saying.opCode, saying.body, fits⟩

def sampleInsert : Frame := framed 1
  (.insert "db.c" [oneKey 1, oneKey 2, oneKey 1, oneKey 1, oneKey 1, oneKey 1]) (by decide +kernel)

def sampleQuery : Frame := framed 2 (.query "db.c" 1 2 (oneKey 1)) (by decide +kernel)

def sampleCursor : Int64 := 104372000268015

def sampleMore : Frame := framed 3 (.getMore "db.c" 2 sampleCursor) (by decide +kernel)

def sampleCommand : Frame := framed 4 (.query "db.$cmd" 0 (-1) [("ping", .int32 1)]) (by decide +kernel)

def samplePast : List Happening := [.handles sampleInsert]

def sampleFuture : List Happening := [.handles sampleInsert, .handles sampleMore, .handles sampleMore]

def summary? (server : Server) (frame : Frame) : Option ReplySummary := do
  let answered ← (server.handle frame).2.toOption
  let answer ← answered
  answer.replySummary.toOption

theorem answered_of_summary {summary : ReplySummary}
    (given : server.summary? frame = some summary) :
    ∃ answer, (server.handle frame).2 = .ok (some answer) ∧ answer.replySummary = .ok summary := by
  obtain ⟨answered, made, given⟩ := Option.bind_eq_some_iff.mp given
  obtain ⟨answer, rfl, read⟩ := Option.bind_eq_some_iff.mp given
  exact ⟨answer, ok_of_toOption made, ok_of_toOption read⟩

theorem sampleMore_asks : sampleMore.AsksMore sampleCursor 2 :=
  asksMore_of_body rfl rfl (show '\x00' ∉ "db.c".toList by decide +kernel)

theorem sampleQuery_inquires : sampleQuery.Inquires "db.c" 1 2 (oneKey 1) := by
  have clean : '\x00' ∉ "db.c".toList := by decide +kernel
  have encodable : (oneKey 1).encode?.isSome := by decide +kernel
  have plain : fieldsPlain (oneKey 1) = true := by decide +kernel
  have data : ¬Frame.commandSuffix.toList <:+ "db.c".toList := by decide +kernel
  exact inquires_of_body rfl rfl clean encodable plain data

theorem Opens.of_summary {summary : ReplySummary} (kind : frame.kind = .query)
    (given : server.summary? frame = some summary) (named : summary.cursorId ≠ 0) :
    server.Opens frame summary.cursorId := by
  obtain ⟨answer, answered, summed⟩ := answered_of_summary given
  exact ⟨kind, named, answer, summary, answered, summed, rfl⟩

/-- Two batches of two documents each, and then the cursor is gone. Another query gets another cursor,
    and a command none. -/
theorem sampleFuture_paged :
    (∃ first second third : Frame,
      ((ofHistory samplePast).handle sampleQuery).2 = .ok (some first) ∧
      first.replySummary = .ok ⟨sampleCursor, 2, false⟩ ∧
      second.replySummary = .ok ⟨0, 2, false⟩ ∧ third.IsRefusal ∧
      (found samplePast "db.c" 1 (oneKey 1)).length = 4 ∧
      Paged sampleCursor (found samplePast "db.c" 1 (oneKey 1))
        [(2, first), (2, second), (2, third)]) ∧
    (ofHistory []).isOpen sampleCursor = false ∧ sampleCursor ≠ sampleCursor + cursorStride ∧
    ∃ answer, ((ofHistory []).handle sampleCommand).2 = .ok (some answer) ∧
      answer.replySummary = .ok ⟨0, 1, false⟩ := by
  have apart : ¬(Happening.handles sampleInsert).Names sampleCursor := by
    rintro ⟨code | code, _⟩ <;> cases code
  have lasts : empty.Lasts (samplePast ++ .handles sampleQuery :: sampleFuture) := by decide +kernel
  have lasts_too : empty.Lasts (samplePast ++ .handles sampleQuery :: ([] ++ [.handles sampleQuery])) :=
    by decide +kernel
  have batch : (ofHistory samplePast).summary? sampleQuery = some ⟨sampleCursor, 2, false⟩ := by
    decide +kernel
  have other : (ofHistory (samplePast ++ [.handles sampleQuery])).summary? sampleQuery =
      some ⟨sampleCursor + cursorStride, 2, false⟩ := by decide +kernel
  have rest : (ofHistory (samplePast ++ [.handles sampleQuery, .handles sampleInsert])).summary?
      sampleMore = some ⟨0, 2, false⟩ := by decide +kernel
  have refusal : (ofHistory (samplePast ++ [.handles sampleQuery, .handles sampleInsert,
      .handles sampleMore])).summary? sampleMore = some ⟨0, 0, true⟩ := by decide +kernel
  have command : (ofHistory []).summary? sampleCommand = some ⟨0, 1, false⟩ := by decide +kernel
  obtain ⟨first, answered, summed⟩ := answered_of_summary batch
  obtain ⟨second, more, summed_more⟩ := answered_of_summary rest
  obtain ⟨third, again, refused⟩ := answered_of_summary refusal
  obtain ⟨success, commanded, _⟩ := answered_of_summary command
  have opens := Opens.of_summary sampleQuery_inquires.kind batch (by decide)
  have opens_too := Opens.of_summary sampleQuery_inquires.kind other (by decide)
  have pages : Pages sampleCursor (ofHistory (samplePast ++ [.handles sampleQuery])) sampleFuture
      [(2, second), (2, third)] :=
    .aside apart (.page sampleMore_asks more (.page sampleMore_asks again .done))
  obtain ⟨_, never, differ, commands, paged⟩ := pages_in_order
  have whole := (paged samplePast sampleFuture sampleQuery first "db.c" 1 2 (oneKey 1) _ _ lasts
    sampleQuery_inquires answered summed pages).1
  exact ⟨⟨first, second, third, answered, summed, summed_more, refused, by decide +kernel, whole⟩,
    never [] samplePast sampleFuture sampleQuery sampleCursor lasts opens,
    differ samplePast [] [] sampleQuery sampleQuery _ _ lasts_too opens opens_too,
    success, commanded, (commands [] sampleCommand success rfl (by decide +kernel) commanded).2⟩

end Server

end TrafficReplay
