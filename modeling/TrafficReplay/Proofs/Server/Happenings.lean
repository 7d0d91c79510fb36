import TrafficReplay.Proofs.Server.Answer
import TrafficReplay.Proofs.Wire.Build
import TrafficReplay.Server.Session

namespace TrafficReplay

inductive Happening where
  | handles (frame : Frame)
  | refuses (frame : Frame)
  | converses
  | admits
  | connects
  | demands (user : ServerUser)
  | bars (refusing : Bool)
  | hushes (silent : Bool)

namespace Happening

def Names (id : Int64) : Happening → Prop
  | .handles frame => (frame.opCode = .getMore ∨ frame.opCode = .killCursors) ∧
      ∃ ids, frame.cursorIds = .ok ids ∧ id ∈ ids
  | _ => False

def inserted (ns : String) : Happening → List Document
  | .handles frame =>
    if frame.opCode = .insert then
      match Server.insertion frame with
      | .ok (other, docs) => if ns = other then docs else []
      | .error _ => []
    else []
  | _ => []

end Happening

namespace Server

def after (server : Server) : Happening → Server
  | .handles frame => (server.handle frame).1
  | .refuses frame => (server.refuse frame).1
  | .converses => server.countRequest
  | .admits => { server with authentications := server.authentications + 1 }
  | .connects => { server with connections := server.connections + 1 }
  | .demands user => { server with user := some user }
  | .bars refusing => { server with refusing := refusing }
  | .hushes silent => { server with silent := silent }

def become (server : Server) (history : List Happening) : Server := history.foldl after server

def ofHistory (history : List Happening) : Server := empty.become history

def stored (ns : String) (history : List Happening) : List Document :=
  history.flatMap (Happening.inserted ns)

/-- At no time has the counter of cursor ids left the positive numbers. -/
def Lasts : Server → List Happening → Prop
  | server, [] => 0 ≤ server.lastCursor
  | server, happening :: later => 0 ≤ server.lastCursor ∧ (server.after happening).Lasts later

instance decidableLasts : ∀ (server : Server) (history : List Happening),
    Decidable (server.Lasts history)
  | _, [] => inferInstanceAs (Decidable (_ ≤ _))
  | server, happening :: later =>
    have := decidableLasts (server.after happening) later
    inferInstanceAs (Decidable (_ ∧ _))

variable {server later : Server} {happening : Happening} {history more : List Happening}
  {frame : Frame} {id other : Int64} {docs : List Document}

theorem become_append (server : Server) (history more : List Happening) :
    server.become (history ++ more) = (server.become history).become more :=
  List.foldl_append

theorem ofHistory_concat (history : List Happening) (happening : Happening) :
    ofHistory (history ++ [happening]) = (ofHistory history).after happening :=
  become_append ..

theorem Lasts.now (lasts : server.Lasts history) : 0 ≤ server.lastCursor := by
  cases history with
  | nil => exact lasts
  | cons happening later => exact lasts.1

theorem Lasts.append (lasts : server.Lasts (history ++ more)) :
    server.Lasts history ∧ (server.become history).Lasts more := by
  induction history generalizing server with
  | nil => exact ⟨Lasts.now lasts, lasts⟩
  | cons happening later ih =>
    obtain ⟨now, rest⟩ := lasts
    obtain ⟨front, back⟩ := ih rest
    exact ⟨⟨now, front⟩, back⟩

theorem become_say (server : Server) (stage : SessionStage) (request : Frame) (body : Document) :
    (Session.say server stage request body).1 = server.become [.converses] := by
  unfold Session.say
  dsimp only
  split <;> rfl

theorem become_served (stage : SessionStage) (outcome : Outcome) :
    (Session.served stage outcome).1 = outcome.1 := by
  unfold Session.served
  dsimp only
  split <;> rfl

/-- Whatever a frame on a connection does to a server, requests and answers of conversations do. -/
theorem become_receive (server : Server) (stage : SessionStage) (nonce : List Char) (frame : Frame) :
    ∃ history, (Session.receive server stage nonce frame).1 = server.become history := by
  have started : ∃ history, (Session.start server nonce frame).1 = server.become history := by
    unfold Session.start
    split
    · exact ⟨[], rfl⟩
    · split
      · exact ⟨[], rfl⟩
      · split
        · exact ⟨[], rfl⟩
        · exact ⟨_, become_say ..⟩
        · exact ⟨_, become_say ..⟩
  have concluded (challenge : Scram.Challenge) :
      ∃ history, (Session.conclude server challenge frame).1 = server.become history := by
    unfold Session.conclude
    split
    · split
      · exact ⟨[], rfl⟩
      · split <;> exact ⟨_, become_say ..⟩
    · exact ⟨_, become_say ..⟩
  unfold Session.receive
  split
  · split
    · exact started
    · exact ⟨[.refuses frame], become_served ..⟩
  · exact concluded _
  · exact ⟨[.handles frame], become_served ..⟩
  · exact ⟨[.handles frame], become_served ..⟩

theorem become_delivered (server : Server) (stage : SessionStage) :
    ∃ history, (Session.delivered server stage).1 = server.become history := by
  cases stage with
  | granting => exact ⟨[.admits], rfl⟩
  | guarded | challenged | serving => exact ⟨[], rfl⟩

theorem become_connect? {address : String} (connected : server.connect? address = .ok later) :
    later = server.become [.connects] := by
  unfold connect? at connected
  split at connected
  · cases connected
  · cases connected
    rfl

theorem batch_collections (responseTo : Int32) (docs : List Document) (limit : Int32)
    (cursor : Option Int64) :
    (server.batch responseTo docs limit cursor).1.collections = server.collections := by
  unfold batch
  dsimp only
  split
  · rfl
  · cases cursor <;> rfl

theorem foldl_closeCursor (ids : List Int64) : ids.foldl closeCursor server =
    { server with cursors := server.cursors.filter fun entry => entry.1 ∉ ids } := by
  induction ids generalizing server with
  | nil => simp
  | cons id ids ih =>
    rw [List.foldl_cons, ih]
    simp only [closeCursor, List.filter_filter, List.mem_cons, not_or, Bool.decide_and]
    congr 1
    exact List.filter_congr fun entry _ => Bool.and_comm ..

theorem apply_insert (code : frame.opCode = .insert) {ns : String}
    (parts : insertion frame = .ok (ns, docs)) :
    server.apply frame = (server.store ns docs, .ok none) := by
  simp only [apply, code, parts]

theorem apply_insert_error (code : frame.opCode = .insert) {fault : FrameFault}
    (parts : insertion frame = .error fault) : server.apply frame = (server, .error fault) := by
  simp only [apply, code, parts]

theorem apply_collections (other : frame.opCode ≠ .insert) :
    (server.apply frame).1.collections = server.collections := by
  unfold apply
  split
  case h_1 code => exact absurd code other
  case h_2 =>
    split
    · rfl
    · unfold query
      split
      · rfl
      · exact batch_collections ..
  case h_3 =>
    unfold getMore
    split
    · rfl
    · split
      · exact batch_collections ..
      · rfl
  case h_4 =>
    split
    · rfl
    · rw [foldl_closeCursor]
  case h_5 | h_6 | h_7 => rfl

theorem documents_after (server : Server) (happening : Happening) (ns : String) :
    (server.after happening).documents ns = server.documents ns ++ happening.inserted ns := by
  cases happening with
  | handles frame =>
    have recorded : (server.record frame).documents ns = server.documents ns := rfl
    rw [after, handle, Happening.inserted, ← recorded]
    split
    · rename_i code
      cases parts : insertion frame with
      | error fault =>
        rw [apply_insert_error code parts]
        exact (List.append_nil _).symm
      | ok pair =>
        rw [apply_insert code parts]
        exact documents_store ..
    · rename_i other
      rw [documents, apply_collections other, List.append_nil]
      rfl
  | refuses | converses | admits | connects | demands | bars | hushes =>
    exact (List.append_nil _).symm

theorem documents_become (server : Server) (history : List Happening) (ns : String) :
    (server.become history).documents ns = server.documents ns ++ stored ns history := by
  induction history generalizing server with
  | nil => exact (List.append_nil _).symm
  | cons happening later ih =>
    rw [become, List.foldl_cons, ← become, ih, documents_after, List.append_assoc]
    rfl

def batchSize (limit : Int32) : Nat := if limit = 0 then 101 else limit.toInt.natAbs

def IsSingle (limit : Int32) : Prop := limit = 1 ∨ limit < 0

instance (limit : Int32) : Decidable (IsSingle limit) := inferInstanceAs (Decidable (_ ∨ _))

theorem batchLimit_eq (limit : Int32) :
    batchLimit limit = (batchSize limit, decide (IsSingle limit)) := by
  unfold batchLimit batchSize IsSingle
  by_cases none : limit = 0
  · subst none
    rfl
  · by_cases one : limit = 1
    · subst one
      rfl
    · simp only [none, one, ↓reduceIte, false_or]

theorem batch_of_last {limit : Int32} (last : docs.length ≤ batchSize limit ∨ IsSingle limit)
    (responseTo : Int32) (cursor : Option Int64) :
    server.batch responseTo docs limit cursor = (server.countRequest,
      (Frame.reply server.nextRequest responseTo 0 0 0 (docs.take (batchSize limit))).map some) := by
  have closes : (decide (IsSingle limit) || (docs.drop (batchSize limit)).isEmpty) = true := by
    simpa [or_comm] using last
  simp only [batch, batchLimit_eq, closes, ↓reduceIte]

def newCursor (server : Server) : Int64 := server.lastCursor + cursorStride

theorem batch_of_more (server : Server) {limit : Int32} (more : batchSize limit < docs.length)
    (several : ¬IsSingle limit) (responseTo : Int32) (cursor : Option Int64) :
    (server.batch responseTo docs limit cursor).1.cursors =
        (server.openCursor (cursor.getD server.newCursor) (docs.drop (batchSize limit))).cursors ∧
      (server.batch responseTo docs limit cursor).1.lastCursor =
        (if cursor.isSome then server.lastCursor else server.newCursor) ∧
      (server.batch responseTo docs limit cursor).2 =
        (Frame.reply server.nextRequest responseTo 0 (cursor.getD server.newCursor) 0
          (docs.take (batchSize limit))).map some := by
  have stays : (decide (IsSingle limit) || (docs.drop (batchSize limit)).isEmpty) = false := by
    simpa [several] using more
  simp only [batch, batchLimit_eq, stays, Bool.false_eq_true, ↓reduceIte]
  cases cursor <;> exact ⟨rfl, rfl, rfl⟩

/-- All that a happening can do to the cursors of a server. -/
inductive CursorMove (server : Server) (happening : Happening) (after : Server) : Prop
  | stays (cursors : after.cursors = server.cursors) (counter : after.lastCursor = server.lastCursor)
  | closes {ids : List Int64} (named : ∀ id ∈ ids, happening.Names id)
      (cursors : after.cursors = server.cursors.filter fun entry => entry.1 ∉ ids)
      (counter : after.lastCursor = server.lastCursor)
  | pages {id : Int64} {rest : List Document} (named : happening.Names id) (left : rest ≠ [])
      (held : server.isOpen id = true)
      (cursors : after.cursors = (server.openCursor id rest).cursors)
      (counter : after.lastCursor = server.lastCursor)
  | opens {rest : List Document} (left : rest ≠ [])
      (cursors : after.cursors = (server.openCursor server.newCursor rest).cursors)
      (counter : after.lastCursor = server.newCursor)

theorem openCursor_closeCursor (server : Server) (id : Int64) (docs : List Document) :
    ((server.closeCursor id).openCursor id docs).cursors = (server.openCursor id docs).cursors := by
  simp only [openCursor, closeCursor, List.filter_filter, Bool.and_self]

theorem drop_ne_nil {size : Nat} (more : size < docs.length) : docs.drop size ≠ [] := by
  rw [ne_eq, List.drop_eq_nil_iff]
  exact Nat.not_le.mpr more

theorem names_of_moreParts {limit : Int32} (code : frame.opCode = .getMore)
    (parts : moreParts frame = .ok (limit, id)) : (Happening.handles frame).Names id := by
  obtain ⟨_, _, _, _, read⟩ := (moreParts_eq_ok code).mp parts
  exact ⟨.inl code, [id], read, List.mem_singleton_self id⟩

theorem getMore_move (code : frame.opCode = .getMore) :
    CursorMove server (.handles frame) (server.getMore frame).1 := by
  unfold getMore
  split
  · exact .stays rfl rfl
  · rename_i limit id parts
    have named := names_of_moreParts code parts
    split
    · rename_i docs held
      by_cases last : docs.length ≤ batchSize limit ∨ IsSingle limit
      · rw [batch_of_last last]
        refine @CursorMove.closes _ _ _ [id] (fun other member => ?_) ?_ rfl
        · rwa [List.mem_singleton.mp member]
        · simp only [List.mem_singleton]
          rfl
      · rw [not_or, Nat.not_le] at last
        obtain ⟨cursors, counter, _⟩ := batch_of_more (server.closeCursor id) last.1 last.2
          frame.requestId (some id)
        have opened : server.isOpen id = true := by simp [isOpen, held]
        exact .pages named (drop_ne_nil last.1) opened
          (cursors.trans (openCursor_closeCursor server id _)) counter
    · exact .stays rfl rfl

theorem query_move : CursorMove server (.handles frame) (server.query frame).1 := by
  unfold query
  split
  · exact .stays rfl rfl
  · rename_i parts _
    by_cases last : (server.matched parts).length ≤ batchSize parts.limit ∨ IsSingle parts.limit
    · rw [batch_of_last last]
      exact .stays rfl rfl
    · rw [not_or, Nat.not_le] at last
      obtain ⟨cursors, counter, _⟩ := batch_of_more server last.1 last.2
        frame.requestId none
      exact .opens (drop_ne_nil last.1) cursors counter

theorem apply_move (server : Server) (frame : Frame) :
    CursorMove server (.handles frame) (server.apply frame).1 := by
  unfold apply
  split
  case h_1 => split <;> exact .stays rfl rfl
  case h_2 =>
    split
    · exact .stays rfl rfl
    · exact query_move
  case h_3 code => exact getMore_move code
  case h_4 code =>
    split
    · exact .stays rfl rfl
    · rename_i ids read
      rw [foldl_closeCursor]
      exact .closes (fun id member => ⟨.inr code, ids, read, member⟩) rfl rfl
  case h_5 | h_6 | h_7 => exact .stays rfl rfl

theorem after_move (server : Server) (happening : Happening) :
    CursorMove server happening (server.after happening) := by
  cases happening with
  | handles frame =>
    cases apply_move (server.record frame) frame with
    | stays cursors counter => exact .stays cursors counter
    | closes named cursors counter => exact .closes named cursors counter
    | pages named left held cursors counter => exact .pages named left held cursors counter
    | opens left cursors counter => exact .opens left cursors counter
  | refuses | converses | admits | connects | demands | bars | hushes => exact .stays rfl rfl

structure Sound (server : Server) : Prop where
  filled : ∀ entry ∈ server.cursors, entry.2 ≠ []
  single : (server.cursors.map Prod.fst).Nodup

/-- Ids of open cursors are positive, and the counter has passed them. -/
def Issued (server : Server) : Prop :=
  ∀ id, server.isOpen id = true → 0 < id ∧ id ≤ server.lastCursor

theorem isOpen_congr (cursors : later.cursors = server.cursors) (id : Int64) :
    later.isOpen id = server.isOpen id := by
  rw [isOpen, isOpen, cursors]

theorem sound_filter (sound : server.Sound) (keeps : Int64 × List Document → Bool)
    (cursors : later.cursors = server.cursors.filter keeps) : later.Sound where
  filled entry member := by
    rw [cursors] at member
    exact sound.filled entry (List.mem_filter.mp member).1
  single := by
    rw [cursors]
    exact sound.single.sublist (List.filter_sublist.map _)

theorem sound_openCursor (sound : server.Sound) (left : docs ≠ [])
    (cursors : later.cursors = (server.openCursor id docs).cursors) : later.Sound := by
  have kept := @sound_filter server (server.closeCursor id) sound (fun entry => entry.1 ≠ id) rfl
  have whole : later.cursors = (server.closeCursor id).cursors ++ [(id, docs)] := cursors
  constructor
  · intro entry member
    rw [whole, List.mem_append, List.mem_singleton] at member
    rcases member with member | rfl
    · exact kept.filled entry member
    · exact left
  · have absent : id ∉ (server.closeCursor id).cursors.map Prod.fst := by
      rw [← lookup_eq_none_iff_not_mem]
      exact lookup_filter_self server.cursors id
    rw [whole, List.map_append, List.nodup_append]
    refine ⟨kept.single, List.pairwise_singleton _ _, fun other member same again => ?_⟩
    rw [List.mem_singleton.mp again]
    rintro rfl
    exact absent member

theorem CursorMove.sound (move : CursorMove server happening later) (sound : server.Sound) :
    later.Sound := by
  cases move with
  | stays cursors => exact ⟨by rw [cursors]; exact sound.filled, by rw [cursors]; exact sound.single⟩
  | closes _ cursors => exact sound_filter sound _ cursors
  | pages _ left _ cursors | opens left cursors => exact sound_openCursor sound left cursors

theorem sound_become (sound : server.Sound) (history : List Happening) :
    (server.become history).Sound := by
  induction history generalizing server with
  | nil => exact sound
  | cons happening later ih => exact ih ((after_move server happening).sound sound)

theorem sound_ofHistory (history : List Happening) : (ofHistory history).Sound := by
  have fresh : empty.Sound := ⟨List.forall_mem_nil _, List.nodup_nil⟩
  exact sound_become fresh history

theorem lt_newCursor (now : 0 ≤ server.lastCursor) (next : 0 ≤ server.newCursor) :
    server.lastCursor < server.newCursor := by
  have high := server.lastCursor.toInt_lt
  have stride : cursorStride.toInt = 7919 := by decide
  unfold newCursor at next ⊢
  rw [Int64.le_iff_toInt_le, Int64.toInt_zero] at now next
  rw [Int64.lt_iff_toInt_lt]
  rw [Int64.toInt_add, stride, Int.bmod_def] at next ⊢
  split at next <;> split <;> omega

theorem CursorMove.counter_le (move : CursorMove server happening later)
    (now : 0 ≤ server.lastCursor) (next : 0 ≤ later.lastCursor) :
    server.lastCursor ≤ later.lastCursor := by
  cases move with
  | stays _ counter | closes _ _ counter | pages _ _ _ _ counter =>
    rw [counter]
    exact Int64.le_refl _
  | opens _ _ counter =>
    rw [counter] at next ⊢
    exact Int64.le_of_lt (lt_newCursor now next)

theorem counter_le_become (lasts : server.Lasts history) :
    server.lastCursor ≤ (server.become history).lastCursor := by
  induction history generalizing server with
  | nil => exact Int64.le_refl _
  | cons happening later ih =>
    obtain ⟨now, rest⟩ := lasts
    exact Int64.le_trans ((after_move server happening).counter_le now rest.now) (ih rest)

theorem isOpen_filter {ids : List Int64}
    (cursors : later.cursors = server.cursors.filter fun entry => entry.1 ∉ ids) :
    later.isOpen id = true ↔ id ∉ ids ∧ server.isOpen id = true := by
  have same : later.isOpen id = (ids.foldl closeCursor server).isOpen id :=
    isOpen_congr (by rw [cursors, foldl_closeCursor]) id
  rw [same, isOpen_foldl_closeCursor]

theorem CursorMove.issued (move : CursorMove server happening later) (now : 0 < server.lastCursor)
    (next : 0 ≤ later.lastCursor) (issued : server.Issued) : later.Issued := by
  intro id opened
  have grows := move.counter_le (Int64.le_of_lt now) next
  have old (before : server.isOpen id = true) : 0 < id ∧ id ≤ later.lastCursor :=
    ⟨(issued id before).1, Int64.le_trans (issued id before).2 grows⟩
  cases move with
  | stays cursors => exact old (by rwa [isOpen_congr cursors] at opened)
  | closes _ cursors => exact old ((isOpen_filter cursors).mp opened).2
  | pages _ _ held cursors =>
    rw [isOpen_congr cursors, isOpen_openCursor] at opened
    rcases opened with rfl | before
    · exact old held
    · exact old before
  | opens _ cursors counter =>
    rw [isOpen_congr cursors, isOpen_openCursor] at opened
    rcases opened with rfl | before
    · rw [counter] at next ⊢
      exact ⟨Int64.lt_trans now (lt_newCursor (Int64.le_of_lt now) next), Int64.le_refl _⟩
    · exact old before

theorem issued_become (issued : server.Issued) (positive : 0 < server.lastCursor)
    (lasts : server.Lasts history) :
    (server.become history).Issued ∧ 0 < (server.become history).lastCursor := by
  induction history generalizing server with
  | nil => exact ⟨issued, positive⟩
  | cons happening later ih =>
    have rest := lasts.2
    have move := after_move server happening
    have grows := move.counter_le lasts.1 rest.now
    exact ih (move.issued positive rest.now issued) (Int64.lt_of_lt_of_le positive grows) rest

theorem issued_ofHistory (lasts : empty.Lasts history) :
    (ofHistory history).Issued ∧ 0 < (ofHistory history).lastCursor :=
  issued_become (fun _ opened => by cases opened) (by decide) lasts

theorem lookup_foldl_closeCursor (server : Server) {ids : List Int64} (apart : id ∉ ids) :
    (ids.foldl closeCursor server).cursors.lookup id = server.cursors.lookup id := by
  induction ids generalizing server with
  | nil => rfl
  | cons first rest ih =>
    rw [List.mem_cons, not_or] at apart
    rw [List.foldl_cons, ih _ apart.2]
    exact lookup_filter_ne apart.1

/-- An open cursor keeps what it has left as long as no request names it. -/
theorem CursorMove.kept (move : CursorMove server happening later) (apart : ¬happening.Names id)
    (passed : id ≤ server.lastCursor) (now : 0 ≤ server.lastCursor) (next : 0 ≤ later.lastCursor) :
    later.cursors.lookup id = server.cursors.lookup id := by
  have opened {other : Int64} {rest : List Document} (different : id ≠ other) :
      (server.openCursor other rest).cursors.lookup id = server.cursors.lookup id := by
    have past : (id == other) = false := beq_eq_false_iff_ne.mpr different
    rw [openCursor, List.lookup_append, closeCursor, lookup_filter_ne different]
    simp [List.lookup_cons, past]
  cases move with
  | stays cursors => rw [cursors]
  | closes named cursors =>
    have same := lookup_foldl_closeCursor server fun member => apart (named id member)
    rw [foldl_closeCursor] at same
    rw [cursors]
    exact same
  | pages named _ _ cursors =>
    rw [cursors]
    exact opened fun same => apart (same ▸ named)
  | opens _ cursors counter =>
    rw [counter] at next
    rw [cursors]
    refine opened fun same => ?_
    rw [same] at passed
    exact Int64.lt_irrefl (Int64.lt_of_lt_of_le (lt_newCursor now next) passed)

end Server

end TrafficReplay
