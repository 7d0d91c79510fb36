import Mathlib.Data.List.Forall2
import TrafficReplay.Proofs.Server.Answer
import TrafficReplay.Server.Session

namespace TrafficReplay.Server

variable {data rest : Server} {frame : Frame}

def holding (rest data : Server) : Server :=
  { rest with
    collections := data.collections
    cursors := data.cursors
    lastCursor := data.lastCursor
    lastRequest := data.lastRequest }

theorem batch_holding (responseTo : Int32) (docs : List Document) (limit : Int32)
    (cursor : Option Int64) :
    (rest.holding data).batch responseTo docs limit cursor =
      (rest.holding (data.batch responseTo docs limit cursor).1,
        (data.batch responseTo docs limit cursor).2) := by
  unfold batch
  dsimp only
  split
  · rfl
  · cases cursor <;> rfl

theorem closeCursor_holding (id : Int64) :
    (rest.holding data).closeCursor id = rest.holding (data.closeCursor id) := rfl

theorem foldl_closeCursor_holding (ids : List Int64) :
    ids.foldl closeCursor (rest.holding data) = rest.holding (ids.foldl closeCursor data) := by
  induction ids generalizing data with
  | nil => rfl
  | cons id ids ih => rw [List.foldl_cons, closeCursor_holding, ih, List.foldl_cons]

/-- What a server does depends on its data only, and changes nothing else. -/
theorem apply_holding : (rest.holding data).apply frame =
    (rest.holding (data.apply frame).1, (data.apply frame).2) := by
  unfold apply
  split
  · split <;> rfl
  · split
    · rfl
    · unfold query
      split
      · rfl
      · exact batch_holding ..
  · unfold getMore
    have cursors : (rest.holding data).cursors = data.cursors := rfl
    rw [cursors]
    split
    · rfl
    · split
      · rw [closeCursor_holding, batch_holding]
      · rfl
  · split
    · rfl
    · rw [foldl_closeCursor_holding]
  · rfl
  · rfl
  · rfl

/-- Ids stand for the same open cursors. -/
def SameOpen (server : Server) (id other : Int64) : Prop :=
  id = other ∨ server.isOpen id = false ∧ server.isOpen other = false

theorem foldl_closeCursor_sameOpen {server : Server} {ids others : List Int64}
    (same : List.Forall₂ server.SameOpen ids others) :
    ids.foldl closeCursor server = others.foldl closeCursor server := by
  induction ids generalizing server others with
  | nil =>
    cases same
    rfl
  | cons id ids ih =>
    cases same with
    | @cons _ other _ others first more =>
      have stays : ∀ {closed : Int64}, server.isOpen closed = false →
          (server.closeCursor id).isOpen closed = false := by
        intro closed shut
        rw [Bool.eq_false_iff] at shut ⊢
        exact fun opened => shut (isOpen_closeCursor.mp opened).2
      have after : server.closeCursor id = server.closeCursor other := by
        rcases first with rfl | ⟨closed, closed_too⟩
        · rfl
        · rw [closeCursor_of_not_open closed, closeCursor_of_not_open closed_too]
      have later : List.Forall₂ (server.closeCursor id).SameOpen ids others :=
        more.imp fun _ _ alike => alike.imp (fun equal => equal) fun shut =>
          ⟨stays shut.1, stays shut.2⟩
      rw [List.foldl_cons, List.foldl_cons, ih later, after]

theorem moreParts_congr {other : Frame} {limit : Int32} {id new : Int64}
    (same : frame.SameButCursors other) (code : frame.opCode = .getMore)
    (parts : moreParts frame = .ok (limit, id)) (read : other.cursorIds = .ok [new]) :
    moreParts other = .ok (limit, new) := by
  obtain ⟨ns, next, text, number, _⟩ := (moreParts_eq_ok code).mp parts
  obtain ⟨fields, placed, _, outside⟩ := same.fields
  cases placed with
  | killed other | answered other => exact absurd (code.symm.trans other) nofun
  | absent others => exact absurd code others.1
  | more _ found =>
    rw [text] at found
    cases found
    have front : ∀ p, p < next + 4 → frame.body[p]? = other.body[p]? := fun p below =>
      outside p fun field member => by
        rw [List.mem_singleton] at member
        omega
    refine (moreParts_eq_ok (same.opCode.trans code)).mpr ⟨ns, next, ?_, ?_, read⟩
    · exact readCString_congr text same.length fun p below => front p (by omega)
    · rw [← readInt32_congr same.length fun p _ below => front p below]
      exact number

/-- A server does not tell apart requests that differ in the ids of cursors that are not open. -/
theorem apply_sameOpen {server : Server} {other : Frame} {ids others : List Int64}
    (same : frame.SameButCursors other) (request : frame.opCode ≠ .reply)
    (read : frame.cursorIds = .ok ids) (read_other : other.cursorIds = .ok others)
    (open_alike : List.Forall₂ server.SameOpen ids others) {answered : Option Frame}
    (fine : (server.apply frame).2 = .ok answered) : server.apply other = server.apply frame := by
  by_cases kills : frame.opCode = .killCursors
  · have kills_too := same.opCode.trans kills
    simp only [apply, kills, kills_too, read, read_other,
      foldl_closeCursor_sameOpen open_alike]
  · by_cases more : frame.opCode = .getMore
    · have more_too := same.opCode.trans more
      simp only [apply, more, more_too] at fine ⊢
      cases parts : moreParts frame with
      | error fault => simp [getMore, parts] at fine
      | ok pair =>
        obtain ⟨limit, id⟩ := pair
        obtain ⟨_, _, _, _, single⟩ := (moreParts_eq_ok more).mp parts
        rw [read] at single
        cases single
        cases open_alike with
        | @cons _ new _ _ first others =>
          cases others
          have parts_too := moreParts_congr same more parts read_other
          unfold getMore
          rw [parts, parts_too, same.requestId]
          rcases first with rfl | ⟨closed, closed_too⟩
          · rfl
          · have absent : server.cursors.lookup id = none := by simpa [isOpen] using closed
            have absent_too : server.cursors.lookup new = none := by
              simpa [isOpen] using closed_too
            simp only [absent, absent_too]
    · rw [same.eq ⟨more, kills, request⟩]

def Resembles (server other : Server) : Prop := server.holding other = server

theorem Resembles.refl (server : Server) : server.Resembles server := rfl

theorem Resembles.handle {live server : Server} (alike : live.Resembles server) (frame : Frame) :
    live.handle frame =
      ((live.record frame).holding (server.apply frame).1, (server.apply frame).2) := by
  have recorded : (live.record frame).holding server = live.record frame :=
    congrArg (fun server => Server.record server frame) alike
  unfold Server.handle
  rw [← apply_holding, recorded]

theorem Resembles.handle_sameOpen {server live after : Server} {other : Frame}
    {ids others : List Int64} (alike : live.Resembles server) (same : frame.SameButCursors other)
    (request : frame.opCode ≠ .reply) (read : frame.cursorIds = .ok ids)
    (read_other : other.cursorIds = .ok others)
    (open_alike : List.Forall₂ server.SameOpen ids others) {answered : Option Frame}
    (handled : server.handle frame = (after, .ok answered)) :
    ∃ later, live.handle other = (later, .ok answered) ∧ later.Resembles after := by
  rw [(Resembles.refl server).handle] at handled
  obtain ⟨rfl, fine⟩ := Prod.mk.inj handled
  have played := alike.handle other
  rw [apply_sameOpen same request read read_other open_alike fine, fine] at played
  exact ⟨_, played, rfl⟩

theorem handle_silent (server : Server) (frame : Frame) :
    (server.handle frame).1.silent = server.silent := by
  rw [(Resembles.refl server).handle]
  rfl

def serve (server : Server) (frame : Frame) : Server × List Frame :=
  let (after, _, answer) := Session.served .serving (server.handle frame)
  (after, match answer with
    | .reply frame => [frame]
    | _ => [])

theorem serve_eq (server : Server) (frame : Frame) : server.serve frame =
    ((server.handle frame).1, match (server.handle frame).2 with
      | .ok (some answer) => if server.silent then [] else [answer]
      | _ => []) := by
  unfold serve Session.served
  rw [← handle_silent server frame]
  obtain ⟨after, answered⟩ := server.handle frame
  cases answered with
  | error fault => rfl
  | ok answer =>
    cases answer with
    | none => rfl
    | some answer =>
      dsimp only
      cases after.silent <;> rfl

theorem serve_of_handle {server after : Server} {answered : Option Frame}
    (handled : server.handle frame = (after, .ok answered)) (heard : server.silent = false) :
    server.serve frame = (after, answered.toList) := by
  rw [serve_eq, handled, heard]
  cases answered <;> rfl

theorem serve_silent (server : Server) (frame : Frame) :
    (server.serve frame).1.silent = server.silent := by
  rw [serve_eq, handle_silent]

theorem Resembles.serve {live server : Server} (alike : live.Resembles server)
    (silent : live.silent = server.silent) (frame : Frame) :
    (live.serve frame).1.Resembles (server.serve frame).1 ∧
      (live.serve frame).2 = (server.serve frame).2 := by
  rw [serve_eq, serve_eq, alike.handle, (Resembles.refl server).handle, silent]
  exact ⟨rfl, rfl⟩

def serveAll : Server → List Frame → Server × List Frame
  | server, [] => (server, [])
  | server, frame :: more =>
    let (after, answers) := server.serve frame
    let (last, rest) := after.serveAll more
    (last, answers ++ rest)

theorem serveAll_concat (server : Server) (frames : List Frame) (frame : Frame) :
    server.serveAll (frames ++ [frame]) =
      (((server.serveAll frames).1.serve frame).1,
        (server.serveAll frames).2 ++ ((server.serveAll frames).1.serve frame).2) := by
  induction frames generalizing server with
  | nil => simp [serveAll]
  | cons first more ih => simp only [List.cons_append, serveAll, ih, List.append_assoc]

theorem Resembles.serveAll {live server : Server} (alike : live.Resembles server)
    (silent : live.silent = server.silent) (frames : List Frame) :
    (live.serveAll frames).1.Resembles (server.serveAll frames).1 ∧
      (live.serveAll frames).2 = (server.serveAll frames).2 := by
  induction frames generalizing live server with
  | nil => exact ⟨alike, rfl⟩
  | cons frame more ih =>
    obtain ⟨later, answers⟩ := alike.serve silent frame
    have still : (live.serve frame).1.silent = (server.serve frame).1.silent := by
      rw [serve_silent, serve_silent, silent]
    obtain ⟨last, rest⟩ := ih later still
    exact ⟨last, by simp only [Server.serveAll, answers, rest]⟩

end TrafficReplay.Server
