import Mathlib.Data.List.Induction
import TrafficReplay.Proofs.Lane.Accounting
import TrafficReplay.Proofs.Lane.Smooth
import TrafficReplay.Proofs.Lane.Translation

namespace TrafficReplay

inductive Answer where
  | needless
  | reply (summary : Option ReplySummary)
  | late
  | unsent
deriving DecidableEq

instance : Inhabited Answer := ⟨.needless⟩

def Answer.outcome (answer : Answer) (miss : Bool) : OpOutcome :=
  match answer with
  | .needless => ⟨default, .zero, 0, none, miss⟩
  | .reply none => .failed .malformedResponse default miss
  | .reply (some summary) =>
    ⟨default, .zero, summary.numberReturned, if summary.failed then some .serverError else none,
      miss⟩
  | .late => .failed .responseTimeout default miss
  | .unsent => .failed .transmit default miss

/-- A stat record without what depends on the time of the replay. -/
def Stat.timeless (stat : Stat) : Stat := { stat with latency := .zero, playedAt := default }

namespace LaneMemory

def told (memory : LaneMemory) (common : CursorTable) (frame : Frame) (miss : Bool) :
    Answer → LaneMemory
  | .needless =>
    if frame.opCode = .killCursors then (memory.releaseCursors common frame).1 else memory
  | .reply (some summary) => (memory.onReply common frame miss summary.cursorId).1
  | .reply none | .late | .unsent => memory

def posted (memory : LaneMemory) (outcome : OpOutcome) : LaneMemory :=
  let memory := { memory with seq := memory.seq + 1 }
  if outcome.error.isSome then memory.fail else memory.succeed

def setClock (memory : LaneMemory) (clock : LaneClock) : LaneMemory := { memory with clock := clock }

end LaneMemory

/-- What a lane knows and what it has sent and reported. -/
structure Tale where
  memory : LaneMemory
  frames : List Frame
  stats : List Stat

namespace Tale

def fresh : Tale := ⟨.fresh .lane, [], []⟩

def emit (tale : Tale) (lane : LaneId) (record : Record) (outcome : OpOutcome) : Tale :=
  { tale with
    memory := tale.memory.posted outcome
    stats := tale.stats ++ [.ofOutcome lane tale.memory.seq record outcome] }

/-- Goes on by one record. The answers are to the frames sent, by their number, with the times of
    sending. -/
def next (policy : CursorMissPolicy) (lane : LaneId) (answers : Nat → Instant × Answer)
    (tale : Tale) (record : Record) : Tale :=
  if record.isResponse then
    { tale with memory := (tale.memory.correlate .empty lane record.frame).1 }
  else
    let prepared := tale.memory.prepare .empty policy record.frame
    match prepared.frame with
    | .error error => tale.emit lane record (.failed error default prepared.miss)
    | .ok frame =>
      let (issuedAt, answer) := answers tale.frames.length
      { tale with
        memory := (tale.memory.issued record.seen issuedAt).told .empty record.frame prepared.miss
          answer
        frames := tale.frames ++ [frame] }.emit lane record (answer.outcome prepared.miss)

end Tale

def tell (policy : CursorMissPolicy) (lane : LaneId) (answers : Nat → Instant × Answer)
    (records : List Record) : Tale :=
  records.foldl (Tale.next policy lane answers) .fresh

theorem tell_concat (policy : CursorMissPolicy) (lane : LaneId) (answers : Nat → Instant × Answer)
    (records : List Record) (record : Record) :
    tell policy lane answers (records ++ [record]) =
      (tell policy lane answers records).next policy lane answers record := by
  simp only [tell, List.foldl_append, List.foldl_cons, List.foldl_nil]

section Told

variable {policy : CursorMissPolicy} {lane : LaneId} {answers : Nat → Instant × Answer}
  {records : List Record} {record : Record} {miss : Bool}

theorem tell_response (policy : CursorMissPolicy) (lane : LaneId)
    (answers : Nat → Instant × Answer) (records : List Record)
    (response : record.isResponse = true) :
    tell policy lane answers (records ++ [record]) =
      { tell policy lane answers records with
        memory := ((tell policy lane answers records).memory.correlate .empty lane
          record.frame).1 } := by
  rw [tell_concat, Tale.next, if_pos response]

theorem tell_withheld {error : OpError} (request : record.isResponse = false)
    (prepared : (tell policy lane answers records).memory.prepare .empty policy record.frame =
      ⟨.error error, miss⟩) :
    tell policy lane answers (records ++ [record]) =
      (tell policy lane answers records).emit lane record (.failed error default miss) := by
  rw [tell_concat, Tale.next, if_neg (Bool.eq_false_iff.mp request), prepared]

theorem tell_answered {frame : Frame} {issuedAt : Instant} {answer : Answer}
    (request : record.isResponse = false)
    (prepared : (tell policy lane answers records).memory.prepare .empty policy record.frame =
      ⟨.ok frame, miss⟩)
    (hears : answers (tell policy lane answers records).frames.length = (issuedAt, answer)) :
    tell policy lane answers (records ++ [record]) =
      Tale.emit { tell policy lane answers records with
        memory := ((tell policy lane answers records).memory.issued record.seen issuedAt).told
          .empty record.frame miss answer
        frames := (tell policy lane answers records).frames ++ [frame] }
        lane record (answer.outcome miss) := by
  rw [tell_concat, Tale.next, if_neg (Bool.eq_false_iff.mp request), prepared]
  simp only [hears]

end Told

namespace LaneMemory

variable {memory : LaneMemory}

def IsPrivate (memory : LaneMemory) : Prop := ∃ table, memory.home = .own table

theorem IsPrivate.prepare (own : memory.IsPrivate) (common : CursorTable)
    (policy : CursorMissPolicy) (frame : Frame) :
    memory.prepare common policy frame = memory.prepare .empty policy frame := by
  obtain ⟨table, own⟩ := own
  have lookup : memory.lookup common = memory.lookup .empty := by
    funext recorded
    simp only [LaneMemory.lookup, own, CursorHome.table]
  simp only [LaneMemory.prepare, lookup]

theorem IsPrivate.correlate (own : memory.IsPrivate) (common : CursorTable) (lane : LaneId)
    (reply : Frame) :
    (memory.correlate common lane reply).1 = (memory.correlate .empty lane reply).1 ∧
      (memory.correlate common lane reply).1.IsPrivate := by
  obtain ⟨table, own⟩ := own
  unfold LaneMemory.correlate
  cases memory.binding? reply with
  | none => exact ⟨rfl, table, own⟩
  | some pair =>
    simp only [own, CursorHome.bind, CursorHome.modify]
    exact ⟨trivial, _, rfl⟩

theorem IsPrivate.releaseCursors (own : memory.IsPrivate) (common : CursorTable) (frame : Frame) :
    (memory.releaseCursors common frame).1 = (memory.releaseCursors .empty frame).1 ∧
      (memory.releaseCursors common frame).1.IsPrivate := by
  obtain ⟨table, own⟩ := own
  unfold LaneMemory.releaseCursors
  cases frame.cursorIds with
  | error fault => exact ⟨rfl, table, own⟩
  | ok ids =>
    simp only [releaseIds_own own]
    exact ⟨trivial, _, rfl⟩

theorem IsPrivate.told (own : memory.IsPrivate) (common : CursorTable) (frame : Frame)
    (miss : Bool) (answer : Answer) :
    memory.told common frame miss answer = memory.told .empty frame miss answer ∧
      (memory.told common frame miss answer).IsPrivate := by
  have released := own.releaseCursors common frame
  cases answer with
  | needless =>
    simp only [LaneMemory.told]
    split
    · exact released
    · exact ⟨rfl, own⟩
  | reply summary =>
    cases summary with
    | none => exact ⟨rfl, own⟩
    | some summary =>
      simp only [LaneMemory.told, LaneMemory.onReply]
      split
      · split
        · exact released
        · exact ⟨rfl, own⟩
      · split <;> exact ⟨rfl, own⟩
  | late | unsent => exact ⟨rfl, own⟩

theorem IsPrivate.posted (own : memory.IsPrivate) (outcome : OpOutcome) :
    (memory.posted outcome).IsPrivate := by
  unfold LaneMemory.posted
  dsimp only
  split <;> exact own

theorem prepare_setClock (memory : LaneMemory) (clock : LaneClock) (common : CursorTable)
    (policy : CursorMissPolicy) (frame : Frame) :
    (memory.setClock clock).prepare common policy frame = memory.prepare common policy frame := rfl

theorem correlate_setClock (memory : LaneMemory) (clock : LaneClock) (common : CursorTable)
    (lane : LaneId) (reply : Frame) :
    ((memory.setClock clock).correlate common lane reply).1 =
      (memory.correlate common lane reply).1.setClock clock := by
  have same : (memory.setClock clock).binding? reply = memory.binding? reply := rfl
  unfold correlate
  rw [same]
  cases memory.binding? reply <;> rfl

theorem releaseIds_setClock (memory : LaneMemory) (clock : LaneClock) (common : CursorTable)
    (ids : List Int64) :
    ((memory.setClock clock).releaseIds common ids).1 =
      (memory.releaseIds common ids).1.setClock clock := by
  unfold releaseIds
  induction ids generalizing memory common with
  | nil => rfl
  | cons id rest ih =>
    exact ih { memory with home := (memory.home.release common id).1 }
      (memory.home.release common id).2

theorem releaseCursors_setClock (memory : LaneMemory) (clock : LaneClock) (common : CursorTable)
    (frame : Frame) :
    ((memory.setClock clock).releaseCursors common frame).1 =
      (memory.releaseCursors common frame).1.setClock clock := by
  unfold releaseCursors
  cases frame.cursorIds with
  | error fault => rfl
  | ok ids => exact releaseIds_setClock ..

theorem told_setClock (memory : LaneMemory) (clock : LaneClock) (common : CursorTable)
    (frame : Frame) (miss : Bool) (answer : Answer) :
    (memory.setClock clock).told common frame miss answer =
      (memory.told common frame miss answer).setClock clock := by
  cases answer with
  | needless =>
    simp only [told]
    split
    · exact releaseCursors_setClock ..
    · rfl
  | reply summary =>
    cases summary with
    | none => rfl
    | some summary =>
      simp only [told, onReply]
      split
      · split
        · exact releaseCursors_setClock ..
        · rfl
      · split <;> rfl
  | late | unsent => rfl

theorem posted_setClock (memory : LaneMemory) (clock : LaneClock) (outcome : OpOutcome) :
    (memory.setClock clock).posted outcome = (memory.posted outcome).setClock clock := by
  unfold posted
  dsimp only
  split <;> rfl

@[simp] theorem told_seq (memory : LaneMemory) (common : CursorTable) (frame : Frame) (miss : Bool)
    (answer : Answer) : (memory.told common frame miss answer).seq = memory.seq := by
  cases answer with
  | needless =>
    simp only [told]
    split
    · rw [releaseCursors_same]
    · rfl
  | reply summary =>
    cases summary with
    | none => rfl
    | some summary =>
      simp only [told]
      rw [onReply_same]
  | late | unsent => rfl

end LaneMemory

namespace Tale

variable {policy : CursorMissPolicy} {lane : LaneId} {answers others : Nat → Instant × Answer}

structure Alike (first second : Tale) : Prop where
  frames : first.frames = second.frames
  stats : first.stats = second.stats
  memory : ∃ clock, second.memory = first.memory.setClock clock

theorem Alike.emit {first second : Tale} (alike : first.Alike second) (lane : LaneId)
    (record : Record) (outcome : OpOutcome) :
    (first.emit lane record outcome).Alike (second.emit lane record outcome) := by
  obtain ⟨frames, stats, clock, memory⟩ := alike
  refine ⟨frames, ?_, clock, ?_⟩
  · simp only [Tale.emit, stats, memory]
    rfl
  · simp only [Tale.emit, memory]
    exact LaneMemory.posted_setClock ..

theorem Alike.next {first second : Tale} (alike : first.Alike second)
    (same : ∀ number, (answers number).2 = (others number).2) (record : Record) :
    (first.next policy lane answers record).Alike (second.next policy lane others record) := by
  have prepared : second.memory.prepare .empty policy record.frame =
      first.memory.prepare .empty policy record.frame := by
    obtain ⟨clock, memory⟩ := alike.memory
    rw [memory, LaneMemory.prepare_setClock]
  unfold Tale.next
  rw [prepared]
  split
  · obtain ⟨clock, memory⟩ := alike.memory
    refine ⟨alike.frames, alike.stats, clock, ?_⟩
    dsimp only
    rw [memory, LaneMemory.correlate_setClock]
  · dsimp only
    split
    · exact alike.emit ..
    · rename_i frame _
      rw [← alike.frames, ← same first.frames.length]
      refine Alike.emit ?_ ..
      refine ⟨rfl, alike.stats, ⟨some (record.seen, (others first.frames.length).1)⟩, ?_⟩
      obtain ⟨clock, memory⟩ := alike.memory
      rw [← LaneMemory.told_setClock, memory]
      rfl

end Tale

section Told

variable {policy : CursorMissPolicy} {lane : LaneId} {answers others : Nat → Instant × Answer}

theorem tell_alike (same : ∀ number, (answers number).2 = (others number).2)
    (records : List Record) :
    (tell policy lane answers records).Alike (tell policy lane others records) := by
  induction records using List.reverseRecOn with
  | nil => exact ⟨rfl, rfl, .fresh, rfl⟩
  | append_singleton records record ih =>
    rw [tell_concat, tell_concat]
    exact ih.next same record

theorem tell_private (policy : CursorMissPolicy) (lane : LaneId)
    (answers : Nat → Instant × Answer) (records : List Record) :
    (tell policy lane answers records).memory.IsPrivate := by
  induction records using List.reverseRecOn with
  | nil => exact ⟨.empty, rfl⟩
  | append_singleton records record ih =>
    rw [tell_concat]
    unfold Tale.next
    split
    · exact (ih.correlate .empty lane record.frame).2
    · dsimp only
      split
      · exact ih.posted _
      · have issued : ((tell policy lane answers records).memory.issued record.seen
            (answers (tell policy lane answers records).frames.length).1).IsPrivate := ih
        exact (issued.told .empty record.frame _ _).2.posted _

end Told

end TrafficReplay
