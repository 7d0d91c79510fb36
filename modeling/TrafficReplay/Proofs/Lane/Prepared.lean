import TrafficReplay.Lane.Memory
import TrafficReplay.Proofs.Wire.CursorField

namespace TrafficReplay.LaneMemory

variable {memory : LaneMemory} {common : CursorTable} {policy : CursorMissPolicy} {frame : Frame}

def lookups (memory : LaneMemory) (common : CursorTable) (ids : List Int64) : List CursorLookup :=
  ids.map (memory.lookup common)

def misses (memory : LaneMemory) (common : CursorTable) (ids : List Int64) : Bool :=
  (memory.lookups common ids).any CursorLookup.isMiss

def translated (memory : LaneMemory) (common : CursorTable) (ids : List Int64) : List Int64 :=
  (memory.lookups common ids).map CursorLookup.liveId

@[simp] theorem length_translated (memory : LaneMemory) (common : CursorTable) (ids : List Int64) :
    (memory.translated common ids).length = ids.length := by
  simp [translated, lookups]

inductive Preparation (memory : LaneMemory) (common : CursorTable) (policy : CursorMissPolicy)
    (frame : Frame) : Prepared → Prop
  | plain (names : namesCursors frame = false) :
      Preparation memory common policy frame ⟨.ok frame, false⟩
  | unreadable {fault : FrameFault} (names : namesCursors frame = true)
      (read : frame.cursorIds = .error fault) :
      Preparation memory common policy frame ⟨.error .malformedRequest, false⟩
  | stale {ids : List Int64} (names : namesCursors frame = true)
      (read : frame.cursorIds = .ok ids) (miss : memory.misses common ids = true)
      (strict : policy = .fail) : Preparation memory common policy frame ⟨.error .staleCursor, true⟩
  | translated {ids : List Int64} {other : Frame} (names : namesCursors frame = true)
      (read : frame.cursorIds = .ok ids)
      (lenient : memory.misses common ids = true → policy = .passThrough)
      (made : frame.withCursorIds (memory.translated common ids) = .ok other) :
      Preparation memory common policy frame ⟨.ok other, memory.misses common ids⟩

theorem prepare_preparation (memory : LaneMemory) (common : CursorTable)
    (policy : CursorMissPolicy) (frame : Frame) :
    Preparation memory common policy frame (memory.prepare common policy frame) := by
  unfold prepare
  split
  · rename_i names
    split
    · rename_i fault read
      exact .unreadable names read
    · rename_i ids read
      dsimp only
      split
      · rename_i refused
        simp only [Bool.and_eq_true, decide_eq_true_eq] at refused
        exact .stale names read refused.1 refused.2
      · rename_i passed
        obtain ⟨other, made⟩ := Frame.withCursorIds_ok read
          (memory.length_translated common ids)
        have lenient : memory.misses common ids = true → policy = .passThrough := by
          intro miss
          cases policy with
          | passThrough => rfl
          | fail => exact absurd (by simpa [misses, lookups] using miss) passed
        have sent : frame.withCursorIds
            ((ids.map (memory.lookup common)).map CursorLookup.liveId) = .ok other := made
        rw [sent]
        exact .translated names read lenient made
  · rename_i names
    exact .plain (Bool.not_eq_true _ ▸ names)

/-- A request is withheld with a miss only when its cursors are stale. -/
theorem miss_of_prepare_error {error : OpError} {miss : Bool}
    (prepared : memory.prepare common policy frame = ⟨.error error, miss⟩) :
    miss = decide (error = OpError.staleCursor) := by
  have preparation := memory.prepare_preparation common policy frame
  rw [prepared] at preparation
  cases preparation with
  | unreadable => rfl
  | stale => rfl

end TrafficReplay.LaneMemory
