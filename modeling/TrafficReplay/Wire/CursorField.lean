import TrafficReplay.Wire.Frame

namespace TrafficReplay.Frame

def cursorFields (frame : Frame) : Except FrameFault (List Nat) := do
  let held := frame.body.length
  let fields ← match frame.opCode with
    | .getMore => do
      let (_, next) ← readCString frame.body 4
      pure [next + 4]
    | .killCursors => do
      let count ← readInt32 frame.body 4
      if count < 0 then throw .negativeCursorCount
      let count := count.toNatClampNeg
      if held < count * 8 + 8 then throw (.cursorCountOverrun count held)
      pure ((List.range count).map fun i => 8 + i * 8)
    | .reply => pure [4]
    | _ => pure []
  match fields.getLast? with
  | some last =>
    if held < last + 8 then throw (.cursorFieldOverrun last frame.opCode held)
    return fields
  | none => return fields

def cursorIds (frame : Frame) : Except FrameFault (List Int64) := do
  let fields ← frame.cursorFields
  fields.mapM (readInt64 frame.body)

def overwrite (bytes : List UInt8) (offset : Nat) (replacement : List UInt8) : List UInt8 :=
  bytes.take offset ++ replacement ++ bytes.drop (offset + replacement.length)

theorem length_overwrite {bytes replacement : List UInt8} {offset : Nat}
    (inside : offset + replacement.length ≤ bytes.length) :
    (overwrite bytes offset replacement).length = bytes.length := by
  simp only [overwrite, List.length_append, List.length_take, List.length_drop]
  omega

/-- Writes ids over the given fields; a field outside the body is left alone. -/
def overwriteIds : List UInt8 → List Nat → List Int64 → List UInt8
  | body, field :: fields, id :: ids =>
    let body := if field + 8 ≤ body.length then overwrite body field (int64Bytes id) else body
    overwriteIds body fields ids
  | body, _, _ => body

@[simp] theorem length_overwriteIds (body : List UInt8) (fields : List Nat) (ids : List Int64) :
    (overwriteIds body fields ids).length = body.length := by
  fun_induction overwriteIds body fields ids with
  | case1 body field fields id ids replaced ih =>
    rw [ih]
    by_cases inside : field + 8 ≤ body.length
    · simp only [replaced, inside, ↓reduceIte]
      exact length_overwrite (by simpa using inside)
    · simp only [replaced, inside, ↓reduceIte]
  | case2 => rfl

def withCursorIds (frame : Frame) (ids : List Int64) : Except FrameFault Frame := do
  let fields ← frame.cursorFields
  if fields.length ≠ ids.length then
    throw (.cursorCountMismatch frame.opCode fields.length ids.length)
  return { frame with
    body := overwriteIds frame.body fields ids
    body_le := by rw [length_overwriteIds]; exact frame.body_le }

end TrafficReplay.Frame
