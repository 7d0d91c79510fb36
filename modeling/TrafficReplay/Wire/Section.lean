import TrafficReplay.Wire.Frame

namespace TrafficReplay.Frame

def checksumFlag : Nat := 1

/-- Where the sections end: a checksum takes the last four bytes when the first flag is set. -/
def sectionsEnd (flags : Int32) (size : Nat) : Nat :=
  if flags.toUInt32.toNat % 2 = checksumFlag then size - 4 else size

def bodySection (body : List UInt8) (stop pos : Nat) : Except FrameFault Document :=
  if pos < stop then
    match body[pos]? with
    | none => .error (.truncated pos)
    | some kind =>
      if kind = 0 then (readDocument body (pos + 1)).map Prod.fst
      else if kind = 1 then
        match readInt32 body (pos + 1) with
        | .error fault => .error fault
        | .ok size =>
          if size < 0 then .error .negativeSectionSize
          else bodySection body stop (pos + 1 + size.toNatClampNeg)
      else .error (.unknownSection kind)
  else .error .noBodySection
termination_by stop - pos

def messageDocument (frame : Frame) : Except FrameFault Document := do
  let flags ← readInt32 frame.body 0
  bodySection frame.body (sectionsEnd flags frame.body.length) 4

end TrafficReplay.Frame
