import TrafficReplay.Stat.Basic

namespace TrafficReplay

structure StatBuffer where
  records : List Stat
deriving DecidableEq

namespace StatBuffer

def empty : StatBuffer := ⟨[]⟩

instance : Inhabited StatBuffer := ⟨empty⟩

def record (buffer : StatBuffer) (stat : Stat) : StatBuffer := ⟨buffer.records ++ [stat]⟩

def stages (buffer : StatBuffer) : List Stat → List StatBuffer
  | [] => [buffer]
  | stat :: rest => buffer :: (buffer.record stat).stages rest

def ofList (stats : List Stat) : StatBuffer := ⟨stats⟩

def size (buffer : StatBuffer) : Nat := buffer.records.length

def forLane (buffer : StatBuffer) (lane : String) : List Stat :=
  buffer.records.filter fun stat => stat.lane = lane

@[simp] theorem records_record (buffer : StatBuffer) (stat : Stat) :
    (buffer.record stat).records = buffer.records ++ [stat] := rfl

end StatBuffer

def Stat.eventFields (stat : Stat) : List (String × String) :=
  [("lane", stat.lane),
    ("seq", toString stat.seq),
    ("op", stat.kind.text),
    ("ns", stat.ns.getD ""),
    ("command", stat.command.getD ""),
    ("returned", toString stat.numReturned.toInt),
    ("latency_us", toString stat.latency.micros.toNat),
    ("error", (stat.error.map OpError.text).getD ""),
    ("message", "played")]

end TrafficReplay
