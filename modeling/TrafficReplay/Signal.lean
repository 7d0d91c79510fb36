namespace TrafficReplay

structure CancelSignal where
  fired : Bool
deriving DecidableEq, Repr

namespace CancelSignal

def fresh : CancelSignal := ⟨false⟩

instance : Inhabited CancelSignal := ⟨fresh⟩

def cancel (_signal : CancelSignal) : CancelSignal := ⟨true⟩

def resolves (signal : CancelSignal) : Bool := signal.fired

end CancelSignal

structure CancelBoard where
  signals : List CancelSignal
  waits : List (Nat × String)
deriving DecidableEq, Repr

namespace CancelBoard

def ofCount (count : Nat) : CancelBoard := ⟨List.replicate count .fresh, []⟩

def cancel (board : CancelBoard) (index : Nat) : CancelBoard :=
  { board with signals := board.signals.modify index CancelSignal.cancel }

def wait (board : CancelBoard) (index : Nat) (name : String) : CancelBoard :=
  { board with waits := board.waits ++ [(index, name)] }

def resolves (board : CancelBoard) (index : Nat) : Bool :=
  board.signals[index]?.any CancelSignal.resolves

def woken (board : CancelBoard) : List String :=
  (board.waits.filter fun wait => board.resolves wait.1).map Prod.snd

end CancelBoard

end TrafficReplay
