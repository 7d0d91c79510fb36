namespace TrafficReplay

structure SlotPool (α : Type) where
  limit : Nat
  free : Nat
  active : Nat
  waiting : Nat
  queue : List α
  granted : List α
  announced : Nat
deriving DecidableEq, Repr

namespace SlotPool

variable {α : Type} [DecidableEq α]

def defaultLimit : Nat := 64

def ofLimit (limit : Nat) : SlotPool α where
  limit := limit
  free := limit
  active := 0
  waiting := 0
  queue := []
  granted := []
  announced := 0

def ofLimit? (limit : Nat) : Option (SlotPool α) := if limit = 0 then none else some (ofLimit limit)

def tryAcquire? (pool : SlotPool α) : Option (SlotPool α) :=
  if 0 < pool.free then some { pool with free := pool.free - 1, active := pool.active + 1 }
  else none

def count (pool : SlotPool α) : SlotPool α := { pool with waiting := pool.waiting + 1 }

def announce (pool : SlotPool α) : SlotPool α := { pool with announced := pool.announced + 1 }

/-- Joins the queue, unless a slot became free in between. -/
def enqueue (pool : SlotPool α) (waiter : α) : SlotPool α :=
  if 0 < pool.free then
    { pool with free := pool.free - 1, granted := pool.granted ++ [waiter] }
  else { pool with queue := pool.queue ++ [waiter] }

def passSlot (pool : SlotPool α) : SlotPool α :=
  match pool.queue with
  | [] => { pool with free := pool.free + 1 }
  | waiter :: rest => { pool with queue := rest, granted := pool.granted ++ [waiter] }

def take? (pool : SlotPool α) (waiter : α) : Option (SlotPool α) :=
  if waiter ∈ pool.granted then
    some { pool with
      granted := pool.granted.erase waiter
      active := pool.active + 1
      waiting := pool.waiting - 1 }
  else none

def release (pool : SlotPool α) : SlotPool α :=
  passSlot { pool with active := pool.active - 1 }

/-- A waiter gives up; a slot already passed to it goes on to the next one. -/
def withdraw (pool : SlotPool α) (waiter : α) : SlotPool α :=
  if waiter ∈ pool.granted then
    passSlot { pool with granted := pool.granted.erase waiter, waiting := pool.waiting - 1 }
  else if waiter ∈ pool.queue then
    { pool with queue := pool.queue.erase waiter, waiting := pool.waiting - 1 }
  else pool

def hasWaiters (pool : SlotPool α) : Bool := 0 < pool.waiting

def contendedSince (pool : SlotPool α) (reading : Nat) : Bool := reading < pool.announced

end SlotPool

end TrafficReplay
