import TrafficReplay.Pool.Basic

namespace TrafficReplay

structure PoolSession (α : Type) where
  pool : SlotPool Nat
  tickets : List α
  held : List α
  watches : List (α × Nat)
deriving DecidableEq, Repr

inductive PoolEvent (α : Type) where
  | tryAcquire (name : α)
  | acquire (name : α)
  | take (ticket : Nat)
  | release (name : α)
  | cancel (name : α)
  | watch (name : α)
deriving DecidableEq, Repr

namespace PoolSession

variable {α : Type} [DecidableEq α]

def ofPool (pool : SlotPool Nat) : PoolSession α := ⟨pool, [], [], []⟩

/-- A name holds one slot; a slot that it held before is given back. -/
def hold (session : PoolSession α) (pool : SlotPool Nat) (name : α) : PoolSession α :=
  if name ∈ session.held then { session with pool := pool.release }
  else { session with pool := pool, held := session.held ++ [name] }

def lastTicket? (session : PoolSession α) (name : α) : Option Nat :=
  (session.tickets.zipIdx.findRev? fun (owner, _) => owner = name).map Prod.snd

def apply (session : PoolSession α) : PoolEvent α → PoolSession α
  | .tryAcquire name =>
    match session.pool.tryAcquire? with
    | some pool => session.hold pool name
    | none => session
  | .acquire name =>
    let ticket := session.tickets.length
    let session := { session with tickets := session.tickets ++ [name] }
    match session.pool.tryAcquire? with
    | some pool => session.hold pool name
    | none => { session with pool := session.pool.count.announce.enqueue ticket }
  | .take ticket =>
    match session.pool.take? ticket, session.tickets[ticket]? with
    | some pool, some name => session.hold pool name
    | _, _ => session
  | .release name =>
    if name ∈ session.held then
      { session with pool := session.pool.release, held := session.held.erase name }
    else session
  | .cancel name =>
    match session.lastTicket? name with
    | some ticket => { session with pool := session.pool.withdraw ticket }
    | none => session
  | .watch name => { session with watches := session.watches ++ [(name, session.pool.announced)] }

def settleFrom : (fuel : Nat) → PoolSession α → PoolSession α
  | 0, session => session
  | fuel + 1, session =>
    match session.pool.granted with
    | [] => session
    | ticket :: _ => settleFrom fuel (session.apply (.take ticket))

/-- Lets every waiter take the slot passed to it, and those it passes slots to in turn. -/
def settle (session : PoolSession α) : PoolSession α :=
  settleFrom (session.pool.granted.length + session.pool.queue.length) session

def answer (session : PoolSession α) : PoolEvent α → Option Bool
  | .tryAcquire _ => some session.pool.tryAcquire?.isSome
  | .release name => some (name ∈ session.held)
  | _ => none

def woken (session : PoolSession α) : List α :=
  (session.watches.filter fun watch => session.pool.contendedSince watch.2).map Prod.fst

end PoolSession

end TrafficReplay
