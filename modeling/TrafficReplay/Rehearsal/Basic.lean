import TrafficReplay.Rehearsal.Seat

namespace TrafficReplay

inductive ConnectPlan where
  | refused
  | hanging
  | accepted (capacity : Nat) (peer : Peer)

inductive Scene where
  | server
  | plans (plans : List ConnectPlan)

structure Line where
  attempt : Nat
  link : Link
  peer : Peer

inductive Turn where
  | router
  | worker (id : WorkerId)
  | line (index : Nat)
deriving DecidableEq

structure Rehearsal where
  run : Run
  timeouts : Timeouts
  credentials : Option Credentials
  server : Server
  scene : Scene
  attempts : Nat
  lines : List Line
  seats : List Seat
  now : Nat
  feed : List StreamItem
  exhausted : Bool
  stats : List Stat
  queue : List Turn

namespace Rehearsal

/-- More turns than any rehearsal takes. -/
def patience : Nat := 1000000000000

def scriptRefusal : LinkFault := ⟨.connectionRefused, "refused by script"⟩

/-- Clocks stand still: nothing counts against a recorded gap. -/
def reading : Reading := ⟨⟨0⟩, .epoch⟩

def ofRun (run : Run) (config : PlayConfig) (credentials : Option Credentials) (server : Server)
    (scene : Scene) : Rehearsal where
  run := run
  timeouts := ⟨config.connectTimeoutMs.toNat, config.responseTimeoutMs.toNat⟩
  credentials := credentials
  server := server
  scene := scene
  attempts := 0
  lines := []
  seats := []
  now := 0
  feed := []
  exhausted := false
  stats := []
  queue := [.router]

def ofConfig (config : PlayConfig) (server : Server) (scene : Scene) :
    Except ConfigFault Rehearsal := do
  let run ← Run.ofConfig config
  return ofRun run config (← config.credentials) server scene

def refused (config : PlayConfig) (fault : ConfigFault) (server : Server) (scene : Scene) :
    Rehearsal :=
  ofRun (.refused fault) config none server scene

def isCancelled (state : Rehearsal) : Bool := state.run.shared.signal.fired

def seat (state : Rehearsal) (id : WorkerId) : Seat := state.seats.getD id .fresh

def setSeat (state : Rehearsal) (id : WorkerId) (seat : Seat) : Rehearsal :=
  let seats := state.seats ++ List.replicate (id + 1 - state.seats.length) .fresh
  { state with seats := seats.set id seat }

def line? (state : Rehearsal) (id : WorkerId) : Option Line :=
  (state.seat id).line.bind fun index => state.lines[index]?

def setLink (state : Rehearsal) (id : WorkerId) (link : Link) : Rehearsal :=
  match (state.seat id).line with
  | none => state
  | some index =>
    { state with lines := state.lines.modify index fun line => { line with link := link } }

def unjoined? (run : Run) : Option WorkerId :=
  (List.range run.workers.length).find? fun id => (run.join? id).isSome

def routerAction? (state : Rehearsal) : Option RouterAction :=
  match state.run.router with
  | .looking _ => some .look
  | .choosing mode =>
    if state.isCancelled then some .again
    else if !state.run.shared.events.isEmpty then some .event
    else
      match unjoined? state.run, mode with
      | some id, _ => some (.join id)
      | none, .waiting => if state.run.allJoined then some .settle else none
      | none, .routing =>
        match state.feed with
        | item :: _ => some (.next item)
        | [] => if state.exhausted then some (.next .finish) else none
  | .delivering record =>
    if (state.run.deliver? record).isSome then some .deliver
    else if state.isCancelled then some .giveUp
    else none
  | .stopping _ =>
    match unjoined? state.run with
    | some id => some (.join id)
    | none => if state.run.allJoined then some .settle else none
  | .finished _ => none

def routerStep? (state : Rehearsal) : Option Rehearsal := do
  let action ← state.routerAction?
  let run ← state.run.routerStep? action
  let feed := match action with
    | .next _ => state.feed.drop 1
    | _ => state.feed
  return { state with run := run, feed := feed }

def routerTurn : (fuel : Nat) → Rehearsal → Rehearsal
  | 0, state => state
  | fuel + 1, state =>
    match state.routerStep? with
    | none => state
    | some state => routerTurn fuel state

/-- The action that ends a wait without its result. -/
def patienceAction? (state : Rehearsal) (id : WorkerId) : Option WorkerAction :=
  if state.isCancelled then some .giveUp
  else if (state.seat id).isDue state.now then some .timedOut
  else none

def openLine (state : Rehearsal) (id : WorkerId) (capacity : Nat) (peer : Peer) : Rehearsal :=
  let line : Line := ⟨state.attempts, .ofCapacity capacity, peer⟩
  let state := { state with lines := state.lines ++ [line] }
  state.setSeat id { state.seat id with line := some (state.lines.length - 1) }

def connect (state : Rehearsal) (id : WorkerId) : Rehearsal × Option WorkerAction :=
  let state := state.setSeat id { state.seat id with attempted := true }
  let counted (state : Rehearsal) : Rehearsal := { state with attempts := state.attempts + 1 }
  match state.scene with
  | .server =>
    match state.server.connect? state.run.settings.address with
    | .error fault => (counted state, some (.refused fault))
    | .ok server =>
      let state := { state with server := server }
      (counted (state.openLine id Link.defaultCapacity (.ofServer server)), some .connected)
  | .plans plans =>
    match plans[state.attempts]? with
    | none | some .refused => (counted state, some (.refused scriptRefusal))
    | some .hanging => (counted state, none)
    | some (.accepted capacity peer) =>
      (counted (state.openLine id capacity peer), some .connected)

def login (state : Rehearsal) (id : WorkerId) : Rehearsal × Option WorkerAction :=
  match state.credentials, state.line? id with
  | some credentials, some line =>
    let login : Except HandshakeFault Login := match (state.seat id).login with
      | some login => .ok login
      | none => Login.ofCredentials credentials
    match login with
    | .error fault => (state, some (.denied fault.message))
    | .ok login =>
      let (outcome, login, link) := login.advance line.link
      let state := (state.setLink id link).setSeat id { state.seat id with login := some login }
      match outcome with
      | .done (.ok ()) => (state, some .authenticated)
      | .done (.error fault) => (state, some (.denied fault.message))
      | .pending => (state, state.patienceAction? id)
  | _, _ => (state, some .authenticated)

def write (state : Rehearsal) (id : WorkerId) (unsent : List UInt8) :
    Rehearsal × Option WorkerAction :=
  match state.line? id with
  | none => (state, some (.sendFailed .brokenPipe))
  | some line =>
    match line.link.send unsent with
    | (.error fault, _) => (state, some (.sendFailed fault))
    | (.ok rest, link) =>
      if rest.length < unsent.length then
        (state.setLink id link, some (.wrote (unsent.length - rest.length)))
      else (state, state.patienceAction? id)

def read (state : Rehearsal) (id : WorkerId) : Rehearsal × Option WorkerAction :=
  match state.line? id with
  | none => (state, some (.receiveFailed (.link .closedByPeer)))
  | some line =>
    let (outcome, link) := line.link.receive
    let state := state.setLink id link
    match outcome with
    | .done (.ok frame) => (state, some (.received frame))
    | .done (.error fault) => (state, some (.receiveFailed fault))
    | .pending => (state, state.patienceAction? id)

def canDo (state : Rehearsal) (id : WorkerId) (action : WorkerAction) : Bool :=
  (state.run.workerStep? reading id action).isSome

def prompt (state : Rehearsal) (id : WorkerId) (phase : WorkerPhase) :
    Rehearsal × Option WorkerAction :=
  match phase with
  | .connecting =>
    if (state.seat id).attempted then (state, state.patienceAction? id) else state.connect id
  | .authenticating => state.login id
  | .pacing _ =>
    (state, if (state.seat id).isDue state.now then some .elapsed
      else if state.isCancelled then some .giveUp
      else none)
  | .sending _ [] => (state, some .sent)
  | .sending _ unsent => state.write id unsent
  | .awaiting _ => state.read id
  | _ => (state, [WorkerAction.advance, .wake, .giveUp].find? (state.canDo id))

def perform (id : WorkerId) (state : Rehearsal) : LaneEffect → Rehearsal
  | .reports stat => { state with stats := state.stats ++ [stat] }
  | .hangsUp =>
    match state.line? id with
    | some line => state.setLink id line.link.drop
    | none => state
  | _ => state

def workerStep? (state : Rehearsal) (id : WorkerId) : Rehearsal × Bool :=
  match state.run.workers[id]? with
  | none => (state, false)
  | some worker =>
    let (state, action) := state.prompt id worker.phase
    match action with
    | none => (state, false)
    | some action =>
      match state.run.workerStep? reading id action with
      | none => (state, false)
      | some (run, effects) =>
        let after := (run.workers[id]?.map Worker.phase).getD .ended
        let seat := (state.seat id).afterStep state.timeouts state.now worker.phase after effects
        (effects.foldl (perform id) ({ state with run := run }.setSeat id seat), true)

def workerTurn : (fuel : Nat) → Rehearsal → WorkerId → Rehearsal
  | 0, state, _ => state
  | fuel + 1, state, id =>
    match state.workerStep? id with
    | (state, true) => workerTurn fuel state id
    | (state, false) => state

def lineTurn (state : Rehearsal) (index : Nat) : Rehearsal :=
  match state.lines[index]? with
  | none => state
  | some line =>
    let (server, peer, link) := line.peer.advance state.server state.now line.link
    { state with
      server := server
      lines := state.lines.set index { line with peer := peer, link := link } }

def turn (state : Rehearsal) : Turn → Rehearsal
  | .router => routerTurn patience state
  | .worker id => workerTurn patience state id
  | .line index => state.lineTurn index

def canRead (link : Link) : Bool :=
  !link.toClient.held.isEmpty || link.toClient.closed ||
    match link.received.next with
    | .ok none => false
    | _ => true

def canWrite (link : Link) : Bool := link.toPeer.closed || 0 < link.toPeer.room

def workerIsReady (state : Rehearsal) (id : WorkerId) (worker : Worker) : Bool :=
  let waited := (state.patienceAction? id).isSome
  let line := state.line? id
  match worker.phase with
  | .connecting => !(state.seat id).attempted || waited
  | .authenticating =>
    match (state.seat id).login, line with
    | some login, some line =>
      waited || (if login.unsent.isEmpty then canRead line.link else canWrite line.link)
    | _, _ => true
  | .pacing _ => waited
  | .sending _ unsent => waited || unsent.isEmpty || line.all fun line => canWrite line.link
  | .awaiting _ => waited || line.all fun line => canRead line.link
  | .ended => false
  | _ => ([WorkerAction.advance, .wake, .giveUp].find? (state.canDo id)).isSome

def isReady (state : Rehearsal) : Turn → Bool
  | .router => state.routerAction?.isSome
  | .worker id => state.run.workers[id]?.any (state.workerIsReady id)
  | .line index => state.lines[index]?.any fun line => line.peer.isReady state.now line.link

def turns (state : Rehearsal) : List Turn :=
  .router :: (List.range state.run.workers.length).map Turn.worker ++
    (List.range state.lines.length).map Turn.line

/-- Everybody who can go on and does not queue yet queues up. -/
def enqueue (state : Rehearsal) : Rehearsal :=
  { state with queue := state.queue ++
      state.turns.filter fun turn => turn ∉ state.queue && state.isReady turn }

def settleLoop : (fuel : Nat) → Rehearsal → Rehearsal
  | 0, state => state
  | fuel + 1, state =>
    match state.queue with
    | [] => state
    | turn :: rest => settleLoop fuel ({ state with queue := rest }.turn turn).enqueue

def settle (state : Rehearsal) : Rehearsal := settleLoop patience state.enqueue

def timers (state : Rehearsal) : List Nat :=
  (state.seats.filterMap Seat.deadline ++ state.lines.filterMap fun line =>
    if line.peer.gone then none else line.peer.wake).filter (state.now < ·)

def nextTimer? (state : Rehearsal) : Option Nat := state.timers.min?

def elapse? (state : Rehearsal) : Option Rehearsal :=
  state.nextTimer?.map fun time => settle { state with now := time }

def isFinished (state : Rehearsal) : Bool := state.run.isFinished

def waitLoop (condition : Rehearsal → Bool) : (fuel : Nat) → Rehearsal → Rehearsal
  | 0, state => state
  | fuel + 1, state =>
    if state.isFinished || condition state then state
    else
      match state.elapse? with
      | none => state
      | some state => waitLoop condition fuel state

def waitUntil (condition : Rehearsal → Bool) (state : Rehearsal) : Rehearsal :=
  waitLoop condition patience state.settle

def sleepLoop (limit : Nat) : (fuel : Nat) → Rehearsal → Rehearsal
  | 0, state => state
  | fuel + 1, state =>
    match state.nextTimer? with
    | none => { state with now := limit }
    | some time =>
      if time ≤ limit then sleepLoop limit fuel (settle { state with now := time })
      else { state with now := limit }

def sleep (state : Rehearsal) (time : Nat) : Rehearsal :=
  sleepLoop (state.now + time) patience state.settle

def heardOn (state : Rehearsal) (attempt : Nat) : List Frame :=
  match state.lines.find? fun line => line.attempt = attempt with
  | some line => line.peer.heard
  | none => []

def elapsedSeconds (state : Rehearsal) : Nat := (state.now + 500) / 1000

def result? (state : Rehearsal) : Option (Except PlayFault PlaySummary) := state.run.result?

def endedByConnectFault (state : Rehearsal) : Bool :=
  match state.result? with
  | some (.error (.connect _ _)) => true
  | _ => false

end Rehearsal

end TrafficReplay
