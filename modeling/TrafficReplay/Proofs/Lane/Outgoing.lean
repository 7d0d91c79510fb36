import TrafficReplay.Proofs.Lane.Translation
import TrafficReplay.Proofs.Wire.Frame

namespace TrafficReplay

inductive SendEnd where
  | sent
  | failed (fault : LinkFault)
  | timedOut
  | cancelled

namespace SendEnd

def of? : WorkerAction → Option SendEnd
  | .sent => some .sent
  | .sendFailed fault => some (.failed fault)
  | .timedOut => some .timedOut
  | .giveUp => some .cancelled
  | _ => none

/-- The lane goes on with the connection. -/
def goesOn : SendEnd → Bool
  | .sent => true
  | .failed fault => !fault.kind.losesLink
  | .timedOut | .cancelled => false

end SendEnd

structure Send where
  frame : Frame
  written : List UInt8
  ended : Option SendEnd

namespace Send

def IsPartial (send : Send) : Prop := send.written ≠ [] ∧ send.written ≠ send.frame.bytes

/-- A fault that leaves the connection in use struck in the middle of the frame. -/
def Torn (send : Send) : Prop :=
  ∃ fault, send.ended = some (.failed fault) ∧ fault.kind.losesLink = false ∧ send.IsPartial

def goesOn (send : Send) : Bool := send.ended.any SendEnd.goesOn

def write (bytes : List UInt8) (send : Send) : Send :=
  { send with written := send.written ++ bytes }

def finish (ended : Option SendEnd) (send : Send) : Send := { send with ended := ended }

end Send

/-- What an effect means to the transmissions on the connection, newest first. -/
def LaneEffect.onSends (sends : List Send) : LaneEffect → List Send
  | .connects => []
  | .transmits _ frame => ⟨frame, [], none⟩ :: sends
  | .wrote bytes => sends.modifyHead (.write bytes)
  | .took _ | .waits _ _ | .binds _ _ | .reports _ | .hangsUp => sends

def WorkerPhase.isSending : WorkerPhase → Bool
  | .sending _ _ => true
  | _ => false

def LaneStep.onSends (sends : List Send) (step : LaneStep) : List Send :=
  let after := step.effects.foldl LaneEffect.onSends sends
  if step.before.phase.isSending then after.modifyHead (.finish (SendEnd.of? step.action))
  else after

/-- The transmissions on the last connection of a lane, newest first. -/
def sends (log : List LaneStep) : List Send := log.foldl LaneStep.onSends []

def LaneEffect.onWire (bytes : List UInt8) : LaneEffect → List UInt8
  | .connects => []
  | .wrote more => bytes ++ more
  | .took _ | .waits _ _ | .transmits _ _ | .binds _ _ | .reports _ | .hangsUp => bytes

/-- The bytes written on the last connection of a lane since its handshake. -/
def outgoing (log : List LaneStep) : List UInt8 :=
  (log.flatMap LaneStep.effects).foldl LaneEffect.onWire []

def LaneEffect.isOffWire : LaneEffect → Bool
  | .connects | .transmits _ _ | .wrote _ => false
  | .took _ | .waits _ _ | .binds _ _ | .reports _ | .hangsUp => true

namespace WorkerPhase

def isReady : WorkerPhase → Bool
  | .polling | .idle | .watching _ | .yielding _ | .parked _ | .holding _ | .pacing _ | .due _
  | .awaiting _ => true
  | .succeeding _ | .acquiring _ | .connecting | .authenticating | .sending _ _ | .closing _
  | .leaving _ | .concluding _ | .draining | .ended => false

def isFresh : WorkerPhase → Bool
  | .connecting | .authenticating => true
  | _ => false

end WorkerPhase

/-- What a step means to the connection of a lane. -/
inductive WireMove (before : WorkerPhase) (action : WorkerAction) :
    List LaneEffect → WorkerPhase → Prop
  | connects (unsent : before.isSending = false) : WireMove before action [.connects] .connecting
  | begins {record : Record} {frame : Frame} {issue : Issue} (ready : before.isReady = true) :
      WireMove before action [.transmits record frame] (.sending issue frame.bytes)
  | writes {issue : Issue} {unsent : List UInt8} {count : Nat}
      (phase : before = .sending issue unsent) (going : SendEnd.of? action = none) :
      WireMove before action [.wrote (unsent.take count)] (.sending issue (unsent.drop count))
  | ends {issue : Issue} {unsent : List UInt8} {how : SendEnd} {effects : List LaneEffect}
      {after : WorkerPhase} (phase : before = .sending issue unsent)
      (ended : SendEnd.of? action = some how) (whole : how = .sent → unsent = [])
      (quiet : ∀ effect ∈ effects, effect.isOffWire = true) (quits : after.isSending = false)
      (used : after.isFresh = false) (usable : after.isReady = true → how.goesOn = true) :
      WireMove before action effects after
  | stays {effects : List LaneEffect} {after : WorkerPhase} (unsent : before.isSending = false)
      (quiet : ∀ effect ∈ effects, effect.isOffWire = true) (quits : after.isSending = false)
      (fresh : after.isFresh = true → before.isFresh = true)
      (usable : after.isReady = true → before.isReady = true ∨ before.isFresh = true) :
      WireMove before action effects after

namespace WorkerPhase

theorem not_sending_of_isReady {phase : WorkerPhase} (ready : phase.isReady = true) :
    phase.isSending = false := by
  cases phase <;> first | rfl | cases ready

theorem ne_sending {phase : WorkerPhase} (unsent : phase.isSending = false) (issue : Issue)
    (bytes : List UInt8) : phase ≠ .sending issue bytes := by
  rintro rfl
  cases unsent

end WorkerPhase

section moves

variable {before after : WorkerPhase} {action : WorkerAction} {effects : List LaneEffect}

theorem WireMove.rests (ready : before.isReady = true)
    (quiet : ∀ effect ∈ effects, effect.isOffWire = true) (quits : after.isSending = false)
    (used : after.isFresh = false) : WireMove before action effects after := by
  have unfresh : after.isFresh = true → before.isFresh = true := by simp [used]
  exact .stays (WorkerPhase.not_sending_of_isReady ready) quiet quits unfresh fun _ => .inl ready

theorem WireMove.leaves (unsent : before.isSending = false)
    (quiet : ∀ effect ∈ effects, effect.isOffWire = true) (quits : after.isSending = false)
    (used : after.isFresh = false) (closed : after.isReady = false) :
    WireMove before action effects after := by
  have unfresh : after.isFresh = true → before.isFresh = true := by simp [used]
  have unusable : after.isReady = true → before.isReady = true ∨ before.isFresh = true := by
    simp [closed]
  exact .stays unsent quiet quits unfresh unusable

end moves

namespace Worker

variable {around : Surroundings} {worker : Worker} {shared : Shared} {action : WorkerAction}
  {outcome : Outcome}

theorem Shift.wire_move {phase : WorkerPhase} {after : Shared} {effects : List LaneEffect}
    (shift : Shift around worker shared action phase after effects) :
    WireMove worker.phase action effects phase := by
  have silent : ∀ effect ∈ ([] : List LaneEffect), effect.isOffWire = true := List.forall_mem_nil _
  have hungUp : ∀ effect ∈ [LaneEffect.hangsUp], effect.isOffWire = true := by
    simp [LaneEffect.isOffWire]
  cases shift with
  | getsSlot at_phase | takesSlot at_phase => exact .connects (by rw [at_phase]; rfl)
  | writes at_phase => exact .writes at_phase rfl
  | awaits at_phase => exact .ends at_phase rfl (fun _ => rfl) silent rfl rfl (fun _ => rfl)
  | runsOut at_phase =>
    refine .leaves ?_ silent rfl rfl rfl
    rcases at_phase with ⟨at_phase, _⟩ | ⟨_, at_phase⟩ <;> rw [at_phase] <;> rfl
  | connects at_phase =>
    have fresh : worker.phase.isFresh = true ∧ worker.phase.isSending = false := by
      rcases at_phase with ⟨_, at_phase, _⟩ | ⟨_, at_phase⟩ <;> rw [at_phase] <;> exact ⟨rfl, rfl⟩
    exact .stays fresh.2 silent rfl (fun _ => fresh.1) fun _ => .inr fresh.1
  | authenticates at_phase =>
    rw [at_phase]
    exact .stays rfl silent rfl (fun _ => rfl) fun _ => .inr rfl
  | paces at_phase => exact .rests (by rw [at_phase]; rfl) (by simp [LaneEffect.isOffWire]) rfl rfl
  | isDenied at_phase | givesUpAuthenticating _ at_phase =>
    exact .leaves (by rw [at_phase]; rfl) hungUp rfl rfl rfl
  | idles at_phase | watches at_phase | parks at_phase | isDue at_phase | wakes at_phase
  | waited at_phase | passesOver at_phase => exact .rests (by rw [at_phase]; rfl) silent rfl rfl
  | succeeds at_phase | findsNoSlot at_phase | countsItself at_phase | announcesItself at_phase
  | queuesUp at_phase | seesSignal at_phase | leaves at_phase | reportsRefusal at_phase
  | givesUpTrying _ at_phase | givesUpQueueing _ at_phase | givesUpConnecting _ at_phase
  | givesUpWaiting _ at_phase | isRefused at_phase =>
    exact .leaves (by rw [at_phase]; rfl) silent rfl rfl rfl

theorem afterFailure_off_wire (settings : LaneSettings) (worker : Worker) :
    (afterFailure settings worker).phase.isSending = false ∧
      (afterFailure settings worker).phase.isFresh = false := by
  rcases afterFailure_phase settings worker with phase | phase <;> rw [phase] <;> exact ⟨rfl, rfl⟩

theorem Fails.wire_move {issue : Issue} {error : OpError} {effects : List LaneEffect}
    {after : WorkerPhase} (cause : Fails worker.phase action issue error)
    (quiet : ∀ effect ∈ effects, effect.isOffWire = true) (quits : after.isSending = false)
    (used : after.isFresh = false) : WireMove worker.phase action effects after := by
  cases cause with
  | @sending _ _ fault at_phase kept =>
    -- The one way to go on with a frame left unfinished.
    have usable : (SendEnd.failed fault).goesOn = true := by simp [SendEnd.goesOn, kept]
    exact .ends at_phase rfl (fun whole => nomatch whole) quiet quits used fun _ => usable
  | waiting at_phase | reading at_phase => exact .rests (by rw [at_phase]; rfl) quiet quits used

theorem Stops.wire_move {fired : Bool} {issue : Issue} {error : OpError} {ending : LaneEnding}
    {effects : List LaneEffect} (cause : Stops worker.phase fired action issue error ending)
    (quiet : ∀ effect ∈ effects, effect.isOffWire = true) :
    WireMove worker.phase action effects (.closing ending) := by
  have cut {unsent : List UInt8} {how : SendEnd} (at_phase : worker.phase = .sending issue unsent)
      (ended : SendEnd.of? action = some how) (unfinished : how ≠ .sent) :
      WireMove worker.phase action effects (.closing ending) :=
    .ends at_phase ended (fun whole => absurd whole unfinished) quiet rfl rfl
      fun usable => nomatch usable
  cases cause with
  | cancelled _ at_phase =>
    rcases at_phase with ⟨unsent, at_phase⟩ | at_phase
    · exact cut at_phase rfl SendEnd.noConfusion
    · exact .leaves (by rw [at_phase]; rfl) quiet rfl rfl rfl
  | sending at_phase cause =>
    rcases cause with rfl | ⟨fault, rfl, _⟩ <;> exact cut at_phase rfl SendEnd.noConfusion
  | closed at_phase | garbled at_phase => exact .leaves (by rw [at_phase]; rfl) quiet rfl rfl rfl

theorem Step.wire_move (step : Step around worker shared action outcome) :
    WireMove worker.phase action outcome.2.2 outcome.1.phase := by
  have silent : ∀ effect ∈ ([] : List LaneEffect), effect.isOffWire = true := List.forall_mem_nil _
  have reported : ∀ stat, ∀ effect ∈ [LaneEffect.reports stat], effect.isOffWire = true := by
    simp [LaneEffect.isOffWire]
  cases step with
  | shifts shift => exact shift.wire_move
  | transmits phase => exact .begins (by rw [phase]; rfl)
  | takes phase =>
    refine .rests ?_ (by simp [LaneEffect.isOffWire]) rfl rfl
    rcases phase with ⟨phase, _⟩ | ⟨_, phase⟩ <;> rw [phase] <;> rfl
  | correlates phase =>
    refine .rests (by rw [phase]; rfl) ?_ rfl rfl
    cases worker.memory.binding? _ <;> simp [LaneEffect.isOffWire]
  | withholds phase =>
    obtain ⟨quits, used⟩ := afterFailure_off_wire around.settings _
    exact .rests (by rw [phase]; rfl) (reported _) quits used
  | fails cause =>
    obtain ⟨quits, used⟩ := afterFailure_off_wire around.settings _
    exact cause.wire_move (reported _) quits used
  | stops cause => exact cause.wire_move (reported _)
  | plays phase => exact .ends phase rfl (fun _ => rfl) (reported _) rfl rfl fun _ => rfl
  | hears phase =>
    refine .rests (by rw [phase]; rfl) (reported _) ?_ ?_
    all_goals
      dsimp only
      split
    · exact (afterFailure_off_wire _ _).1
    · rfl
    · exact (afterFailure_off_wire _ _).2
    · rfl
  | closes phase =>
    exact .leaves (by rw [phase]; rfl) (by simp [close, LaneEffect.isOffWire]) rfl rfl rfl
  | endsCancelled phase =>
    refine .leaves ?_ silent rfl rfl rfl
    rcases phase with ⟨_, phase⟩ | ⟨_, _, ⟨_, phase⟩ | phase⟩ <;> rw [phase] <;> rfl
  | drainsReply phase | drains phase =>
    have draining : worker.phase = .draining := phase
    refine .leaves (by rw [draining]; rfl) (by simp [LaneEffect.isOffWire]) ?_ ?_ ?_ <;>
      simp [emit, draining, WorkerPhase.isSending, WorkerPhase.isFresh, WorkerPhase.isReady]
  | yields phase | shutsQueue phase => exact .rests (by rw [phase]; rfl) silent rfl rfl
  | resumes phase | skips _ phase | bequeaths phase | diesOut phase | concludes phase | aborts phase
  | drainsDry phase => exact .leaves (by rw [phase]; rfl) silent rfl rfl rfl

end Worker

/-- A transmission writes its frame from the start, and is not taken for complete before its end. -/
structure Send.Sound (send : Send) : Prop where
  cut : send.written <+: send.frame.bytes
  whole : send.ended = some .sent → send.written = send.frame.bytes

/-- What is known of the transmissions on a connection and of the bytes on it. -/
structure Orderly (sends : List Send) (bytes : List UInt8) (phase : WorkerPhase) : Prop where
  bytes : bytes = sends.reverse.flatMap Send.written
  sound : ∀ send ∈ sends, send.Sound
  passed : ∀ send ∈ sends.tail, send.goesOn = true
  ready : phase.isReady = true → ∀ send ∈ sends, send.goesOn = true
  fresh : phase.isFresh = true → sends = []
  underway : ∀ issue unsent, phase = .sending issue unsent →
    ∃ send rest, sends = send :: rest ∧ send.ended = none ∧
      send.written ++ unsent = send.frame.bytes

section orderly

variable {transmissions : List Send} {bytes : List UInt8} {before after : WorkerPhase}
  {effects : List LaneEffect}

theorem LaneEffect.onSends_of_isOffWire {effect : LaneEffect} (quiet : effect.isOffWire = true)
    (transmissions : List Send) : effect.onSends transmissions = transmissions := by
  cases effect <;> first | rfl | cases quiet

theorem LaneEffect.onWire_of_isOffWire {effect : LaneEffect} (quiet : effect.isOffWire = true)
    (bytes : List UInt8) : effect.onWire bytes = bytes := by
  cases effect <;> first | rfl | cases quiet

theorem foldl_quiet {state : Type} {step : state → LaneEffect → state}
    (still : ∀ {effect : LaneEffect}, effect.isOffWire = true → ∀ start, step start effect = start)
    (quiet : ∀ effect ∈ effects, effect.isOffWire = true) (start : state) :
    effects.foldl step start = start := by
  induction effects with
  | nil => rfl
  | cons effect effects ih =>
    obtain ⟨first, others⟩ := List.forall_mem_cons.mp quiet
    rw [List.foldl_cons, still first]
    exact ih others

theorem Orderly.stay (orderly : Orderly transmissions bytes before)
    (quits : after.isSending = false) (fresh : after.isFresh = true → before.isFresh = true)
    (usable : after.isReady = true → before.isReady = true ∨ before.isFresh = true) :
    Orderly transmissions bytes after where
  bytes := orderly.bytes
  sound := orderly.sound
  passed := orderly.passed
  ready ready := by
    rcases usable ready with ready | unused
    · exact orderly.ready ready
    · rw [orderly.fresh unused]
      exact List.forall_mem_nil _
  fresh unused := orderly.fresh (fresh unused)
  underway issue unsent phase := absurd phase (WorkerPhase.ne_sending quits issue unsent)

theorem Orderly.begin (orderly : Orderly transmissions bytes before) (ready : before.isReady = true)
    (frame : Frame) (issue : Issue) :
    Orderly (⟨frame, [], none⟩ :: transmissions) bytes (.sending issue frame.bytes) where
  bytes := by simp [orderly.bytes]
  sound := List.forall_mem_cons.mpr ⟨⟨List.nil_prefix, fun sent => nomatch sent⟩, orderly.sound⟩
  -- Only a ready lane begins a frame, so it went on after each of those before.
  passed := orderly.ready ready
  ready ready := nomatch ready
  fresh fresh := nomatch fresh
  underway _ _ phase := by
    cases phase
    exact ⟨_, _, rfl, rfl, rfl⟩

theorem Orderly.write {issue : Issue} {unsent : List UInt8}
    (orderly : Orderly transmissions bytes (.sending issue unsent)) (count : Nat) :
    Orderly ((transmissions.modifyHead (.write (unsent.take count))).modifyHead (.finish none))
      (bytes ++ unsent.take count) (.sending issue (unsent.drop count)) := by
  obtain ⟨send, rest, rfl, _, split⟩ := orderly.underway issue unsent rfl
  have grown : (send.written ++ unsent.take count) ++ unsent.drop count = send.frame.bytes := by
    rw [List.append_assoc, List.take_append_drop, split]
  constructor
  case bytes => simp [orderly.bytes, Send.write, Send.finish]
  case sound =>
    have others := (List.forall_mem_cons.mp orderly.sound).2
    exact List.forall_mem_cons.mpr ⟨⟨⟨_, grown⟩, fun sent => nomatch sent⟩, others⟩
  case passed => exact orderly.passed
  case ready => exact fun ready => nomatch ready
  case fresh => exact fun fresh => nomatch fresh
  case underway =>
    intro _ _ phase
    cases phase
    exact ⟨_, _, rfl, rfl, grown⟩

theorem Orderly.finish {issue : Issue} {unsent : List UInt8} {how : SendEnd}
    (orderly : Orderly transmissions bytes (.sending issue unsent))
    (whole : how = .sent → unsent = []) (quits : after.isSending = false)
    (used : after.isFresh = false) (usable : after.isReady = true → how.goesOn = true) :
    Orderly (transmissions.modifyHead (.finish (some how))) bytes after := by
  obtain ⟨send, rest, rfl, _, split⟩ := orderly.underway issue unsent rfl
  obtain ⟨sound, others⟩ := List.forall_mem_cons.mp orderly.sound
  constructor
  case bytes => simp [orderly.bytes, Send.finish]
  case sound =>
    refine List.forall_mem_cons.mpr ⟨⟨sound.cut, fun sent => ?_⟩, others⟩
    rw [whole (Option.some.inj sent), List.append_nil] at split
    exact split
  case passed => exact orderly.passed
  case ready => exact fun ready => List.forall_mem_cons.mpr ⟨usable ready, orderly.passed⟩
  case fresh => exact fun fresh => nomatch used.symm.trans fresh
  case underway =>
    exact fun issue unsent phase => absurd phase (WorkerPhase.ne_sending quits issue unsent)

theorem Orderly.move {worker : Worker} {action : WorkerAction}
    (orderly : Orderly transmissions bytes worker.phase)
    (move : WireMove worker.phase action effects after) :
    Orderly (LaneStep.onSends transmissions ⟨worker, action, effects⟩)
      (effects.foldl LaneEffect.onWire bytes) after := by
  have idle (unsent : worker.phase.isSending = false) :
      LaneStep.onSends transmissions ⟨worker, action, effects⟩ =
        effects.foldl LaneEffect.onSends transmissions := by
    simp [LaneStep.onSends, unsent]
  have busy {issue : Issue} {unsent : List UInt8} (phase : worker.phase = .sending issue unsent) :
      LaneStep.onSends transmissions ⟨worker, action, effects⟩ =
        (effects.foldl LaneEffect.onSends transmissions).modifyHead
          (.finish (SendEnd.of? action)) := by
    simp [LaneStep.onSends, phase, WorkerPhase.isSending]
  cases move with
  | connects unsent =>
    rw [idle unsent]
    exact ⟨rfl, List.forall_mem_nil _, List.forall_mem_nil _, fun _ => List.forall_mem_nil _,
      fun _ => rfl, fun _ _ phase => nomatch phase⟩
  | begins ready =>
    rw [idle (WorkerPhase.not_sending_of_isReady ready)]
    exact orderly.begin ready _ _
  | writes phase going =>
    rw [busy phase, going]
    rw [phase] at orderly
    exact orderly.write _
  | ends phase ended whole quiet quits used usable =>
    rw [busy phase, ended, foldl_quiet LaneEffect.onSends_of_isOffWire quiet,
      foldl_quiet LaneEffect.onWire_of_isOffWire quiet]
    rw [phase] at orderly
    exact orderly.finish whole quits used usable
  | stays unsent quiet quits fresh usable =>
    rw [idle unsent, foldl_quiet LaneEffect.onSends_of_isOffWire quiet,
      foldl_quiet LaneEffect.onWire_of_isOffWire quiet]
    exact orderly.stay quits fresh usable

theorem flatMap_written (whole : ∀ send ∈ transmissions, ¬send.IsPartial) :
    ∃ frames : List Frame, transmissions.flatMap Send.written = frames.flatMap Frame.bytes ∧
      frames.Sublist (transmissions.map Send.frame) := by
  induction transmissions with
  | nil => exact ⟨[], rfl, .slnil⟩
  | cons send rest ih =>
    obtain ⟨first, others⟩ := List.forall_mem_cons.mp whole
    obtain ⟨frames, written, sent⟩ := ih others
    by_cases unwritten : send.written = []
    · refine ⟨frames, ?_, sent.cons _⟩
      rw [List.flatMap_cons, unwritten, List.nil_append, written]
    · have complete : send.written = send.frame.bytes :=
        Classical.byContradiction fun cut => first ⟨unwritten, cut⟩
      refine ⟨send.frame :: frames, ?_, sent.cons_cons _⟩
      rw [List.flatMap_cons, List.flatMap_cons, complete, written]

theorem Orderly.whole (orderly : Orderly transmissions bytes before)
    (untorn : ∀ send ∈ transmissions, ¬send.Torn) :
    ∀ send ∈ transmissions.tail, ¬send.IsPartial := by
  intro send member cut
  have known := List.mem_of_mem_tail member
  have goesOn := orderly.passed send member
  unfold Send.goesOn at goesOn
  cases ended : send.ended with
  | none => simp [ended] at goesOn
  | some how =>
    rw [ended, Option.any_some] at goesOn
    cases how with
    | sent => exact cut.2 ((orderly.sound send known).whole ended)
    | failed fault =>
      have kept : fault.kind.losesLink = false := by simpa [SendEnd.goesOn] using goesOn
      exact untorn send known ⟨fault, ended, kept, cut⟩
    | timedOut | cancelled => cases goesOn

end orderly

/-- Where frames are written, the last one perhaps not to its end, four bytes begin a frame. -/
theorem starts_with_frame {bytes rest : List UInt8} {frames : List Frame} {last : Frame}
    (split : bytes = frames.flatMap Frame.bytes ++ rest) (cut : rest <+: last.bytes)
    (enough : 4 ≤ bytes.length) : ∃ frame : Frame, bytes.take 4 = frame.bytes.take 4 := by
  cases frames with
  | nil =>
    obtain ⟨more, whole⟩ := cut
    rw [List.flatMap_nil, List.nil_append] at split
    refine ⟨last, ?_⟩
    rw [← whole, ← split, List.take_append_of_le_length enough]
  | cons frame frames =>
    have long : 4 ≤ frame.bytes.length := by
      have lower : headerLength ≤ frame.length := Nat.le_add_right ..
      have header : headerLength = 16 := rfl
      rw [frame.length_bytes]
      omega
    refine ⟨frame, ?_⟩
    rw [split, List.flatMap_cons, List.append_assoc, List.take_append_of_le_length long]

theorem sends_concat (log : List LaneStep) (step : LaneStep) :
    sends (log ++ [step]) = step.onSends (sends log) := by
  simp only [sends, List.foldl_append, List.foldl_cons, List.foldl_nil]

theorem outgoing_concat (log : List LaneStep) (step : LaneStep) :
    outgoing (log ++ [step]) = step.effects.foldl LaneEffect.onWire (outgoing log) := by
  simp only [outgoing, List.flatMap_append, List.flatMap_singleton, List.foldl_append]

namespace LaneRun

variable {scope : CursorScope} {log : List LaneStep} {worker : Worker}

theorem orderly (run : LaneRun scope log worker) :
    Orderly (sends log) (outgoing log) worker.phase := by
  induction run with
  | opened lane predecessor =>
    exact ⟨rfl, List.forall_mem_nil _, List.forall_mem_nil _, fun _ => List.forall_mem_nil _,
      fun _ => rfl, fun _ _ phase => by cases predecessor <;> cases phase⟩
  | fed _ _ ih => exact ih
  | steps _ _ step ih =>
    rw [sends_concat, outgoing_concat]
    exact ih.move step.wire_move
  | @inherits _ _ heir _ _ _ _ _ _ _ _ _ _ waiting _ step ih =>
    -- The connection of the worker before is counted as the lane's until the heir opens its own.
    rw [sends_concat, outgoing_concat]
    refine Orderly.move ?_ step.wire_move
    rw [waiting]
    exact ih.stay rfl (fun fresh => nomatch fresh) (fun usable => nomatch usable)

/-- Unless some frame is torn, the bytes on a connection are whole frames, in the order of their
    transmission, and at most one frame that is cut short, after which nothing is transmitted. -/
theorem frames_on_the_wire (run : LaneRun scope log worker)
    (untorn : ∀ send ∈ sends log, ¬send.Torn) :
    ∃ (frames : List Frame) (rest : List UInt8),
      outgoing log = frames.flatMap Frame.bytes ++ rest ∧
      frames.Sublist ((sends log).reverse.map Send.frame) ∧
      (rest = [] ∨ ∃ send, (sends log).head? = some send ∧ send.IsPartial ∧
        rest = send.written ∧ rest <+: send.frame.bytes) ∧
      ∀ send ∈ (sends log).tail, ¬send.IsPartial := by
  have orderly := run.orderly
  have whole := orderly.whole untorn
  rw [orderly.bytes]
  cases split : sends log with
  | nil => exact ⟨[], [], rfl, .slnil, .inl rfl, List.forall_mem_nil _⟩
  | cons newest earlier =>
    rw [split] at orderly whole
    by_cases cut : newest.IsPartial
    · have earlier_whole : ∀ send ∈ earlier.reverse, ¬send.IsPartial :=
        fun send member => whole send (List.mem_reverse.mp member)
      obtain ⟨frames, written, sent⟩ := flatMap_written earlier_whole
      have known := orderly.sound newest List.mem_cons_self
      refine ⟨frames, newest.written, ?_, ?_, .inr ⟨newest, rfl, cut, rfl, known.cut⟩, whole⟩
      · rw [List.reverse_cons, List.flatMap_append, written, List.flatMap_singleton]
      · rw [List.reverse_cons, List.map_append]
        exact sent.trans (List.sublist_append_left _ _)
    · have all_whole : ∀ send ∈ (newest :: earlier).reverse, ¬send.IsPartial := by
        intro send member
        rcases List.mem_cons.mp (List.mem_reverse.mp member) with rfl | before
        · exact cut
        · exact whole send before
      obtain ⟨frames, written, sent⟩ := flatMap_written all_whole
      exact ⟨frames, [], by rw [written, List.append_nil], sent, .inl rfl, whole⟩

end LaneRun

namespace SampleLane

def twoQueries : Worker := { queued with queue := [query, query] }

def walkedCut : Option (Worker × List LaneStep) :=
  twoQueries.walk? around shared
    ([.advance, .connected] ++ asked 77 ++ List.replicate 3 .advance ++ [.wrote 4, .timedOut])

/-- A fault strikes after three bytes of the first query, and the second one is written. -/
def walkedOn : Option (Worker × List LaneStep) :=
  twoQueries.walk? around shared
    ([.advance, .connected] ++ List.replicate 3 .advance ++
      [.wrote 3, .sendFailed ⟨.other, "host unreachable"⟩] ++ List.replicate 3 .advance ++
      [.wrote 16])

def cut : Worker × List LaneStep := walkedCut.get (by decide)

def wentOn : Worker × List LaneStep := walkedOn.get (by decide)

end SampleLane

/-- On the connection are the first query and four bytes of the second one. -/
theorem sampleLane_cuts_last_frame :
    LaneRun .lane SampleLane.cut.2 SampleLane.cut.1 ∧
      (∀ send ∈ sends SampleLane.cut.2, ¬send.Torn) ∧
      ∃ (frames : List Frame) (rest : List UInt8),
        outgoing SampleLane.cut.2 = frames.flatMap Frame.bytes ++ rest ∧
        frames.Sublist [SampleLane.query.frame, SampleLane.query.frame] ∧
        (rest = [] ∨ rest = SampleLane.query.frame.bytes.take 4) := by
  have steps : SampleLane.walkedCut = some SampleLane.cut := (Option.some_get _).symm
  have run := SampleLane.walks steps
  have transmissions : sends SampleLane.cut.2 =
      [⟨SampleLane.query.frame, SampleLane.query.frame.bytes.take 4, some .timedOut⟩,
        ⟨SampleLane.query.frame, SampleLane.query.frame.bytes, some .sent⟩] := rfl
  have untorn : ∀ send ∈ sends SampleLane.cut.2, ¬send.Torn := by
    simp [transmissions, Send.Torn]
  obtain ⟨frames, rest, bytes, sent, ending, _⟩ := run.frames_on_the_wire untorn
  rw [transmissions] at sent ending
  refine ⟨run, untorn, frames, rest, bytes, sent, ending.imp id ?_⟩
  rintro ⟨send, newest, _, written, _⟩
  cases newest
  exact written

/-- The second query follows the three bytes of the first one, and what is on the connection is not
    a sequence of any frames. -/
theorem second_frame_follows_partial_frame :
    LaneRun .lane SampleLane.wentOn.2 SampleLane.wentOn.1 ∧
      outgoing SampleLane.wentOn.2 =
        SampleLane.query.frame.bytes.take 3 ++ SampleLane.query.frame.bytes ∧
      ¬∃ (frames : List Frame) (rest : List UInt8) (last : Frame),
        outgoing SampleLane.wentOn.2 = frames.flatMap Frame.bytes ++ rest ∧
          rest <+: last.bytes := by
  have steps : SampleLane.walkedOn = some SampleLane.wentOn := (Option.some_get _).symm
  refine ⟨SampleLane.walks steps, rfl, ?_⟩
  rintro ⟨frames, rest, last, split, cut⟩
  obtain ⟨frame, same⟩ := starts_with_frame split cut (by decide)
  -- The length in front is that of the first query and one byte of the second one.
  have front : int32OfBytes ((outgoing SampleLane.wentOn.2).take 4) = 268435472 := rfl
  have fits := frame.body_le
  have length : (Int32.ofNat frame.length).toInt = frame.length :=
    Int32.toInt_ofNat_of_lt (Nat.lt_of_le_of_lt fits (by decide))
  rw [same, frame.declared_length] at front
  have large : (frame.length : Int) = 268435472 := by
    rw [← length, front]
    rfl
  have limit : frameLimit = 50331648 := rfl
  have small : frame.length ≤ frameLimit := fits
  omega

end TrafficReplay
