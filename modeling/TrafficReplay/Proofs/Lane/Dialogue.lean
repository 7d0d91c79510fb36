import TrafficReplay.Proofs.Lane.Requests
import TrafficReplay.Proofs.Net.Framing
import TrafficReplay.Proofs.Wire.Reply

namespace TrafficReplay

/-- What a server says to a lane, and how much of it has arrived. -/
structure Channel where
  answers : List (Nat × Frame)
  /-- Bytes on their way to the lane. -/
  coming : List UInt8
  received : FrameBuffer

namespace Channel

def fresh : Channel := ⟨[], [], .empty⟩

def answer (channel : Channel) (number : Nat) (reply : Frame) : Channel :=
  { channel with
    answers := channel.answers ++ [(number, reply)]
    coming := channel.coming ++ reply.bytes }

def arrive (channel : Channel) (count : Nat) : Channel :=
  { channel with
    coming := channel.coming.drop count
    received := channel.received.append (channel.coming.take count) }

/-- What is left of the bytes that arrived when a worker is told something. Frames, and faults of
    frames, are read off these bytes. -/
def tell? (channel : Channel) : WorkerAction → Option Channel
  | .received frame =>
    match channel.received.next with
    | .ok (some (first, rest)) =>
      if first = frame then some { channel with received := rest } else none
    | _ => none
  | .receiveFailed (.frame fault) =>
    match channel.received.next with
    | .error found => if found = fault then some channel else none
    | .ok _ => none
  | _ => some channel

def after (channel : Channel) (effects : List LaneEffect) : Channel :=
  if .connects ∈ effects then { channel with coming := [], received := .empty } else channel

def hear? (channel : Channel) (step : LaneStep) : Option Channel :=
  (channel.tell? step.action).map fun left => left.after step.effects

@[simp] theorem after_answers (channel : Channel) (effects : List LaneEffect) :
    (channel.after effects).answers = channel.answers := by
  unfold after
  split <;> rfl

end Channel

/-- A run of a lane whose server answers each request at most once, any time after the lane has begun
    to send it, and with a readable reply that carries the id of the request. -/
inductive Dialogue (scope : CursorScope) : List LaneStep → Worker → Channel → Prop
  | opened (lane : LaneId) (predecessor : Option WorkerId) :
      Dialogue scope [] (.opened lane scope predecessor) .fresh
  | fed {log : List LaneStep} {worker : Worker} {channel : Channel}
      (dialogue : Dialogue scope log worker channel) (record : Record) :
      Dialogue scope log { worker with queue := worker.queue ++ [record] } channel
  | answers {log : List LaneStep} {worker : Worker} {channel : Channel}
      {request : Record × Frame} {reply : Frame} {summary : ReplySummary}
      (dialogue : Dialogue scope log worker channel) (number : Nat)
      (sent : (requestsOf log)[number]? = some request)
      (once : number ∉ channel.answers.map Prod.fst)
      (carries : reply.responseTo = request.2.requestId)
      (readable : reply.replySummary = .ok summary) :
      Dialogue scope log worker (channel.answer number reply)
  | arrives {log : List LaneStep} {worker : Worker} {channel : Channel}
      (dialogue : Dialogue scope log worker channel) (count : Nat) :
      Dialogue scope log worker (channel.arrive count)
  | steps {log : List LaneStep} {worker : Worker} {channel left : Channel}
      {around : Surroundings} {shared : Shared} {action : WorkerAction} {outcome : Worker.Outcome}
      (dialogue : Dialogue scope log worker channel)
      (own : ∀ memory, around.legacy ≠ .passed memory)
      (step : Worker.Step around worker shared action outcome)
      (told : channel.tell? action = some left) :
      Dialogue scope (log ++ [⟨worker, action, outcome.2.2⟩]) outcome.1 (left.after outcome.2.2)
  | inherits {log : List LaneStep} {old worker : Worker} {channel : Channel} {memory : LaneMemory}
      {around : Surroundings} {shared : Shared} {action : WorkerAction} {outcome : Worker.Outcome}
      (dialogue : Dialogue scope log old channel) (passed : old.handoff = .passed memory)
      {predecessor : WorkerId} (heir : LaneRun scope [] worker) (same : worker.lane = old.lane)
      (waiting : worker.phase = .succeeding predecessor)
      (legacy : around.legacy = .passed memory)
      (step : Worker.Step around worker shared action outcome) :
      Dialogue scope (log ++ [⟨worker, action, outcome.2.2⟩]) outcome.1 channel

theorem Dialogue.laneRun {scope : CursorScope} {log : List LaneStep} {worker : Worker}
    {channel : Channel} (dialogue : Dialogue scope log worker channel) :
    LaneRun scope log worker := by
  induction dialogue with
  | opened lane predecessor => exact .opened lane predecessor
  | fed _ record ih => exact ih.fed record
  | answers _ _ _ _ _ _ ih => exact ih
  | arrives _ _ ih => exact ih
  | steps _ own step _ ih => exact ih.steps own step
  | inherits _ passed heir same waiting legacy step ih =>
    exact ih.inherits passed heir same waiting legacy step

/-- An answer is readable and carries the id of the request that it answers. -/
structure Honest (sent : List (Record × Frame)) (answer : Nat × Frame) : Prop where
  asked : ∃ request, sent[answer.1]? = some request ∧
    answer.2.responseTo = request.1.requestId
  readable : ∃ summary, answer.2.replySummary = .ok summary

theorem Honest.more {sent : List (Record × Frame)} {answer : Nat × Frame}
    (honest : Honest sent answer) (more : List (Record × Frame)) : Honest (sent ++ more) answer := by
  obtain ⟨request, found, carries⟩ := honest.asked
  refine ⟨⟨request, ?_, carries⟩, honest.readable⟩
  obtain ⟨known, _⟩ := List.getElem?_eq_some_iff.mp found
  rw [List.getElem?_append_left known]
  exact found

/-- What is known of a lane that talks to a server. The bytes that it has not read yet are the replies
    that the server has given last. -/
structure Attuned (log : List LaneStep) (channel : Channel) : Prop where
  once : (channel.answers.map Prod.fst).Nodup
  honest : ∀ answer ∈ channel.answers, Honest (requestsOf log) answer
  unread : ∃ unread, unread <:+ channel.answers ∧
    channel.received.bytes ++ channel.coming = unread.flatMap fun answer => answer.2.bytes

namespace Attuned

variable {log : List LaneStep} {channel : Channel}

/-- What arrives is never refused, and a frame that is read is the first of the replies not read yet. -/
theorem next_cases (attuned : Attuned log channel) :
    (∀ fault, channel.received.next ≠ .error fault) ∧
      ∀ reply rest, channel.received.next = .ok (some (reply, rest)) →
        ∃ number unread, (number, reply) :: unread <:+ channel.answers ∧
          rest.bytes ++ channel.coming = unread.flatMap fun answer => answer.2.bytes := by
  obtain ⟨unread, recent, stream⟩ := attuned.unread
  have readable : ∀ answer ∈ unread, Frame.ofBytes answer.2.bytes = .ok answer.2 := by
    intro answer member
    obtain ⟨summary, found⟩ := (attuned.honest answer (recent.subset member)).readable
    exact Frame.ofBytes_bytes (Frame.canonical_of_replySummary found)
  have first := FrameBuffer.next_cases channel.received
  constructor
  · intro fault next
    rw [next] at first
    cases first with
    | refused refused =>
      have whole := refused.append channel.coming
      rw [stream] at whole
      cases unread with
      | nil => exact absurd whole.enough (by decide)
      | cons answer more =>
        exact whole.unframed answer.2 _ (readable answer List.mem_cons_self) List.flatMap_cons
  · intro reply rest next
    rw [next] at first
    cases first with
    | whole split read =>
      have frame_bytes := reply.bytes_ne_nil
      rw [split, List.append_assoc] at stream
      cases unread with
      | nil => exact absurd (List.append_eq_nil_iff.mp stream).1 frame_bytes
      | cons answer more =>
        rw [List.flatMap_cons] at stream
        obtain ⟨rfl, remains⟩ :=
          Frame.eq_of_append read (readable answer List.mem_cons_self) stream
        exact ⟨answer.1, more, recent, remains⟩

theorem tells (attuned : Attuned log channel) {action : WorkerAction} {left : Channel}
    (told : channel.tell? action = some left) :
    left.answers = channel.answers ∧
      (∃ unread, unread <:+ channel.answers ∧
        left.received.bytes ++ left.coming = unread.flatMap fun answer => answer.2.bytes) ∧
      (∀ fault, action ≠ .receiveFailed (.frame fault)) ∧
      ∀ reply, action = .received reply → ∃ number, (number, reply) ∈ channel.answers := by
  obtain ⟨sound, first⟩ := attuned.next_cases
  unfold Channel.tell? at told
  split at told
  · rename_i reply
    split at told
    · rename_i found rest next
      split at told
      · rename_i same
        cases told
        subst same
        obtain ⟨number, unread, recent, stream⟩ := first found rest next
        refine ⟨rfl, ⟨unread, (List.suffix_cons _ unread).trans recent, stream⟩, nofun, ?_⟩
        intro reply heard
        cases heard
        exact ⟨number, recent.subset List.mem_cons_self⟩
      · cases told
    · cases told
  · split at told
    · rename_i found next
      exact absurd next (sound found)
    · cases told
  · rename_i unheard intact
    cases told
    exact ⟨rfl, attuned.unread, intact, fun reply heard => absurd heard (unheard reply)⟩

theorem steps (attuned : Attuned log channel) {step : LaneStep} {left : Channel}
    (told : channel.tell? step.action = some left) :
    Attuned (log ++ [step]) (left.after step.effects) := by
  obtain ⟨same, stream, _⟩ := attuned.tells told
  have kept : (left.after step.effects).answers = channel.answers := by
    rw [Channel.after_answers, same]
  constructor
  case once =>
    rw [kept]
    exact attuned.once
  case honest =>
    rw [kept, requestsOf_concat]
    exact fun answer member => (attuned.honest answer member).more _
  case unread =>
    rw [kept]
    unfold Channel.after
    split
    · exact ⟨[], List.nil_suffix, rfl⟩
    · exact stream

end Attuned

theorem Dialogue.attuned {scope : CursorScope} {log : List LaneStep} {worker : Worker}
    {channel : Channel} (dialogue : Dialogue scope log worker channel) :
    Attuned log channel := by
  induction dialogue with
  | opened => exact ⟨List.nodup_nil, nofun, [], List.suffix_rfl, rfl⟩
  | fed _ _ ih => exact ih
  | @answers log worker channel request reply summary dialogue number sent once carries readable ih =>
    refine ⟨?_, ?_, ?_⟩
    · show ((channel.answers ++ [(number, reply)]).map Prod.fst).Nodup
      rw [List.map_append]
      refine List.nodup_append.mpr ⟨ih.once, List.pairwise_singleton _ _, ?_⟩
      intro earlier known later new same
      rw [same, List.mem_singleton.mp new] at known
      exact once known
    · have own := (dialogue.laneRun.sends.each request (List.mem_of_getElem? sent)).1
      have honest : Honest (requestsOf log) (number, reply) :=
        ⟨⟨request, sent, carries.trans own⟩, summary, readable⟩
      exact List.forall_mem_append.mpr ⟨ih.honest, List.forall_mem_singleton.mpr honest⟩
    -- The new reply waits behind everything that has not been read yet.
    · obtain ⟨unread, ⟨read, split⟩, stream⟩ := ih.unread
      refine ⟨unread ++ [(number, reply)], ⟨read, ?_⟩, ?_⟩
      · rw [← List.append_assoc, split]
        rfl
      · show channel.received.bytes ++ (channel.coming ++ reply.bytes) = _
        rw [← List.append_assoc, stream, List.flatMap_append, List.flatMap_singleton]
  | @arrives log worker channel _ count ih =>
    obtain ⟨unread, recent, stream⟩ := ih.unread
    refine ⟨ih.once, ih.honest, unread, recent, ?_⟩
    show channel.received.bytes ++ channel.coming.take count ++ channel.coming.drop count = _
    rw [List.append_assoc, List.take_append_drop, stream]
  | steps _ _ _ told ih => exact ih.steps told
  | inherits _ _ _ _ waiting _ step ih =>
    obtain ⟨nothing, _⟩ := step.begins waiting
    refine ⟨ih.once, ?_, ih.unread⟩
    rw [requestsOf_concat, nothing]
    exact fun answer member => (ih.honest answer member).more _

end TrafficReplay
