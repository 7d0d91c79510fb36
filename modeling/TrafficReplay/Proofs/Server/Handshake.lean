import TrafficReplay.Handshake
import TrafficReplay.Proofs.Scram.Agreement
import TrafficReplay.Proofs.Server.Gate
import TrafficReplay.Proofs.Wire.Build

namespace TrafficReplay

open TrafficReplay.Frame (Saying)

inductive Candidate where
  | asking (handshake : Handshake)
  | authenticated
  | failed (fault : HandshakeFault)

/-- A handshake over one connection: both ends, and the frames on their way. -/
structure Parley where
  client : Candidate
  toServer : List Frame
  stage : SessionStage
  toClient : List Frame

namespace Parley

def opening (handshake : Handshake) : Parley :=
  match handshake.opening with
  | .ok question => ⟨.asking handshake, [question], .guarded, []⟩
  | .error fault => ⟨.failed fault, [], .guarded, []⟩

def said : SessionAnswer → List Frame
  | .reply frame => [frame]
  | .nothing | .hangUp => []

def hear (parley : Parley) (handshake : Handshake) (frame : Frame) : Parley :=
  match handshake.receive frame with
  | .error fault => { parley with client := .failed fault }
  | .ok .waiting => parley
  | .ok (.asks question next) =>
    { parley with client := .asking next, toServer := parley.toServer ++ [question] }
  | .ok .authenticated => { parley with client := .authenticated }

/-- One end takes up a frame, or the server's last answer is delivered. What other connections do to
    the server in the meantime and which nonce it chooses is left open, within what is admitted. -/
inductive Step (admits : Server → List Char → Prop) (parley : Parley) : Parley → Prop
  | serves {server after : Server} {nonce : List Char} {frame : Frame} {rest : List Frame}
      {stage : SessionStage} {answer : SessionAnswer} (admitted : admits server nonce)
      (next : parley.toServer = frame :: rest)
      (received : Session.receive server parley.stage nonce frame = (after, stage, answer)) :
      Step admits parley { parley with
        toServer := rest, stage := stage, toClient := parley.toClient ++ said answer }
  | delivers (granting : parley.stage = .granting) :
      Step admits parley { parley with stage := .serving }
  | hears {handshake : Handshake} {frame : Frame} {rest : List Frame}
      (asking : parley.client = .asking handshake) (next : parley.toClient = frame :: rest) :
      Step admits parley ({ parley with toClient := rest }.hear handshake frame)

/-- What some number of steps can lead to. -/
inductive Reaches (admits : Server → List Char → Prop) (first : Parley) : Nat → Parley → Prop
  | start : Reaches admits first 0 first
  | step {count : Nat} {parley after : Parley} (reached : Reaches admits first count parley)
      (step : Step admits parley after) : Reaches admits first (count + 1) after

/-- The server applies the frames that come next on the connection. -/
def IsGranted (parley : Parley) : Prop := parley.stage = .granting ∨ parley.stage = .serving

/-- A frame is on its way to an end that will take it up. -/
def IsUnderway (parley : Parley) : Prop :=
  parley.toServer ≠ [] ∨ parley.toClient ≠ [] ∧ ∃ handshake, parley.client = .asking handshake

end Parley

namespace Handshake

def Spurns (handshake : Handshake) (frame : Frame) : Prop :=
  handshake.receive frame = .ok .waiting ∨ ∃ fault, handshake.receive frame = .error fault

theorem spurns_of_answer {handshake : Handshake} {frame : Frame} {fault : HandshakeFault}
    (refused : answer frame = .error fault) : handshake.Spurns frame := by
  by_cases own : frame.responseTo ≠ handshake.requestId
  · left
    simp only [receive, if_pos own]
    rfl
  · right
    refine ⟨fault, ?_⟩
    simp only [receive, if_neg own, refused, bind, Except.bind]

theorem answer_of_failure {frame : Frame} {doc : Document} (read : frame.replyDocument = .ok doc)
    (failed : doc.saysOk = false) : ∃ fault, answer frame = .error fault := by
  cases summary : frame.replySummary with
  | error fault => exact ⟨.frame fault, by simp only [answer, read, summary]; rfl⟩
  | ok summary =>
    simp only [answer, read, summary, Except.mapError, bind, Except.bind, failed, Bool.not_false,
      Bool.or_true, if_true]
    exact ⟨_, rfl⟩

theorem answer_of_success {frame : Frame} {doc : Document} {summary : ReplySummary}
    (read : frame.replyDocument = .ok doc) (summed : frame.replySummary = .ok summary)
    (good : summary.failed = false) (ok : doc.saysOk = true) : answer frame = .ok doc := by
  simp only [answer, read, summed, Except.mapError, bind, Except.bind, good, ok, Bool.not_true,
    Bool.or_false]
  rfl

end Handshake

namespace Session

theorem reply_read {requestId responseTo flags : Int32} {doc : Document} {frame : Frame}
    (made : Frame.reply requestId responseTo flags 0 0 [doc] = .ok frame)
    (plain : fieldsPlain doc = true) :
    frame.responseTo = responseTo ∧ frame.replyDocument = .ok doc ∧
      ∃ summary, frame.replySummary = .ok summary ∧
        summary.failed = (flags.toBitVec.getLsbD 0 || flags.toBitVec.getLsbD 1) := by
  obtain ⟨_, _, _, own⟩ := Frame.ofParts_ok made
  have built : (Saying.reply responseTo flags 0 0 [doc]).build requestId = .ok frame := made
  obtain ⟨_, ⟨summary, summed, _, _, failed⟩, read⟩ :=
    Saying.isReadIn_of_build built (List.forall_mem_nil _) (by simpa [Saying.documents] using plain)
  exact ⟨own, read, summary, summed, failed⟩

theorem saslStep_plain (done : Bool) (text : List Char) : fieldsPlain (saslStep done text) = true :=
  rfl

theorem say_reply {server after : Server} {stage after_stage : SessionStage} {request reply : Frame}
    {doc : Document} (said : say server stage request doc = (after, after_stage, .reply reply)) :
    Frame.reply server.nextRequest request.requestId 0 0 0 [doc] = .ok reply := by
  unfold say at said
  dsimp only at said
  split at said
  · rename_i frame made
    cases said
    exact made
  · cases said

theorem map_some_eq {made : Except FrameFault Frame} {reply : Frame}
    (answered : made.map some = .ok (some reply)) : made = .ok reply := by
  obtain ⟨_, read, same⟩ := map_eq_ok.mp answered
  cases same
  exact read

theorem refuse_read {server : Server} {request reply : Frame}
    (answered : (server.refuse request).2 = .ok (some reply)) :
    ∃ doc, reply.replyDocument = .ok doc ∧ doc.saysOk = false := by
  have plain : fieldsPlain Server.refusal = true := by decide +kernel
  unfold Server.refuse at answered
  dsimp only at answered
  split at answered
  · exact ⟨_, (reply_read (map_some_eq answered) (by decide +kernel)).2.1, rfl⟩
  · exact ⟨_, (reply_read (map_some_eq answered) (by decide +kernel)).2.1, rfl⟩
  · have built : (Saying.commandReply request.requestId Server.refusal).build
        (server.record request).countRequest.lastRequest = .ok reply := map_some_eq answered
    have read := Saying.isReadIn_of_build built (List.forall_mem_nil _)
      (by simpa [Saying.documents] using plain)
    exact ⟨_, read, rfl⟩
  · have built : (Saying.msg request.requestId Server.refusal).build
        (server.record request).countRequest.lastRequest = .ok reply := map_some_eq answered
    have read := Saying.isReadIn_of_build built (List.forall_mem_nil _)
      (by simpa [Saying.documents] using plain)
    exact ⟨_, read.2.2, rfl⟩
  · cases answered

theorem served_reply {stage after_stage : SessionStage} {outcome : Server.Outcome} {after : Server}
    {reply : Frame} (said : served stage outcome = (after, after_stage, .reply reply)) :
    outcome.2 = .ok (some reply) := by
  unfold served at said
  obtain ⟨server, answered⟩ := outcome
  dsimp only at said
  split at said
  · split at said
    · cases said
    · cases said
      rfl
  · cases said

theorem saslStep_generic (done : Bool) (text : List Char) :
    Document.generic? (saslStep done text) "payload" = some (Utf8.encodeChars text) := rfl

theorem answerPayload_saslStep (done : Bool) (text : List Char) :
    Handshake.answerPayload (saslStep done text) = .ok text := by
  simp only [Handshake.answerPayload, saslStep_generic, Utf8.decodeChars_encodeChars]
  rfl

theorem spurns_authFailed {server after : Server} {stage next : SessionStage}
    {request reply : Frame} (said : say server stage request authFailed = (after, next, .reply reply))
    (handshake : Handshake) : handshake.Spurns reply := by
  have read := (reply_read (say_reply said) (by decide +kernel)).2.1
  obtain ⟨fault, refused⟩ := Handshake.answer_of_failure read rfl
  exact Handshake.spurns_of_answer refused

theorem spurns_challenge {server after : Server} {stage next : SessionStage}
    {request reply : Frame} {challenge : Scram.Challenge}
    (said : say server stage request (saslStep false challenge.text) = (after, next, .reply reply))
    {handshake : Handshake} {conversation : Value} {signature : List UInt8}
    (proving : handshake.stage = .proving conversation signature) : handshake.Spurns reply := by
  obtain ⟨own, read, summary, summed, good⟩ := reply_read (say_reply said) (saslStep_plain ..)
  have answered := Handshake.answer_of_success read summed good rfl
  by_cases other : reply.responseTo ≠ handshake.requestId
  · left
    simp only [Handshake.receive, if_pos other]
    rfl
  · right
    refine ⟨.badSignature, ?_⟩
    simp only [Handshake.receive, if_neg other, answered, proving, answerPayload_saslStep, bind,
      Except.bind, Scram.Client.accepts, Scram.Challenge.text, Scram.signature?_first]
    rfl

theorem spurns_start {server after : Server} {next : SessionStage} {nonce : List Char}
    {frame reply : Frame} (started : start server nonce frame = (after, next, .reply reply))
    {handshake : Handshake} {conversation : Value} {signature : List UInt8}
    (proving : handshake.stage = .proving conversation signature) : handshake.Spurns reply := by
  unfold start at started
  split at started
  · cases started
  · split at started
    · cases started
    · split at started
      · cases started
      · exact spurns_authFailed started handshake
      · exact spurns_challenge started proving

theorem spurns_conclude {server after : Server} {next : SessionStage} {challenge : Scram.Challenge}
    {frame reply : Frame} (concluded : conclude server challenge frame = (after, next, .reply reply))
    (shut : ¬(next = .granting ∨ next = .serving)) (handshake : Handshake) :
    handshake.Spurns reply := by
  unfold conclude at concluded
  split at concluded
  · split at concluded
    · cases concluded
    · split at concluded
      · have same := congrArg (fun result => result.2.1) concluded
        rw [Visit.say_stage] at same
        exact absurd (.inl same.symm) shut
      · exact spurns_authFailed concluded handshake
  · exact spurns_authFailed concluded handshake

/-- A client that waits for a signature is not convinced by anything that a server says before it
    grants. -/
theorem spurns {server after : Server} {stage next : SessionStage} {nonce : List Char}
    {frame reply : Frame} (received : receive server stage nonce frame = (after, next, .reply reply))
    (shut : ¬(next = .granting ∨ next = .serving)) {handshake : Handshake} {conversation : Value}
    {signature : List UInt8} (proving : handshake.stage = .proving conversation signature) :
    handshake.Spurns reply := by
  have open_after (result : served .serving (server.handle frame) = (after, next, .reply reply)) :
      next = .serving := by
    have same := congrArg (fun result => result.2.1) result
    rw [Visit.served_stage] at same
    exact same.symm
  unfold receive at received
  split at received
  · split at received
    · exact spurns_start received proving
    · obtain ⟨doc, read, failed⟩ := refuse_read (served_reply received)
      obtain ⟨fault, refused⟩ := Handshake.answer_of_failure read failed
      exact Handshake.spurns_of_answer refused
  · exact spurns_conclude received shut handshake
  · exact absurd (.inr (open_after received)) shut
  · exact absurd (.inr (open_after received)) shut

end Session

namespace Parley

variable {admits : Server → List Char → Prop} {first parley after : Parley} {count : Nat}

/-- As long as the server does not grant, the client has no reason to be convinced. -/
inductive Sound (parley : Parley) : Prop
  | granted (granted : parley.IsGranted)
  | opening {handshake : Handshake} (client : parley.client = .asking handshake)
      (fresh : handshake.stage = .opening)
      (single : parley.toServer.length + parley.toClient.length ≤ 1)
  | proving {handshake : Handshake} {conversation : Value} {signature : List UInt8}
      (client : parley.client = .asking handshake)
      (proving : handshake.stage = .proving conversation signature)
      (spurned : ∀ frame ∈ parley.toClient, handshake.Spurns frame)
  | failed {fault : HandshakeFault} (client : parley.client = .failed fault)

theorem length_said (answer : SessionAnswer) : (said answer).length ≤ 1 := by
  cases answer <;> simp [said]

theorem sound_opening {handshake : Handshake} (fresh : handshake.stage = .opening) :
    (opening handshake).Sound := by
  unfold opening
  split
  · exact .opening rfl fresh (Nat.le_refl 1)
  · exact .failed rfl

theorem receive_opening {handshake : Handshake} {frame : Frame} (fresh : handshake.stage = .opening) :
    handshake.Spurns frame ∨ ∃ question next conversation signature,
      handshake.receive frame = .ok (.asks question next) ∧
        next.stage = .proving conversation signature := by
  by_cases own : frame.responseTo ≠ handshake.requestId
  · exact .inl (.inl (by simp only [Handshake.receive, if_pos own]; rfl))
  · cases answered : Handshake.answer frame with
    | error fault => exact .inl (Handshake.spurns_of_answer answered)
    | ok doc =>
      rw [Handshake.Spurns]
      cases conversing : doc.get? "conversationId" with
      | none =>
        exact .inl (.inr ⟨.noConversation, by
          simp only [Handshake.receive, if_neg own, answered, fresh, conversing, bind, Except.bind]
          rfl⟩)
      | some conversation =>
        cases read : Handshake.answerPayload doc with
        | error fault =>
          exact .inl (.inr ⟨fault, by
            simp only [Handshake.receive, if_neg own, answered, fresh, conversing, read, bind,
              Except.bind]⟩)
        | ok text =>
          cases answer : handshake.client.answer? text with
          | none =>
            exact .inl (.inr ⟨.badServerFirst, by
              simp only [Handshake.receive, if_neg own, answered, fresh, conversing, read, answer,
                bind, Except.bind]
              rfl⟩)
          | some answer_given =>
            obtain ⟨final, signature⟩ := answer_given
            simp only [Handshake.receive, if_neg own, answered, fresh, conversing, read, answer, bind,
              Except.bind]
            cases Handshake.request handshake.source (Handshake.firstRequestId + 1)
              (Handshake.continuation conversation final.text) with
            | error fault => exact .inl (.inr ⟨_, rfl⟩)
            | ok question => exact .inr ⟨_, _, _, _, rfl, rfl⟩

theorem hear_of_spurns {handshake : Handshake} {frame : Frame} (spurns : handshake.Spurns frame) :
    parley.hear handshake frame = parley ∨
      ∃ fault, (parley.hear handshake frame).client = .failed fault := by
  rcases spurns with waiting | ⟨fault, refused⟩
  · left
    rw [hear, waiting]
  · right
    exact ⟨fault, by rw [hear, refused]⟩

theorem hear_stage (parley : Parley) (handshake : Handshake) (frame : Frame) :
    (parley.hear handshake frame).stage = parley.stage := by
  unfold hear
  split <;> rfl

theorem Sound.step (sound : parley.Sound) (step : Step admits parley after) : after.Sound := by
  cases step with
  | delivers granting => exact .granted (.inr rfl)
  | @serves server server_after nonce frame rest stage answer admitted next received =>
    by_cases granted : stage = .granting ∨ stage = .serving
    · exact .granted granted
    · cases sound with
      | granted before =>
        have still := Session.Visit.result_of_granted ⟨server, nonce, frame⟩ before
        rw [Session.Visit.result, received] at still
        exact absurd (.inr still) granted
      | opening client fresh single =>
        -- One frame goes to and fro until the client asks again.
        have short := length_said answer
        rw [next, List.length_cons] at single
        exact .opening client fresh (by simp only [List.length_append]; omega)
      | proving client proving spurned =>
        -- Whatever a server that does not grant adds to the frames underway is spurned as they are.
        refine .proving client proving fun frame member => ?_
        rcases List.mem_append.mp member with member | member
        · exact spurned frame member
        · cases answer with
          | nothing | hangUp => cases member
          | reply reply =>
            cases List.mem_singleton.mp member
            exact Session.spurns received granted proving
      | failed client => exact .failed client
  | @hears handshake frame rest asking next =>
    cases sound with
    | granted before =>
      refine .granted ?_
      rw [IsGranted, hear_stage]
      exact before
    | @opening other client fresh single =>
      cases asking.symm.trans client
      rw [next, List.length_cons] at single
      rcases receive_opening fresh with spurns | ⟨question, going, conversation, signature, asks, proving⟩
      · rcases hear_of_spurns spurns with same | ⟨fault, failed⟩
        · rw [same]
          exact .opening client fresh (by dsimp only; omega)
        · exact .failed failed
      · have none : rest = [] := List.eq_nil_of_length_eq_zero (by omega)
        rw [hear, asks]
        exact .proving rfl proving (by simp [none])
    | @proving other conversation signature client proving spurned =>
      cases asking.symm.trans client
      rcases hear_of_spurns (spurned frame (by simp [next])) with same | ⟨fault, failed⟩
      · rw [same]
        exact .proving client proving fun frame member => spurned frame (by simp [next, member])
      · exact .failed failed
    | failed client => cases asking.symm.trans client

theorem Reaches.sound (sound : first.Sound) (reached : Reaches admits first count parley) :
    parley.Sound := by
  induction reached with
  | start => exact sound
  | step _ step ih => exact ih.step step

/-- The client is only convinced by a server that has granted. -/
theorem granted_of_authenticated {credentials : Credentials} {nonce : List Char}
    (reached : Reaches admits (opening (.ofCredentials credentials nonce)) count parley)
    (convinced : parley.client = .authenticated) : parley.IsGranted := by
  cases reached.sound (sound_opening rfl) with
  | granted granted => exact granted
  | opening client | proving client | failed client => cases convinced.symm.trans client

end Parley

end TrafficReplay
