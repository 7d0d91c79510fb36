import TrafficReplay.Proofs.Authentication
import TrafficReplay.Proofs.Wire.Result
import TrafficReplay.Rehearsal.Login

namespace TrafficReplay

open Handshake (firstRequestId)

structure Frame.Succeeds (frame : Frame) (doc : Document) : Prop where
  read : frame.replyDocument = .ok doc
  summed : ∃ summary, frame.replySummary = .ok summary ∧ summary.failed = false
  told : doc.saysOk = true

/-- A payload of a conversation is a binary value that holds text. -/
def Document.Carries (doc : Document) (text : List Char) : Prop :=
  ∃ bytes, doc.generic? "payload" = some bytes ∧ Utf8.decodeChars 0 bytes = .ok text

namespace Handshake

variable {handshake : Handshake} {frame : Frame} {doc : Document} {text : List Char}

theorem succeeds_of_answer (answered : answer frame = .ok doc) : frame.Succeeds doc := by
  obtain ⟨read, told⟩ := answer_ok answered
  refine ⟨read, ?_, told⟩
  obtain ⟨_, _, answered⟩ := bind_eq_ok.mp answered
  obtain ⟨summary, summed, answered⟩ := bind_eq_ok.mp answered
  split at answered
  · cases answered
  · rename_i convincing
    simp only [Bool.or_eq_true, not_or, Bool.not_eq_true] at convincing
    exact ⟨summary, mapError_eq_ok.mp summed, convincing.1⟩

theorem carries_of_payload (held : answerPayload doc = .ok text) : doc.Carries text := by
  unfold answerPayload at held
  split at held
  · cases held
  · rename_i bytes carried
    exact ⟨bytes, carried, mapError_eq_ok.mp held⟩

inductive Receives (handshake : Handshake) (frame : Frame) :
    Except HandshakeFault Progress → Prop
  | passes (other : frame.responseTo ≠ handshake.requestId) :
      Receives handshake frame (.ok .waiting)
  | fails {fault : HandshakeFault} (own : frame.responseTo = handshake.requestId) :
      Receives handshake frame (.error fault)
  | proves {doc : Document} {conversation : Value} {text : List Char} {final : Scram.ClientFinal}
      {signature : List UInt8} {question : Frame} (own : frame.responseTo = handshake.requestId)
      (stage : handshake.stage = .opening) (success : frame.Succeeds doc)
      (named : doc.get? "conversationId" = some conversation) (carried : doc.Carries text)
      (answered : handshake.client.answer? text = some (final, signature))
      (asked : request handshake.source (firstRequestId + 1)
        (continuation conversation final.text) = .ok question) :
      Receives handshake frame
        (.ok (.asks question { handshake with stage := .proving conversation signature }))
  | finishes {doc : Document} {conversation : Value} {text : List Char} {signature : List UInt8}
      {question : Frame} (own : frame.responseTo = handshake.requestId)
      (stage : handshake.stage = .proving conversation signature) (success : frame.Succeeds doc)
      (carried : doc.Carries text) (accepted : Scram.signature? text = some signature)
      (asked : request handshake.source (firstRequestId + 2)
        (continuation conversation []) = .ok question) :
      Receives handshake frame (.ok (.asks question { handshake with stage := .finishing }))
  | verifies {doc : Document} {conversation : Value} {text : List Char} {signature : List UInt8}
      (own : frame.responseTo = handshake.requestId)
      (stage : handshake.stage = .proving conversation signature) (success : frame.Succeeds doc)
      (carried : doc.Carries text) (accepted : Scram.signature? text = some signature)
      (done : isDone doc = true) :
      Receives handshake frame (.ok .authenticated)
  | completes {doc : Document} (own : frame.responseTo = handshake.requestId)
      (stage : handshake.stage = .finishing) (success : frame.Succeeds doc)
      (done : isDone doc = true) :
      Receives handshake frame (.ok .authenticated)

theorem receives_opening (own : frame.responseTo = handshake.requestId)
    (stage : handshake.stage = .opening) (answered : answer frame = .ok doc) :
    handshake.Receives frame (handshake.receive frame) := by
  have success := succeeds_of_answer answered
  have same : ¬frame.responseTo ≠ handshake.requestId := not_not.mpr own
  simp only [receive, if_neg same, answered, stage, bind, Except.bind]
  cases named : doc.get? "conversationId" with
  | none => exact .fails own
  | some conversation =>
    cases held : answerPayload doc with
    | error fault => exact .fails own
    | ok text =>
      dsimp only
      cases given : handshake.client.answer? text with
      | none => exact .fails own
      | some pair =>
        obtain ⟨final, signature⟩ := pair
        dsimp only
        cases asked : request handshake.source (firstRequestId + 1)
            (continuation conversation final.text) with
        | error fault => exact .fails own
        | ok question =>
          exact .proves own stage success named (carries_of_payload held) given asked

theorem receives_proving {conversation : Value} {signature : List UInt8}
    (own : frame.responseTo = handshake.requestId)
    (stage : handshake.stage = .proving conversation signature) (answered : answer frame = .ok doc) :
    handshake.Receives frame (handshake.receive frame) := by
  have success := succeeds_of_answer answered
  have same : ¬frame.responseTo ≠ handshake.requestId := not_not.mpr own
  simp only [receive, if_neg same, answered, stage, bind, Except.bind]
  cases held : answerPayload doc with
  | error fault => exact .fails own
  | ok text =>
    have carried := carries_of_payload held
    dsimp only
    cases accepts : Scram.Client.accepts signature text with
    | false => exact .fails own
    | true =>
      have accepted : Scram.signature? text = some signature := of_decide_eq_true accepts
      simp only [Bool.not_true, Bool.false_eq_true, ↓reduceIte]
      cases done : isDone doc with
      | true => exact .verifies own stage success carried accepted done
      | false =>
        simp only [Bool.false_eq_true, ↓reduceIte]
        cases asked : request handshake.source (firstRequestId + 2)
            (continuation conversation []) with
        | error fault => exact .fails own
        | ok question => exact .finishes own stage success carried accepted asked

theorem receives (handshake : Handshake) (frame : Frame) :
    handshake.Receives frame (handshake.receive frame) := by
  by_cases other : frame.responseTo ≠ handshake.requestId
  · rw [receive, if_pos other]
    exact .passes other
  have own := not_not.mp other
  cases answered : answer frame with
  | error fault =>
    rw [receive, if_neg other, answered]
    exact .fails own
  | ok doc =>
    cases stage : handshake.stage with
    | opening => exact receives_opening own stage answered
    | proving conversation signature => exact receives_proving own stage answered
    | finishing =>
      have success := succeeds_of_answer answered
      simp only [receive, if_neg other, answered, stage, bind, Except.bind]
      cases done : isDone doc with
      | true => exact .completes own stage success done
      | false => exact .fails own

end Handshake

namespace Credentials

variable {credentials : Credentials} {nonce text : List Char}

def serverSignature (credentials : Credentials) (nonce text : List Char)
    (server : Scram.ServerFirst) : List UInt8 :=
  let salted := Hmac.stretch (Utf8.encode credentials.password) server.salt server.iterations
  let key := Hmac.sign salted (Utf8.encode "Server Key")
  let said := "n=".toList ++ credentials.userName.toList ++ ",r=".toList ++ nonce ++ ",".toList ++
    text ++ ",c=biws,r=".toList ++ server.nonce
  Hmac.sign key (Utf8.encodeChars said)

theorem expected_of_answer {final : Scram.ClientFinal} {signature : List UInt8}
    (given : (credentials.client nonce).answer? text = some (final, signature)) :
    ∃ server, Scram.ServerFirst.parse? text = some server ∧ nonce <+: server.nonce ∧
      signature = credentials.serverSignature nonce text server := by
  obtain ⟨server, parsed, given⟩ := Option.bind_eq_some_iff.mp given
  change (if (!nonce.isPrefixOf server.nonce) = true then none else some _) = _ at given
  split at given
  · cases given
  · rename_i extended
    obtain ⟨_, rfl⟩ := Prod.mk.inj (Option.some.inj given)
    have longer : nonce.isPrefixOf server.nonce = true := by simpa using extended
    have binding : Base64.encode (Utf8.encodeChars Scram.ClientFirst.plainBinding) = "biws".toList := by
      decide +kernel
    refine ⟨server, parsed, List.isPrefixOf_iff_prefix.mp longer, ?_⟩
    simp only [Scram.Keys.serverSignature, Scram.Keys.ofSalted, Scram.saltedPassword, serverSignature,
      Scram.conversation, Scram.ClientFinal.unproved, Scram.Client.first, Scram.ClientFirst.ofUser,
      binding, client]
    congr 2
    simp

/-- The first answer of a server that goes on with a conversation. -/
structure Challenges (credentials : Credentials) (nonce : List Char) (doc : Document)
    (conversation : Value) (final : Scram.ClientFinal) (signature : List UInt8) : Prop where
  named : doc.get? "conversationId" = some conversation
  message : ∃ text server, doc.Carries text ∧ Scram.ServerFirst.parse? text = some server ∧
    nonce <+: server.nonce ∧ signature = credentials.serverSignature nonce text server ∧
    (credentials.client nonce).answer? text = some (final, signature)

def script (credentials : Credentials) (nonce : List Char) (conversation : Value)
    (final : Scram.ClientFinal) : List Document :=
  [Handshake.greeting (credentials.client nonce), Handshake.continuation conversation final.text,
    Handshake.continuation conversation []]

def Asks (credentials : Credentials) (commands : List Document) (asked : List Frame) : Prop :=
  List.Forall₂ (fun command question => Frame.query (firstRequestId + Int32.ofNat command.2)
    (credentials.source ++ ".$cmd") 0 (-1) command.1 = .ok question) commands.zipIdx asked

def Questions (credentials : Credentials) (nonce : List Char) (asked : List Frame) : Prop :=
  ∃ conversation final count,
    credentials.Asks ((credentials.script nonce conversation final).take count) asked

end Credentials

def Round (requestId : Int32) (frames : List Frame) (doc : Document) : Prop :=
  ∃ strays answer, frames = strays ++ [answer] ∧ (∀ stray ∈ strays, stray.responseTo ≠ requestId) ∧
    answer.responseTo = requestId ∧ answer.Succeeds doc

inductive Signed (credentials : Credentials) (nonce : List Char) (first second : List Frame)
    (conversation : Value) (final : Scram.ClientFinal) (verdict : Document) : Prop
  | of_rounds {challenge : Document} {signature : List UInt8} {text : List Char}
      (opened : Round firstRequestId first challenge)
      (challenges : credentials.Challenges nonce challenge conversation final signature)
      (closed : Round (firstRequestId + 1) second verdict) (carried : verdict.Carries text)
      (accepted : Scram.signature? text = some signature)

/-- What has to be heard before a client is convinced, and what it has asked by then. -/
inductive Vouched (credentials : Credentials) (nonce : List Char) (frames asked : List Frame) : Prop
  | verified {first second rest : List Frame} {verdict : Document} {conversation : Value}
      {final : Scram.ClientFinal} (heard : frames = first ++ second ++ rest)
      (signed : Signed credentials nonce first second conversation final verdict)
      (done : verdict.bool? "done" = some true)
      (asks : credentials.Asks ((credentials.script nonce conversation final).take 2) asked)
  | completed {first second third rest : List Frame} {verdict ending : Document}
      {conversation : Value} {final : Scram.ClientFinal}
      (heard : frames = first ++ second ++ third ++ rest)
      (signed : Signed credentials nonce first second conversation final verdict)
      (ended : Round (firstRequestId + 2) third ending) (done : ending.bool? "done" = some true)
      (asks : credentials.Asks (credentials.script nonce conversation final) asked)

theorem Vouched.append {credentials : Credentials} {nonce : List Char} {frames asked : List Frame}
    (vouched : Vouched credentials nonce frames asked)
    (more : List Frame) : Vouched credentials nonce (frames ++ more) asked := by
  cases vouched with
  | @verified first second rest _ _ _ heard signed done asks =>
    have whole : frames ++ more = first ++ second ++ (rest ++ more) := by
      rw [heard, List.append_assoc _ rest]
    exact .verified whole signed done asks
  | @completed first second third rest _ _ _ _ heard signed ended done asks =>
    have whole : frames ++ more = first ++ second ++ third ++ (rest ++ more) := by
      rw [heard, List.append_assoc _ rest]
    exact .completed whole signed ended done asks

/-- A handshake from the client's end: where it has come to, and what has been asked. -/
structure Interview where
  client : Candidate
  asked : List Frame

namespace Interview

def opening (handshake : Handshake) : Interview :=
  match handshake.opening with
  | .ok question => ⟨.asking handshake, [question]⟩
  | .error fault => ⟨.failed fault, []⟩

def follow (interview : Interview) :
    Except HandshakeFault Handshake.Progress → Interview
  | .error fault => { interview with client := .failed fault }
  | .ok .waiting => interview
  | .ok (.asks question next) => ⟨.asking next, interview.asked ++ [question]⟩
  | .ok .authenticated => { interview with client := .authenticated }

def hear (interview : Interview) (frame : Frame) : Interview :=
  match interview.client with
  | .asking handshake => interview.follow (handshake.receive frame)
  | .authenticated | .failed _ => interview

def hearAll (interview : Interview) (frames : List Frame) : Interview := frames.foldl hear interview

def ofFrames (credentials : Credentials) (nonce : List Char) (frames : List Frame) : Interview :=
  (opening (.ofCredentials credentials nonce)).hearAll frames

variable {credentials : Credentials} {nonce : List Char} {interview : Interview}
  {frames strays more : List Frame} {frame : Frame}

theorem ofFrames_append (credentials : Credentials) (nonce : List Char) (frames more : List Frame) :
    ofFrames credentials nonce (frames ++ more) = (ofFrames credentials nonce frames).hearAll more :=
  List.foldl_append

theorem length_hear_le (interview : Interview) (frame : Frame) :
    (interview.hear frame).asked.length ≤ interview.asked.length + 1 := by
  unfold hear
  split
  · unfold follow
    split
    · exact Nat.le_succ _
    · exact Nat.le_succ _
    · exact Nat.le_of_eq List.length_append
    · exact Nat.le_succ _
  · exact Nat.le_succ _
  · exact Nat.le_succ _

theorem length_opening_le (handshake : Handshake) : (opening handshake).asked.length ≤ 1 := by
  unfold opening
  split
  · exact Nat.le_refl _
  · exact Nat.zero_le _

theorem length_asked_le (credentials : Credentials) (nonce : List Char) (frames : List Frame) :
    (ofFrames credentials nonce frames).asked.length ≤ frames.length + 1 := by
  have each (interview : Interview) :
      (interview.hearAll frames).asked.length ≤ interview.asked.length + frames.length := by
    induction frames generalizing interview with
    | nil => exact Nat.le_refl _
    | cons frame frames ih =>
      have rest := ih (interview.hear frame)
      have first := interview.length_hear_le frame
      rw [hearAll, List.foldl_cons, ← hearAll, List.length_cons]
      omega
  have all := each (opening (.ofCredentials credentials nonce))
  have first := length_opening_le (.ofCredentials credentials nonce)
  rw [ofFrames]
  omega

inductive Stands (credentials : Credentials) (nonce : List Char) :
    List Frame → Interview → Prop
  | opening {strays asked : List Frame} (passed : ∀ stray ∈ strays, stray.responseTo ≠ firstRequestId)
      (asks : credentials.Asks [Handshake.greeting (credentials.client nonce)] asked) :
      Stands credentials nonce strays ⟨.asking (.ofCredentials credentials nonce), asked⟩
  | proving {first strays asked : List Frame} {challenge : Document} {conversation : Value}
      {final : Scram.ClientFinal} {signature : List UInt8}
      (opened : Round firstRequestId first challenge)
      (challenges : credentials.Challenges nonce challenge conversation final signature)
      (passed : ∀ stray ∈ strays, stray.responseTo ≠ firstRequestId + 1)
      (asks : credentials.Asks ((credentials.script nonce conversation final).take 2) asked) :
      Stands credentials nonce (first ++ strays)
        ⟨.asking { Handshake.ofCredentials credentials nonce with
          stage := .proving conversation signature }, asked⟩
  | finishing {first second strays asked : List Frame} {verdict : Document} {conversation : Value}
      {final : Scram.ClientFinal}
      (signed : Signed credentials nonce first second conversation final verdict)
      (passed : ∀ stray ∈ strays, stray.responseTo ≠ firstRequestId + 2)
      (asks : credentials.Asks (credentials.script nonce conversation final) asked) :
      Stands credentials nonce (first ++ second ++ strays)
        ⟨.asking { Handshake.ofCredentials credentials nonce with stage := .finishing }, asked⟩
  | authenticated {frames asked : List Frame} (vouched : Vouched credentials nonce frames asked) :
      Stands credentials nonce frames ⟨.authenticated, asked⟩
  | failed {frames asked : List Frame} {fault : HandshakeFault}
      (asks : credentials.Questions nonce asked) :
      Stands credentials nonce frames ⟨.failed fault, asked⟩

theorem query_of_request {source : String} {requestId : Int32} {command : Document} {question : Frame}
    (asked : Handshake.request source requestId command = .ok question) :
    Frame.query requestId (source ++ ".$cmd") 0 (-1) command = .ok question :=
  mapError_eq_ok.mp asked

theorem stands_opening (credentials : Credentials) (nonce : List Char) :
    Stands credentials nonce [] (opening (.ofCredentials credentials nonce)) := by
  unfold opening
  cases opened : (Handshake.ofCredentials credentials nonce).opening with
  | error fault => exact .failed ⟨.null, ⟨[], [], []⟩, 0, .nil⟩
  | ok question =>
    exact .opening (List.forall_mem_nil _) (.cons (query_of_request opened) .nil)

theorem questions_of_greeting {asked : List Frame}
    (asks : credentials.Asks [Handshake.greeting (credentials.client nonce)] asked) :
    credentials.Questions nonce asked :=
  ⟨.null, ⟨[], [], []⟩, 1, asks⟩

theorem Stands.questions (stands : Stands credentials nonce frames interview) :
    credentials.Questions nonce interview.asked := by
  cases stands with
  | opening passed asks => exact questions_of_greeting asks
  | proving _ _ _ asks => exact ⟨_, _, 2, asks⟩
  | finishing _ _ asks => exact ⟨_, _, 3, asks⟩
  | authenticated vouched =>
    cases vouched with
    | verified _ _ _ asks => exact ⟨_, _, 2, asks⟩
    | completed _ _ _ _ asks => exact ⟨_, _, 3, asks⟩
  | failed asks => exact asks

theorem done_of_isDone {doc : Document} (done : Handshake.isDone doc = true) :
    doc.bool? "done" = some true := by
  unfold Handshake.isDone at done
  cases told : doc.bool? "done" with
  | none => simp [told] at done
  | some value =>
    rw [told, Option.getD_some] at done
    rw [done]

theorem passed_concat {requestId : Int32}
    (passed : ∀ stray ∈ strays, stray.responseTo ≠ requestId) (other : frame.responseTo ≠ requestId) :
    ∀ stray ∈ strays ++ [frame], stray.responseTo ≠ requestId := by
  intro stray member
  rcases List.mem_append.mp member with member | member
  · exact passed stray member
  · rwa [List.mem_singleton.mp member]

theorem round_concat {requestId : Int32} {doc : Document}
    (passed : ∀ stray ∈ strays, stray.responseTo ≠ requestId) (own : frame.responseTo = requestId)
    (success : frame.Succeeds doc) : Round requestId (strays ++ [frame]) doc :=
  ⟨strays, frame, rfl, passed, own, success⟩

theorem Stands.hear_opening {asked : List Frame}
    (passed : ∀ stray ∈ strays, stray.responseTo ≠ firstRequestId)
    (asks : credentials.Asks [Handshake.greeting (credentials.client nonce)] asked) (frame : Frame) :
    Stands credentials nonce (strays ++ [frame])
      (hear ⟨.asking (.ofCredentials credentials nonce), asked⟩ frame) := by
  have received := (Handshake.ofCredentials credentials nonce).receives frame
  simp only [hear]
  generalize (Handshake.ofCredentials credentials nonce).receive frame = result at received ⊢
  cases received with
  | passes other => exact .opening (passed_concat passed other) asks
  | fails => exact .failed (questions_of_greeting asks)
  | @proves doc conversation text final signature question own stage success named carried answered
      asked =>
    have opened := round_concat passed own success
    obtain ⟨server, parsed, extended, expected⟩ := Credentials.expected_of_answer answered
    obtain _ | ⟨greeted, _ | _⟩ := asks
    rw [← List.append_nil (strays ++ [frame])]
    exact .proving opened ⟨named, text, server, carried, parsed, extended, expected, answered⟩
      (List.forall_mem_nil _) (.cons greeted (.cons (query_of_request asked) .nil))
  | finishes own stage | verifies own stage | completes own stage => cases stage

theorem Stands.hear_proving {first asked : List Frame} {challenge : Document} {conversation : Value}
    {final : Scram.ClientFinal} {signature : List UInt8}
    (opened : Round firstRequestId first challenge)
    (challenges : credentials.Challenges nonce challenge conversation final signature)
    (passed : ∀ stray ∈ strays, stray.responseTo ≠ firstRequestId + 1)
    (asks : credentials.Asks ((credentials.script nonce conversation final).take 2) asked)
    (frame : Frame) : Stands credentials nonce (first ++ strays ++ [frame])
      (hear ⟨.asking { Handshake.ofCredentials credentials nonce with
        stage := .proving conversation signature }, asked⟩ frame) := by
  have received := Handshake.receives { Handshake.ofCredentials credentials nonce with
    stage := .proving conversation signature } frame
  simp only [hear]
  generalize Handshake.receive _ frame = result at received ⊢
  rw [List.append_assoc]
  cases received with
  | passes other => exact .proving opened challenges (passed_concat passed other) asks
  | fails => exact .failed ⟨_, _, 2, asks⟩
  | proves own stage | completes own stage => cases stage
  | finishes own stage success carried accepted asked =>
    cases stage
    have closed := round_concat passed own success
    obtain _ | ⟨greeted, _ | ⟨proved, _ | _⟩⟩ := asks
    rw [← List.append_nil (first ++ (strays ++ [frame]))]
    exact .finishing (.of_rounds opened challenges closed carried accepted) (List.forall_mem_nil _)
      (.cons greeted (.cons proved (.cons (query_of_request asked) .nil)))
  | verifies own stage success carried accepted done =>
    cases stage
    have closed := round_concat passed own success
    exact .authenticated (.verified (List.append_nil _).symm
      (.of_rounds opened challenges closed carried accepted) (done_of_isDone done) asks)

theorem Stands.hear_finishing {first second asked : List Frame} {verdict : Document}
    {conversation : Value} {final : Scram.ClientFinal}
    (signed : Signed credentials nonce first second conversation final verdict)
    (passed : ∀ stray ∈ strays, stray.responseTo ≠ firstRequestId + 2)
    (asks : credentials.Asks (credentials.script nonce conversation final) asked) (frame : Frame) :
    Stands credentials nonce (first ++ second ++ strays ++ [frame])
      (hear ⟨.asking { Handshake.ofCredentials credentials nonce with stage := .finishing }, asked⟩
        frame) := by
  have received := Handshake.receives
    { Handshake.ofCredentials credentials nonce with stage := .finishing } frame
  simp only [hear]
  generalize Handshake.receive _ frame = result at received ⊢
  rw [List.append_assoc]
  cases received with
  | passes other => exact .finishing signed (passed_concat passed other) asks
  | fails => exact .failed ⟨_, _, 3, asks⟩
  | proves own stage | finishes own stage | verifies own stage => cases stage
  | completes own stage success done =>
    have ended := round_concat passed own success
    exact .authenticated (.completed (List.append_nil _).symm signed ended (done_of_isDone done)
      asks)

theorem Stands.hear (stands : Stands credentials nonce frames interview) (frame : Frame) :
    Stands credentials nonce (frames ++ [frame]) (interview.hear frame) := by
  cases stands with
  | opening passed asks => exact hear_opening passed asks frame
  | proving opened challenges passed asks => exact hear_proving opened challenges passed asks frame
  | finishing signed passed asks => exact hear_finishing signed passed asks frame
  | authenticated vouched => exact .authenticated (vouched.append [frame])
  | failed asks => exact .failed asks

theorem Stands.hearAll (stands : Stands credentials nonce frames interview) (more : List Frame) :
    Stands credentials nonce (frames ++ more) (interview.hearAll more) := by
  induction more generalizing frames interview with
  | nil => rwa [List.append_nil]
  | cons frame more ih =>
    have next := ih (stands.hear frame)
    rwa [List.append_assoc] at next

theorem stands_ofFrames (credentials : Credentials) (nonce : List Char) (frames : List Frame) :
    Stands credentials nonce frames (ofFrames credentials nonce frames) :=
  (stands_opening credentials nonce).hearAll frames

theorem requestId_of_query {ns : String} {requestId skip limit : Int32} {command : Document}
    {question : Frame} (made : Frame.query requestId ns skip limit command = .ok question) :
    question.requestId = requestId :=
  (Frame.ofParts_ok made).2.2.1

/-- A client that goes on waits for the answer to its last question. -/
theorem Stands.waits {handshake : Handshake} (stands : Stands credentials nonce frames interview)
    (asking : interview.client = .asking handshake) :
    ∃ last, interview.asked.getLast? = some last ∧ last.requestId = handshake.requestId := by
  cases stands with
  | opening _ asks =>
    cases asking
    obtain _ | ⟨asked, _ | _⟩ := asks
    exact ⟨_, rfl, requestId_of_query asked⟩
  | proving _ _ _ asks =>
    cases asking
    obtain _ | ⟨_, _ | ⟨asked, _ | _⟩⟩ := asks
    exact ⟨_, rfl, requestId_of_query asked⟩
  | finishing _ _ asks =>
    cases asking
    obtain _ | ⟨_, _ | ⟨_, _ | ⟨asked, _ | _⟩⟩⟩ := asks
    exact ⟨_, rfl, requestId_of_query asked⟩
  | authenticated vouched | failed asks => cases asking

/-- Only an answer to its last question moves a client, and it asks one more question at most. -/
theorem Stands.moves (stands : Stands credentials nonce frames interview) (frame : Frame) :
    interview.hear frame = interview ∨
      ∃ last, interview.asked.getLast? = some last ∧ frame.responseTo = last.requestId ∧
        ((interview.hear frame).asked = interview.asked ∨
          ∃ question, (interview.hear frame).asked = interview.asked ++ [question]) := by
  cases asking : interview.client with
  | authenticated | failed =>
    left
    rw [Interview.hear, asking]
  | asking handshake =>
    obtain ⟨last, is_last, named⟩ := stands.waits asking
    have received := handshake.receives frame
    simp only [Interview.hear, asking]
    generalize handshake.receive frame = result at received ⊢
    cases received with
    | passes other => exact .inl rfl
    | fails own | verifies own | completes own =>
      exact .inr ⟨last, is_last, own.trans named.symm, .inl rfl⟩
    | proves own | finishes own =>
      exact .inr ⟨last, is_last, own.trans named.symm, .inr ⟨_, rfl⟩⟩

/-- Frames that answer anything but the last question are as good as none. -/
theorem hearAll_strays (stands : Stands credentials nonce frames interview)
    (apart : ∀ last ∈ interview.asked.getLast?, ∀ stray ∈ strays, stray.responseTo ≠ last.requestId) :
    interview.hearAll strays = interview := by
  induction strays generalizing frames with
  | nil => rfl
  | cons stray strays ih =>
    have still : interview.hear stray = interview := by
      rcases stands.moves stray with same | ⟨last, is_last, own, _⟩
      · exact same
      · exact absurd own (apart last is_last stray List.mem_cons_self)
    have heard := stands.hear stray
    rw [still] at heard
    rw [Interview.hearAll, List.foldl_cons, still]
    exact ih heard fun last is_last other member =>
      apart last is_last other (List.mem_cons_of_mem _ member)

theorem Stands.vouched (stands : Stands credentials nonce frames interview)
    (convinced : interview.client = .authenticated) :
    Vouched credentials nonce frames interview.asked := by
  cases stands with
  | authenticated vouched => exact vouched
  | opening | proving | finishing | failed => cases convinced

end Interview

end TrafficReplay
