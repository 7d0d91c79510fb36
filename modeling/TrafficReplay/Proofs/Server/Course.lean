import TrafficReplay.Proofs.Server.Handshake

namespace TrafficReplay

open TrafficReplay.Frame (Saying)

namespace Handshake

def greeting (client : Scram.Client) : Document :=
  [("saslStart", .int32 1), ("mechanism", .text scramMechanism),
    ("payload", payload client.first.text), ("autoAuthorize", .int32 1),
    ("options", .document [("skipEmptyExchange", .bool true)])]

def question (source : String) (command : Document) : Saying :=
  .query (source ++ Frame.commandSuffix) 0 (-1) command

structure Question (frame : Frame) (requestId : Int32) (name : String) (text : List Char) : Prop where
  requestId : frame.requestId = requestId
  command : Session.isCommand frame name = true
  payload : Session.payload frame = .ok text

structure Message (frame : Frame) (responseTo : Int32) (done : Bool) (text : List Char) : Prop where
  responseTo : frame.responseTo = responseTo
  answer : answer frame = .ok (Session.saslStep done text)

theorem suffix_clean {source : String} (clean : '\x00' ∉ source.toList) :
    '\x00' ∉ (source ++ Frame.commandSuffix).toList := by
  have plain : '\x00' ∉ Frame.commandSuffix.toList := by decide
  simp [clean, plain]

theorem question_asked {source name : String} {requestId : Int32} {command : Document}
    {text : List Char} (clean : '\x00' ∉ source.toList) (encodable : command.encode?.isSome)
    (plain : fieldsPlain command = true) (leads : Frame.leadingKey? command = some name)
    (carries : command.generic? "payload" = some (Utf8.encodeChars text))
    (fits : (question source command).size ≤ frameLimit) :
    ∃ frame, request source requestId command = .ok frame ∧ Question frame requestId name text := by
  obtain ⟨frame, built, own, _, code, _, read⟩ := Saying.built_as_said requestId
    (question source command) (by simpa [question, Saying.strings] using suffix_clean clean)
    (by simpa [question, Saying.documents] using encodable) fits
    (by simpa [question, Saying.documents] using plain)
  obtain ⟨_, _, asked, commanding, named⟩ := read
  have made : request source requestId command = .ok frame := by
    change ((question source command).build requestId).mapError _ = _
    rw [built]
    rfl
  have leading := named (commanding.mpr (by simp))
  refine ⟨frame, made, own, ?_, ?_⟩
  · have opCode : frame.opCode = .query := code
    simp [Session.isCommand, opCode, leading, leads]
  · simp only [Session.payload, asked, bind, Except.bind, carries, Utf8.decodeChars_encodeChars]
    rfl

def message (done : Bool) (text : List Char) : Saying :=
  .reply 0 0 0 0 [Session.saslStep done text]

theorem message_said (server : Server) (stage : SessionStage) (request : Frame) {done : Bool}
    {text : List Char} (fits : (message done text).size ≤ frameLimit) :
    ∃ frame, Session.say server stage request (Session.saslStep done text) =
        (server.countRequest, stage, .reply frame) ∧
      Message frame request.requestId done text := by
  have encodable : (Session.saslStep done text).encode?.isSome := rfl
  have built : (Saying.reply request.requestId 0 0 0 [Session.saslStep done text]).build
      server.countRequest.lastRequest = .ok _ :=
    Saying.build_eq_ok.mpr ⟨by simpa [Saying.documents] using encodable, fits, rfl⟩
  obtain ⟨own, read, summary, summed, good⟩ :=
    Session.reply_read built (Session.saslStep_plain done text)
  refine ⟨_, ?_, own, answer_of_success read summed good rfl⟩
  simp only [Session.say]
  split
  · rename_i frame made
    cases made.symm.trans built
    rfl
  · rename_i fault failed
    cases failed.symm.trans built

theorem receive_challenge {handshake : Handshake} {frame question : Frame} {text : List Char}
    {final : Scram.ClientFinal} {signature : List UInt8} (fresh : handshake.stage = .opening)
    (message : Message frame firstRequestId false text)
    (answered : handshake.client.answer? text = some (final, signature))
    (asked : request handshake.source (firstRequestId + 1)
      (continuation (.int32 1) final.text) = .ok question) :
    handshake.receive frame =
      .ok (.asks question { handshake with stage := .proving (.int32 1) signature }) := by
  have own : ¬frame.responseTo ≠ handshake.requestId := by
    rw [message.responseTo, requestId, fresh]
    exact not_not_intro rfl
  have conversation : (Session.saslStep false text).get? "conversationId" = some (.int32 1) := rfl
  simp only [receive, if_neg own, message.answer, fresh, bind, Except.bind, conversation,
    Session.answerPayload_saslStep, answered, asked]
  rfl

theorem receive_verifier {handshake : Handshake} {frame : Frame} {conversation : Value}
    {signature : List UInt8} (proving : handshake.stage = .proving conversation signature)
    (message : Message frame (firstRequestId + 1) true (Scram.verifierText signature)) :
    handshake.receive frame = .ok .authenticated := by
  have own : ¬frame.responseTo ≠ handshake.requestId := by
    rw [message.responseTo, requestId, proving]
    exact not_not_intro rfl
  have accepted : Scram.Client.accepts signature (Scram.verifierText signature) = true := by
    simp [Scram.Client.accepts]
  have done : isDone (Session.saslStep true (Scram.verifierText signature)) = true := rfl
  simp only [receive, if_neg own, message.answer, proving, bind, Except.bind,
    Session.answerPayload_saslStep, accepted, done]
  rfl

theorem length_saslStep (done : Bool) (text : List Char) :
    (Session.saslStep done text).bytes.length = (Utf8.encodeChars text).length + 58 := by
  have keys : (Utf8.encode "conversationId").length = 14 ∧ (Utf8.encode "done").length = 4 ∧
      (Utf8.encode "payload").length = 7 ∧ (Utf8.encode "ok").length = 2 := by decide +kernel
  simp [Document.bytes, Document.encode?, Session.saslStep, encodeFields, Value.encode?,
    length_frameFields, encodeCString]
  omega

theorem length_continuation (conversation : Int32) (text : List Char) :
    (continuation (.int32 conversation) text).bytes.length =
      (Utf8.encodeChars text).length + 57 := by
  have keys : (Utf8.encode "saslContinue").length = 12 ∧
      (Utf8.encode "conversationId").length = 14 ∧ (Utf8.encode "payload").length = 7 := by
    decide +kernel
  simp [Document.bytes, Document.encode?, continuation, payload, encodeFields, Value.encode?,
    length_frameFields, encodeCString]
  omega

theorem size_question (source : String) (command : Document) :
    (question source command).size =
      (Utf8.encode (source ++ Frame.commandSuffix)).length + command.bytes.length + 29 := by
  have header : headerLength = 16 := rfl
  simp only [question, Saying.size, Saying.body, List.length_append, List.length_cons,
    length_int32Bytes]
  omega

theorem verifier_fits {signature : List UInt8} (length : signature.length = Sha256.digestLength) :
    (message true (Scram.verifierText signature)).size ≤ frameLimit := by
  have chars : (Scram.verifierText signature).length = 46 := by
    simp [Scram.verifierText, Base64.length_encode, length, Sha256.digestLength]
  have bytes := Utf8.length_encodeChars_le (Scram.verifierText signature)
  have limit : 400 ≤ frameLimit := by decide
  have header : headerLength = 16 := rfl
  simp [message, Saying.size, Saying.body, length_saslStep]
  omega

def challenge (nonce serverNonce : List Char) : Saying :=
  message false (Scram.ServerFirst.text ⟨nonce ++ serverNonce, Session.salt, Session.iterations⟩)

end Handshake

namespace Credentials

variable (credentials : Credentials) (nonce serverNonce : List Char)

def client : Scram.Client := ⟨credentials.userName, credentials.password, nonce⟩

def account : Scram.Account := Session.account ⟨credentials.userName, credentials.password⟩

def opening : Saying :=
  Handshake.question credentials.source (Handshake.greeting (credentials.client nonce))

def closing (proof : List UInt8) : Saying :=
  Handshake.question credentials.source (Handshake.continuation (.int32 1)
    (Scram.ClientFinal.text ⟨Scram.ClientFirst.plainBinding, nonce ++ serverNonce, proof⟩))

/-- The server requires the user and extends the nonce without a comma, and the frames that carry
    the longer nonce are not too long. -/
structure Suits (server : Server) (serverNonce : List Char) : Prop where
  required : server.user = some ⟨credentials.userName, credentials.password⟩
  plain : ',' ∉ serverNonce
  challenge_fits : (Handshake.challenge nonce serverNonce).size ≤ frameLimit
  closing_fits : ∀ proof, proof.length = Sha256.digestLength →
    (credentials.closing nonce serverNonce proof).size ≤ frameLimit

end Credentials

namespace Parley

open Handshake

variable {credentials : Credentials} {nonce : List Char} {count : Nat} {parley after : Parley}

/-- Where a handshake that runs its course has come to after a number of steps. -/
inductive Course (credentials : Credentials) (nonce : List Char) : Nat → Parley → Prop
  | asked {frame : Frame}
      (question : Question frame firstRequestId "saslStart" (credentials.client nonce).first.text) :
      Course credentials nonce 0 ⟨.asking (.ofCredentials credentials nonce), [frame], .guarded, []⟩
  | challenged {serverNonce : List Char} {challenge : Scram.Challenge} {proof signature : List UInt8}
      {frame : Frame} (agreement : Scram.Agreement credentials.account (credentials.client nonce)
        serverNonce challenge proof signature)
      (fits : (credentials.closing nonce serverNonce proof).size ≤ frameLimit)
      (message : Message frame firstRequestId false challenge.text) :
      Course credentials nonce 1
        ⟨.asking (.ofCredentials credentials nonce), [], .challenged challenge, [frame]⟩
  | proving {serverNonce : List Char} {challenge : Scram.Challenge} {proof signature : List UInt8}
      {frame : Frame} (agreement : Scram.Agreement credentials.account (credentials.client nonce)
        serverNonce challenge proof signature)
      (question : Question frame (firstRequestId + 1) "saslContinue"
        (Scram.ClientFinal.text ⟨Scram.ClientFirst.plainBinding, nonce ++ serverNonce, proof⟩)) :
      Course credentials nonce 2
        ⟨.asking { Handshake.ofCredentials credentials nonce with
          stage := .proving (.int32 1) signature }, [frame], .challenged challenge, []⟩
  | proved {signature : List UInt8} {frame : Frame} {count : Nat} {stage : SessionStage}
      (granted : count = 3 ∧ stage = .granting ∨ count = 4 ∧ stage = .serving)
      (message : Message frame (firstRequestId + 1) true (Scram.verifierText signature)) :
      Course credentials nonce count
        ⟨.asking { Handshake.ofCredentials credentials nonce with
          stage := .proving (.int32 1) signature }, [], stage, [frame]⟩
  | convinced {count : Nat} {stage : SessionStage}
      (granted : count = 4 ∧ stage = .granting ∨ count = 5 ∧ stage = .serving) :
      Course credentials nonce count ⟨.authenticated, [], stage, []⟩

theorem course_opening (clean : '\x00' ∉ credentials.source.toList)
    (fits : (credentials.opening nonce).size ≤ frameLimit) :
    Course credentials nonce 0 (opening (.ofCredentials credentials nonce)) := by
  obtain ⟨frame, asked, question⟩ : ∃ frame, (Handshake.ofCredentials credentials nonce).opening =
      .ok frame ∧ Question frame firstRequestId "saslStart" (credentials.client nonce).first.text :=
    question_asked clean rfl rfl rfl rfl fits
  rw [opening, asked]
  exact .asked question

theorem length_source_lt (credentials : Credentials) (nonce : List Char) :
    credentials.source.toList.length < (credentials.opening nonce).size := by
  have bytes := Utf8.length_le_encodeChars (credentials.source ++ Frame.commandSuffix).toList
  rw [String.toList_append, List.length_append, ← String.toList_append] at bytes
  rw [Credentials.opening, size_question, Utf8.encode]
  omega

theorem opening_of_long (long : frameLimit ≤ credentials.source.toList.length) :
    ∃ fault, opening (.ofCredentials credentials nonce) = ⟨.failed fault, [], .guarded, []⟩ := by
  have opened : (Handshake.ofCredentials credentials nonce).opening =
    ((credentials.opening nonce).build firstRequestId).mapError .frame := rfl
  cases built : (credentials.opening nonce).build firstRequestId with
  | error fault =>
    refine ⟨.frame fault, ?_⟩
    rw [opening, opened, built]
    rfl
  | ok frame =>
    obtain ⟨_, fits, _⟩ := Saying.build_eq_ok.mp built
    exact absurd fits (Nat.not_le.mpr (Nat.lt_of_le_of_lt long (length_source_lt credentials nonce)))

theorem challenged_of_asked {server : Server} {serverNonce : List Char} {frame : Frame}
    (plain_name : ',' ∉ credentials.userName.toList) (plain_nonce : ',' ∉ nonce)
    (suits : credentials.Suits nonce server serverNonce)
    (question : Question frame firstRequestId "saslStart" (credentials.client nonce).first.text) :
    ∃ challenge proof signature reply, Scram.Agreement credentials.account
        (credentials.client nonce) serverNonce challenge proof signature ∧
      Message reply firstRequestId false challenge.text ∧
      Session.receive server .guarded serverNonce frame =
        (server.countRequest, .challenged challenge, .reply reply) := by
  have plain_count : ',' ∉ (toString Session.iterations).toList := by decide
  have count : Scram.ServerFirst.iterations? (toString Session.iterations).toList =
    some Session.iterations := by decide
  obtain ⟨challenge, proof, signature, agreement⟩ : ∃ challenge proof signature,
      Scram.Agreement credentials.account (credentials.client nonce) serverNonce challenge proof
        signature :=
    Scram.agreement rfl rfl plain_name plain_nonce suits.plain plain_count count
  have fits := suits.challenge_fits
  have same : (Scram.ServerFirst.text ⟨nonce ++ serverNonce, Session.salt, Session.iterations⟩) =
      challenge.text := by
    rw [Scram.Challenge.text, agreement.said]
    rfl
  rw [Handshake.challenge, same] at fits
  obtain ⟨reply, said, message⟩ := message_said server (.challenged challenge) frame fits
  rw [question.requestId] at message
  refine ⟨challenge, proof, signature, reply, agreement, message, ?_⟩
  have challenged : (Session.account ⟨credentials.userName, credentials.password⟩).challenge
    serverNonce (credentials.client nonce).first.text = .ok challenge := agreement.challenged
  simp only [Session.receive, if_pos question.command, Session.start, suits.required,
    question.payload, challenged, said]

theorem granted_of_proving {server : Server} {serverNonce other : List Char}
    {challenge : Scram.Challenge} {proof signature : List UInt8} {frame : Frame}
    (agreement : Scram.Agreement credentials.account (credentials.client nonce) serverNonce challenge
      proof signature)
    (question : Question frame (firstRequestId + 1) "saslContinue"
      (Scram.ClientFinal.text ⟨Scram.ClientFirst.plainBinding, nonce ++ serverNonce, proof⟩)) :
    ∃ reply, Message reply (firstRequestId + 1) true (Scram.verifierText signature) ∧
      Session.receive server (.challenged challenge) other frame =
        (server.countRequest, .granting, .reply reply) := by
  obtain ⟨reply, said, message⟩ := message_said server .granting frame
    (verifier_fits agreement.signature_length)
  rw [question.requestId] at message
  have proved : challenge.verdict? (Scram.ClientFinal.text
    ⟨Scram.ClientFirst.plainBinding, nonce ++ serverNonce, proof⟩) = some (.proved signature) :=
    agreement.proved
  refine ⟨reply, message, ?_⟩
  simp only [Session.receive, Session.conclude, if_pos question.command, question.payload, proved,
    said]

theorem proving_of_challenged {serverNonce : List Char} {challenge : Scram.Challenge}
    {proof signature : List UInt8} {frame : Frame} (clean : '\x00' ∉ credentials.source.toList)
    (agreement : Scram.Agreement credentials.account (credentials.client nonce) serverNonce challenge
      proof signature)
    (fits : (credentials.closing nonce serverNonce proof).size ≤ frameLimit)
    (message : Message frame firstRequestId false challenge.text) :
    ∃ question, Question question (firstRequestId + 1) "saslContinue"
        (Scram.ClientFinal.text ⟨Scram.ClientFirst.plainBinding, nonce ++ serverNonce, proof⟩) ∧
      (Handshake.ofCredentials credentials nonce).receive frame = .ok (.asks question
        { Handshake.ofCredentials credentials nonce with stage := .proving (.int32 1) signature }) := by
  obtain ⟨question, asked, read⟩ := question_asked clean rfl rfl rfl rfl fits
  exact ⟨question, read, receive_challenge rfl message agreement.answered asked⟩

-- Each stage has one frame underway and leaves one end to move; the server may still have to deliver
-- its last answer, before or after the client has read it.
theorem Course.step (clean : '\x00' ∉ credentials.source.toList)
    (plain_name : ',' ∉ credentials.userName.toList) (plain_nonce : ',' ∉ nonce)
    (course : Course credentials nonce count parley)
    (step : Step (credentials.Suits nonce) parley after) :
    Course credentials nonce (count + 1) after := by
  cases course with
  | asked question =>
    cases step with
    | serves suits next received =>
      cases next
      obtain ⟨challenge, proof, signature, reply, agreement, message, answered⟩ :=
        challenged_of_asked plain_name plain_nonce suits question
      cases received.symm.trans answered
      exact .challenged agreement (suits.closing_fits proof agreement.proof_length) message
    | delivers granting => cases granting
    | hears _ next => cases next
  | challenged agreement fits message =>
    cases step with
    | serves _ next _ => cases next
    | delivers granting => cases granting
    | hears asking next =>
      cases asking
      cases next
      obtain ⟨question, read, asks⟩ := proving_of_challenged clean agreement fits message
      rw [hear, asks]
      exact .proving agreement read
  | proving agreement question =>
    cases step with
    | serves _ next received =>
      cases next
      obtain ⟨reply, message, answered⟩ := granted_of_proving agreement question
      cases received.symm.trans answered
      exact .proved (.inl ⟨rfl, rfl⟩) message
    | delivers granting => cases granting
    | hears _ next => cases next
  | proved granted message =>
    cases step with
    | serves _ next _ => cases next
    | delivers granting =>
      obtain ⟨rfl, rfl⟩ : count = 3 ∧ _ = SessionStage.granting := by
        rcases granted with granted | ⟨_, serving⟩
        · exact granted
        · cases granting.symm.trans serving
      exact .proved (.inr ⟨rfl, rfl⟩) message
    | hears asking next =>
      cases asking
      cases next
      rw [hear, receive_verifier rfl message]
      exact .convinced (by simpa using granted)
  | convinced granted =>
    cases step with
    | serves _ next _ => cases next
    | delivers granting =>
      obtain ⟨rfl, rfl⟩ : count = 4 ∧ _ = SessionStage.granting := by
        rcases granted with granted | ⟨_, serving⟩
        · exact granted
        · cases granting.symm.trans serving
      exact .convinced (.inr ⟨rfl, rfl⟩)
    | hears asking next => cases asking

theorem Reaches.course (clean : '\x00' ∉ credentials.source.toList)
    (plain_name : ',' ∉ credentials.userName.toList) (plain_nonce : ',' ∉ nonce)
    (fits : (credentials.opening nonce).size ≤ frameLimit)
    (reached : Reaches (credentials.Suits nonce) (opening (.ofCredentials credentials nonce)) count
      parley) : Course credentials nonce count parley := by
  induction reached with
  | start => exact course_opening clean fits
  | step _ step ih => exact ih.step clean plain_name plain_nonce step

theorem Course.ends (course : Course credentials nonce count parley) :
    count ≤ 5 ∧ (parley.client = .authenticated ∨ parley.IsUnderway) := by
  cases course with
  | asked => exact ⟨by omega, .inr (.inl (List.cons_ne_nil _ _))⟩
  | challenged => exact ⟨by omega, .inr (.inr ⟨List.cons_ne_nil _ _, _, rfl⟩)⟩
  | proving => exact ⟨by omega, .inr (.inl (List.cons_ne_nil _ _))⟩
  | proved granted => exact ⟨by omega, .inr (.inr ⟨List.cons_ne_nil _ _, _, rfl⟩)⟩
  | convinced granted => exact ⟨by omega, .inl rfl⟩

theorem IsUnderway.goes_on {admits : Server → List Char → Prop} {server : Server}
    {serverNonce : List Char} (admitted : admits server serverNonce) (underway : parley.IsUnderway) :
    ∃ after, Step admits parley after := by
  rcases underway with toServer | ⟨toClient, handshake, asking⟩
  · obtain ⟨frame, rest, next⟩ := List.exists_cons_of_ne_nil toServer
    exact ⟨_, .serves admitted next rfl⟩
  · obtain ⟨frame, rest, next⟩ := List.exists_cons_of_ne_nil toClient
    exact ⟨_, .hears asking next⟩

/-- A client that knows the password gets there, however the handshake has gone so far. -/
theorem Reaches.convinced {server : Server} {serverNonce : List Char} {count : Nat} {parley : Parley}
    (clean : '\x00' ∉ credentials.source.toList) (plain_name : ',' ∉ credentials.userName.toList)
    (plain_nonce : ',' ∉ nonce) (fits : (credentials.opening nonce).size ≤ frameLimit)
    (suits : credentials.Suits nonce server serverNonce)
    (reached : Reaches (credentials.Suits nonce) (opening (.ofCredentials credentials nonce)) count
      parley) :
    ∃ later last, Reaches (credentials.Suits nonce) (opening (.ofCredentials credentials nonce)) later
      last ∧ last.client = .authenticated := by
  obtain ⟨few, authenticated | underway⟩ :=
    (reached.course clean plain_name plain_nonce fits).ends
  · exact ⟨count, parley, reached, authenticated⟩
  · obtain ⟨after, step⟩ := underway.goes_on suits
    exact Reaches.convinced clean plain_name plain_nonce fits suits (reached.step step)
termination_by 6 - count

end Parley

end TrafficReplay
