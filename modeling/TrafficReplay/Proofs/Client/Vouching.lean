import TrafficReplay.Proofs.Client.Interview
import TrafficReplay.Proofs.Net.Framing

namespace TrafficReplay

open Handshake (firstRequestId)

namespace Login

/-- What goes over a connection while a client moves: frames that it takes, and bytes that it sends. -/
inductive Exchange : Link → List Frame → List UInt8 → Link → Prop
  | still {link : Link} : Exchange link [] [] link
  | sends {link after last : Link} {bytes taken rest sent : List UInt8} {frames : List Frame}
      (written : link.send bytes = (.ok rest, after)) (parts : bytes = taken ++ rest)
      (more : Exchange after frames sent last) : Exchange link frames (taken ++ sent) last
  | takes {link after last : Link} {frame : Frame} {frames : List Frame} {sent : List UInt8}
      (received : link.receive = (.done (.ok frame), after))
      (more : Exchange after frames sent last) : Exchange link (frame :: frames) sent last
  | misses {link after last : Link} {outcome : Settled (Except ReceiveFault Frame)}
      {frames : List Frame} {sent : List UInt8} (received : link.receive = (outcome, after))
      (none : ∀ frame, outcome ≠ .done (.ok frame)) (more : Exchange after frames sent last) :
      Exchange link frames sent last

/-- Exchanges one after another. Between them anything may happen to the connection. -/
inductive Trades : List Link → List Frame → List UInt8 → Prop
  | none : Trades [] [] []
  | more {links : List Link} {frames taken : List Frame} {sent bytes : List UInt8} {link after : Link}
      (before : Trades links frames sent) (exchange : Exchange link taken bytes after) :
      Trades (links ++ [link]) (frames ++ taken) (sent ++ bytes)

/-- A client stands where an interview has come to, and has sent its questions up to what is unsent. -/
structure Attends (login : Login) (interview : Interview) (sent : List UInt8) : Prop where
  asking : interview.client = .asking login.handshake
  parts : interview.asked.flatMap Frame.bytes = sent ++ login.unsent

/-- What comes of a client is what comes of the interview, unless the connection breaks. -/
inductive Ends (login : Login) (interview : Interview) (sent : List UInt8) : Outcome → Prop
  | pending (attends : login.Attends interview sent) : Ends login interview sent .pending
  | authenticated (convinced : interview.client = .authenticated)
      (whole : interview.asked.flatMap Frame.bytes = sent) :
      Ends login interview sent (.done (.ok ()))
  | failed {fault : HandshakeFault} (failed : interview.client = .failed fault)
      (whole : interview.asked.flatMap Frame.bytes = sent) :
      Ends login interview sent (.done (.error fault))
  | broken {fault : HandshakeFault} (attends : login.Attends interview sent) :
      Ends login interview sent (.done (.error fault))

variable {login next : Login} {link after : Link} {interview : Interview} {sent : List UInt8}
  {outcome : Outcome}

theorem send_parts {bytes rest : List UInt8} (written : link.send bytes = (.ok rest, after)) :
    ∃ taken, bytes = taken ++ rest := by
  unfold Link.send at written
  split at written
  · cases written
    exact ⟨bytes, (List.append_nil bytes).symm⟩
  · split at written
    · cases written
    · cases written
      exact ⟨_, (List.take_append_drop _ bytes).symm⟩

theorem send_error {bytes : List UInt8} {fault : LinkFault}
    (refused : link.send bytes = (.error fault, after)) : after = link := by
  unfold Link.send at refused
  split at refused
  · cases refused
  · split at refused
    · cases refused
      rfl
    · cases refused

theorem Attends.hears (attends : login.Attends interview sent) (frame : Frame) :
    interview.hear frame = interview.follow (login.handshake.receive frame) := by
  simp only [Interview.hear, attends.asking]

theorem Attends.writes {taken rest : List UInt8} (attends : login.Attends interview sent)
    (parts : login.unsent = taken ++ rest) :
    Attends { login with unsent := rest } interview (sent ++ taken) :=
  ⟨attends.asking, by rw [attends.parts, parts, List.append_assoc]⟩

/-- Nothing but questions has been sent, whatever comes of a client. -/
theorem Ends.sends_questions (ends : login.Ends interview sent outcome) :
    sent <+: interview.asked.flatMap Frame.bytes := by
  cases ends with
  | pending attends | broken attends => exact ⟨_, attends.parts.symm⟩
  | authenticated _ whole | failed _ whole =>
    exact ⟨[], (List.append_nil sent).trans whole.symm⟩

theorem Ends.convinced (ends : login.Ends interview sent (.done (.ok ()))) :
    interview.client = .authenticated ∧ interview.asked.flatMap Frame.bytes = sent := by
  cases ends with
  | authenticated convinced whole => exact ⟨convinced, whole⟩

theorem proceed_ends {fuel : Nat} (attends : login.Attends interview sent)
    (proceeded : login.proceed fuel link = (outcome, next, after)) : ∃ frames bytes,
      Exchange link frames bytes after ∧
        next.Ends (interview.hearAll frames) (sent ++ bytes) outcome := by
  -- By the rounds that are left: each that goes on leaves a login that attends the interview again.
  induction fuel generalizing login link interview sent with
  | zero =>
    cases proceeded
    exact ⟨[], [], .still, .pending (by rwa [List.append_nil])⟩
  | succ fuel ih =>
    rw [proceed] at proceeded
    split at proceeded
    · rename_i idle
      have whole : interview.asked.flatMap Frame.bytes = sent := by
        rw [attends.parts, List.isEmpty_iff.mp idle, List.append_nil]
      split at proceeded
      · rename_i link received
        cases proceeded
        exact ⟨[], [], .misses received nofun .still, .pending (by rwa [List.append_nil])⟩
      · rename_i fault link received
        cases proceeded
        exact ⟨[], [], .misses received nofun .still, .broken (by rwa [List.append_nil])⟩
      · rename_i frame link received
        have hears := attends.hears frame
        split at proceeded
        · rename_i fault told
          cases proceeded
          rw [told] at hears
          refine ⟨[frame], [], .takes received .still, .failed ?_ ?_⟩
          · exact congrArg Interview.client hears
          · rw [List.append_nil, ← whole]
            exact congrArg (·.asked.flatMap Frame.bytes) hears
        · rename_i told
          cases proceeded
          rw [told] at hears
          refine ⟨[frame], [], .takes received .still, .authenticated ?_ ?_⟩
          · exact congrArg Interview.client hears
          · rw [List.append_nil, ← whole]
            exact congrArg (·.asked.flatMap Frame.bytes) hears
        · rename_i told
          have same : interview.hear frame = interview := by
            rw [hears, told]
            rfl
          obtain ⟨frames, bytes, exchange, ends⟩ := ih attends proceeded
          rw [← same] at ends
          exact ⟨frame :: frames, bytes, .takes received exchange, ends⟩
        · rename_i question going told
          have asks : Attends ⟨going, question.bytes⟩ (interview.hear frame) sent := by
            rw [hears, told]
            exact ⟨rfl, by simp [Interview.follow, whole]⟩
          obtain ⟨frames, bytes, exchange, ends⟩ := ih asks proceeded
          exact ⟨frame :: frames, bytes, .takes received exchange, ends⟩
    · split at proceeded
      · rename_i fault link written
        cases proceeded
        rw [send_error written]
        exact ⟨[], [], .still, .broken (by rwa [List.append_nil])⟩
      · rename_i rest link written
        obtain ⟨taken, parts⟩ := send_parts written
        have writes := attends.writes parts
        split at proceeded
        · rename_i none
          rw [List.isEmpty_iff.mp none] at writes
          obtain ⟨frames, bytes, exchange, ends⟩ := ih writes proceeded
          rw [List.append_assoc] at ends
          exact ⟨frames, taken ++ bytes, .sends written parts exchange, ends⟩
        · cases proceeded
          refine ⟨[], taken ++ [], .sends written parts .still, .pending ?_⟩
          rwa [List.append_nil]

/-- A client that has begun a handshake, was called over one connection after another, and has not come
    to an end. -/
inductive Calls (credentials : Credentials) (nonce : List Char) : Login → List Link → Prop
  | begun {question : Frame}
      (opened : (Handshake.ofCredentials credentials nonce).opening = .ok question) :
      Calls credentials nonce ⟨.ofCredentials credentials nonce, question.bytes⟩ []
  | goes_on {login next : Login} {link after : Link} {links : List Link}
      (calls : Calls credentials nonce login links)
      (advanced : login.advance link = (.pending, next, after)) :
      Calls credentials nonce next (links ++ [link])

theorem Calls.attends {credentials : Credentials} {nonce : List Char} {links : List Link}
    (calls : Calls credentials nonce login links) : ∃ frames sent, Trades links frames sent ∧
      login.Attends (.ofFrames credentials nonce frames) sent := by
  induction calls with
  | @begun question opened =>
    have begun : Interview.ofFrames credentials nonce [] =
        ⟨.asking (.ofCredentials credentials nonce), [question]⟩ := by
      rw [Interview.ofFrames, Interview.opening, opened]
      rfl
    exact ⟨[], [], .none, by rw [begun], by rw [begun]; simp⟩
  | goes_on _ advanced ih =>
    obtain ⟨frames, sent, trades, attends⟩ := ih
    obtain ⟨taken, bytes, exchange, ends⟩ := proceed_ends attends advanced
    cases ends with
    | pending attends =>
      refine ⟨_, _, .more trades exchange, ?_⟩
      rwa [Interview.ofFrames_append]

theorem Calls.ends {credentials : Credentials} {nonce : List Char} {links : List Link}
    (calls : Calls credentials nonce login links)
    (advanced : login.advance link = (outcome, next, after)) : ∃ frames sent,
      Trades (links ++ [link]) frames sent ∧
      next.Ends (.ofFrames credentials nonce frames) sent outcome := by
  obtain ⟨frames, sent, trades, attends⟩ := calls.attends
  obtain ⟨taken, bytes, exchange, ends⟩ := proceed_ends attends advanced
  rw [← Interview.ofFrames_append] at ends
  exact ⟨_, _, .more trades exchange, ends⟩

theorem proceed_sends {fuel : Nat} (busy : login.unsent ≠ []) (opened : link.toPeer.closed = false)
    (room : link.toPeer.held.length + login.unsent.length ≤ link.toPeer.capacity) :
    login.proceed (fuel + 1) link = proceed fuel { login with unsent := [] }
      { link with toPeer := { link.toPeer with held := link.toPeer.held ++ login.unsent } } := by
  have enough : login.unsent.length ≤ link.toPeer.room := by
    rw [Pipe.room]
    omega
  have idle : ¬login.unsent.isEmpty = true := by simpa using busy
  rw [proceed, if_neg idle]
  simp only [Link.send, if_neg idle, opened, Bool.false_eq_true, ↓reduceIte, Pipe.write,
    List.drop_of_length_le enough, List.take_of_length_le enough, List.isEmpty_nil]

theorem receive_frame {frame : Frame} {rest : List UInt8} (quiet : link.toClient.held = [])
    (held : link.received = ⟨frame.bytes ++ rest⟩) (read : Frame.ofBytes frame.bytes = .ok frame) :
    link.receive = (.done (.ok frame), { link with received := ⟨rest⟩ }) := by
  obtain ⟨received, toPeer, toClient⟩ := link
  obtain ⟨capacity, bytes, closed⟩ := toClient
  dsimp only at quiet held
  subst quiet held
  simp only [Link.receive, Link.waits, List.isEmpty_nil, ↓reduceIte]
  rw [FrameBuffer.receive, FrameBuffer.next_of_frame read]
  rfl

theorem proceed_asks {fuel : Nat} {frame question : Frame} {going : Handshake} {rest : List UInt8}
    (idle : login.unsent = []) (quiet : link.toClient.held = [])
    (held : link.received = ⟨frame.bytes ++ rest⟩) (read : Frame.ofBytes frame.bytes = .ok frame)
    (asks : login.handshake.receive frame = .ok (.asks question going)) :
    login.proceed (fuel + 1) link =
      proceed fuel ⟨going, question.bytes⟩ { link with received := ⟨rest⟩ } := by
  have whole : login.unsent.isEmpty = true := List.isEmpty_iff.mpr idle
  simp only [proceed, whole, ↓reduceIte, receive_frame quiet held read, asks]

theorem proceed_authenticated {fuel : Nat} {frame : Frame} {rest : List UInt8}
    (idle : login.unsent = []) (quiet : link.toClient.held = [])
    (held : link.received = ⟨frame.bytes ++ rest⟩) (read : Frame.ofBytes frame.bytes = .ok frame)
    (verifies : login.handshake.receive frame = .ok .authenticated) :
    login.proceed (fuel + 1) link = (.done (.ok ()), login, { link with received := ⟨rest⟩ }) := by
  have whole : login.unsent.isEmpty = true := List.isEmpty_iff.mpr idle
  simp only [proceed, whole, ↓reduceIte, receive_frame quiet held read, verifies]

theorem advance_authenticated {handshake going : Handshake} {first second question : Frame}
    {unsent : List UInt8} (busy : unsent ≠ [])
    (asks : handshake.receive first = .ok (.asks question going))
    (verifies : going.receive second = .ok .authenticated)
    (read : Frame.ofBytes first.bytes = .ok first)
    (read_too : Frame.ofBytes second.bytes = .ok second) :
    ∃ link next after, advance ⟨handshake, unsent⟩ link = (.done (.ok ()), next, after) := by
  let capacity := unsent.length + question.bytes.length
  let link : Link :=
    ⟨⟨first.bytes ++ (second.bytes ++ [])⟩, ⟨capacity, [], false⟩, ⟨0, [], false⟩⟩
  let after : Link := ⟨⟨[]⟩, ⟨capacity, unsent ++ question.bytes, false⟩, ⟨0, [], false⟩⟩
  have some_first := List.length_pos_iff.mpr first.bytes_ne_nil
  have some_second := List.length_pos_iff.mpr second.bytes_ne_nil
  obtain ⟨fuel, enough⟩ : ∃ fuel,
      link.received.bytes.length + link.toClient.held.length + 2 = fuel + 4 := by
    refine ⟨first.bytes.length + second.bytes.length - 2, ?_⟩
    simp only [link, List.length_append, List.length_nil]
    omega
  refine ⟨link, ⟨going, []⟩, after, ?_⟩
  rw [advance, enough, proceed_sends busy rfl (by simp [link, capacity]),
    proceed_asks rfl rfl rfl read asks,
    proceed_sends question.bytes_ne_nil rfl (by simp [link, capacity])]
  exact proceed_authenticated rfl rfl rfl read_too verifies

end Login

namespace Interview

variable {credentials : Credentials} {nonce : List Char}

theorem length_of_questions {asked : List Frame} (questions : credentials.Questions nonce asked) :
    asked.length ≤ 3 := by
  obtain ⟨conversation, final, count, asks⟩ := questions
  have same := asks.length_eq
  rw [List.length_zipIdx, List.length_take] at same
  have three : (credentials.script nonce conversation final).length = 3 := rfl
  omega

/-- Whatever comes back to a client, it is convinced only by what has been signed with the keys of the
    password. It asks three questions at most, each when the one before has been answered, and takes no
    notice of anything but answers. So do clients over connections, which send nothing else. -/
theorem convinced_by_keys_only (credentials : Credentials) (nonce : List Char) :
    (∀ frames, (ofFrames credentials nonce frames).client = .authenticated →
      Vouched credentials nonce frames (ofFrames credentials nonce frames).asked) ∧
    (∀ frames, credentials.Questions nonce (ofFrames credentials nonce frames).asked ∧
      (ofFrames credentials nonce frames).asked.length ≤ min 3 (frames.length + 1)) ∧
    (∀ frames frame, (ofFrames credentials nonce (frames ++ [frame])).asked =
        (ofFrames credentials nonce frames).asked ∨
      ∃ last question, (ofFrames credentials nonce frames).asked.getLast? = some last ∧
        frame.responseTo = last.requestId ∧ (ofFrames credentials nonce (frames ++ [frame])).asked =
          (ofFrames credentials nonce frames).asked ++ [question]) ∧
    (∀ frames strays later, (∀ last ∈ (ofFrames credentials nonce frames).asked.getLast?,
        ∀ stray ∈ strays, stray.responseTo ≠ last.requestId) →
      ofFrames credentials nonce (frames ++ (strays ++ later)) =
        ofFrames credentials nonce (frames ++ later)) ∧
    ∀ login links link outcome next after, Login.Calls credentials nonce login links →
      login.advance link = (outcome, next, after) → ∃ frames sent,
        Login.Trades (links ++ [link]) frames sent ∧
        sent <+: (ofFrames credentials nonce frames).asked.flatMap Frame.bytes ∧
        (outcome = .done (.ok ()) →
          Vouched credentials nonce frames (ofFrames credentials nonce frames).asked ∧
          (ofFrames credentials nonce frames).asked.flatMap Frame.bytes = sent) := by
  have vouched (frames : List Frame) := (stands_ofFrames credentials nonce frames).vouched
  refine ⟨vouched, fun frames => ?_, fun frames frame => ?_, fun frames strays later apart => ?_, ?_⟩
  · have questions := (stands_ofFrames credentials nonce frames).questions
    exact ⟨questions, Nat.le_min.mpr ⟨length_of_questions questions, length_asked_le ..⟩⟩
  · rw [ofFrames_append]
    rcases (stands_ofFrames credentials nonce frames).moves frame with
      same | ⟨last, is_last, own, same | ⟨question, asks⟩⟩
    · exact .inl (congrArg asked same)
    · exact .inl same
    · exact .inr ⟨last, question, is_last, own, asks⟩
  · have still := hearAll_strays (stands_ofFrames credentials nonce frames) apart
    rw [← List.append_assoc, ofFrames_append, ofFrames_append, still, ofFrames_append]
  · intro login links link outcome next after calls advanced
    obtain ⟨frames, sent, trades, ends⟩ := calls.ends advanced
    refine ⟨frames, sent, trades, ends.sends_questions, ?_⟩
    rintro rfl
    obtain ⟨convinced, whole⟩ := ends.convinced
    exact ⟨vouched frames convinced, whole⟩

theorem authenticated_of_answers {first second question greeting : Frame} {going : Handshake}
    (opened : (Handshake.ofCredentials credentials nonce).opening = .ok greeting)
    (asks : (Handshake.ofCredentials credentials nonce).receive first = .ok (.asks question going))
    (verifies : going.receive second = .ok .authenticated) :
    (ofFrames credentials nonce [first, second]).client = .authenticated := by
  simp [ofFrames, opening, hearAll, hear, follow, opened, asks, verifies]

theorem canonical_of_message {frame : Frame} {responseTo : Int32} {done : Bool} {text : List Char}
    (message : Handshake.Message frame responseTo done text) :
    Frame.ofBytes frame.bytes = .ok frame := by
  obtain ⟨_, summed, _⟩ := (Handshake.succeeds_of_answer message.answer).summed
  exact Frame.ofBytes_bytes (Frame.canonical_of_replySummary summed)

theorem opening_asked (clean : '\x00' ∉ credentials.source.toList)
    (fits : (credentials.opening nonce).size ≤ frameLimit) : ∃ question,
      (Handshake.ofCredentials credentials nonce).opening = .ok question ∧
        Handshake.Question question firstRequestId "saslStart" (credentials.client nonce).first.text :=
  Handshake.question_asked clean rfl rfl rfl rfl fits

/-- A server that knows the password answers, after a frame that answers nothing. So it does over a
    connection. -/
theorem sampleLogin_vouched :
    (∃ first second asked, SampleLogin.insertFrame.responseTo ≠ firstRequestId ∧
      Vouched SampleLogin.credentials SampleLogin.nonce [SampleLogin.insertFrame, first, second]
        asked) ∧
    ∃ login link next after frames asked,
      Login.Calls SampleLogin.credentials SampleLogin.nonce login [] ∧
      login.advance link = (.done (.ok ()), next, after) ∧
      Vouched SampleLogin.credentials SampleLogin.nonce frames asked := by
  have clean : '\x00' ∉ SampleLogin.credentials.source.toList := by decide +kernel
  have plain_name : ',' ∉ SampleLogin.credentials.userName.toList := by decide +kernel
  have plain_nonce : ',' ∉ SampleLogin.nonce := by decide +kernel
  have short : (SampleLogin.credentials.opening SampleLogin.nonce).size ≤ frameLimit := by
    decide +kernel
  obtain ⟨greeting, opened, greeted⟩ := opening_asked clean short
  obtain ⟨challenge, proof, signature, first, agreement, challenges, _⟩ :=
    Parley.challenged_of_asked plain_name plain_nonce SampleLogin.guardedServer_suits greeted
  have fits := SampleLogin.guardedServer_suits.closing_fits proof agreement.proof_length
  obtain ⟨question, proves, asks⟩ := Parley.proving_of_challenged clean agreement fits challenges
  obtain ⟨second, verdict, _⟩ : ∃ second,
      Handshake.Message second (firstRequestId + 1) true (Scram.verifierText signature) ∧
        Session.receive SampleLogin.guardedServer (.challenged challenge) [] question =
          (SampleLogin.guardedServer.countRequest, .granting, .reply second) :=
    Parley.granted_of_proving agreement proves
  have verifies : Handshake.receive { Handshake.ofCredentials SampleLogin.credentials SampleLogin.nonce
      with stage := .proving (.int32 1) signature } second = .ok .authenticated :=
    Handshake.receive_verifier rfl verdict
  have stray : SampleLogin.insertFrame.responseTo ≠ firstRequestId := by decide
  obtain ⟨vouched, _, _, strays, logins⟩ :=
    convinced_by_keys_only SampleLogin.credentials SampleLogin.nonce
  have apart : ∀ last ∈ (ofFrames SampleLogin.credentials SampleLogin.nonce []).asked.getLast?,
      ∀ other ∈ [SampleLogin.insertFrame], other.responseTo ≠ last.requestId := by
    simp [ofFrames, opening, hearAll, opened, greeted.requestId, stray]
  have convinced : (ofFrames SampleLogin.credentials SampleLogin.nonce
      [SampleLogin.insertFrame, first, second]).client = .authenticated :=
    (congrArg client (strays [] [SampleLogin.insertFrame] [first, second] apart)).trans
      (authenticated_of_answers opened asks verifies)
  have calls := Login.Calls.begun opened
  obtain ⟨link, next, after, advanced⟩ := Login.advance_authenticated greeting.bytes_ne_nil asks
    verifies (canonical_of_message challenges) (canonical_of_message verdict)
  obtain ⟨frames, _, _, _, told⟩ := logins _ [] link _ next after calls advanced
  exact ⟨⟨first, second, _, stray, vouched _ convinced⟩, _, link, next, after, frames, _,
    calls, advanced, (told rfl).1⟩

end Interview

end TrafficReplay
