import TrafficReplay.Server.Session

namespace TrafficReplay.Session

/-- A frame that comes in on a connection, next to the server as it then is and the nonce that the
    server adds should a conversation begin. -/
structure Visit where
  server : Server
  nonce : List Char
  frame : Frame

namespace Visit

def result (visit : Visit) (stage : SessionStage) : Result :=
  receive visit.server stage visit.nonce visit.frame

def next (visit : Visit) (stage : SessionStage) : SessionStage :=
  (delivered (visit.result stage).1 (visit.result stage).2.1).2

def Opens (visit : Visit) (challenge : Scram.Challenge) : Prop :=
  ∃ user text, visit.server.user = some user ∧ isCommand visit.frame "saslStart" = true ∧
    payload visit.frame = .ok text ∧ (account user).challenge visit.nonce text = .ok challenge

def Proves (visit : Visit) (challenge : Scram.Challenge) : Prop :=
  ∃ text signature, isCommand visit.frame "saslContinue" = true ∧ payload visit.frame = .ok text ∧
    challenge.verdict? text = some (.proved signature)

/-- The frame changes no collection and no cursor. -/
def IsRefused (visit : Visit) (stage : SessionStage) : Prop :=
  (visit.result stage).1.collections = visit.server.collections ∧
    (visit.result stage).1.cursors = visit.server.cursors

inductive Moves (visit : Visit) : SessionStage → SessionStage → Prop
  | refused : Moves visit .guarded .guarded
  | opens {challenge : Scram.Challenge} (opens : visit.Opens challenge) :
      Moves visit .guarded (.challenged challenge)
  | fails {challenge : Scram.Challenge} : Moves visit (.challenged challenge) .guarded
  | proves {challenge : Scram.Challenge} (proves : visit.Proves challenge) :
      Moves visit (.challenged challenge) .granting
  | serves {stage : SessionStage} (granted : stage = .granting ∨ stage = .serving) :
      Moves visit stage .serving

variable {visit : Visit} {stage : SessionStage} {challenge : Scram.Challenge}

theorem say_stage (server : Server) (stage : SessionStage) (request : Frame) (body : Document) :
    (say server stage request body).2.1 = stage := by
  unfold say
  dsimp only
  split <;> rfl

theorem say_refused (server : Server) (stage : SessionStage) (request : Frame) (body : Document) :
    (say server stage request body).1.collections = server.collections ∧
      (say server stage request body).1.cursors = server.cursors := by
  unfold say
  dsimp only
  split <;> exact ⟨rfl, rfl⟩

theorem served_stage (stage : SessionStage) (outcome : Server.Outcome) :
    (served stage outcome).2.1 = stage := by
  unfold served
  dsimp only
  split <;> rfl

theorem served_server (stage : SessionStage) (outcome : Server.Outcome) :
    (served stage outcome).1 = outcome.1 := by
  unfold served
  dsimp only
  split <;> rfl

theorem start_moves (required : visit.server.user.isSome)
    (command : isCommand visit.frame "saslStart" = true) :
    visit.Moves .guarded (start visit.server visit.nonce visit.frame).2.1 := by
  obtain ⟨user, known⟩ := Option.isSome_iff_exists.mp required
  unfold start
  rw [known]
  dsimp only
  split
  · exact .refused
  · rename_i text read
    split
    · exact .refused
    · rw [say_stage]
      exact .refused
    · rename_i challenge made
      rw [say_stage]
      exact .opens ⟨user, text, known, command, read, made⟩

theorem conclude_moves :
    visit.Moves (.challenged challenge) (conclude visit.server challenge visit.frame).2.1 := by
  unfold conclude
  split
  · rename_i command
    split
    · exact .fails
    · rename_i text read
      split
      · rename_i signature proved
        rw [say_stage]
        exact .proves ⟨text, signature, command, read, proved⟩
      · rw [say_stage]
        exact .fails
  · rw [say_stage]
    exact .fails

theorem moves (required : visit.server.user.isSome) (stage : SessionStage) :
    visit.Moves stage (visit.result stage).2.1 := by
  unfold result receive
  cases stage with
  | guarded =>
    dsimp only
    split
    · rename_i command
      exact start_moves required command
    · rw [served_stage]
      exact .refused
  | challenged challenge => exact conclude_moves
  | granting =>
    dsimp only
    rw [served_stage]
    exact .serves (.inl rfl)
  | serving =>
    dsimp only
    rw [served_stage]
    exact .serves (.inr rfl)

theorem next_of_opens (opens : visit.Opens challenge) :
    visit.next .guarded = .challenged challenge := by
  obtain ⟨user, text, known, command, read, made⟩ := opens
  simp only [next, delivered, result, receive, if_pos command, start, known, read, made, say_stage]

theorem next_of_proves (proves : visit.Proves challenge) :
    visit.next (.challenged challenge) = .serving := by
  obtain ⟨text, signature, command, read, proved⟩ := proves
  simp only [next, delivered, result, receive, conclude, if_pos command, read, proved, say_stage]

theorem start_refused (server : Server) (nonce : List Char) (frame : Frame) :
    (start server nonce frame).1.collections = server.collections ∧
      (start server nonce frame).1.cursors = server.cursors := by
  unfold start
  split
  · exact ⟨rfl, rfl⟩
  · split
    · exact ⟨rfl, rfl⟩
    · split
      · exact ⟨rfl, rfl⟩
      · exact say_refused ..
      · exact say_refused ..

theorem conclude_refused (server : Server) (challenge : Scram.Challenge) (frame : Frame) :
    (conclude server challenge frame).1.collections = server.collections ∧
      (conclude server challenge frame).1.cursors = server.cursors := by
  unfold conclude
  split
  · split
    · exact ⟨rfl, rfl⟩
    · split <;> exact say_refused ..
  · exact say_refused ..

theorem isRefused_of_guarded (shut : stage = .guarded ∨ ∃ challenge, stage = .challenged challenge) :
    visit.IsRefused stage := by
  unfold IsRefused result receive
  rcases shut with rfl | ⟨challenge, rfl⟩
  · dsimp only
    split
    · exact start_refused ..
    · rw [served_server]
      exact ⟨rfl, rfl⟩
  · exact conclude_refused ..

end Visit

/-- The stage after some frames of a connection, which was opened when the server was as given. -/
def stageAfter (opened : Server) (visits : List Visit) : SessionStage :=
  visits.foldl (fun stage visit => visit.next stage) (openingStage opened)

/-- A conversation that began among some frames has ended with a proof. -/
def Authenticated (opened : Server) (visits : List Visit) : Prop :=
  ∃ before start proof after challenge, visits = before ++ start :: proof :: after ∧
    stageAfter opened before = .guarded ∧ start.Opens challenge ∧ proof.Proves challenge

variable {opened : Server} {visits : List Visit} {visit : Visit} {stage : SessionStage}

theorem stageAfter_concat (opened : Server) (visits : List Visit) (visit : Visit) :
    stageAfter opened (visits ++ [visit]) = visit.next (stageAfter opened visits) := by
  simp only [stageAfter, List.foldl_append, List.foldl_cons, List.foldl_nil]

theorem Authenticated.concat (authenticated : Authenticated opened visits) (visit : Visit) :
    Authenticated opened (visits ++ [visit]) := by
  obtain ⟨before, start, proof, after, challenge, rfl, guarded, opens, proves⟩ := authenticated
  exact ⟨before, start, proof, after ++ [visit], challenge, by simp, guarded, opens, proves⟩

/-- How far a guarded connection has come. -/
inductive Standing (opened : Server) (visits : List Visit) : SessionStage → Prop
  | guarded : Standing opened visits .guarded
  | challenged {before : List Visit} {start : Visit} {challenge : Scram.Challenge}
      (last : visits = before ++ [start]) (guarded : stageAfter opened before = .guarded)
      (opens : start.Opens challenge) : Standing opened visits (.challenged challenge)
  | granted (authenticated : Authenticated opened visits) : Standing opened visits .serving

theorem Standing.receive (standing : Standing opened visits (stageAfter opened visits))
    (required : visit.server.user.isSome) :
    Standing opened (visits ++ [visit]) (stageAfter opened (visits ++ [visit])) := by
  rw [stageAfter_concat, Visit.next]
  -- The stage before the frame says what has been on the connection, so it stays in the context.
  have moves := Visit.moves required (stageAfter opened visits)
  generalize reached : stageAfter opened visits = stage at standing moves
  generalize (visit.result stage).1 = server, (visit.result stage).2.1 = next at moves
  cases moves with
  | refused | fails => exact .guarded
  | opens opens => exact .challenged rfl reached opens
  | proves proves =>
    cases standing with
    | challenged last guarded opens =>
      subst last
      exact .granted ⟨_, _, visit, [], _, by simp, guarded, opens, proves⟩
  | serves granted =>
    cases standing with
    | guarded | challenged => simp at granted
    | granted authenticated => exact .granted (authenticated.concat visit)

theorem standing (guarded : opened.user.isSome) (visits : List Visit)
    (required : ∀ visit ∈ visits, visit.server.user.isSome) :
    Standing opened visits (stageAfter opened visits) := by
  induction reversed : visits.reverse generalizing visits with
  | nil =>
    obtain rfl : visits = [] := by simpa using reversed
    have shut : openingStage opened = .guarded := by
      simp [openingStage, Option.isNone_eq_false_iff.mpr guarded]
    rw [stageAfter, List.foldl_nil, shut]
    exact .guarded
  | cons visit rest ih =>
    obtain rfl : visits = rest.reverse ++ [visit] := by
      rw [← List.reverse_reverse visits, reversed, List.reverse_cons]
    exact (ih rest.reverse (fun other member => required other (by simp [member]))
      (List.reverse_reverse rest)).receive (required visit (by simp))

theorem Visit.result_of_granted (visit : Visit) (granted : stage = .granting ∨ stage = .serving) :
    (visit.result stage).2.1 = .serving := by
  rcases granted with rfl | rfl <;> exact Visit.served_stage ..

theorem foldl_serving (visits : List Visit) :
    visits.foldl (fun stage visit => visit.next stage) .serving = .serving := by
  induction visits with
  | nil => rfl
  | cons visit rest ih =>
    have still : (visit.result .serving).2.1 = .serving := visit.result_of_granted (.inr rfl)
    rw [List.foldl_cons, Visit.next, still]
    exact ih

/-- The gate is open exactly after a conversation that ended with a proof. -/
theorem serving_iff (guarded : opened.user.isSome)
    (required : ∀ visit ∈ visits, visit.server.user.isSome) :
    stageAfter opened visits = .serving ↔ Authenticated opened visits := by
  constructor
  · intro serving
    have standing := standing guarded visits required
    rw [serving] at standing
    cases standing with
    | granted authenticated => exact authenticated
  · rintro ⟨before, start, proof, after, challenge, rfl, shut, opens, proves⟩
    have first : before.foldl (fun stage visit => visit.next stage) (openingStage opened) = .guarded :=
      shut
    rw [stageAfter, List.foldl_append, first, List.foldl_cons, List.foldl_cons,
      Visit.next_of_opens opens, Visit.next_of_proves proves]
    exact foldl_serving after

/-- A frame is refused as long as no conversation has ended with a proof. -/
theorem isRefused_of_not_authenticated (guarded : opened.user.isSome)
    (required : ∀ visit ∈ visits, visit.server.user.isSome)
    (unproved : ¬Authenticated opened visits) (visit : Visit) :
    visit.IsRefused (stageAfter opened visits) := by
  apply Visit.isRefused_of_guarded
  have standing := standing guarded visits required
  generalize stageAfter opened visits = stage at standing
  cases standing with
  | guarded => exact .inl rfl
  | challenged => exact .inr ⟨_, rfl⟩
  | granted authenticated => exact absurd authenticated unproved

end TrafficReplay.Session
