import TrafficReplay.Proofs.Run.Admission
import TrafficReplay.Proofs.Server.Course

namespace TrafficReplay

open TrafficReplay.Frame (Saying)

/-- Both ends of a connection and every run hold back until a proof has been given. A conversation
    is about the user whom the server requires when it begins. -/
theorem nothing_before_proof :
    (∀ (opened : Server) (visits : List Session.Visit), opened.user.isSome →
      (∀ visit ∈ visits, visit.server.user.isSome) →
        (Session.stageAfter opened visits = .serving ↔ Session.Authenticated opened visits) ∧
        (¬Session.Authenticated opened visits →
          ∀ visit : Session.Visit, visit.IsRefused (Session.stageAfter opened visits))) ∧
    (∀ (admits : Server → List Char → Prop) (credentials : Credentials) (nonce : List Char)
      (count : Nat) (parley : Parley),
      Parley.Reaches admits (.opening (.ofCredentials credentials nonce)) count parley →
        parley.client = .authenticated → parley.IsGranted) ∧
    (∀ (credentials : Credentials) (nonce : List Char) (count : Nat) (parley : Parley),
      '\x00' ∉ credentials.source.toList → ',' ∉ credentials.userName.toList → ',' ∉ nonce →
        (credentials.opening nonce).size ≤ frameLimit →
        Parley.Reaches (credentials.Suits nonce) (.opening (.ofCredentials credentials nonce)) count
          parley →
          count ≤ 5 ∧ (parley.client = .authenticated ∨ parley.IsUnderway)) ∧
    (∀ (settings : RunSettings) (actions : List RunAction) (effects new : Run.Effects)
      (run after : Run) (reading : Reading) (action : RunAction) (id : WorkerId)
      (effect : LaneEffect), Run.Trace settings actions effects run →
        settings.lane.authenticates = true → run.step? reading action = some (after, new) →
          (id, effect) ∈ new → effect.isSend = true → Run.IsAdmitted actions id) := by
  refine ⟨?_, ?_, ?_, ?_⟩
  · intro opened visits guarded required
    exact ⟨Session.serving_iff guarded required,
      Session.isRefused_of_not_authenticated guarded required⟩
  · intro admits credentials nonce count parley reached convinced
    exact Parley.granted_of_authenticated reached convinced
  · intro credentials nonce count parley clean plain_name plain_nonce fits reached
    exact (reached.course clean plain_name plain_nonce fits).ends
  · intro settings actions effects new run after reading action id effect trace guarded step done sends
    exact trace.admitted_before_send guarded step done sends

namespace SampleLogin

def credentials : Credentials := ⟨"ann", "secret", "admin"⟩

def nonce : List Char := "rOprNGfwEbeRWgbN".toList

def serverNonce : List Char := "EkqO(hvYDpWUa2Ra".toList

def guardedServer : Server := { Server.empty with user := some ⟨"ann", "secret"⟩ }

theorem guardedServer_suits : credentials.Suits nonce guardedServer serverNonce := by
  refine ⟨rfl, by decide +kernel, by decide +kernel, fun proof length => ?_⟩
  have nonces : (nonce ++ serverNonce).length = 32 := by decide +kernel
  have binding : (Base64.encode (Utf8.encodeChars Scram.ClientFirst.plainBinding)).length = 4 := by
    decide +kernel
  have chars : (Scram.ClientFinal.text
      ⟨Scram.ClientFirst.plainBinding, nonce ++ serverNonce, proof⟩).length = 88 := by
    simp only [Scram.ClientFinal.text, Scram.ClientFinal.unproved, List.length_append, nonces,
      binding, Base64.length_encode, length, List.length_cons, List.length_nil, Sha256.digestLength]
  have bytes := Utf8.length_encodeChars_le (Scram.ClientFinal.text
    ⟨Scram.ClientFirst.plainBinding, nonce ++ serverNonce, proof⟩)
  have source : (Utf8.encode (credentials.source ++ Frame.commandSuffix)).length = 10 := by
    decide +kernel
  have limit : 1000 ≤ frameLimit := by decide
  rw [Credentials.closing, Handshake.size_question, Handshake.length_continuation, source]
  omega

def insertion : Saying := .insert "db.c" [[("_id", .int32 1)]]

theorem insertion_fits : insertion.size ≤ frameLimit := by decide +kernel

def insertFrame : Frame := ⟨1, 0, .insert, insertion.body, insertion_fits⟩

def actions : List RunAction :=
  Run.partedRun.flatMap fun action =>
    match action with
    | .worker id .connected => [.worker id .connected, .worker id .authenticated]
    | _ => [action]

def settings : RunSettings :=
  { Run.unpaced with lane := { Run.unpaced.lane with authenticates := true } }

def early : List RunAction := actions.take (actions.length - 3)

def middle : Run × Run.Effects :=
  ((Run.start settings .fresh).steps? ⟨default, default⟩ early).get (by decide)

def written : Run × Run.Effects :=
  (middle.1.step? ⟨default, default⟩ (.worker 2 (.wrote 34))).get (by decide)

end SampleLogin

open SampleLogin in
/-- An insertion is refused, and the same one again; a client gets in, and the server has let it; the
    heir of a lane writes on a connection that it has authenticated itself. -/
theorem sampleLogin_proves_first :
    (guardedServer.user.isSome ∧ ¬Session.Authenticated guardedServer [⟨guardedServer, [], insertFrame⟩] ∧
      Session.Visit.IsRefused ⟨guardedServer, [], insertFrame⟩
        (Session.stageAfter guardedServer [⟨guardedServer, [], insertFrame⟩])) ∧
    (∃ count parley,
      Parley.Reaches (credentials.Suits nonce) (.opening (.ofCredentials credentials nonce)) count
        parley ∧ parley.client = .authenticated ∧ parley.IsGranted ∧ count ≤ 5) ∧
    Run.Trace settings early middle.2 middle.1 ∧ settings.lane.authenticates = true ∧
      (∃ effect, (2, effect) ∈ written.2 ∧ effect.isSend = true) ∧ Run.IsAdmitted early 2 := by
  obtain ⟨refuses, grants, ends, admits⟩ := nothing_before_proof
  have unproved : ¬Session.Authenticated guardedServer [⟨guardedServer, [], insertFrame⟩] := by
    rintro ⟨before, start, proof, rest, _, split, _⟩
    have short := congrArg List.length split
    simp only [List.length_append, List.length_cons, List.length_nil] at short
    omega
  have refused := (refuses guardedServer [⟨guardedServer, [], insertFrame⟩] rfl
    fun visit member => by rw [List.mem_singleton.mp member]; rfl).2 unproved
    ⟨guardedServer, [], insertFrame⟩
  have clean : '\x00' ∉ credentials.source.toList := by decide
  have plain_name : ',' ∉ credentials.userName.toList := by decide
  have plain_nonce : ',' ∉ nonce := by decide
  have fits : (credentials.opening nonce).size ≤ frameLimit := by decide +kernel
  obtain ⟨count, parley, reached, convinced⟩ :=
    Parley.Reaches.convinced clean plain_name plain_nonce fits guardedServer_suits .start
  have few := ends credentials nonce count parley clean plain_name plain_nonce fits reached
  have steps : (Run.start settings .fresh).steps? ⟨default, default⟩ early = some middle :=
    (Option.some_get _).symm
  have trace := Run.trace_of_steps? steps
  have step : middle.1.step? ⟨default, default⟩ (.worker 2 (.wrote 34)) = some written :=
    (Option.some_get _).symm
  have done : ∃ sent ∈ written.2, sent.1 = 2 ∧ sent.2.isSend = true := by decide
  obtain ⟨⟨_, effect⟩, member, rfl, sends⟩ := done
  refine ⟨⟨rfl, unproved, refused⟩,
    ⟨count, parley, reached, convinced, grants _ _ _ _ _ reached convinced, few.1⟩, trace, rfl,
    ⟨effect, member, sends⟩, ?_⟩
  exact admits settings early middle.2 written.2 middle.1 written.1 ⟨default, default⟩ _ 2 effect
    trace rfl step member sends

namespace SampleLogin

/-- A source that leaves no room in a question. -/
def endlessSource : String := String.ofList (List.replicate frameLimit 'a')

def endless : Credentials := { credentials with source := endlessSource }

theorem endlessSource_clean : '\x00' ∉ endlessSource.toList := by
  rw [endlessSource, String.toList_ofList]
  intro member
  exact absurd (List.eq_of_mem_replicate member) (by decide)

theorem endless_long : frameLimit ≤ endless.source.toList.length := by
  have source : endless.source = endlessSource := rfl
  have length : endless.source.toList.length = frameLimit := by
    rw [source, endlessSource, String.toList_ofList, List.length_replicate]
  exact Nat.le_of_eq length.symm

end SampleLogin

open SampleLogin in
/-- A connection that is older than the demand for a user is not guarded, and a client whose first
    question is too long gets nowhere. -/
theorem older_connection_unguarded :
    ¬(∀ (opened : Server) (visits : List Session.Visit) (visit : Session.Visit),
      (∀ other ∈ visit :: visits, other.server.user.isSome) → ¬Session.Authenticated opened visits →
        visit.IsRefused (Session.stageAfter opened visits)) ∧
    ¬(∀ (credentials : Credentials) (nonce : List Char) (count : Nat) (parley : Parley),
      '\x00' ∉ credentials.source.toList → credentials.userName ≠ "" →
        ',' ∉ credentials.userName.toList → '=' ∉ credentials.userName.toList → ',' ∉ nonce →
        Parley.Reaches (credentials.Suits nonce) (.opening (.ofCredentials credentials nonce)) count
          parley → parley.client = .authenticated ∨ parley.IsUnderway) := by
  constructor
  · intro claimed
    have applied : (Session.Visit.result ⟨guardedServer, [], insertFrame⟩
        (Session.stageAfter Server.empty [])).1.collections.length = 1 := by decide +kernel
    have unproved : ¬Session.Authenticated Server.empty [] := by
      rintro ⟨before, start, proof, rest, _, split, _⟩
      cases before <;> cases split
    have refused := claimed Server.empty [] ⟨guardedServer, [], insertFrame⟩
      (fun other member => by rw [List.mem_singleton.mp member]; rfl) unproved
    rw [refused.1] at applied
    cases applied
  · intro claimed
    obtain ⟨fault, failed⟩ := Parley.opening_of_long endless_long
    have stuck := claimed endless nonce 0 _ endlessSource_clean (by decide) (by decide) (by decide)
      (by decide) .start
    rw [failed] at stuck
    rcases stuck with convinced | asked | ⟨answered, _⟩
    · cases convinced
    · exact asked rfl
    · exact answered rfl

end TrafficReplay
