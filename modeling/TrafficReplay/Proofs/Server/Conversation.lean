import TrafficReplay.Proofs.Server.Likeness

namespace TrafficReplay

namespace Server

structure Willing (server : Server) : Prop where
  takes : server.refusing = false
  trusts : server.user = none
  speaks : server.silent = false

theorem Willing.serve {server : Server} (willing : server.Willing) (frame : Frame) :
    (server.serve frame).1.Willing := by
  rw [serve_eq, (Resembles.refl server).handle]
  exact ⟨willing.takes, willing.trusts, willing.speaks⟩

theorem Willing.serveAll {server : Server} (willing : server.Willing) (frames : List Frame) :
    (server.serveAll frames).1.Willing := by
  induction frames generalizing server with
  | nil => exact willing
  | cons frame more ih => exact ih (willing.serve frame)

theorem receive_willing {server : Server} (willing : server.Willing) (nonce : List Char)
    (frame : Frame) : ∃ stage answer,
      Session.receive server (Session.openingStage server) nonce frame =
        ((server.serve frame).1, stage, answer) ∧
      (server.serve frame).2 = (match answer with
        | .reply frame => [frame]
        | _ => []) := by
  have serving : Session.openingStage server = .serving := by
    simp [Session.openingStage, willing.trusts]
  rw [serving]
  exact ⟨_, _, rfl, rfl⟩

end Server

/-- A server, the frames on their way to it and back, the server that the frames lead to, and the answers
    that there will be to read. -/
structure Converses (live : Server) (outgoing incoming : List Frame) (now : Server)
    (answers : List Frame) : Prop where
  willing : live.Willing
  alike : (live.serveAll outgoing).1.Resembles now
  coming : incoming ++ (live.serveAll outgoing).2 = answers

namespace Converses

variable {live now : Server} {outgoing incoming answers : List Frame} {frame : Frame}

theorem silence {server : Server} (willing : server.Willing) : Converses server [] [] server [] :=
  ⟨willing, .refl server, rfl⟩

theorem serves (converses : Converses live (frame :: outgoing) incoming now answers) :
    Converses (live.serve frame).1 outgoing (incoming ++ (live.serve frame).2) now answers where
  willing := converses.willing.serve frame
  alike := converses.alike
  coming := by
    rw [← converses.coming, List.append_assoc]
    rfl

theorem hears (converses : Converses live outgoing (frame :: incoming) now answers) :
    ∃ more, answers = frame :: more ∧ Converses live outgoing incoming now more :=
  ⟨_, converses.coming.symm, converses.willing, converses.alike, rfl⟩

theorem sends {later : Server} {coming : List Frame}
    (converses : Converses live outgoing incoming now [])
    (served : ∀ server : Server, server.Resembles now → server.silent = false →
      (server.serve frame).1.Resembles later ∧ (server.serve frame).2 = coming) :
    Converses live (outgoing ++ [frame]) incoming later coming := by
  have heard := (converses.willing.serveAll outgoing).speaks
  obtain ⟨alike, answered⟩ := served _ converses.alike heard
  obtain ⟨none, unanswered⟩ := List.append_eq_nil_iff.mp converses.coming
  refine ⟨converses.willing, ?_, ?_⟩
  · rw [Server.serveAll_concat]
    exact alike
  · rw [Server.serveAll_concat, none, unanswered, answered]
    rfl

theorem connects (converses : Converses live outgoing incoming now answers) (count : Nat) :
    Converses { live with connections := count } outgoing incoming now answers := by
  have same : Server.Resembles { live with connections := count } live := rfl
  obtain ⟨alike, answered⟩ := same.serveAll rfl outgoing
  refine ⟨⟨converses.willing.takes, converses.willing.trusts, converses.willing.speaks⟩, ?_, ?_⟩
  · unfold Server.Resembles at alike ⊢
    rw [← alike, ← converses.alike]
    rfl
  · rw [answered, converses.coming]

end Converses

end TrafficReplay
