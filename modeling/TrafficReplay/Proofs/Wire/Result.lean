import TrafficReplay.Handshake
import TrafficReplay.Proofs.Wire.Body

namespace TrafficReplay

namespace Document

theorem contains_of_saysOk {doc : Document} (ok : doc.saysOk = true) : doc.contains "ok" = true := by
  cases held : doc.get? "ok" with
  | none => simp [saysOk, held] at ok
  | some value => rw [contains, held, Option.isSome_some]

theorem silent_of_not_contains {doc : Document} (untold : doc.contains "ok" = false) :
    doc.saysFailed = false ∧ doc.saysOk = false := by
  have absent : doc.get? "ok" = none :=
    Option.isNone_iff_eq_none.mp (Option.isSome_eq_false_iff.mp untold)
  simp only [saysFailed, saysOk, absent, and_self]

end Document

theorem ReplySummary.ofCommand_failed (doc : Document) :
    (ReplySummary.ofCommand doc).failed = doc.saysFailed := by
  unfold ofCommand
  cases doc.document? "cursor" <;> rfl

namespace Handshake

theorem answer_ok {frame : Frame} {doc : Document} (accepted : answer frame = .ok doc) :
    frame.replyDocument = .ok doc ∧ doc.saysOk = true := by
  obtain ⟨handed, read, accepted⟩ := bind_eq_ok.mp accepted
  obtain ⟨summary, _, accepted⟩ := bind_eq_ok.mp accepted
  split at accepted
  · cases accepted
  · rename_i convincing
    cases accepted
    simp only [Bool.or_eq_true, Bool.not_eq_true', not_or, Bool.not_eq_false] at convincing
    exact ⟨mapError_eq_ok.mp read, convincing.2⟩

end Handshake

namespace Frame

inductive Judges (frame : Frame) : Document → Document → Prop
  | message {doc : Document} (code : frame.opCode = .msg) (read : frame.messageDocument = .ok doc) :
      Judges frame doc doc
  | first {doc : Document} {next : Nat} (code : frame.opCode = .commandReply)
      (read : readDocument frame.body 0 = .ok (doc, next)) (told : doc.contains "ok" = true) :
      Judges frame doc doc
  | second {doc judged : Document} {next rest : Nat} (code : frame.opCode = .commandReply)
      (read : readDocument frame.body 0 = .ok (doc, next)) (untold : doc.contains "ok" = false)
      (behind : readDocument frame.body next = .ok (judged, rest)) : Judges frame doc judged

/-- Only the second document can tell whether the command succeeded. -/
def ResultSecond (frame : Frame) : Prop :=
  frame.opCode = .commandReply ∧ ∃ doc next, readDocument frame.body 0 = .ok (doc, next) ∧
    doc.contains "ok" = false

section Judged

variable {frame : Frame} {summary : ReplySummary} {doc judged : Document}

theorem judges_of_replySummary (code : frame.opCode = .commandReply ∨ frame.opCode = .msg)
    (summed : frame.replySummary = .ok summary) :
    ∃ doc judged, frame.Judges doc judged ∧ summary = .ofCommand judged := by
  rcases code with code | code
  · simp only [replySummary, code] at summed
    obtain ⟨found, read, summed⟩ := bind_eq_ok.mp summed
    split at summed
    · rename_i told
      cases summed
      exact ⟨_, _, .first code read told, rfl⟩
    · rename_i untold
      obtain ⟨second, behind, summed⟩ := bind_eq_ok.mp summed
      cases summed
      exact ⟨_, _, .second code read (Bool.eq_false_iff.mpr untold) behind, rfl⟩
  · rw [replySummary_message code] at summed
    obtain ⟨doc, read, rfl⟩ := map_eq_ok.mp summed
    exact ⟨doc, doc, .message code read, rfl⟩

theorem Judges.replyDocument (judges : frame.Judges doc judged) : frame.replyDocument = .ok doc := by
  cases judges with
  | message code read => rw [replyDocument_message code, read]
  | first code read | second code read => simp only [Frame.replyDocument, code, read]; rfl

theorem Judges.replySummary (judges : frame.Judges doc judged) :
    frame.replySummary = .ok (.ofCommand judged) := by
  cases judges with
  | message code read => rw [replySummary_message code, read]; rfl
  | first code read told => simp only [Frame.replySummary, code, read, told, bind, Except.bind]; rfl
  | second code read untold behind =>
    simp only [Frame.replySummary, code, read, untold, behind, bind, Except.bind]
    rfl

theorem Judges.same (judges : frame.Judges doc judged) (one : ¬frame.ResultSecond) : judged = doc := by
  cases judges with
  | message | first => rfl
  | second code read untold => exact absurd ⟨code, _, _, read, untold⟩ one

theorem Judges.apart (judges : frame.Judges doc judged) (two : frame.ResultSecond) :
    doc.contains "ok" = false ∧ ∃ next rest, readDocument frame.body 0 = .ok (doc, next) ∧
      readDocument frame.body next = .ok (judged, rest) := by
  obtain ⟨code, other, next, read, untold⟩ := two
  cases judges with
  | message message => cases code.symm.trans message
  | first _ found told =>
    cases read.symm.trans found
    cases untold.symm.trans told
  | second _ found _ behind =>
    cases read.symm.trans found
    exact ⟨untold, next, _, read, behind⟩

theorem judges_written {bytes behind rest : List UInt8} (code : frame.opCode = .commandReply)
    (held : frame.body = bytes ++ (behind ++ rest)) (first : Document.decode? bytes = some doc)
    (second : Document.decode? behind = some judged) :
    frame.Judges doc (if doc.contains "ok" then doc else judged) := by
  have start : frame.body.drop 0 = bytes ++ (behind ++ rest) := by rw [List.drop_zero, held]
  have next : frame.body.drop (0 + bytes.length) = behind ++ rest := by
    rw [Nat.zero_add, held, List.drop_left]
  have read := readDocument_of_drop start first
  split
  · rename_i told
    exact .first code read told
  · rename_i untold
    exact .second code read (Bool.eq_false_iff.mpr untold) (readDocument_of_drop next second)

end Judged

/-- An answer that is judged hands on a document too, and is judged by it unless only its second
    document tells of success. What a handshake accepts has been judged. -/
theorem result_document_judged (frame : Frame) (summary : ReplySummary)
    (code : frame.opCode = .commandReply ∨ frame.opCode = .msg)
    (summed : frame.replySummary = .ok summary) :
    ∃ doc, frame.replyDocument = .ok doc ∧
      (¬frame.ResultSecond → summary = .ofCommand doc) ∧
      (frame.ResultSecond → doc.saysOk = false ∧ (ReplySummary.ofCommand doc).failed = false ∧
        ∃ second next rest, readDocument frame.body 0 = .ok (doc, next) ∧
          readDocument frame.body next = .ok (second, rest) ∧ summary = .ofCommand second) ∧
      ∀ accepted, Handshake.answer frame = .ok accepted →
        accepted = doc ∧ summary = .ofCommand accepted := by
  obtain ⟨doc, judged, judges, rfl⟩ := judges_of_replySummary code summed
  refine ⟨doc, judges.replyDocument, fun one => by rw [judges.same one], fun two => ?_,
    fun accepted answered => ?_⟩
  · obtain ⟨untold, next, rest, read, behind⟩ := judges.apart two
    obtain ⟨not_failed, not_ok⟩ := Document.silent_of_not_contains untold
    rw [ReplySummary.ofCommand_failed]
    exact ⟨not_ok, not_failed, judged, next, rest, read, behind, rfl⟩
  · obtain ⟨handed, ok⟩ := Handshake.answer_ok answered
    have same : accepted = doc := Except.ok.inj (handed.symm.trans judges.replyDocument)
    subst same
    have one : ¬frame.ResultSecond := fun two => by
      have told := Document.contains_of_saysOk ok
      rw [(judges.apart two).1] at told
      cases told
    exact ⟨rfl, by rw [judges.same one]⟩

def plainAnswer : Frame :=
  ⟨1, 1, .commandReply, Document.bytes [("ok", .int32 1)] ++ Document.bytes [], by decide +kernel⟩

theorem plainAnswer_judged :
    plainAnswer.replyDocument = .ok [("ok", .int32 1)] ∧
      plainAnswer.replySummary = .ok (.ofCommand [("ok", .int32 1)]) := by
  have first : Document.decode? (Document.bytes [("ok", .int32 1)]) = some [("ok", .int32 1)] :=
    Document.decode?_bytes (by decide +kernel) rfl (by decide +kernel)
  have second : Document.decode? (Document.bytes []) = some [] :=
    Document.decode?_bytes (by decide +kernel) rfl (by decide +kernel)
  have held : plainAnswer.body = Document.bytes [("ok", .int32 1)] ++ (Document.bytes [] ++ []) := by
    simp [plainAnswer]
  have judges : plainAnswer.Judges [("ok", .int32 1)] [("ok", .int32 1)] :=
    judges_written rfl held first second
  obtain ⟨doc, handed, one, _⟩ :=
    result_document_judged plainAnswer _ (.inl rfl) judges.replySummary
  have same : doc = [("ok", .int32 1)] := Except.ok.inj (handed.symm.trans judges.replyDocument)
  subst same
  have told : ¬plainAnswer.ResultSecond := fun two => absurd (judges.apart two).1 (by decide)
  exact ⟨handed, by rw [judges.replySummary, one told]⟩

def splitAnswer : Frame :=
  ⟨1, 1, .commandReply, Document.bytes [] ++ Document.bytes [("ok", .int32 0)], by decide +kernel⟩

/-- A failure is seen, but the document that is handed on does not tell of it. -/
theorem splitAnswer_misjudged :
    splitAnswer.replySummary = .ok ⟨0, 0, true⟩ ∧ splitAnswer.replyDocument = .ok [] ∧
      ReplySummary.ofCommand [] ≠ ⟨0, 0, true⟩ := by
  have first : Document.decode? (Document.bytes []) = some [] :=
    Document.decode?_bytes (by decide +kernel) rfl (by decide +kernel)
  have second : Document.decode? (Document.bytes [("ok", .int32 0)]) = some [("ok", .int32 0)] :=
    Document.decode?_bytes (by decide +kernel) rfl (by decide +kernel)
  have held : splitAnswer.body = Document.bytes [] ++ (Document.bytes [("ok", .int32 0)] ++ []) := by
    simp [splitAnswer]
  have judges : splitAnswer.Judges [] [("ok", .int32 0)] := judges_written rfl held first second
  exact ⟨judges.replySummary, judges.replyDocument, by decide⟩

end Frame

end TrafficReplay
