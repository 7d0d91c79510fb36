import TrafficReplay.Proofs.Wire.Body

namespace TrafficReplay.Frame

def sections (frame : Frame) : List UInt8 := (frame.body.take frame.sectionsStop).drop 4

/-- The sections of a message begin with document sequences and then hold a document. -/
def Holds (frame : Frame) (doc : Document) : Prop :=
  ∃ (sequences : List Sequence) (document rest : List UInt8),
    frame.sections = sequences.flatMap Sequence.bytes ++ 0 :: (document ++ rest) ∧
      Document.decode? document = some doc

/-- A section declares less than its size takes, so that the scan goes on inside that size. -/
def Rereads (frame : Frame) : Prop :=
  ∃ passed reads result, Scans frame.body frame.sectionsStop 4 passed reads result ∧
    ∃ entry ∈ passed, entry.size < 4

def ReadsBeyond (frame : Frame) : Prop :=
  ∃ passed reads result, Scans frame.body frame.sectionsStop 4 passed reads result ∧
    ∃ span ∈ reads, frame.sectionsStop < span.stop

theorem Holds.sound {frame : Frame} {doc : Document} (held : frame.Holds doc) :
    frame.messageDocument = .ok doc ∧ ¬frame.Rereads ∧ ¬frame.ReadsBeyond := by
  obtain ⟨sequences, document, rest, written, valid⟩ := held
  have within := frame.sectionsStop_le
  have size := congrArg List.length written
  simp only [sections, List.length_drop, List.length_take, List.length_append, List.length_cons]
    at size
  have body : frame.body = frame.body.take 4 ++ (sequences.flatMap Sequence.bytes ++
      0 :: (document ++ (rest ++ frame.body.drop frame.sectionsStop))) := by
    have flags : (frame.body.take frame.sectionsStop).take 4 = frame.body.take 4 := by
      rw [List.take_take, Nat.min_eq_left (by omega)]
    have front : frame.body.take frame.sectionsStop = frame.body.take 4 ++ frame.sections := by
      rw [sections, ← flags, List.take_append_drop]
    calc frame.body
        = frame.body.take frame.sectionsStop ++ frame.body.drop frame.sectionsStop :=
          (List.take_append_drop _ _).symm
      _ = _ := by simp only [front, written, List.append_assoc, List.cons_append]
  have four : (frame.body.take 4).length = 4 := by
    rw [List.length_take]
    omega
  obtain ⟨read, passed, reads, scan, whole, bounds⟩ := scans_of_written sequences four body valid
  refine ⟨read, ?_, ?_⟩
  · rintro ⟨others, spans, result, again, entry, member, small⟩
    obtain ⟨rfl, _, _⟩ := scan.unique again
    exact absurd (whole entry member) (by omega)
  · rintro ⟨others, spans, result, again, span, member, beyond⟩
    obtain ⟨_, rfl, _⟩ := scan.unique again
    have bound := bounds span member
    rw [List.length_append, List.length_drop] at bound
    omega

theorem holds_of_scan {frame : Frame} {doc : Document} (read : frame.messageDocument = .ok doc)
    (whole : ¬frame.Rereads) (inside : ¬frame.ReadsBeyond) : frame.Holds doc := by
  by_cases long : 4 ≤ frame.body.length
  · obtain ⟨passed, reads, scan⟩ := Scans.total frame.body frame.sectionsStop 4
    rw [← messageDocument_of_length long, read] at scan
    have large : ∀ entry ∈ passed, 4 ≤ entry.size := fun entry member =>
      Nat.not_lt.mp fun small => whole ⟨passed, reads, _, scan, entry, member, small⟩
    obtain ⟨sequences, document, next, held, valid, place, _, span, member, stop_at⟩ :=
      written_of_scans scan rfl large
    have before : next ≤ frame.sectionsStop := Nat.not_lt.mp fun beyond =>
      inside ⟨passed, reads, _, scan, span, member, by omega⟩
    refine ⟨sequences, document, (frame.body.drop next).take (frame.sectionsStop - next), ?_, valid⟩
    have front : (sequences.flatMap Sequence.bytes ++ 0 :: document).length = next - 4 := by
      rw [List.length_append, List.length_cons]
      omega
    have split : frame.sectionsStop - 4 = next - 4 + (frame.sectionsStop - next) := by omega
    have joined : frame.body.drop 4 =
        (sequences.flatMap Sequence.bytes ++ 0 :: document) ++ frame.body.drop next := by
      rw [held, List.append_assoc, List.cons_append]
    rw [sections, List.drop_take, joined, split, ← front, List.take_length_add_append,
      List.append_assoc, List.cons_append]
  · rw [messageDocument_of_short (by omega)] at read
    cases read

theorem readsBeyond_of_ends {frame : Frame} {flags document : List UInt8} {doc : Document}
    (four : flags.length = 4) (ends : frame.body = flags ++ 0 :: document)
    (valid : Document.decode? document = some doc)
    (checksum : frame.sectionsStop < frame.body.length) :
    frame.messageDocument = .ok doc ∧ frame.ReadsBeyond := by
  have long := (Document.length_of_decode? valid).1
  have late := frame.le_sectionsStop
  have total := congrArg List.length ends
  simp only [List.length_append, List.length_cons, four] at total
  have before : 4 < frame.sectionsStop := by omega
  have held : frame.body.drop 4 = 0 :: document := by rw [ends, List.drop_left' four]
  obtain ⟨kind, behind⟩ := of_drop_cons held
  have read := readDocument_of_drop (behind.trans (List.append_nil document).symm) valid
  have scan : Scans frame.body frame.sectionsStop 4 [] _ (.ok doc) :=
    .ends (sectionRound_eq_ok.mpr ⟨before, kind, _, read⟩)
  obtain ⟨span, member, stop_at⟩ := (documentReads_of_read read).2
  refine ⟨(messageDocument_of_length (by omega)).trans scan.bodySection_eq, [], _, _, scan, span, ?_, ?_⟩
  · simp only [roundReads, if_pos before, if_pos kind]
    exact List.mem_cons_of_mem _ member
  · omega

def HasChecksum (frame : Frame) : Prop :=
  4 ≤ frame.body.length ∧
    (int32OfBytes (frame.body.take 4)).toUInt32.toNat % 2 = checksumFlag

/-- Messages with a checksum that differ in its four bytes at most. -/
structure SameButChecksum (a b : Frame) : Prop where
  codes : a.opCode = .msg ∧ b.opCode = .msg
  flagged : a.HasChecksum ∧ b.HasChecksum
  length : a.body.length = b.body.length
  same : ∀ p, p + 4 < a.body.length → a.body[p]? = b.body[p]?

/-- The document that is found was read from behind the sections too. -/
def FindsBeyond (frame : Frame) : Prop :=
  (∃ doc, frame.messageDocument = .ok doc) ∧ frame.ReadsBeyond

namespace SameButChecksum

variable {a b : Frame}

theorem symm (same : a.SameButChecksum b) : b.SameButChecksum a where
  codes := same.codes.symm
  flagged := same.flagged.symm
  length := same.length.symm
  same := fun p before => (same.same p (same.length ▸ before)).symm

theorem sectionsStop (same : a.SameButChecksum b) :
    a.sectionsStop = a.body.length - 4 ∧ b.sectionsStop = a.body.length - 4 := by
  obtain ⟨⟨_, first⟩, _, second⟩ := same.flagged
  constructor
  · exact if_pos first
  · rw [same.length]
    exact if_pos second

theorem messageDocument (same : a.SameButChecksum b) (inside : ¬a.ReadsBeyond) :
    b.messageDocument = a.messageDocument := by
  obtain ⟨stop_a, stop_b⟩ := same.sectionsStop
  obtain ⟨passed, reads, scan⟩ := Scans.total a.body a.sectionsStop 4
  have agree : AgreeOn reads a.body b.body := by
    refine ⟨same.length, fun span member p _ below => same.same p ?_⟩
    have early : span.stop ≤ a.sectionsStop := Nat.not_lt.mp fun beyond =>
      inside ⟨passed, reads, _, scan, span, member, beyond⟩
    omega
  have again := (scan.of_agree agree).bodySection_eq
  rw [messageDocument_of_length same.flagged.1.1, messageDocument_of_length same.flagged.2.1,
    ← again, stop_a, stop_b]

/-- If the checksum is in no document that is found, both messages hold the same document or none. -/
theorem toOption_messageDocument (same : a.SameButChecksum b) (first : ¬a.FindsBeyond)
    (second : ¬b.FindsBeyond) : b.messageDocument.toOption = a.messageDocument.toOption := by
  cases found_a : a.messageDocument with
  | ok doc =>
    have inside : ¬a.ReadsBeyond := fun beyond => first ⟨⟨doc, found_a⟩, beyond⟩
    rw [same.messageDocument inside, found_a]
  | error fault =>
    -- A document in the other message would have been read before the checksum, and so in this one.
    cases found_b : b.messageDocument with
    | error other => rfl
    | ok doc =>
      have inside : ¬b.ReadsBeyond := fun beyond => second ⟨⟨doc, found_b⟩, beyond⟩
      have agree := same.symm.messageDocument inside
      rw [found_a, found_b] at agree
      cases agree

end SameButChecksum

theorem toOption_map {α β : Type} (f : α → β) (read : Except FrameFault α) :
    (read.map f).toOption = read.toOption.map f := by
  cases read <;> rfl

/-- What the scan of a message accepts: sections that are written out, unless it goes on inside the
    size of a section or reads behind the sections. A checksum that it does not read makes no
    difference to what the message says, nor, as to what is found, one that is in no document found. -/
theorem sections_accepted (frame other : Frame) :
    (∀ doc, frame.Holds doc ↔
        frame.messageDocument = .ok doc ∧ ¬frame.Rereads ∧ ¬frame.ReadsBeyond) ∧
      (frame.SameButChecksum other → ¬frame.ReadsBeyond →
        other.namespace? = frame.namespace? ∧ other.commandName? = frame.commandName? ∧
          other.replySummary = frame.replySummary ∧ other.replyDocument = frame.replyDocument) ∧
      (frame.SameButChecksum other → ¬frame.FindsBeyond → ¬other.FindsBeyond →
        other.namespace? = frame.namespace? ∧ other.commandName? = frame.commandName? ∧
          other.replySummary.toOption = frame.replySummary.toOption ∧
          other.replyDocument.toOption = frame.replyDocument.toOption) := by
  refine ⟨fun doc => ⟨Holds.sound, fun ⟨read, whole, inside⟩ => holds_of_scan read whole inside⟩,
    fun same inside => ?_, fun same first second => ?_⟩
  · obtain ⟨own, others⟩ := same.codes
    have found := same.messageDocument inside
    rw [namespace?_message own, namespace?_message others, commandName?_message own,
      commandName?_message others, replySummary_message own, replySummary_message others,
      replyDocument_message own, replyDocument_message others, found]
    exact ⟨rfl, rfl, rfl, rfl⟩
  · obtain ⟨own, others⟩ := same.codes
    have found := same.toOption_messageDocument first second
    rw [namespace?_message own, namespace?_message others, commandName?_message own,
      commandName?_message others, replySummary_message own, replySummary_message others,
      replyDocument_message own, replyDocument_message others, toOption_map, toOption_map, found]
    exact ⟨rfl, rfl, rfl, rfl⟩

def greetingAgain : Frame := ⟨5, 0, .msg, greetingFront ++ [5, 6, 7, 8], by decide +kernel⟩

theorem greetingMessage_accepted :
    greetingMessage.Holds greeting ∧ ¬greetingMessage.ReadsBeyond ∧
      greetingMessage.SameButChecksum greetingAgain ∧
      greetingAgain.replyDocument = greetingMessage.replyDocument := by
  obtain ⟨accepts, ignores, _⟩ := sections_accepted greetingMessage greetingAgain
  have held : greetingMessage.Holds greeting := by
    refine ⟨[⟨[9, 9], by decide⟩, ⟨[], by decide⟩], greeting.bytes, [], ?_, greeting_decoded⟩
    have stop : greetingMessage.sectionsStop = greetingFront.length := by decide +kernel
    rw [sections, stop, greetingMessage, List.take_left]
    simp [greetingFront]
  obtain ⟨_, _, inside⟩ := (accepts greeting).mp held
  have same : greetingMessage.SameButChecksum greetingAgain := by
    refine ⟨⟨rfl, rfl⟩, ⟨⟨by decide +kernel, by decide +kernel⟩, by decide +kernel, by decide +kernel⟩,
      by decide +kernel, fun p before => ?_⟩
    have front : p < greetingFront.length := by simpa [greetingMessage] using before
    simp only [greetingMessage, greetingAgain, List.getElem?_append_left front]
  exact ⟨held, inside, same, (ignores same inside).2.2.2⟩

/-- Messages that end with their document, which has the checksum at its end. -/
def coveringMessage : Frame :=
  ⟨5, 0, .msg, [1, 0, 0, 0] ++ 0 :: Document.bytes [("$db", .text "ab")], by decide +kernel⟩

def coveringOther : Frame :=
  ⟨5, 0, .msg, [1, 0, 0, 0] ++ 0 :: Document.bytes [("$db", .text "cd")], by decide +kernel⟩

/-- A message in which a section declares three bytes: the last byte of that size is taken for the
    kind of the next section. -/
def narrowMessage : Frame :=
  ⟨5, 0, .msg, [0, 0, 0, 0] ++ ([1, 3, 0, 0] ++ 0 :: greeting.bytes), by decide +kernel⟩

theorem narrowMessage_scanned :
    Scans narrowMessage.body narrowMessage.sectionsStop 4 [⟨4, 3⟩]
      (roundReads narrowMessage.body narrowMessage.sectionsStop 4 ++
        roundReads narrowMessage.body narrowMessage.sectionsStop 8) (.ok greeting) := by
  have first : sectionRound narrowMessage.body narrowMessage.sectionsStop 4 = .onward 3 :=
    sectionRound_eq_onward.mpr
      ⟨by decide +kernel, by decide +kernel, 3, by decide +kernel, by decide⟩
  have behind : narrowMessage.body.drop 9 = greeting.bytes ++ [] := by simp [narrowMessage]
  have read := readDocument_of_drop behind greeting_decoded
  have second : sectionRound narrowMessage.body narrowMessage.sectionsStop 8 = .last (.ok greeting) :=
    sectionRound_eq_ok.mpr ⟨by decide +kernel, by decide +kernel, _, read⟩
  exact .passes first (.ends second)

/-- A document that covers the checksum is accepted, so that the checksum is part of what the message
    says; and so is a section that is smaller than its size. -/
theorem unsound_sections_accepted :
    (coveringMessage.messageDocument = .ok [("$db", .text "ab")] ∧
        ∀ doc, ¬coveringMessage.Holds doc) ∧
      (coveringMessage.SameButChecksum coveringOther ∧
        coveringOther.namespace? ≠ coveringMessage.namespace?) ∧
      (narrowMessage.messageDocument = .ok greeting ∧ ∀ doc, ¬narrowMessage.Holds doc) := by
  have decoded : Document.decode? (Document.bytes [("$db", .text "ab")]) = _ :=
    Document.decode?_bytes (by decide +kernel) rfl (by decide +kernel)
  have other_decoded : Document.decode? (Document.bytes [("$db", .text "cd")]) = _ :=
    Document.decode?_bytes (by decide +kernel) rfl (by decide +kernel)
  have four : ([1, 0, 0, 0] : List UInt8).length = 4 := rfl
  obtain ⟨read, beyond⟩ : coveringMessage.messageDocument = _ ∧ coveringMessage.ReadsBeyond :=
    readsBeyond_of_ends four rfl decoded (by decide +kernel)
  obtain ⟨other_read, _⟩ : coveringOther.messageDocument = _ ∧ coveringOther.ReadsBeyond :=
    readsBeyond_of_ends four rfl other_decoded (by decide +kernel)
  have same : coveringMessage.SameButChecksum coveringOther := by
    refine ⟨⟨rfl, rfl⟩, ⟨⟨by decide +kernel, by decide +kernel⟩, by decide +kernel, by decide +kernel⟩,
      by decide +kernel, fun p before => ?_⟩
    have agree : coveringMessage.body.take 18 = coveringOther.body.take 18 := by decide +kernel
    have early : p < 18 := by
      have size : coveringMessage.body.length = 22 := by decide +kernel
      omega
    have kept := congrArg (·[p]?) agree
    simpa only [List.getElem?_take, if_pos early] using kept
  have apart : coveringOther.namespace? ≠ coveringMessage.namespace? := by
    rw [(shows_of_messageDocument rfl other_read).ns, (shows_of_messageDocument rfl read).ns]
    decide
  refine ⟨⟨read, fun doc held => held.sound.2.2 beyond⟩, ⟨same, apart⟩,
    ?_, fun doc held => ?_⟩
  · exact (messageDocument_of_length (by decide +kernel)).trans narrowMessage_scanned.bodySection_eq
  · exact held.sound.2.1 ⟨_, _, _, narrowMessage_scanned, ⟨4, 3⟩, List.mem_cons_self, by decide⟩

end TrafficReplay.Frame
