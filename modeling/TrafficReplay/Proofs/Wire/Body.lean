import TrafficReplay.Proofs.Wire.Build
import TrafficReplay.Proofs.Wire.Scan

namespace TrafficReplay.Frame

/-- A document sequence: what a section of the first kind holds behind its size. -/
structure Sequence where
  content : List UInt8
  small : 4 + content.length < 2 ^ 31

namespace Sequence

/-- The size counts the bytes that it stands in, but not the kind in front of them. -/
def size (sequence : Sequence) : Nat := 4 + sequence.content.length

def bytes (sequence : Sequence) : List UInt8 :=
  1 :: (int32Bytes (Int32.ofNat sequence.size) ++ sequence.content)

@[simp] theorem length_bytes (sequence : Sequence) :
    sequence.bytes.length = 1 + sequence.size := by
  simp only [bytes, size, List.length_cons, List.length_append, length_int32Bytes]
  omega

end Sequence

section Written

variable {body document rest : List UInt8} {stop pos : Nat} {doc : Document}

theorem of_drop_cons {kind : UInt8} (held : body.drop pos = kind :: rest) :
    body[pos]? = some kind ∧ body.drop (pos + 1) = rest := by
  constructor
  · rw [← Nat.add_zero pos, ← List.getElem?_drop, held, List.getElem?_cons_zero]
  · rw [← List.drop_drop, held, List.drop_succ_cons, List.drop_zero]

theorem drop_of_getElem? {kind : UInt8} (held : body[pos]? = some kind) :
    body.drop pos = kind :: body.drop (pos + 1) := by
  rw [List.drop_eq_getElem?_toList_append, held]
  rfl

theorem sectionRound_sequence {sequence : Sequence} (before : pos < stop)
    (held : body.drop pos = sequence.bytes ++ rest) :
    sectionRound body stop pos = .onward sequence.size := by
  rw [Sequence.bytes, List.cons_append, List.append_assoc] at held
  obtain ⟨kind, behind⟩ := of_drop_cons held
  have nonempty : int32Bytes (Int32.ofNat sequence.size) ≠ [] :=
    List.ne_nil_of_length_pos (by simp)
  have number : readInt32 body (pos + 1) = .ok (Int32.ofNat sequence.size) := by
    have field := slice?_of_drop behind nonempty
    rw [length_int32Bytes] at field
    exact readInt32_eq_ok.mpr field
  exact sectionRound_eq_onward.mpr
    ⟨before, kind, _, number, Int32.toInt_ofNat_of_lt sequence.small⟩

theorem scans_written (sequences : List Sequence)
    (held : body.drop pos = sequences.flatMap Sequence.bytes ++ 0 :: (document ++ rest))
    (before : pos + (sequences.flatMap Sequence.bytes).length < stop)
    (valid : Document.decode? document = some doc) :
    ∃ passed reads, Scans body stop pos passed reads (.ok doc) ∧ (∀ entry ∈ passed, 4 ≤ entry.size) ∧
      ∀ span ∈ reads,
        span.stop ≤ pos + (sequences.flatMap Sequence.bytes).length + 1 + document.length := by
  -- A round for each sequence; what is left of the body is written out from further on.
  induction sequences generalizing pos with
  | nil =>
    simp only [List.flatMap_nil, List.nil_append, List.length_nil, Nat.add_zero] at held before ⊢
    obtain ⟨kind, behind⟩ := of_drop_cons held
    have read := readDocument_of_drop behind valid
    have round : sectionRound body stop pos = .last (.ok doc) :=
      sectionRound_eq_ok.mpr ⟨before, kind, _, read⟩
    refine ⟨[], _, .ends round, List.forall_mem_nil _, fun span member => ?_⟩
    simp only [roundReads, if_pos before, if_pos kind, List.mem_cons] at member
    rcases member with rfl | member
    · exact Nat.le_add_right _ _
    · exact (documentReads_of_read read).1 span member
  | cons sequence sequences ih =>
    simp only [List.flatMap_cons, List.append_assoc, List.length_append,
      Sequence.length_bytes] at held before ⊢
    have early : pos < stop := by omega
    have round := sectionRound_sequence early held
    have behind : body.drop (pos + 1 + sequence.size) =
        sequences.flatMap Sequence.bytes ++ 0 :: (document ++ rest) := by
      rw [Nat.add_assoc, ← List.drop_drop, held, List.drop_left' sequence.length_bytes]
    obtain ⟨passed, reads, scan, whole, bounds⟩ := ih behind (by omega)
    refine ⟨_, _, .passes round scan, List.forall_mem_cons.mpr ⟨Nat.le_add_right 4 _, whole⟩, ?_⟩
    intro span member
    rcases List.mem_append.mp member with member | member
    · have least : 4 ≤ sequence.size := Nat.le_add_right 4 _
      rw [roundReads_onward round] at member
      simp only [List.mem_cons, List.not_mem_nil, or_false] at member
      rcases member with rfl | rfl <;> simp only [Span.stop] <;> omega
    · have bound := bounds span member
      omega

theorem sequence_of_onward {size : Nat} (round : sectionRound body stop pos = .onward size)
    (whole : 4 ≤ size) (inside : pos + 1 + size ≤ body.length) :
    ∃ sequence : Sequence, sequence.size = size ∧
      body.drop pos = sequence.bytes ++ body.drop (pos + 1 + size) := by
  obtain ⟨_, kind, number, declared, value⟩ := sectionRound_eq_onward.mp round
  have bound : number.toInt < 2 ^ 31 := number.toInt_lt
  obtain ⟨content, stands⟩ : ∃ content, slice? body (pos + 1 + 4) (size - 4) = some content :=
    ⟨_, if_pos (by omega)⟩
  have length := length_of_slice? stands
  have total : 4 + content.length = size := by omega
  have same : Int32.ofNat (4 + content.length) = number := by
    apply Int32.toInt_inj.mp
    rw [Int32.toInt_ofNat_of_lt (by omega), value, total]
  have next : pos + 1 + 4 + (size - 4) = pos + 1 + size := by omega
  refine ⟨⟨content, by omega⟩, total, ?_⟩
  rw [drop_of_getElem? kind, drop_of_slice? (readInt32_eq_ok.mp declared), drop_of_slice? stands, next]
  simp only [Sequence.bytes, Sequence.size, same, List.cons_append, List.append_assoc]

/-- What a scan that finds a document went over is written out, if every size was large enough. -/
theorem written_of_scans {passed : List Passed} {reads : List Span}
    {result : Except FrameFault Document} (scan : Scans body stop pos passed reads result)
    (found : result = .ok doc) (whole : ∀ entry ∈ passed, 4 ≤ entry.size) :
    ∃ (sequences : List Sequence) (document : List UInt8) (next : Nat),
      body.drop pos = sequences.flatMap Sequence.bytes ++ 0 :: (document ++ body.drop next) ∧
        Document.decode? document = some doc ∧
        next = pos + (sequences.flatMap Sequence.bytes).length + 1 + document.length ∧
        next ≤ body.length ∧ ∃ span ∈ reads, span.stop = next := by
  induction scan with
  | @ends pos result last =>
    subst found
    obtain ⟨before, kind, next, read⟩ := sectionRound_eq_ok.mp last
    obtain ⟨span, member, stop_at⟩ := (documentReads_of_read read).2
    obtain ⟨document, stands, valid, rfl⟩ := readDocument_eq_ok.mp read
    refine ⟨[], document, _, ?_, valid, rfl, (slice?_eq_some.mp stands).1, span, ?_, stop_at⟩
    · rw [drop_of_getElem? kind, drop_of_slice? stands]
      rfl
    · simp only [roundReads, if_pos before, if_pos kind]
      exact List.mem_cons_of_mem _ member
  | @passes pos size passed reads result round rest ih =>
    obtain ⟨large, others⟩ := List.forall_mem_cons.mp whole
    obtain ⟨sequences, document, next, held, valid, place, inside, span, member, stop_at⟩ :=
      ih found others
    obtain ⟨sequence, size_eq, front⟩ := sequence_of_onward round large (by omega)
    refine ⟨sequence :: sequences, document, next, ?_, valid, ?_, inside, span,
      List.mem_append_right _ member, stop_at⟩
    · rw [front, held, List.flatMap_cons, List.append_assoc]
    · rw [List.flatMap_cons, List.length_append, Sequence.length_bytes, size_eq]
      omega

end Written

def sectionsStop (frame : Frame) : Nat :=
  sectionsEnd (int32OfBytes (frame.body.take 4)) frame.body.length

theorem sectionsStop_le (frame : Frame) : frame.sectionsStop ≤ frame.body.length := by
  unfold sectionsStop sectionsEnd
  split
  · exact Nat.sub_le _ _
  · exact Nat.le_refl _

theorem le_sectionsStop (frame : Frame) : frame.body.length ≤ frame.sectionsStop + 4 := by
  unfold sectionsStop sectionsEnd
  split <;> omega

theorem messageDocument_of_length {frame : Frame} (long : 4 ≤ frame.body.length) :
    frame.messageDocument = bodySection frame.body frame.sectionsStop 4 := by
  simp [messageDocument, readInt32, slice?, long, sectionsStop, bind, Except.bind]

theorem messageDocument_of_short {frame : Frame} (short : frame.body.length < 4) :
    frame.messageDocument = .error (.truncated 0) := by
  have cut : ¬4 ≤ frame.body.length := by omega
  simp [messageDocument, readInt32, slice?, cut, bind, Except.bind]

structure Shows (frame : Frame) (doc : Document) : Prop where
  ns : frame.namespace? = (doc.text? "$db").map (· ++ commandSuffix)
  command : frame.commandName? = doc.firstKey?
  summary : frame.replySummary = .ok (.ofCommand doc)
  document : frame.replyDocument = .ok doc

section Readers

variable {frame : Frame}

theorem namespace?_message (code : frame.opCode = .msg) : frame.namespace? =
    frame.messageDocument.toOption.bind fun doc => (doc.text? "$db").map (· ++ commandSuffix) := by
  simp only [namespace?, code]
  cases frame.messageDocument with
  | error fault => rfl
  | ok doc =>
    simp only [Except.toOption, Option.bind_eq_bind, Option.bind_some]
    cases doc.text? "$db" <;> rfl

theorem commandName?_message (code : frame.opCode = .msg) :
    frame.commandName? = frame.messageDocument.toOption.bind Document.firstKey? := by
  simp only [commandName?, code]
  rfl

theorem replySummary_message (code : frame.opCode = .msg) :
    frame.replySummary = frame.messageDocument.map .ofCommand := by
  simp only [replySummary, code]
  cases frame.messageDocument <;> rfl

theorem replyDocument_message (code : frame.opCode = .msg) :
    frame.replyDocument = frame.messageDocument := by
  simp only [replyDocument, code]

theorem shows_of_messageDocument {doc : Document} (code : frame.opCode = .msg)
    (read : frame.messageDocument = .ok doc) : frame.Shows doc where
  ns := by rw [namespace?_message code, read]; rfl
  command := by rw [commandName?_message code, read]; rfl
  summary := by rw [replySummary_message code, read]; rfl
  document := by rw [replyDocument_message code, read]

end Readers

/-- A message is scanned as it is written out: no size is too small, and nothing behind the document
    is read. -/
theorem scans_of_written {frame : Frame} {flags document rest : List UInt8} {doc : Document}
    (sequences : List Sequence) (four : flags.length = 4)
    (held : frame.body = flags ++ (sequences.flatMap Sequence.bytes ++ 0 :: (document ++ rest)))
    (valid : Document.decode? document = some doc) :
    frame.messageDocument = .ok doc ∧ ∃ passed reads,
      Scans frame.body frame.sectionsStop 4 passed reads (.ok doc) ∧
        (∀ entry ∈ passed, 4 ≤ entry.size) ∧
        ∀ span ∈ reads, span.stop + rest.length ≤ frame.body.length := by
  have long := (Document.length_of_decode? valid).1
  have total := congrArg List.length held
  simp only [List.length_append, List.length_cons, four] at total
  have late := frame.le_sectionsStop
  have behind : frame.body.drop 4 =
      sequences.flatMap Sequence.bytes ++ 0 :: (document ++ rest) := by
    rw [held, List.drop_left' four]
  have before : 4 + (sequences.flatMap Sequence.bytes).length < frame.sectionsStop := by omega
  obtain ⟨passed, reads, scan, whole, bounds⟩ := scans_written sequences behind before valid
  refine ⟨(messageDocument_of_length (by omega)).trans scan.bodySection_eq, passed, reads, scan,
    whole, fun span member => ?_⟩
  have bound := bounds span member
  omega

theorem sectionsStop_of_agree {a b : Frame} {spans : List Span}
    (agree : AgreeOn (⟨0, 4⟩ :: spans) a.body b.body) : b.sectionsStop = a.sectionsStop := by
  have flags : a.body.take 4 = b.body.take 4 := by
    refine take_congr fun p below => agree.same ⟨0, 4⟩ List.mem_cons_self p (Nat.zero_le p) ?_
    simpa [Span.stop] using below
  rw [sectionsStop, sectionsStop, flags, agree.length]

/-- Messages that agree where one of them is scanned hold the same document. -/
theorem messageDocument_of_agree {a b : Frame} {passed : List Passed} {reads : List Span}
    (long : 4 ≤ a.body.length)
    (scan : Scans a.body a.sectionsStop 4 passed reads a.messageDocument)
    (agree : AgreeOn (⟨0, 4⟩ :: reads) a.body b.body) : b.messageDocument = a.messageDocument := by
  have again := scan.of_agree (agree.mono fun _ member => List.mem_cons_of_mem _ member)
  rw [← sectionsStop_of_agree agree] at again
  exact (messageDocument_of_length (agree.length ▸ long)).trans again.bodySection_eq

/-- A message shows the document of its body section, however many document sequences precede it and
    whatever follows it. The scan of any message ends, each round further on than the one before, reads
    only inside the body, and nothing else of the body matters. -/
theorem body_document_found (frame : Frame) :
    (∀ (flags : List UInt8) (sequences : List Sequence) (document rest : List UInt8) (doc : Document),
        flags.length = 4 →
        frame.body = flags ++ (sequences.flatMap Sequence.bytes ++ 0 :: (document ++ rest)) →
        Document.decode? document = some doc →
        frame.messageDocument = .ok doc ∧ (frame.opCode = .msg → frame.Shows doc)) ∧
      (frame.body.length < 4 ∧ frame.messageDocument = .error (.truncated 0) ∨
        ∃ passed reads, Scans frame.body frame.sectionsStop 4 passed reads frame.messageDocument ∧
          (passed.map Passed.start).Pairwise (· < ·) ∧ passed.length ≤ frame.body.length ∧
          (∀ span ∈ reads, span.Within 4 frame.body) ∧
          ∀ other : Frame, AgreeOn (⟨0, 4⟩ :: reads) frame.body other.body →
            other.messageDocument = frame.messageDocument) := by
  constructor
  · intro flags sequences document rest doc four held valid
    have read := (scans_of_written sequences four held valid).1
    exact ⟨read, fun code => shows_of_messageDocument code read⟩
  · by_cases long : 4 ≤ frame.body.length
    · have within := frame.sectionsStop_le
      obtain ⟨passed, reads, scan⟩ := Scans.total frame.body frame.sectionsStop 4
      rw [← messageDocument_of_length long] at scan
      have count := scan.length_le
      exact .inr ⟨passed, reads, scan, scan.forward.1, by omega, scan.within within,
        fun other agree => messageDocument_of_agree long scan agree⟩
    · have short : frame.body.length < 4 := by omega
      exact .inl ⟨short, messageDocument_of_short short⟩

def greeting : Document := [("hello", .int32 1), ("$db", .text "db")]

theorem greeting_decoded : Document.decode? greeting.bytes = some greeting :=
  Document.decode?_bytes (by decide +kernel) (by decide +kernel) (by decide +kernel)

def greetingFront : List UInt8 :=
  [1, 0, 0, 0] ++ (Sequence.bytes ⟨[9, 9], by decide⟩ ++ Sequence.bytes ⟨[], by decide⟩ ++
    0 :: greeting.bytes)

def greetingMessage : Frame := ⟨5, 0, .msg, greetingFront ++ [1, 2, 3, 4], by decide +kernel⟩

theorem greetingMessage_found :
    greetingMessage.messageDocument = .ok greeting ∧ greetingMessage.Shows greeting ∧
      ∃ passed reads, Scans greetingMessage.body greetingMessage.sectionsStop 4 passed reads
        (.ok greeting) ∧ ∀ span ∈ reads, span.Within 4 greetingMessage.body := by
  obtain ⟨whenever, course⟩ := body_document_found greetingMessage
  obtain ⟨read, shows_⟩ := whenever [1, 0, 0, 0] [⟨[9, 9], by decide⟩, ⟨[], by decide⟩]
    greeting.bytes [1, 2, 3, 4] greeting rfl (by simp [greetingMessage, greetingFront])
    greeting_decoded
  rcases course with ⟨short, _⟩ | ⟨passed, reads, scan, _, _, inside, _⟩
  · exact absurd short (by decide +kernel)
  · exact ⟨read, shows_ rfl, passed, reads, read ▸ scan, inside⟩

end TrafficReplay.Frame
