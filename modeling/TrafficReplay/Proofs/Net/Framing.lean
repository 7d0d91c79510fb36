import TrafficReplay.Net.Reception
import TrafficReplay.Proofs.Wire.Frame

namespace TrafficReplay

/-- Frames one after another, as many of them as there are, and the bytes after the last. -/
structure Framing (bytes : List UInt8) (frames : List Frame) (rest : List UInt8) : Prop where
  split : bytes = frames.flatMap Frame.bytes ++ rest
  whole : ∀ frame ∈ frames, Frame.ofBytes frame.bytes = .ok frame
  longest : ∀ (others : List Frame) (more : List UInt8),
    bytes = others.flatMap Frame.bytes ++ more →
      (∀ frame ∈ others, Frame.ofBytes frame.bytes = .ok frame) → others <+: frames

structure Refused (bytes : List UInt8) (fault : FrameFault) : Prop where
  enough : headerLength ≤ bytes.length
  outside : (Header.ofFields bytes).length.toInt < headerLength ∨
    (frameLimit : Int) < (Header.ofFields bytes).length.toInt
  cause : (Header.ofFields bytes).frameLength = .error fault

def Wait.bytes : Wait → List UInt8
  | .read bytes => bytes
  | .abandoned => []

def readIn (waits : List Wait) : List UInt8 := waits.flatMap Wait.bytes

def abandonments (waits : List Wait) : Nat := waits.count .abandoned

theorem readIn_read (bytes : List UInt8) (later : List Wait) :
    readIn (.read bytes :: later) = bytes ++ readIn later := rfl

theorem abandonments_read (bytes : List UInt8) (later : List Wait) :
    abandonments (.read bytes :: later) = abandonments later :=
  List.count_cons_of_ne (fun same => by cases same)

theorem abandonments_abandoned (later : List Wait) :
    abandonments (.abandoned :: later) = abandonments later + 1 :=
  List.count_cons_self

theorem Refused.of_frameLength {bytes : List UInt8} {fault : FrameFault}
    (enough : headerLength ≤ bytes.length)
    (cause : (Header.ofFields bytes).frameLength = .error fault) : Refused bytes fault :=
  ⟨enough, Header.frameLength_error_iff.mp ⟨fault, cause⟩, cause⟩

theorem Refused.append {bytes : List UInt8} {fault : FrameFault} (refused : Refused bytes fault)
    (more : List UInt8) : Refused (bytes ++ more) fault := by
  have fields := Header.ofFields_append refused.enough more
  have enough : headerLength ≤ (bytes ++ more).length := by
    have before := refused.enough
    rw [List.length_append]
    omega
  exact .of_frameLength enough (by rw [fields, refused.cause])

theorem Framing.nil {bytes : List UInt8} (unframed : ∀ (frame : Frame) (rest : List UInt8),
    Frame.ofBytes frame.bytes = .ok frame → bytes ≠ frame.bytes ++ rest) :
    Framing bytes [] bytes where
  split := rfl
  whole := nofun
  longest := by
    intro others more split read
    cases others with
    | nil => exact List.prefix_rfl
    | cons frame others =>
      have first := read frame List.mem_cons_self
      rw [List.flatMap_cons, List.append_assoc] at split
      exact absurd split (unframed frame _ first)

theorem Framing.cons {bytes rest : List UInt8} {frame : Frame} {frames : List Frame}
    (read : Frame.ofBytes frame.bytes = .ok frame) (framing : Framing bytes frames rest) :
    Framing (frame.bytes ++ bytes) (frame :: frames) rest where
  split := by rw [List.flatMap_cons, List.append_assoc, ← framing.split]
  whole := by
    intro other held
    cases List.mem_cons.mp held with
    | inl same => rw [same, read]
    | inr later => exact framing.whole other later
  longest := by
    intro others more split read_others
    cases others with
    | nil => exact List.nil_prefix
    | cons other others =>
      have first := read_others other List.mem_cons_self
      rw [List.flatMap_cons, List.append_assoc] at split
      obtain ⟨rfl, tail⟩ := Frame.eq_of_append read first split
      have before := framing.longest others more tail fun later held =>
        read_others later (List.mem_cons_of_mem _ held)
      exact List.cons_prefix_cons.mpr ⟨rfl, before⟩

theorem Framing.tail {bytes rest more : List UInt8} {frame : Frame} {frames : List Frame}
    (framing : Framing bytes frames rest) (read : Frame.ofBytes frame.bytes = .ok frame)
    (split : bytes = frame.bytes ++ more) :
    ∃ later, frames = frame :: later ∧ Framing more later rest := by
  have first : [frame] <+: frames :=
    framing.longest [frame] more (by simpa using split) (by simpa using read)
  obtain ⟨later, rfl⟩ := first
  have tail : more = later.flatMap Frame.bytes ++ rest := by
    have whole := framing.split
    rw [split, List.cons_append, List.nil_append, List.flatMap_cons, List.append_assoc] at whole
    exact List.append_cancel_left whole
  refine ⟨later, rfl, tail, ?_, ?_⟩
  · intro other held
    exact framing.whole other (List.mem_cons_of_mem _ held)
  · intro others surplus parts read_others
    have before : frame :: others <+: frame :: later := by
      apply framing.longest (frame :: others) surplus
      · rw [split, parts, List.flatMap_cons, List.append_assoc]
      · intro other held
        cases List.mem_cons.mp held with
        | inl same => rw [same, read]
        | inr later => exact read_others other later
    exact (List.cons_prefix_cons.mp before).2

theorem Framing.eq_nil {bytes rest : List UInt8} {frames : List Frame}
    (framing : Framing bytes frames rest) (unframed : ∀ (frame : Frame) (rest : List UInt8),
      Frame.ofBytes frame.bytes = .ok frame → bytes ≠ frame.bytes ++ rest) :
    frames = [] ∧ rest = bytes := by
  cases frames with
  | nil => exact ⟨rfl, framing.split.symm⟩
  | cons frame frames =>
    have split := framing.split
    rw [List.flatMap_cons, List.append_assoc] at split
    exact absurd split (unframed frame _ (framing.whole frame List.mem_cons_self))

theorem Framing.eq_of_frames {bytes rest : List UInt8} {frames others : List Frame}
    (framing : Framing bytes frames rest) (split : bytes = others.flatMap Frame.bytes)
    (read : ∀ frame ∈ others, Frame.ofBytes frame.bytes = .ok frame) :
    frames = others ∧ rest = [] := by
  obtain ⟨more, rfl⟩ := framing.longest others [] (by rw [split, List.append_nil]) read
  have empty : more.flatMap Frame.bytes ++ rest = [] := by
    have whole := framing.split
    rw [split, List.flatMap_append, List.append_assoc] at whole
    exact List.append_cancel_left ((List.append_nil _).trans whole) |>.symm
  obtain ⟨none, nothing⟩ := List.append_eq_nil_iff.mp empty
  cases more with
  | nil => exact ⟨List.append_nil _, nothing⟩
  | cons frame more =>
    rw [List.flatMap_cons] at none
    exact absurd (List.append_eq_nil_iff.mp none).1 frame.bytes_ne_nil

theorem Refused.unframed {bytes : List UInt8} {fault : FrameFault} (refused : Refused bytes fault)
    (frame : Frame) (rest : List UInt8) (read : Frame.ofBytes frame.bytes = .ok frame) :
    bytes ≠ frame.bytes ++ rest := by
  intro split
  have declared := (Frame.frameLength_of_append read split).2
  rw [refused.cause] at declared
  cases declared

namespace FrameBuffer

inductive Next (buffer : FrameBuffer) : Except FrameFault (Option (Frame × FrameBuffer)) → Prop
  | incomplete (unframed : ∀ (frame : Frame) (rest : List UInt8),
        Frame.ofBytes frame.bytes = .ok frame → buffer.bytes ≠ frame.bytes ++ rest)
      (unrefused : ∀ fault, ¬Refused buffer.bytes fault) : Next buffer (.ok none)
  | refused {fault : FrameFault} (refused : Refused buffer.bytes fault) :
      Next buffer (.error fault)
  | whole {frame : Frame} {rest : FrameBuffer} (split : buffer.bytes = frame.bytes ++ rest.bytes)
      (read : Frame.ofBytes frame.bytes = .ok frame) : Next buffer (.ok (some (frame, rest)))

theorem next_cases (buffer : FrameBuffer) : buffer.Next buffer.next := by
  unfold next
  by_cases enough : headerLength ≤ buffer.bytes.length
  · have long : ¬buffer.bytes.length < headerLength := by omega
    have header : headerLength ≤ (buffer.bytes.take headerLength).length := by
      rw [List.length_take]
      omega
    have fields := Header.ofFields_append header (buffer.bytes.drop headerLength)
    rw [List.take_append_drop] at fields
    rw [Header.parse_of_length header, ← fields]
    cases declared : (Header.ofFields buffer.bytes).frameLength with
    | error fault =>
      simp only [long, if_false, Except.map, Bind.bind, Except.bind, Pure.pure, Except.pure]
      exact .refused (.of_frameLength enough declared)
    | ok length =>
      simp only [long, if_false, Except.map, declared, Bind.bind, Except.bind, Pure.pure,
        Except.pure]
      by_cases short : buffer.bytes.length < length
      · rw [if_pos short]
        apply Next.incomplete
        · intro frame rest read split
          obtain ⟨_, same⟩ := Frame.frameLength_of_append read split
          rw [declared] at same
          have held : length = frame.bytes.length := Except.ok.inj same
          rw [split, List.length_append] at short
          omega
        · intro fault refused
          have cause := refused.cause
          rw [declared] at cause
          cases cause
      · rw [if_neg short]
        obtain ⟨_, lower, _⟩ := Header.frameLength_ok_iff.mp declared
        have taken : (buffer.bytes.take length).length = length := by
          rw [List.length_take]
          omega
        have enough' : headerLength ≤ (buffer.bytes.take length).length := by omega
        have first := Header.ofFields_append enough' (buffer.bytes.drop length)
        rw [List.take_append_drop] at first
        have declared' : (Header.ofFields (buffer.bytes.take length)).frameLength =
            .ok (buffer.bytes.take length).length := by
          rw [← first, declared, taken]
        obtain ⟨frame, read⟩ := Frame.ofBytes_of_frameLength enough' declared'
        obtain ⟨whole, _⟩ := Frame.ofBytes_eq_ok_iff.mp read
        simp only [read]
        apply Next.whole
        · simp only [whole, List.take_append_drop]
        · rw [whole, read]
  · have short : buffer.bytes.length < headerLength := by omega
    rw [if_pos short]
    apply Next.incomplete
    · intro frame rest read split
      have longer := (Frame.frameLength_of_append read split).1
      exact enough longer
    · exact fun fault refused => enough refused.enough

/-- A frame at the front is found, whatever comes behind it. -/
theorem next_of_frame {frame : Frame} {rest : List UInt8}
    (read : Frame.ofBytes frame.bytes = .ok frame) :
    next ⟨frame.bytes ++ rest⟩ = .ok (some (frame, ⟨rest⟩)) := by
  have first := next_cases ⟨frame.bytes ++ rest⟩
  generalize next ⟨frame.bytes ++ rest⟩ = found at first ⊢
  cases first with
  | incomplete unframed => exact absurd rfl (unframed frame rest read)
  | refused refused => exact absurd rfl (refused.unframed frame rest read)
  | whole split read_other =>
    obtain ⟨rfl, same⟩ := Frame.eq_of_append read read_other split
    rw [same]

end FrameBuffer

theorem exists_framing (bytes : List UInt8) : ∃ frames rest, Framing bytes frames rest := by
  induction size : bytes.length using Nat.strongRecOn generalizing bytes with
  | ind _ shorter =>
    have cases_of_next := FrameBuffer.next_cases ⟨bytes⟩
    cases hn : FrameBuffer.next ⟨bytes⟩ with
    | error fault =>
      rw [hn] at cases_of_next
      cases cases_of_next with
      | refused refused => exact ⟨[], bytes, .nil refused.unframed⟩
    | ok found =>
      rw [hn] at cases_of_next
      cases cases_of_next with
      | incomplete unframed _ => exact ⟨[], bytes, .nil unframed⟩
      | @whole frame rest split read =>
        have some_bytes := List.length_pos_iff.mpr frame.bytes_ne_nil
        have less : rest.bytes.length < bytes.length := by
          rw [show bytes = frame.bytes ++ rest.bytes from split, List.length_append]
          omega
        obtain ⟨frames, last, framing⟩ := shorter _ (size ▸ less) rest.bytes rfl
        refine ⟨frame :: frames, last, ?_⟩
        rw [show bytes = frame.bytes ++ rest.bytes from split]
        exact framing.cons read

namespace FrameBuffer

/-- The bytes that a call has before it: those in the buffer and those still to be read. -/
def ahead (buffer : FrameBuffer) (waits : List Wait) : List UInt8 := buffer.bytes ++ readIn waits

/-- How one call can go, given the bytes that it has before it and how often it or a later one is given
    up. Only a call that takes a frame takes bytes away. -/
inductive Receives (closed : Bool) (bytes : List UInt8) (lost : Nat) :
    Settled (Except ReceiveFault Frame) × FrameBuffer × List Wait → Prop
  | whole {frame : Frame} {rest : FrameBuffer} {left : List Wait}
      (read : Frame.ofBytes frame.bytes = .ok frame) (split : bytes = frame.bytes ++ rest.ahead left)
      (patient : abandonments left = lost) :
      Receives closed bytes lost (.done (.ok frame), rest, left)
  | refused {fault : FrameFault} {held : FrameBuffer} {left : List Wait}
      (refused : Refused held.bytes fault) (kept : bytes = held.ahead left)
      (patient : abandonments left = lost) :
      Receives closed bytes lost (.done (.error (.frame fault)), held, left)
  | ended {held : FrameBuffer} (ended : closed = true) (incomplete : held.next = .ok none)
      (kept : bytes = held.bytes) (patient : lost = 0) :
      Receives closed bytes lost (.done (.error (.link .closedByPeer)), held, [])
  | starved {held : FrameBuffer} (waiting : closed = false) (incomplete : held.next = .ok none)
      (kept : bytes = held.bytes) (patient : lost = 0) :
      Receives closed bytes lost (.pending, held, [])
  | abandoned {held : FrameBuffer} {left : List Wait} (kept : bytes = held.ahead left)
      (givenUp : lost = abandonments left + 1) : Receives closed bytes lost (.pending, held, left)

theorem receive_cases (closed : Bool) (buffer : FrameBuffer) (waits : List Wait) :
    Receives closed (buffer.ahead waits) (abandonments waits) (receive closed buffer waits) := by
  have first := next_cases buffer
  fun_induction receive closed buffer waits with
  | case1 waits buffer fault found =>
    rw [found] at first
    cases first with
    | refused refused => exact .refused refused rfl rfl
  | case2 waits buffer frame rest found =>
    rw [found] at first
    cases first with
    | whole split read => exact .whole read (by rw [ahead, split, List.append_assoc, ahead]) rfl
  | case3 buffer found =>
    have nothing : buffer.ahead [] = buffer.bytes := List.append_nil _
    cases closed with
    | true => exact .ended rfl found nothing rfl
    | false => exact .starved rfl found nothing rfl
  | case4 buffer found later => exact .abandoned rfl (abandonments_abandoned later)
  | case5 buffer found bytes later ih =>
    have more : (buffer.append bytes).ahead later = buffer.ahead (.read bytes :: later) := by
      simp only [ahead, append, readIn_read, List.append_assoc]
    have next := ih (next_cases _)
    rw [more] at next
    rw [abandonments_read]
    exact next

theorem receive_of_refused {held : FrameBuffer} {fault : FrameFault}
    (refused : Refused held.bytes fault) (closed : Bool) (waits : List Wait) :
    held.receive closed waits = (.done (.error (.frame fault)), held, waits) := by
  have first := next_cases held
  unfold receive
  cases found : held.next with
  | error other =>
    rw [found] at first
    cases first with
    | refused again =>
      have same := again.cause.symm.trans refused.cause
      rw [Except.error.inj same]
  | ok next =>
    rw [found] at first
    cases first with
    | whole split read => exact absurd split (refused.unframed _ _ read)
    | incomplete _ unrefused => exact absurd refused (unrefused fault)

theorem receive_of_ended {held : FrameBuffer} (incomplete : held.next = .ok none) :
    held.receive true [] = (.done (.error (.link .closedByPeer)), held, []) := by
  simp only [receive, incomplete, if_true]

theorem receive_of_starved {held : FrameBuffer} (incomplete : held.next = .ok none) :
    held.receive false [] = (.pending, held, []) := by
  simp only [receive, incomplete, Bool.false_eq_true, if_false]

def receiveMany (closed : Bool) : Nat → FrameBuffer → List Wait →
    List (Except ReceiveFault Frame) × FrameBuffer × List Wait
  | 0, buffer, waits => ([], buffer, waits)
  | calls + 1, buffer, waits =>
    match receive closed buffer waits with
    | (.pending, held, left) => receiveMany closed calls held left
    | (.done result, held, left) =>
      let (results, last) := receiveMany closed calls held left
      (result :: results, last)

end FrameBuffer

/-- What a call gives after the last frame, with the bytes that follow it. -/
inductive Concluding (rest : List UInt8) : ReceiveFault → Prop
  | refused {fault : FrameFault} (refused : Refused rest fault) : Concluding rest (.frame fault)
  | ended (unrefused : ∀ fault, ¬Refused rest fault) : Concluding rest (.link .closedByPeer)

def framesThen (frames : List Frame) (fault : ReceiveFault) (calls : Nat) :
    List (Except ReceiveFault Frame) :=
  frames.map .ok ++ List.replicate calls (.error fault)

/-- What some calls make of bytes that are frames and a rest after which `fault` is due. -/
structure Reception (closed : Bool) (frames : List Frame) (fault : ReceiveFault) (bytes : List UInt8)
    (lost calls : Nat) (given : List (Except ReceiveFault Frame)) (held : FrameBuffer)
    (left : List Wait) : Prop where
  ordered : given <+: framesThen frames fault calls
  /-- Every byte is in one frame that was given, or in the buffer, or still to be read. -/
  kept : bytes = (frames.take given.length).flatMap Frame.bytes ++ held.ahead left
  completed : given.length + lost = calls + abandonments left ∨
    (closed = false ∧ left = [] ∧ fault = .link .closedByPeer ∧ given = frames.map .ok)
  ended : frames.length < given.length → fault = .link .closedByPeer → closed = true ∧ left = []
  /-- Once the fault was given, each further call gives it, and what is unread stays as it is. -/
  settled : frames.length < given.length → ∀ more,
    FrameBuffer.receiveMany closed more held left = (List.replicate more (.error fault), held, left)

namespace FrameBuffer

theorem receiveMany_done {closed : Bool} {buffer held : FrameBuffer} {waits left : List Wait}
    {result : Except ReceiveFault Frame}
    (went : buffer.receive closed waits = (.done result, held, left)) (calls : Nat) :
    receiveMany closed (calls + 1) buffer waits =
      (result :: (receiveMany closed calls held left).1, (receiveMany closed calls held left).2) := by
  rw [receiveMany, went]

theorem receiveMany_pending {closed : Bool} {buffer held : FrameBuffer} {waits left : List Wait}
    (went : buffer.receive closed waits = (.pending, held, left)) (calls : Nat) :
    receiveMany closed (calls + 1) buffer waits = receiveMany closed calls held left := by
  rw [receiveMany, went]

theorem receiveMany_settled {closed : Bool} {held : FrameBuffer} {left : List Wait}
    {fault : ReceiveFault}
    (again : held.receive closed left = (.done (.error fault), held, left)) (calls : Nat) :
    receiveMany closed calls held left = (List.replicate calls (.error fault), held, left) := by
  induction calls with
  | zero => rfl
  | succ calls ih => rw [receiveMany_done again, ih, List.replicate_succ]

theorem receiveMany_starved {held : FrameBuffer} (incomplete : held.next = .ok none) (calls : Nat) :
    receiveMany false calls held [] = ([], held, []) := by
  induction calls with
  | zero => rfl
  | succ calls ih => rw [receiveMany_pending (receive_of_starved incomplete), ih]

theorem unframed_of_incomplete {held : FrameBuffer} (incomplete : held.next = .ok none) :
    (∀ (frame : Frame) (rest : List UInt8), Frame.ofBytes frame.bytes = .ok frame →
      held.bytes ≠ frame.bytes ++ rest) ∧ ∀ fault, ¬Refused held.bytes fault := by
  have first := next_cases held
  rw [incomplete] at first
  cases first with
  | incomplete unframed unrefused => exact ⟨unframed, unrefused⟩

end FrameBuffer

theorem Concluding.refused_eq {rest : List UInt8} {fault : FrameFault} {last : ReceiveFault}
    (concluding : Concluding rest last) (refused : Refused rest fault) : last = .frame fault := by
  cases concluding with
  | refused again =>
    have same := again.cause.symm.trans refused.cause
    rw [Except.error.inj same]
  | ended unrefused => exact absurd refused (unrefused fault)

theorem Concluding.ended_eq {rest : List UInt8} {last : ReceiveFault}
    (concluding : Concluding rest last) (unrefused : ∀ fault, ¬Refused rest fault) :
    last = .link .closedByPeer := by
  cases concluding with
  | refused refused => exact absurd refused (unrefused _)
  | ended _ => rfl

theorem Reception.of_settled {closed : Bool} {fault : ReceiveFault} {held : FrameBuffer}
    {left : List Wait} (again : held.receive closed left = (.done (.error fault), held, left))
    (at_end : fault = .link .closedByPeer → closed = true ∧ left = []) (calls : Nat) :
    Reception closed [] fault (held.ahead left) (abandonments left) calls
      (List.replicate calls (.error fault)) held left where
  ordered := List.prefix_rfl
  kept := by simp
  completed := .inl (by rw [List.length_replicate])
  ended := fun _ => at_end
  settled := fun _ => FrameBuffer.receiveMany_settled again

theorem Reception.cons {closed : Bool} {frame : Frame} {frames : List Frame} {fault : ReceiveFault}
    {bytes : List UInt8} {lost calls : Nat} {given : List (Except ReceiveFault Frame)}
    {held : FrameBuffer} {left : List Wait}
    (reception : Reception closed frames fault bytes lost calls given held left) :
    Reception closed (frame :: frames) fault (frame.bytes ++ bytes) lost (calls + 1)
      (.ok frame :: given) held left where
  ordered := by
    have fewer : framesThen frames fault calls <+: framesThen frames fault (calls + 1) := by
      unfold framesThen
      rw [List.replicate_succ', ← List.append_assoc]
      exact List.prefix_append ..
    exact List.cons_prefix_cons.mpr ⟨rfl, reception.ordered.trans fewer⟩
  kept := by
    have kept := reception.kept
    rw [List.length_cons, List.take_succ_cons, List.flatMap_cons, List.append_assoc, ← kept]
  completed := by
    cases reception.completed with
    | inl counted =>
      left
      rw [List.length_cons]
      omega
    | inr starved =>
      obtain ⟨open_, none, ended, all⟩ := starved
      exact .inr ⟨open_, none, ended, by rw [all, List.map_cons]⟩
  ended := by
    intro more
    rw [List.length_cons, List.length_cons] at more
    exact reception.ended (by omega)
  settled := by
    intro more
    rw [List.length_cons, List.length_cons] at more
    exact reception.settled (by omega)

theorem Reception.givenUp {closed : Bool} {frames : List Frame} {fault : ReceiveFault}
    {bytes : List UInt8} {lost calls : Nat} {given : List (Except ReceiveFault Frame)}
    {held : FrameBuffer} {left : List Wait}
    (reception : Reception closed frames fault bytes lost calls given held left) :
    Reception closed frames fault bytes (lost + 1) (calls + 1) given held left where
  ordered := by
    have fewer : framesThen frames fault calls <+: framesThen frames fault (calls + 1) := by
      unfold framesThen
      rw [List.replicate_succ', ← List.append_assoc]
      exact List.prefix_append ..
    exact reception.ordered.trans fewer
  kept := reception.kept
  completed := by
    cases reception.completed with
    | inl counted =>
      left
      omega
    | inr starved => exact .inr starved
  ended := reception.ended
  settled := reception.settled

theorem receiveMany_reception (closed : Bool) (calls : Nat) (buffer : FrameBuffer)
    (waits : List Wait) {frames : List Frame} {rest : List UInt8} {fault : ReceiveFault}
    (framing : Framing (buffer.ahead waits) frames rest) (concluding : Concluding rest fault) :
    ∃ given held left, FrameBuffer.receiveMany closed calls buffer waits = (given, held, left) ∧
      Reception closed frames fault (buffer.ahead waits) (abandonments waits) calls given held
        left := by
  -- Each call takes one frame from the front of the framing, or leaves the framing as it is.
  induction calls generalizing buffer waits frames with
  | zero => exact ⟨[], buffer, waits, rfl, List.nil_prefix, rfl, .inl (by simp), nofun, nofun⟩
  | succ calls ih =>
    have call := FrameBuffer.receive_cases closed buffer waits
    generalize went : buffer.receive closed waits = outcome at call
    cases call with
    | @whole frame next left read split patient =>
      obtain ⟨later, rfl, tail⟩ := framing.tail read split
      obtain ⟨given, held, last, run, reception⟩ := ih next left tail
      refine ⟨.ok frame :: given, held, last, ?_, ?_⟩
      · rw [FrameBuffer.receiveMany_done went, run]
      · rw [split, ← patient]
        exact reception.cons
    | @refused fault' held left refused kept patient =>
      have ahead : Refused (buffer.ahead waits) fault' := kept ▸ refused.append (readIn left)
      obtain ⟨rfl, rfl⟩ := framing.eq_nil ahead.unframed
      have due := concluding.refused_eq ahead
      subst due
      have again := FrameBuffer.receive_of_refused refused closed left
      refine ⟨List.replicate (calls + 1) (.error (.frame fault')), held, left, ?_, ?_⟩
      · rw [FrameBuffer.receiveMany_done went, FrameBuffer.receiveMany_settled again,
          ← List.replicate_succ]
      · rw [kept, ← patient]
        exact .of_settled again nofun _
    | @ended held ended incomplete kept patient =>
      obtain ⟨unframed, unrefused⟩ := FrameBuffer.unframed_of_incomplete incomplete
      rw [← kept] at unframed unrefused
      obtain ⟨rfl, rfl⟩ := framing.eq_nil unframed
      have due := concluding.ended_eq unrefused
      subst due ended
      have again := FrameBuffer.receive_of_ended incomplete
      refine ⟨List.replicate (calls + 1) (.error (.link .closedByPeer)), held, [], ?_, ?_⟩
      · rw [FrameBuffer.receiveMany_done went, FrameBuffer.receiveMany_settled again,
          ← List.replicate_succ]
      · have whole : buffer.ahead waits = held.ahead [] := by
          rw [kept, FrameBuffer.ahead]
          exact (List.append_nil _).symm
        rw [whole, patient]
        exact .of_settled again (fun _ => ⟨rfl, rfl⟩) _
    | @starved held waiting incomplete kept patient =>
      obtain ⟨unframed, unrefused⟩ := FrameBuffer.unframed_of_incomplete incomplete
      rw [← kept] at unframed unrefused
      obtain ⟨rfl, rfl⟩ := framing.eq_nil unframed
      have due := concluding.ended_eq unrefused
      subst due waiting
      have whole : buffer.ahead waits = held.ahead [] := by
        rw [kept, FrameBuffer.ahead]
        exact (List.append_nil _).symm
      refine ⟨[], held, [], ?_, List.nil_prefix, whole, .inr ⟨rfl, rfl, rfl, rfl⟩, nofun, nofun⟩
      rw [FrameBuffer.receiveMany_pending went, FrameBuffer.receiveMany_starved incomplete]
    | @abandoned held left kept givenUp =>
      rw [kept] at framing ⊢
      obtain ⟨given, held', last, run, reception⟩ := ih held left framing
      refine ⟨given, held', last, ?_, ?_⟩
      · rw [FrameBuffer.receiveMany_pending went, run]
      · rw [givenUp]
        exact reception.givenUp

/-- The results of calls are a function of the bytes that the peer sends: the frames, the rest and the
    fault after them do not depend on the reads or on the calls that are given up. -/
theorem receptions_of_bytes (sent : List UInt8) :
    ∃ frames rest fault, Framing sent frames rest ∧ Concluding rest fault ∧
      (∀ others : List Frame, sent = others.flatMap Frame.bytes →
        (∀ frame ∈ others, OpCode.ofCode frame.opCode.code = frame.opCode) →
          frames = others ∧ rest = []) ∧
      ∀ (closed : Bool) (waits : List Wait) (calls : Nat), readIn waits = sent →
        ∃ given held left,
          FrameBuffer.receiveMany closed calls .empty waits = (given, held, left) ∧
          Reception closed frames fault sent (abandonments waits) calls given held left := by
  obtain ⟨frames, rest, framing⟩ := exists_framing sent
  have conclusion : ∃ fault, Concluding rest fault := by
    by_cases refused : ∃ fault, Refused rest fault
    · obtain ⟨fault, refused⟩ := refused
      exact ⟨_, .refused refused⟩
    · exact ⟨_, .ended fun fault held => refused ⟨fault, held⟩⟩
  obtain ⟨fault, concluding⟩ := conclusion
  refine ⟨frames, rest, fault, framing, concluding, ?_, ?_⟩
  · intro others split canonical
    exact framing.eq_of_frames split fun frame held => Frame.ofBytes_bytes (canonical frame held)
  · intro closed waits calls read
    subst read
    exact receiveMany_reception closed calls .empty waits framing concluding

def sampleFrames : List Frame :=
  [⟨7, 0, .getMore, [1, 2, 3], by decide⟩, ⟨8, 7, .reply, [], Frame.empty_body_le⟩]

/-- They arrive in two reads, the first of which ends within a header, and a call is given up in
    between. -/
def sampleWaits : List Wait :=
  [.read ((sampleFrames.flatMap Frame.bytes).take 10), .abandoned,
    .read ((sampleFrames.flatMap Frame.bytes).drop 10)]

theorem sampleFrames_received :
    readIn sampleWaits = sampleFrames.flatMap Frame.bytes ∧
      (∀ frame ∈ sampleFrames, OpCode.ofCode frame.opCode.code = frame.opCode) ∧
      (FrameBuffer.receiveMany true 4 .empty sampleWaits).1 =
        sampleFrames.map .ok ++ [.error (.link .closedByPeer)] := by
  have read : readIn sampleWaits = sampleFrames.flatMap Frame.bytes := by decide
  have canonical : ∀ frame ∈ sampleFrames, OpCode.ofCode frame.opCode.code = frame.opCode := by
    decide
  refine ⟨read, canonical, ?_⟩
  obtain ⟨frames, rest, fault, _, concluding, own, calls⟩ :=
    receptions_of_bytes (sampleFrames.flatMap Frame.bytes)
  obtain ⟨rfl, rfl⟩ := own sampleFrames rfl canonical
  have due := concluding.ended_eq fun fault refused => absurd refused.enough (by decide)
  obtain ⟨given, held, left, run, reception⟩ := calls true sampleWaits 4 read
  have lost : abandonments sampleWaits = 1 := by decide
  have two : sampleFrames.length = 2 := rfl
  have counted : given.length + 1 = 4 + abandonments left := by
    cases reception.completed with
    | inl counted => rwa [lost] at counted
    | inr starved => exact absurd starved.1 (by decide)
  obtain ⟨_, none⟩ := reception.ended (by omega) due
  have three : given.length = 3 := by
    rw [none, show abandonments [] = 0 from rfl] at counted
    omega
  rw [run]
  subst due
  rw [List.prefix_iff_eq_take.mp reception.ordered, three]
  rfl

end TrafficReplay
