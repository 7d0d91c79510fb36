import TrafficReplay.Proofs.Latest
import TrafficReplay.Proofs.Pool.Books

namespace TrafficReplay

namespace PoolSession

variable {α : Type} {session next : PoolSession α} {event : PoolEvent α}
  {limit ticket : Nat} {events later : List (PoolEvent α)}

def StartsWaiting (session : PoolSession α) (event : PoolEvent α) : Prop :=
  session.pool.tryAcquire? = none ∧ ∃ name, event = .acquire name

theorem not_startsWaiting (other : ∀ name, event ≠ .acquire name) :
    ¬session.StartsWaiting event :=
  fun ⟨_, name, same⟩ => other name same

theorem not_startsWaiting_of_slot {pool : SlotPool Nat}
    (slot : session.pool.tryAcquire? = some pool) : ¬session.StartsWaiting event :=
  fun ⟨busy, _⟩ => nomatch busy.symm.trans slot

variable [DecidableEq α]

inductive Leaves (session : PoolSession α) (ticket : Nat) : PoolEvent α → Prop
  | takes (granted : ticket ∈ session.pool.granted) : Leaves session ticket (.take ticket)
  | cancels {name : α} (drawn : session.lastTicket? name = some ticket) :
      Leaves session ticket (.cancel name)

inductive Outcome (session : PoolSession α) : PoolEvent α → PoolSession α → Prop
  | refused {name : α} (busy : session.pool.tryAcquire? = none) :
      Outcome session (.tryAcquire name) session
  | seated {name : α} {pool : SlotPool Nat} (slot : session.pool.tryAcquire? = some pool) :
      Outcome session (.tryAcquire name) (session.hold pool name)
  | seatedAtOnce {name : α} {pool : SlotPool Nat} (slot : session.pool.tryAcquire? = some pool) :
      Outcome session (.acquire name)
        ({ session with tickets := session.tickets ++ [name] }.hold pool name)
  | waits {name : α} (busy : session.pool.tryAcquire? = none) :
      Outcome session (.acquire name) { session with
        tickets := session.tickets ++ [name]
        pool := session.pool.count.announce.enqueue session.tickets.length }
  | takes {ticket : Nat} {name : α} {pool : SlotPool Nat}
      (slot : session.pool.take? ticket = some pool) :
      Outcome session (.take ticket) (session.hold pool name)
  | nothingPassed {ticket : Nat} (absent : ticket ∉ session.pool.granted) :
      Outcome session (.take ticket) session
  | releases {name : α} (held : name ∈ session.held) :
      Outcome session (.release name) { session with
        pool := session.pool.release
        held := session.held.erase name }
  | nothingHeld {name : α} : Outcome session (.release name) session
  | cancels {name : α} {ticket : Nat} (drawn : session.lastTicket? name = some ticket) :
      Outcome session (.cancel name) { session with pool := session.pool.withdraw ticket }
  | nothingDrawn {name : α} (none : session.lastTicket? name = none) :
      Outcome session (.cancel name) session
  | watches {name : α} : Outcome session (.watch name) { session with
      watches := session.watches ++ [(name, session.pool.announced)] }

section hold

variable (session : PoolSession α) (pool : SlotPool Nat) (name : α)

theorem hold_line : (session.hold pool name).pool.line = pool.line := by
  unfold hold
  split
  · exact SlotPool.passSlot_line _
  · rfl

theorem hold_announced : (session.hold pool name).pool.announced = pool.announced := by
  unfold hold
  split
  · exact (SlotPool.passSlot_same _).2
  · rfl

theorem hold_same :
    (session.hold pool name).tickets = session.tickets ∧
      (session.hold pool name).watches = session.watches := by
  unfold hold
  split <;> exact ⟨rfl, rfl⟩

end hold

/-- The books of the pool agree with who holds a slot and who has drawn a ticket. -/
def Balanced (limit : Nat) (session : PoolSession α) : Prop :=
  session.pool.Books limit session.held.length session.tickets.length

theorem balanced_hold {pool : SlotPool Nat}
    (books : pool.Books limit (session.held.length + 1) session.tickets.length) (name : α) :
    (session.hold pool name).Balanced limit := by
  unfold hold Balanced
  split
  · exact books.release
  · rw [List.length_append]
    exact books

theorem Balanced.outcome (balanced : session.Balanced limit) (event : PoolEvent α) :
    session.Outcome event (session.apply event) := by
  cases event with
  | tryAcquire name =>
    dsimp only [apply]
    split
    · rename_i pool slot
      exact .seated slot
    · rename_i busy
      exact .refused busy
  | acquire name =>
    dsimp only [apply]
    split
    · rename_i pool slot
      exact .seatedAtOnce slot
    · rename_i busy
      exact .waits busy
  | take ticket =>
    dsimp only [apply]
    split
    · rename_i pool name slot drawn
      exact .takes slot
    · rename_i unable
      apply Outcome.nothingPassed
      intro granted
      have drawn := balanced.drawn ticket (List.mem_append_left _ granted)
      exact unable _ _ (if_pos granted) (List.getElem?_eq_getElem drawn)
  | release name =>
    dsimp only [apply]
    split
    · rename_i held
      exact .releases held
    · exact .nothingHeld
  | cancel name =>
    dsimp only [apply]
    split
    · rename_i ticket drawn
      exact .cancels drawn
    · rename_i none
      exact .nothingDrawn none
  | watch name => exact .watches

namespace Outcome

theorem balanced (outcome : session.Outcome event next) (balanced : session.Balanced limit) :
    next.Balanced limit := by
  cases outcome with
  | refused | nothingPassed | nothingHeld | nothingDrawn => exact balanced
  | seated slot => exact balanced_hold (balanced.tryAcquire? slot) _
  | seatedAtOnce slot =>
    apply balanced_hold
    rw [List.length_append]
    exact (balanced.tryAcquire? slot).draw
  | waits busy =>
    unfold Balanced
    rw [List.length_append]
    exact balanced.waits
  | takes slot => exact balanced_hold (balanced.take? slot) _
  | releases held =>
    have some_held := List.length_pos_of_mem held
    apply SlotPool.Books.release
    rw [List.length_erase_of_mem held, Nat.sub_add_cancel some_held]
    exact balanced
  | cancels drawn => exact balanced.withdraw _
  | watches => exact balanced

theorem announced (outcome : session.Outcome event next) :
    session.StartsWaiting event ∧ next.pool.announced = session.pool.announced + 1 ∨
      ¬session.StartsWaiting event ∧ next.pool.announced = session.pool.announced := by
  cases outcome with
  | refused | nothingPassed | nothingHeld | nothingDrawn | watches =>
    exact .inr ⟨not_startsWaiting nofun, rfl⟩
  | seated slot | seatedAtOnce slot =>
    right
    refine ⟨not_startsWaiting_of_slot slot, ?_⟩
    obtain ⟨_, rfl⟩ := SlotPool.tryAcquire?_some slot
    exact hold_announced _ _ _
  | waits busy => exact .inl ⟨⟨busy, _, rfl⟩, (SlotPool.enqueue_same _ _).2⟩
  | takes slot =>
    right
    refine ⟨not_startsWaiting nofun, ?_⟩
    obtain ⟨_, rfl⟩ := SlotPool.take?_some slot
    exact hold_announced _ _ _
  | releases => exact .inr ⟨not_startsWaiting nofun, (SlotPool.passSlot_same _).2⟩
  | cancels => exact .inr ⟨not_startsWaiting nofun, SlotPool.withdraw_announced _ _⟩

theorem mem_line (outcome : session.Outcome event next) (balanced : session.Balanced limit) :
    ticket ∈ next.pool.line ↔
      session.StartsWaiting event ∧ ticket = session.tickets.length ∨
        ticket ∈ session.pool.line ∧ ¬session.Leaves ticket event := by
  have stays (patient : ¬session.StartsWaiting event) (kept : ¬session.Leaves ticket event)
      (line : next.pool.line = session.pool.line) :
      ticket ∈ next.pool.line ↔ session.StartsWaiting event ∧ ticket = session.tickets.length ∨
        ticket ∈ session.pool.line ∧ ¬session.Leaves ticket event := by
    simp only [line, patient, kept, false_and, false_or, not_false_eq_true, and_true]
  have parts (other : Nat) (patient : ¬session.StartsWaiting event)
      (leaves : session.Leaves ticket event ↔ ticket = other)
      (line : next.pool.line = session.pool.line.erase other) :
      ticket ∈ next.pool.line ↔ session.StartsWaiting event ∧ ticket = session.tickets.length ∨
        ticket ∈ session.pool.line ∧ ¬session.Leaves ticket event := by
    rw [line, balanced.nodup.mem_erase_iff, leaves, and_comm]
    simp only [patient, false_and, false_or, ne_eq]
  cases outcome with
  | refused | nothingHeld | watches => exact stays (not_startsWaiting nofun) nofun rfl
  | nothingPassed absent =>
    apply stays (not_startsWaiting nofun) _ rfl
    intro leaves
    cases leaves with
    | takes granted => exact absent granted
  | nothingDrawn none =>
    apply stays (not_startsWaiting nofun) _ rfl
    intro leaves
    cases leaves with
    | cancels drawn => exact nomatch none.symm.trans drawn
  | seated slot | seatedAtOnce slot =>
    apply stays (not_startsWaiting_of_slot slot) nofun
    obtain ⟨_, rfl⟩ := SlotPool.tryAcquire?_some slot
    exact hold_line _ _ _
  | @waits name busy =>
    have tight : session.pool.count.announce.IsTight := balanced.tight
    have line : (session.pool.count.announce.enqueue session.tickets.length).line =
        session.pool.line ++ [session.tickets.length] := tight.enqueue_line _
    have starts : session.StartsWaiting (.acquire name) := ⟨busy, name, rfl⟩
    have kept : ¬session.Leaves ticket (.acquire name) := nofun
    rw [line, List.mem_append, List.mem_singleton, or_comm]
    simp only [starts, kept, true_and, not_false_eq_true, and_true]
  | @takes other name pool slot =>
    have granted := (SlotPool.take?_some slot).1
    apply parts other (not_startsWaiting nofun)
    · constructor
      · rintro ⟨⟩
        rfl
      · rintro rfl
        exact .takes granted
    · rw [hold_line, SlotPool.take?_line slot]
  | releases => exact stays (not_startsWaiting nofun) nofun (SlotPool.passSlot_line _)
  | @cancels name other drawn =>
    apply parts other (not_startsWaiting nofun)
    · constructor
      · intro leaves
        cases leaves with
        | cancels also => exact Option.some.inj (also.symm.trans drawn)
      · rintro rfl
        exact .cancels drawn
    · exact SlotPool.withdraw_line _ _

theorem tickets (outcome : session.Outcome event next) :
    session.tickets.length ≤ next.tickets.length := by
  cases outcome with
  | seatedAtOnce slot =>
    rw [(hold_same _ _ _).1, List.length_append]
    exact Nat.le_add_right _ _
  | waits busy =>
    rw [List.length_append]
    exact Nat.le_add_right _ _
  | seated | takes =>
    apply Nat.le_of_eq
    rw [(hold_same _ _ _).1]
  | _ => exact Nat.le_refl _

theorem watches_eq (outcome : session.Outcome event next) :
    (∃ name, event = .watch name ∧
        next.watches = session.watches ++ [(name, session.pool.announced)]) ∨
      (∀ name, event ≠ .watch name) ∧ next.watches = session.watches := by
  cases outcome with
  | @watches name => exact .inl ⟨name, rfl, rfl⟩
  | seated | seatedAtOnce | takes => exact .inr ⟨nofun, (hold_same _ _ _).2⟩
  | _ => exact .inr ⟨nofun, rfl⟩

end Outcome

section settle

theorem settleFrom_takes (fuel : Nat) (session : PoolSession α) :
    ∃ takes : List Nat, settleFrom fuel session = (takes.map .take).foldl apply session := by
  induction fuel generalizing session with
  | zero => exact ⟨[], rfl⟩
  | succ fuel ih =>
    unfold settleFrom
    split
    · exact ⟨[], rfl⟩
    · rename_i ticket _ _
      obtain ⟨takes, same⟩ := ih (session.apply (.take ticket))
      exact ⟨ticket :: takes, same⟩

/-- Whoever takes its slot leaves the line, also when that makes a slot pass to another. -/
theorem Balanced.settleFrom (balanced : session.Balanced limit) (fuel : Nat)
    (enough : session.pool.line.length ≤ fuel) : (session.settleFrom fuel).pool.granted = [] := by
  induction fuel generalizing session with
  | zero =>
    have nobody : session.pool.line = [] := List.length_eq_zero_iff.mp (by omega)
    exact (List.append_eq_nil_iff.mp nobody).1
  | succ fuel ih =>
    unfold PoolSession.settleFrom
    split
    · assumption
    · rename_i ticket rest passed
      have granted : ticket ∈ session.pool.granted := by simp [passed]
      have outcome := balanced.outcome (.take ticket)
      apply ih (outcome.balanced balanced)
      generalize session.apply (.take ticket) = next at outcome
      cases outcome with
      | takes slot =>
        have member : ticket ∈ session.pool.line := List.mem_append_left _ granted
        rw [hold_line, SlotPool.take?_line slot, List.length_erase_of_mem member]
        omega
      | nothingPassed absent => exact absurd granted absent

end settle

def course (limit : Nat) (events : List (PoolEvent α)) : PoolSession α :=
  events.foldl apply (ofPool (.ofLimit limit))

theorem course_append (limit : Nat) (events later : List (PoolEvent α)) :
    course limit (events ++ later) = later.foldl apply (course limit events) :=
  List.foldl_append

theorem balanced_course (limit : Nat) (events : List (PoolEvent α)) :
    (course limit events).Balanced limit := by
  induction events using List.reverseRecOn with
  | nil => exact .fresh limit
  | append_singleton events event ih =>
    rw [course_append]
    exact (ih.outcome event).balanced ih

theorem course_outcome (limit : Nat) (events : List (PoolEvent α)) (event : PoolEvent α) :
    (course limit events).Outcome event (course limit (events ++ [event])) := by
  rw [course_append]
  exact (balanced_course limit events).outcome event

section waits

/-- Whoever drew the ticket began to wait then, and has neither taken a slot nor given up since. -/
def Waits (limit : Nat) (events : List (PoolEvent α)) (ticket : Nat) : Prop :=
  ∃ name, Latest (fun before event =>
    (course limit before).StartsWaiting event ∧ ticket = (course limit before).tickets.length ∨
      (course limit before).Leaves ticket event) events (.acquire name)

theorem waits_concat : Waits limit (events ++ [event]) ticket ↔
    (course limit events).StartsWaiting event ∧ ticket = (course limit events).tickets.length ∨
      Waits limit events ticket ∧ ¬(course limit events).Leaves ticket event := by
  unfold Waits
  simp only [latest_concat]
  constructor
  · rintro ⟨name, ⟨joins | leaves, rfl⟩ | ⟨unconcerned, latest⟩⟩
    · exact .inl joins
    · cases leaves
    · exact .inr ⟨⟨name, latest⟩, fun leaves => unconcerned (.inr leaves)⟩
  · rintro (⟨starts, drawn⟩ | ⟨⟨name, latest⟩, stays⟩)
    · obtain ⟨name, rfl⟩ := starts.2
      exact ⟨name, .inl ⟨.inl ⟨starts, drawn⟩, rfl⟩⟩
    · by_cases joins : (course limit events).StartsWaiting event ∧
          ticket = (course limit events).tickets.length
      · obtain ⟨other, rfl⟩ := joins.1.2
        exact ⟨other, .inl ⟨.inl joins, rfl⟩⟩
      · exact ⟨name, .inr ⟨not_or.mpr ⟨joins, stays⟩, latest⟩⟩

theorem mem_line_iff_waits : ticket ∈ (course limit events).pool.line ↔ Waits limit events ticket := by
  induction events using List.reverseRecOn with
  | nil =>
    constructor
    · exact fun member => absurd member List.not_mem_nil
    · exact fun ⟨_, latest⟩ => absurd latest not_latest_nil
  | append_singleton events event ih =>
    rw [(course_outcome limit events event).mem_line (balanced_course limit events), ih,
      waits_concat]

theorem never_waits_again (drawn : ticket < (course limit events).tickets.length)
    (gone : ¬Waits limit events ticket) : ¬Waits limit (events ++ later) ticket := by
  suffices kept : ticket < (course limit (events ++ later)).tickets.length ∧
      ¬Waits limit (events ++ later) ticket from kept.2
  induction later using List.reverseRecOn with
  | nil =>
    rw [List.append_nil]
    exact ⟨drawn, gone⟩
  | append_singleton later event ih =>
    obtain ⟨drawn, gone⟩ := ih
    rw [← List.append_assoc]
    have more := (course_outcome limit (events ++ later) event).tickets
    refine ⟨Nat.lt_of_lt_of_le drawn more, ?_⟩
    rw [waits_concat]
    rintro (⟨_, next⟩ | ⟨waits, _⟩)
    · omega
    · exact gone waits

end waits

section contended

def Contended (limit : Nat) (events later : List (PoolEvent α)) : Prop :=
  ∃ middle event rest, later = middle ++ event :: rest ∧
    (course limit (events ++ middle)).StartsWaiting event

theorem contended_concat : Contended limit events (later ++ [event]) ↔
    Contended limit events later ∨ (course limit (events ++ later)).StartsWaiting event := by
  constructor
  · rintro ⟨middle, other, rest, split, starts⟩
    rcases concat_split split with ⟨rfl, rfl, rfl⟩ | ⟨front, rfl, rfl⟩
    · exact .inr starts
    · exact .inl ⟨middle, other, front, rfl, starts⟩
  · rintro (⟨middle, other, rest, rfl, starts⟩ | starts)
    · exact ⟨middle, other, rest ++ [event], by simp, starts⟩
    · exact ⟨later, event, [], rfl, starts⟩

theorem announced_iff : (course limit events).pool.announced ≤
      (course limit (events ++ later)).pool.announced ∧
    ((course limit (events ++ later)).pool.contendedSince (course limit events).pool.announced =
        true ↔ Contended limit events later) := by
  induction later using List.reverseRecOn with
  | nil =>
    rw [List.append_nil]
    refine ⟨Nat.le_refl _, ?_⟩
    constructor
    · intro more
      exact absurd (of_decide_eq_true more) (Nat.lt_irrefl _)
    · rintro ⟨middle, event, rest, split, _⟩
      exact absurd split (by simp)
  | append_singleton later event ih =>
    obtain ⟨grows, told⟩ := ih
    unfold SlotPool.contendedSince at told ⊢
    rw [← List.append_assoc, contended_concat, ← told, decide_eq_true_iff, decide_eq_true_iff]
    rcases (course_outcome limit (events ++ later) event).announced with
      ⟨starts, more⟩ | ⟨patient, same⟩
    · rw [more]
      refine ⟨by omega, ?_⟩
      simp only [starts, or_true, iff_true]
      omega
    · rw [same]
      simp only [patient, or_false, and_true]
      exact grows

theorem mem_watches_iff {name : α} {reading : Nat} :
    (name, reading) ∈ (course limit events).watches ↔
      ∃ before later, events = before ++ .watch name :: later ∧
        reading = (course limit before).pool.announced := by
  induction events using List.reverseRecOn with
  | nil =>
    constructor
    · exact fun member => absurd member List.not_mem_nil
    · rintro ⟨before, later, split, _⟩
      exact absurd split (by simp)
  | append_singleton events event ih =>
    have more : (∃ before later, events ++ [event] = before ++ .watch name :: later ∧
        reading = (course limit before).pool.announced) ↔
          (event = .watch name ∧ reading = (course limit events).pool.announced) ∨
            ∃ before later, events = before ++ .watch name :: later ∧
              reading = (course limit before).pool.announced := by
      constructor
      · rintro ⟨before, later, split, read⟩
        rcases concat_split split with ⟨rfl, rfl, rfl⟩ | ⟨front, rfl, rfl⟩
        · exact .inl ⟨rfl, read⟩
        · exact .inr ⟨before, front, rfl, read⟩
      · rintro (⟨rfl, read⟩ | ⟨before, later, rfl, read⟩)
        · exact ⟨events, [], rfl, read⟩
        · exact ⟨before, later ++ [event], by simp, read⟩
    rw [more, ← ih]
    rcases (course_outcome limit events event).watches_eq with
      ⟨other, rfl, watches⟩ | ⟨unwatched, same⟩
    · rw [watches, List.mem_append, List.mem_singleton, or_comm]
      simp only [Prod.mk.injEq, PoolEvent.watch.injEq, eq_comm]
    · rw [same]
      simp only [unwatched, false_and, false_or]

end contended

/-- What is on the books of a pool agrees with the course of events. -/
structure Bookkeeping (limit : Nat) (events : List (PoolEvent α)) : Prop where
  active : (course limit events).pool.active = (course limit events).held.length
  within : (course limit events).held.length ≤ limit
  slots : (course limit events).pool.free + (course limit events).pool.granted.length +
    (course limit events).held.length = limit
  line : ∀ ticket, Waits limit events ticket ↔ ticket ∈ (course limit events).pool.granted ∨
    ticket ∈ (course limit events).pool.queue
  counted : ∃ waiters : List Nat, waiters.Nodup ∧
    (∀ ticket, ticket ∈ waiters ↔ Waits limit events ticket) ∧
    (course limit events).pool.waiting = waiters.length
  hasWaiters : (course limit events).pool.hasWaiters = true ↔ ∃ ticket, Waits limit events ticket
  full : (course limit events).pool.granted = [] → (∃ ticket, Waits limit events ticket) →
    (course limit events).pool.active = limit
  settles : ∃ takes : List Nat,
    (course limit events).settle = course limit (events ++ takes.map .take) ∧
    (course limit events).settle.pool.granted = []
  inOrder : ∀ earlier later, earlier < later → Waits limit events earlier →
    later ∈ (course limit events).pool.granted → earlier ∈ (course limit events).pool.granted
  notOvertaken : (course limit events).pool.tryAcquire? ≠ none → ∀ ticket,
    Waits limit events ticket → ticket ∈ (course limit events).pool.granted
  cancelled : ∀ name ticket, (course limit events).lastTicket? name = some ticket →
    Waits limit events ticket →
    (∀ later, ¬Waits limit (events ++ .cancel name :: later) ticket) ∧
      (course limit (events ++ [.cancel name])).pool.waiting + 1 =
        (course limit events).pool.waiting ∧
      (course limit (events ++ [.cancel name])).held = (course limit events).held ∧
      (course limit (events ++ [.cancel name])).pool.unheld = (course limit events).pool.unheld
  contended : ∀ before name later, events = before ++ .watch name :: later →
    ((course limit events).pool.contendedSince (course limit before).pool.announced = true ↔
      Contended limit (before ++ [.watch name]) later)
  woken : ∀ name, name ∈ (course limit events).woken ↔ ∃ before later,
    events = before ++ .watch name :: later ∧ Contended limit (before ++ [.watch name]) later

section cancelled

variable {name : α}

theorem course_cancel (drawn : (course limit events).lastTicket? name = some ticket) :
    course limit (events ++ [.cancel name]) =
      { course limit events with pool := (course limit events).pool.withdraw ticket } := by
  rw [course_append]
  simp only [List.foldl_cons, List.foldl_nil, apply, drawn]

theorem never_waits_after_cancel (drawn : (course limit events).lastTicket? name = some ticket)
    (waits : Waits limit events ticket) (later : List (PoolEvent α)) :
    ¬Waits limit (events ++ .cancel name :: later) ticket := by
  have balanced := balanced_course limit events
  have member := mem_line_iff_waits.mpr waits
  have left : ¬Waits limit (events ++ [.cancel name]) ticket := by
    rw [← mem_line_iff_waits, course_cancel drawn]
    intro again
    rw [SlotPool.withdraw_line, balanced.nodup.mem_erase_iff] at again
    exact again.1 rfl
  have known : ticket < (course limit (events ++ [.cancel name])).tickets.length := by
    rw [course_cancel drawn]
    exact balanced.drawn ticket member
  rw [show events ++ .cancel name :: later = (events ++ [.cancel name]) ++ later by simp]
  exact never_waits_again known left

theorem cancel_keeps_slots (drawn : (course limit events).lastTicket? name = some ticket)
    (waits : Waits limit events ticket) :
    (course limit (events ++ [.cancel name])).pool.waiting + 1 = (course limit events).pool.waiting ∧
      (course limit (events ++ [.cancel name])).held = (course limit events).held ∧
      (course limit (events ++ [.cancel name])).pool.unheld = (course limit events).pool.unheld := by
  have member := mem_line_iff_waits.mpr waits
  have inLine := SlotPool.mem_line.mp member
  have counted := (balanced_course limit events).waiting
  have some_waits := List.length_pos_of_mem member
  rw [course_cancel drawn]
  refine ⟨?_, rfl, SlotPool.withdraw_unheld inLine⟩
  dsimp only
  rw [(SlotPool.withdraw_same inLine).1]
  omega

end cancelled

theorem contended_of_watch {before : List (PoolEvent α)} {name : α}
    (split : events = before ++ .watch name :: later) :
    (course limit events).pool.contendedSince (course limit before).pool.announced = true ↔
      Contended limit (before ++ [.watch name]) later := by
  have events_eq : events = (before ++ [.watch name]) ++ later := by
    rw [split, List.append_assoc, List.singleton_append]
  have same : (course limit (before ++ [.watch name])).pool.announced =
      (course limit before).pool.announced := by
    rw [course_append]
    rfl
  rw [events_eq, ← same]
  exact announced_iff.2

theorem mem_woken_iff {name : α} : name ∈ (course limit events).woken ↔ ∃ before later,
    events = before ++ .watch name :: later ∧ Contended limit (before ++ [.watch name]) later := by
  unfold woken
  rw [List.mem_map]
  constructor
  · rintro ⟨⟨other, reading⟩, listed, rfl⟩
    obtain ⟨watched, told⟩ := List.mem_filter.mp listed
    obtain ⟨before, later, split, rfl⟩ := mem_watches_iff.mp watched
    exact ⟨before, later, split, (contended_of_watch split).mp told⟩
  · rintro ⟨before, later, split, contended⟩
    have watched : (name, (course limit before).pool.announced) ∈ (course limit events).watches :=
      mem_watches_iff.mpr ⟨before, later, split, rfl⟩
    have told := (contended_of_watch split).mpr contended
    exact ⟨_, List.mem_filter.mpr ⟨watched, told⟩, rfl⟩

theorem bookkeeping (limit : Nat) (events : List (PoolEvent α)) : Bookkeeping limit events := by
  have balanced := balanced_course limit events
  have slots := balanced.slots
  unfold SlotPool.unheld at slots
  constructor
  · exact balanced.active
  · omega
  · exact slots
  · intro ticket
    rw [← mem_line_iff_waits, SlotPool.line, List.mem_append]
  · exact ⟨_, balanced.nodup, fun _ => mem_line_iff_waits, balanced.waiting⟩
  · rw [SlotPool.hasWaiters, decide_eq_true_iff, balanced.waiting, List.length_pos_iff_exists_mem]
    simp only [mem_line_iff_waits]
  · rintro settled ⟨ticket, waits⟩
    rw [balanced.active]
    exact balanced.full settled (mem_line_iff_waits.mpr waits)
  · obtain ⟨takes, same⟩ := settleFrom_takes
      ((course limit events).pool.granted.length + (course limit events).pool.queue.length)
      (course limit events)
    refine ⟨takes, ?_, balanced.settleFrom _ (Nat.le_of_eq List.length_append)⟩
    rw [course_append]
    exact same
  · intro earlier later before waits granted
    exact balanced.granted_of_lt before (mem_line_iff_waits.mpr waits) granted
  · intro slot ticket waits
    exact balanced.granted_of_free slot (mem_line_iff_waits.mpr waits)
  · intro name ticket drawn waits
    exact ⟨never_waits_after_cancel drawn waits, cancel_keeps_slots drawn waits⟩
  · exact fun before name later split => contended_of_watch split
  · exact fun name => mem_woken_iff

/-- The slot that was passed to a waiter goes on to the next one when the waiter gives up. -/
example : (course 1 [.acquire 0, .acquire 1, .acquire 2, .release 0, .cancel 1]).pool.granted = [2] := by
  decide

end PoolSession

end TrafficReplay
