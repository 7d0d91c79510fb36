import TrafficReplay.Pool.Session
import TrafficReplay.Proofs.Pool.Slots

namespace TrafficReplay

namespace SlotPool

section line

variable {α : Type} {pool after : SlotPool α} {waiter : α}

/-- Those in line for a slot in the order in which they came. Some have a slot passed to them, and
    the others are queued behind them. -/
def line (pool : SlotPool α) : List α := pool.granted ++ pool.queue

theorem mem_line : waiter ∈ pool.line ↔ waiter ∈ pool.inLine := by
  rw [line, inLine, List.mem_append, List.mem_append, or_comm]

theorem passSlot_line (pool : SlotPool α) : pool.passSlot.line = pool.line := by
  unfold passSlot line
  split
  · rfl
  · rename_i first rest queue
    rw [queue, List.append_assoc, List.singleton_append]

theorem passSlot_active (pool : SlotPool α) : pool.passSlot.active = pool.active := by
  unfold passSlot
  split <;> rfl

theorem enqueue_active (pool : SlotPool α) (waiter : α) :
    (pool.enqueue waiter).active = pool.active := by
  unfold enqueue
  split <;> rfl

theorem IsTight.enqueue_line (tight : pool.IsTight) (waiter : α) :
    (pool.enqueue waiter).line = pool.line ++ [waiter] := by
  unfold SlotPool.enqueue line
  split
  · rename_i some_free
    have nobody : pool.queue = [] := tight.resolve_right (by omega)
    dsimp only
    rw [nobody, List.append_nil, List.append_nil]
  · dsimp only
    rw [List.append_assoc]

variable [DecidableEq α]

theorem take?_line (slot : pool.take? waiter = some after) :
    after.line = pool.line.erase waiter := by
  obtain ⟨granted, rfl⟩ := take?_some slot
  rw [line, line, List.erase_append_left _ granted]

theorem withdraw_line (pool : SlotPool α) (waiter : α) :
    (pool.withdraw waiter).line = pool.line.erase waiter := by
  unfold withdraw
  split
  · rename_i granted
    rw [passSlot_line, line, line, List.erase_append_left _ granted]
  · rename_i ungranted
    have behind : pool.line.erase waiter = pool.granted ++ pool.queue.erase waiter :=
      List.erase_append_right _ ungranted
    rw [behind]
    split
    · rfl
    · rename_i absent
      rw [List.erase_of_not_mem absent]
      rfl

theorem withdraw_of_not_mem (absent : waiter ∉ pool.line) : pool.withdraw waiter = pool := by
  rw [line, List.mem_append] at absent
  unfold withdraw
  rw [if_neg fun granted => absent (.inl granted), if_neg fun queued => absent (.inr queued)]

theorem withdraw_active (pool : SlotPool α) (waiter : α) :
    (pool.withdraw waiter).active = pool.active := by
  unfold withdraw
  split
  · rw [passSlot_active]
  · split <;> rfl

theorem withdraw_announced (pool : SlotPool α) (waiter : α) :
    (pool.withdraw waiter).announced = pool.announced := by
  unfold withdraw
  split
  · exact (passSlot_same _).2
  · split <;> rfl

end line

structure Books (pool : SlotPool Nat) (limit holders drawn : Nat) : Prop where
  active : pool.active = holders
  slots : pool.unheld + holders = limit
  waiting : pool.waiting = pool.line.length
  tight : pool.IsTight
  ordered : pool.line.Pairwise (· < ·)
  drawn : ∀ ticket ∈ pool.line, ticket < drawn

namespace Books

variable {pool after : SlotPool Nat} {limit holders drawn ticket : Nat}

theorem fresh (limit : Nat) : (ofLimit limit : SlotPool Nat).Books limit 0 0 where
  active := rfl
  slots := rfl
  waiting := rfl
  tight := .inl rfl
  ordered := .nil
  drawn _ member := absurd member List.not_mem_nil

theorem nodup (books : pool.Books limit holders drawn) : pool.line.Nodup :=
  books.ordered.imp Nat.ne_of_lt

theorem draw (books : pool.Books limit holders drawn) : pool.Books limit holders (drawn + 1) :=
  { books with drawn := fun ticket member => Nat.lt_succ_of_lt (books.drawn ticket member) }

theorem tryAcquire? (books : pool.Books limit holders drawn)
    (slot : pool.tryAcquire? = some after) : after.Books limit (holders + 1) drawn := by
  obtain ⟨some_free, rfl⟩ := tryAcquire?_some slot
  have slots := books.slots
  refine { books with active := congrArg (· + 1) books.active, slots := ?_, tight := ?_ }
  · unfold unheld at slots ⊢
    dsimp only
    omega
  · exact .inl (books.tight.resolve_right (by omega))

theorem take? (books : pool.Books limit holders drawn) (slot : pool.take? ticket = some after) :
    after.Books limit (holders + 1) drawn := by
  have line := take?_line slot
  have unheld := take?_unheld slot
  have slots := books.slots
  obtain ⟨granted, rfl⟩ := take?_some slot
  have member : ticket ∈ pool.line := List.mem_append_left _ granted
  constructor
  · exact congrArg (· + 1) books.active
  · omega
  · rw [line, List.length_erase_of_mem member, ← books.waiting]
  · exact books.tight
  · rw [line]
    exact books.ordered.sublist List.erase_sublist
  · intro other member
    rw [line] at member
    exact books.drawn other (List.mem_of_mem_erase member)

theorem release (books : pool.Books limit (holders + 1) drawn) :
    pool.release.Books limit holders drawn := by
  have slots := books.slots
  have line : pool.release.line = pool.line := passSlot_line _
  have unheld : pool.release.unheld = pool.unheld + 1 := passSlot_unheld _
  constructor
  · show (passSlot _).active = holders
    rw [passSlot_active]
    have active := books.active
    dsimp only
    omega
  · omega
  · rw [line, ← books.waiting]
    exact (passSlot_same _).1
  · exact IsTight.passSlot books.tight
  · rw [line]
    exact books.ordered
  · rw [line]
    exact books.drawn

theorem withdraw (books : pool.Books limit holders drawn) (ticket : Nat) :
    (pool.withdraw ticket).Books limit holders drawn := by
  by_cases waits : ticket ∈ pool.line
  · have inLine := mem_line.mp waits
    have line := withdraw_line pool ticket
    constructor
    · rw [withdraw_active, books.active]
    · rw [withdraw_unheld inLine, books.slots]
    · rw [line, List.length_erase_of_mem waits, ← books.waiting]
      exact (withdraw_same inLine).1
    · exact books.tight.withdraw inLine
    · rw [line]
      exact books.ordered.sublist List.erase_sublist
    · intro other member
      rw [line] at member
      exact books.drawn other (List.mem_of_mem_erase member)
  · rw [withdraw_of_not_mem waits]
    exact books

/-- Who begins to wait has drawn the latest ticket, and goes to the end of the line. -/
theorem waits (books : pool.Books limit holders drawn) :
    (pool.count.announce.enqueue drawn).Books limit holders (drawn + 1) := by
  have tight : pool.count.announce.IsTight := books.tight
  have line : (pool.count.announce.enqueue drawn).line = pool.line ++ [drawn] :=
    tight.enqueue_line drawn
  constructor
  · rw [enqueue_active]
    exact books.active
  · rw [enqueue_unheld]
    exact books.slots
  · rw [(enqueue_same _ _).1, line, List.length_append, ← books.waiting]
    rfl
  · exact tight.enqueue drawn
  · rw [line, List.pairwise_append]
    refine ⟨books.ordered, List.pairwise_singleton _ _, ?_⟩
    intro ticket member other last
    rw [List.mem_singleton.mp last]
    exact books.drawn ticket member
  · intro ticket member
    rw [line] at member
    rcases List.mem_append.mp member with member | last
    · exact Nat.lt_succ_of_lt (books.drawn ticket member)
    · rw [List.mem_singleton.mp last]
      exact Nat.lt_succ_self drawn

theorem full (books : pool.Books limit holders drawn) (settled : pool.granted = [])
    (member : ticket ∈ pool.line) : holders = limit := by
  have queued : ticket ∈ pool.queue := by simpa [line, settled] using member
  have busy : pool.free = 0 := books.tight.resolve_left (List.ne_nil_of_mem queued)
  have slots := books.slots
  rw [unheld, busy, settled, List.length_nil] at slots
  omega

theorem granted_of_lt (books : pool.Books limit holders drawn) {earlier later : Nat}
    (before : earlier < later) (member : earlier ∈ pool.line) (granted : later ∈ pool.granted) :
    earlier ∈ pool.granted := by
  rcases List.mem_append.mp member with passed | queued
  · exact passed
  · have behind := (List.pairwise_append.mp books.ordered).2.2 later granted earlier queued
    omega

theorem granted_of_free (books : pool.Books limit holders drawn)
    (slot : pool.tryAcquire? ≠ none) (member : ticket ∈ pool.line) : ticket ∈ pool.granted := by
  obtain ⟨after, slot⟩ := Option.ne_none_iff_exists'.mp slot
  have some_free := (tryAcquire?_some slot).1
  have nobody : pool.queue = [] := books.tight.resolve_right (by omega)
  simpa [line, nobody] using member

end Books

end SlotPool

end TrafficReplay
