import TrafficReplay.Pool.Basic
import Mathlib.Data.List.Perm.Basic

namespace TrafficReplay.SlotPool

variable {α : Type} {pool after : SlotPool α} {waiter : α}

def inLine (pool : SlotPool α) : List α := pool.queue ++ pool.granted

def unheld (pool : SlotPool α) : Nat := pool.free + pool.granted.length

/-- Nobody waits in the queue while a slot is free. -/
def IsTight (pool : SlotPool α) : Prop := pool.queue = [] ∨ pool.free = 0

theorem tryAcquire?_some (slot : pool.tryAcquire? = some after) :
    0 < pool.free ∧ after = { pool with free := pool.free - 1, active := pool.active + 1 } := by
  unfold tryAcquire? at slot
  split at slot
  · rename_i some_free
    cases slot
    exact ⟨some_free, rfl⟩
  · cases slot

section passSlot

theorem passSlot_same (pool : SlotPool α) :
    pool.passSlot.waiting = pool.waiting ∧ pool.passSlot.announced = pool.announced := by
  unfold passSlot
  split <;> exact ⟨rfl, rfl⟩

theorem passSlot_unheld (pool : SlotPool α) : pool.passSlot.unheld = pool.unheld + 1 := by
  unfold passSlot unheld
  split
  · dsimp only
    omega
  · simp only [List.length_append, List.length_singleton]
    omega

theorem passSlot_inLine (pool : SlotPool α) : pool.passSlot.inLine.Perm pool.inLine := by
  unfold passSlot inLine
  split
  · exact .refl _
  · rename_i first rest queue
    dsimp only
    rw [queue, ← List.append_assoc]
    exact List.perm_append_singleton ..

theorem IsTight.passSlot (tight : pool.IsTight) : pool.passSlot.IsTight := by
  unfold SlotPool.passSlot
  split
  · rename_i none
    exact .inl none
  · rename_i first rest queue
    cases tight with
    | inl none => exact absurd (queue.symm.trans none) nofun
    | inr busy => exact .inr busy

end passSlot

section enqueue

theorem enqueue_same (pool : SlotPool α) (waiter : α) :
    (pool.enqueue waiter).waiting = pool.waiting ∧
      (pool.enqueue waiter).announced = pool.announced := by
  unfold enqueue
  split <;> exact ⟨rfl, rfl⟩

theorem enqueue_unheld (pool : SlotPool α) (waiter : α) :
    (pool.enqueue waiter).unheld = pool.unheld := by
  unfold enqueue unheld
  split
  · simp only [List.length_append, List.length_singleton]
    omega
  · rfl

theorem enqueue_inLine (pool : SlotPool α) (waiter : α) :
    (pool.enqueue waiter).inLine.Perm (waiter :: pool.inLine) := by
  unfold enqueue inLine
  split
  · dsimp only
    rw [← List.append_assoc]
    exact List.perm_append_singleton ..
  · dsimp only
    rw [List.append_assoc]
    exact List.perm_middle

theorem IsTight.enqueue (tight : pool.IsTight) (waiter : α) : (pool.enqueue waiter).IsTight := by
  unfold SlotPool.enqueue
  split
  · rename_i some_free
    cases tight with
    | inl none => exact .inl none
    | inr busy => omega
  · rename_i busy
    exact .inr (Nat.eq_zero_of_not_pos busy)

end enqueue

variable [DecidableEq α]

theorem take?_some (slot : pool.take? waiter = some after) :
    waiter ∈ pool.granted ∧ after = { pool with
      granted := pool.granted.erase waiter
      active := pool.active + 1
      waiting := pool.waiting - 1 } := by
  unfold take? at slot
  split at slot
  · rename_i granted
    cases slot
    exact ⟨granted, rfl⟩
  · cases slot

theorem take?_unheld (slot : pool.take? waiter = some after) : after.unheld + 1 = pool.unheld := by
  obtain ⟨granted, rfl⟩ := take?_some slot
  have some_granted := List.length_pos_of_mem granted
  simp only [unheld, List.length_erase_of_mem granted]
  omega

theorem take?_inLine (slot : pool.take? waiter = some after) :
    (waiter :: after.inLine).Perm pool.inLine := by
  obtain ⟨granted, rfl⟩ := take?_some slot
  have back := (List.perm_cons_erase granted).symm
  exact (List.perm_middle.symm).trans (back.append_left pool.queue)

section withdraw

theorem withdraw_cases (inLine : waiter ∈ pool.inLine) :
    (waiter ∈ pool.granted ∧ pool.withdraw waiter = passSlot { pool with
      granted := pool.granted.erase waiter, waiting := pool.waiting - 1 }) ∨
    (waiter ∈ pool.queue ∧ pool.withdraw waiter = { pool with
      queue := pool.queue.erase waiter, waiting := pool.waiting - 1 }) := by
  unfold withdraw
  by_cases granted : waiter ∈ pool.granted
  · left
    exact ⟨granted, if_pos granted⟩
  · have queued : waiter ∈ pool.queue := (List.mem_append.mp inLine).resolve_right granted
    right
    exact ⟨queued, by rw [if_neg granted, if_pos queued]⟩

theorem withdraw_same (inLine : waiter ∈ pool.inLine) :
    (pool.withdraw waiter).waiting = pool.waiting - 1 ∧
      (pool.withdraw waiter).announced = pool.announced := by
  rcases withdraw_cases inLine with ⟨_, same⟩ | ⟨_, same⟩
  · rw [same]
    exact passSlot_same _
  · rw [same]
    exact ⟨rfl, rfl⟩

theorem withdraw_unheld (inLine : waiter ∈ pool.inLine) :
    (pool.withdraw waiter).unheld = pool.unheld := by
  rcases withdraw_cases inLine with ⟨granted, same⟩ | ⟨_, same⟩
  · have some_granted := List.length_pos_of_mem granted
    rw [same, passSlot_unheld]
    simp only [unheld, List.length_erase_of_mem granted]
    omega
  · rw [same]
    rfl

theorem withdraw_inLine (inLine : waiter ∈ pool.inLine) :
    (waiter :: (pool.withdraw waiter).inLine).Perm pool.inLine := by
  rcases withdraw_cases inLine with ⟨granted, same⟩ | ⟨queued, same⟩
  · rw [same]
    refine ((passSlot_inLine _).cons waiter).trans ?_
    have back := (List.perm_cons_erase granted).symm
    exact (List.perm_middle.symm).trans (back.append_left pool.queue)
  · rw [same]
    have back := (List.perm_cons_erase queued).symm
    exact back.append_right pool.granted

theorem IsTight.withdraw (tight : pool.IsTight) (inLine : waiter ∈ pool.inLine) :
    (pool.withdraw waiter).IsTight := by
  rcases withdraw_cases inLine with ⟨_, same⟩ | ⟨_, same⟩
  · rw [same]
    exact IsTight.passSlot tight
  · rw [same]
    cases tight with
    | inl none =>
      left
      dsimp only
      rw [none]
      rfl
    | inr busy => exact .inr busy

end withdraw

end TrafficReplay.SlotPool
