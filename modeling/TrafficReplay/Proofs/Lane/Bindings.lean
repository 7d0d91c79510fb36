import TrafficReplay.Proofs.Lane.Translation

namespace TrafficReplay

namespace CursorHome

def scope : CursorHome → CursorScope
  | .own _ => .lane
  | .shared => .global

theorem scope_ofScope (scope : CursorScope) : (ofScope scope).scope = scope := by
  cases scope <;> rfl

/-- Between a home with the shared table and the same ones later: bindings may have gone. -/
structure Sheds (before after : CursorHome × CursorTable) : Prop where
  scope : after.1.scope = before.1.scope
  apart : before.1.scope = .lane → after.2 = before.2
  kept : ∀ entry ∈ after.2.bindings, entry ∈ before.2.bindings

variable {before between after : CursorHome × CursorTable} {home : CursorHome}
  {common : CursorTable}

theorem Sheds.refl (before : CursorHome × CursorTable) : Sheds before before :=
  ⟨rfl, fun _ => rfl, fun _ member => member⟩

theorem Sheds.trans (first : Sheds before between) (second : Sheds between after) :
    Sheds before after where
  scope := second.scope.trans first.scope
  apart own := (second.apart (first.scope.trans own)).trans (first.apart own)
  kept entry member := first.kept entry (second.kept entry member)

theorem sheds_release (home : CursorHome) (common : CursorTable) (recorded : Int64) :
    Sheds (home, common) (home.release common recorded) := by
  cases home with
  | own table => exact ⟨rfl, fun _ => rfl, fun _ member => member⟩
  | shared => exact ⟨rfl, nofun, fun _ member => (List.mem_filter.mp member).1⟩

theorem sheds_releaseLane (home : CursorHome) (common : CursorTable) (lane : LaneId) :
    Sheds (home, common) (home.releaseLane common lane) := by
  cases home with
  | own table => exact ⟨rfl, fun _ => rfl, fun _ member => member⟩
  | shared => exact ⟨rfl, nofun, fun _ member => (List.mem_filter.mp member).1⟩

theorem releaseLane_clears {lane : LaneId} (shared : home.scope = .global) :
    ∀ entry ∈ (home.releaseLane common lane).2.bindings, entry.2.owner ≠ lane := by
  intro entry member
  cases home with
  | own => cases shared
  | shared => exact of_decide_eq_true (List.mem_filter.mp member).2

def table? : CursorHome → Option CursorTable
  | .own table => some table
  | .shared => none

def IsClear (home : CursorHome) : Prop := ∀ table, home.table? = some table → table = .empty

theorem isClear_ofScope (scope : CursorScope) : (ofScope scope).IsClear := by
  cases scope with
  | lane =>
    rintro _ ⟨⟩
    rfl
  | global => exact nofun

theorem isClear_releaseLane (home : CursorHome) (common : CursorTable) (lane : LaneId) :
    (home.releaseLane common lane).1.IsClear := by
  cases home with
  | own =>
    rintro _ ⟨⟩
    rfl
  | shared => exact nofun

theorem bind_scope (lane : LaneId) (recorded live : Int64) :
    (home.bind common lane recorded live).1.scope = home.scope := by
  cases home <;> rfl

theorem bind_common (own : home.scope = .lane) (lane : LaneId) (recorded live : Int64) :
    (home.bind common lane recorded live).2 = common := by
  cases home with
  | own => rfl
  | shared => cases own

theorem mem_bind {lane : LaneId} {recorded live : Int64} {entry : Int64 × CursorBinding}
    (member : entry ∈ (home.bind common lane recorded live).2.bindings) :
    entry ∈ common.bindings ∨ entry.2.owner = lane := by
  cases home with
  | own => exact .inl member
  | shared =>
    rcases List.mem_cons.mp member with rfl | old
    · exact .inr rfl
    · exact .inl (List.mem_filter.mp old).1

end CursorHome

namespace LaneMemory

open CursorHome (Sheds)

variable {memory : LaneMemory}

theorem sheds_releaseIds (memory : LaneMemory) (common : CursorTable) (ids : List Int64) :
    Sheds (memory.home, common)
      ((memory.releaseIds common ids).1.home, (memory.releaseIds common ids).2) := by
  unfold releaseIds
  induction ids generalizing memory common with
  | nil => exact .refl _
  | cons id rest ih =>
    have later := ih { memory with home := (memory.home.release common id).1 }
      (memory.home.release common id).2
    exact (CursorHome.sheds_release memory.home common id).trans later

theorem sheds_releaseCursors (memory : LaneMemory) (common : CursorTable) (frame : Frame) :
    Sheds (memory.home, common)
      ((memory.releaseCursors common frame).1.home, (memory.releaseCursors common frame).2) := by
  unfold releaseCursors
  split
  · exact sheds_releaseIds memory common _
  · exact .refl _

theorem sheds_onReply (memory : LaneMemory) (common : CursorTable) (frame : Frame) (miss : Bool)
    (cursorId : Int64) :
    Sheds (memory.home, common) ((memory.onReply common frame miss cursorId).1.home,
      (memory.onReply common frame miss cursorId).2) := by
  unfold onReply
  split
  · split
    · exact sheds_releaseCursors memory common frame
    · exact .refl _
  · split <;> exact .refl _

theorem correlate_cases (memory : LaneMemory) (common : CursorTable) (lane : LaneId)
    (reply : Frame) :
    ((memory.correlate common lane reply).1.home, (memory.correlate common lane reply).2) =
        (memory.home, common) ∨
      ∃ recorded live,
        ((memory.correlate common lane reply).1.home, (memory.correlate common lane reply).2) =
          memory.home.bind common lane recorded live := by
  unfold correlate
  cases memory.binding? reply with
  | none => exact .inl rfl
  | some binding => exact .inr ⟨binding.1, binding.2, rfl⟩

end LaneMemory

namespace Worker

open CursorHome (Sheds)

/-- Whether bindings of the lane may be left to the worker's care. -/
def keepsBindings (worker : Worker) : Bool :=
  match worker.phase, worker.handoff with
  | .succeeding _, _ | .draining, _ => false
  | .leaving .done, _ | .concluding .done, _ => worker.report.yielded
  | .ended, .passed _ => true
  | .ended, _ => false
  | _, _ => true

variable {around : Surroundings} {worker : Worker} {shared : Shared} {action : WorkerAction}
  {outcome : Outcome}

/-- What a step of a worker does to the table that it uses, and to its care for the bindings. -/
inductive TableMove (around : Surroundings) (worker : Worker) (shared : Shared) (outcome : Outcome) :
    Prop
  | sheds (sheds : Sheds (worker.memory.home, shared.common)
        (outcome.1.memory.home, outcome.2.1.common))
      (keeps : worker.keepsBindings = true → outcome.1.keepsBindings = true)
  | binds {recorded live : Int64}
      (home : outcome.1.memory.home =
        (worker.memory.home.bind shared.common worker.lane recorded live).1)
      (common : outcome.2.1.common =
        (worker.memory.home.bind shared.common worker.lane recorded live).2)
      (keeps : outcome.1.keepsBindings = true)
  | clears
      (home : outcome.1.memory.home =
        (worker.memory.home.releaseLane shared.common worker.lane).1)
      (common : outcome.2.1.common =
        (worker.memory.home.releaseLane shared.common worker.lane).2)
  | resumes {predecessor : WorkerId} {memory : LaneMemory}
      (phase : worker.phase = .succeeding predecessor) (legacy : around.legacy = .passed memory)
      (home : outcome.1.memory.home = memory.home) (common : outcome.2.1.common = shared.common)
      (keeps : outcome.1.keepsBindings = true)
  | cancels (phase : worker.phase = .concluding .cancelled) (ended : outcome.1.phase = .ended)
      (home : outcome.1.memory.home = worker.memory.home)
      (common : outcome.2.1.common = shared.common)

theorem Shift.keepsBindings {phase : WorkerPhase} {after : Shared} {effects : List LaneEffect}
    (shift : Shift around worker shared action phase after effects)
    (keeps : worker.keepsBindings = true) : (worker.enter phase).keepsBindings = true := by
  cases shift with
  | @leaves ending at_phase =>
    rw [Worker.keepsBindings, at_phase] at keeps
    cases ending with
    | done => exact keeps
    | _ => rfl
  | _ => rfl

theorem Shift.common {phase : WorkerPhase} {after : Shared} {effects : List LaneEffect}
    (shift : Shift around worker shared action phase after effects) :
    after.common = shared.common := by
  cases shift <;> rfl

theorem afterFailure_keepsBindings (settings : LaneSettings) (worker : Worker) :
    (afterFailure settings worker).keepsBindings = true := by
  rcases afterFailure_phase settings worker with phase | phase <;> rw [keepsBindings, phase]

theorem sheds_afterSending (worker : Worker) (common : CursorTable) (frame : Frame) :
    Sheds (worker.memory.home, common)
      ((worker.afterSending common frame).1.home, (worker.afterSending common frame).2) := by
  unfold afterSending
  split
  · exact worker.memory.sheds_releaseCursors common frame
  · exact .refl _

theorem Step.table (step : Step around worker shared action outcome) :
    TableMove around worker shared outcome := by
  cases step with
  | shifts shift => exact .sheds (shift.common ▸ .refl _) shift.keepsBindings
  | resumes phase legacy => exact .resumes phase legacy rfl rfl rfl
  | takes | yields | shutsQueue | transmits | skips | stops => exact .sheds (.refl _) fun _ => rfl
  | @correlates record phase response =>
    rcases worker.memory.correlate_cases shared.common worker.lane record.frame with
      same | ⟨recorded, live, same⟩
    · exact .sheds (same ▸ .refl _) fun _ => rfl
    · exact .binds (congrArg Prod.fst same) (congrArg Prod.snd same) rfl
  | withholds | fails => exact .sheds (.refl _) fun _ => afterFailure_keepsBindings _ _
  | @plays issue _ _ phase unanswered learnt =>
    have sheds := worker.sheds_afterSending shared.common issue.record.frame
    rw [learnt] at sheds
    exact .sheds sheds fun _ => rfl
  | @hears issue reply summary _ _ phase own readable learnt =>
    have sheds := worker.memory.sheds_onReply shared.common issue.record.frame issue.miss
      summary.cursorId
    rw [learnt] at sheds
    cases failed : summary.failed with
    | true => exact .sheds sheds fun _ => afterFailure_keepsBindings _ _
    | false => exact .sheds sheds fun _ => rfl
  | @closes ending phase =>
    cases hands : worker.handsOver ending with
    | true =>
      rw [handsOver, Bool.and_eq_true, decide_eq_true_eq] at hands
      obtain ⟨rfl, yielded⟩ := hands
      have kept : close .done worker shared = (worker.enter (.leaving .done), shared, [.hangsUp]) := by
        simp [close, handsOver, yielded, enter]
      rw [kept]
      exact .sheds (.refl _) fun _ => yielded
    | false =>
      refine .clears ?_ ?_ <;> simp [close, hands, LaneMemory.releaseLane]
  | bequeaths phase yielded heir => exact .sheds (.refl _) fun _ => rfl
  | diesOut phase => exact .clears rfl rfl
  | concludes phase kept =>
    refine .sheds (.refl _) fun keeps => ?_
    rw [keepsBindings, phase, kept] at keeps
    cases keeps
  | endsCancelled phase =>
    rcases phase with ⟨_, phase⟩ | ⟨_, _, ⟨predecessor, phase⟩ | phase⟩
    · exact .cancels phase rfl rfl rfl
    all_goals
      refine .sheds (.refl _) fun keeps => ?_
      rw [keepsBindings, phase] at keeps
      cases keeps
  | aborts => exact .clears rfl rfl
  | drainsReply phase | drains phase | drainsDry phase =>
    refine .sheds (.refl _) fun keeps => ?_
    rw [keepsBindings, phase] at keeps
    cases keeps

namespace TableMove

theorem scope {scope : CursorScope} (move : TableMove around worker shared outcome)
    (own : worker.memory.home.scope = scope)
    (inherited : ∀ memory, around.legacy = .passed memory → memory.home.scope = scope) :
    outcome.1.memory.home.scope = scope := by
  cases move with
  | sheds sheds => exact sheds.scope.trans own
  | binds home => rw [home, CursorHome.bind_scope, own]
  | clears home =>
    rw [home, (worker.memory.home.sheds_releaseLane shared.common worker.lane).scope, own]
  | resumes _ legacy home => rw [home, inherited _ legacy]
  | cancels _ _ home => rw [home, own]

/-- A lane with a table of its own leaves the shared one alone. -/
theorem apart (move : TableMove around worker shared outcome)
    (own : worker.memory.home.scope = .lane) : outcome.2.1.common = shared.common := by
  cases move with
  | sheds sheds => exact sheds.apart own
  | binds _ common => rw [common, CursorHome.bind_common own]
  | clears _ common =>
    rw [common]
    exact (worker.memory.home.sheds_releaseLane shared.common worker.lane).apart own
  | resumes _ _ _ common | cancels _ _ _ common => exact common

theorem cared (move : TableMove around worker shared outcome)
    (global : worker.memory.home.scope = .global)
    (uncancelled : worker.phase.ending? ≠ some .cancelled) {entry : Int64 × CursorBinding}
    (member : entry ∈ outcome.2.1.common.bindings) :
    entry ∈ shared.common.bindings ∧ (entry.2.owner = worker.lane →
        worker.keepsBindings = true → outcome.1.keepsBindings = true) ∨
      entry.2.owner = worker.lane ∧ outcome.1.keepsBindings = true := by
  cases move with
  | sheds sheds keeps => exact .inl ⟨sheds.kept entry member, fun _ => keeps⟩
  | binds _ common keeps =>
    rw [common] at member
    rcases CursorHome.mem_bind member with old | own
    · exact .inl ⟨old, fun _ _ => keeps⟩
    · exact .inr ⟨own, keeps⟩
  | clears _ common =>
    rw [common] at member
    have sheds := worker.memory.home.sheds_releaseLane shared.common worker.lane
    refine .inl ⟨sheds.kept entry member, fun own => absurd own ?_⟩
    exact CursorHome.releaseLane_clears global entry member
  | resumes _ _ _ common keeps =>
    rw [common] at member
    exact .inl ⟨member, fun _ _ => keeps⟩
  | cancels phase => exact absurd (by rw [phase]; rfl) uncancelled

end TableMove

theorem Step.keepsBindings_of_succeeding (step : Step around worker shared action outcome)
    (quiet : shared.signal.fired = false) {predecessor : WorkerId}
    (waiting : worker.phase = .succeeding predecessor) : outcome.1.keepsBindings = true := by
  cases step.of_succeeding waiting with
  | startsAnew => rfl
  | resumes => rfl
  | givesUp fired => exact absurd fired (by simp [quiet])

/-- State is passed on only as long as somebody may take it. -/
theorem Step.heir_of_passed (step : Step around worker shared action outcome)
    (undecided : worker.handoff = .undecided) {memory : LaneMemory}
    (passed : outcome.1.handoff = .passed memory) : around.hasHeir = true := by
  cases step with
  | bequeaths _ _ heir => exact heir
  | diesOut | concludes | drainsDry | endsCancelled =>
    simp [finish, finishCancelled, withMemory, undecided] at passed
  | hears =>
    revert passed
    dsimp only
    split <;> intro passed <;> cases undecided.symm.trans passed
  | _ => cases undecided.symm.trans passed

/-- What a worker no longer answers for is gone from the lane's own table. -/
def Freed (worker : Worker) : Prop :=
  worker.keepsBindings = false → worker.handoff ≠ .taken → worker.memory.home.IsClear

theorem Step.freed (step : Step around worker shared action outcome)
    (quiet : shared.signal.fired = false) (sound : worker.Sound around.fed)
    (uncancelled : worker.phase.ending? ≠ some .cancelled) (freed : worker.Freed) :
    outcome.1.Freed := by
  intro lets _
  have untaken : worker.handoff ≠ .taken := by
    rw [sound.decided.mpr step.not_ended]
    exact nofun
  cases step with
  | shifts shift =>
    refine freed ?_ untaken
    cases before : worker.keepsBindings with
    | false => rfl
    | true => exact absurd (shift.keepsBindings before) (by rw [lets]; exact nofun)
  | resumes | takes | yields | shutsQueue | correlates | transmits | skips | stops | plays =>
    cases lets
  | withholds | fails => exact absurd (afterFailure_keepsBindings _ _) (by rw [lets]; exact nofun)
  | hears =>
    revert lets
    dsimp only
    split
    · exact fun lets => absurd (afterFailure_keepsBindings _ _) (by rw [lets]; exact nofun)
    · exact nofun
  | @closes ending phase =>
    cases hands : worker.handsOver ending with
    | true =>
      rw [handsOver, Bool.and_eq_true, decide_eq_true_eq] at hands
      obtain ⟨rfl, yielded⟩ := hands
      simp [close, handsOver, yielded, keepsBindings] at lets
    | false =>
      simp only [close, hands]
      exact worker.memory.home.isClear_releaseLane shared.common worker.lane
  | bequeaths => cases lets
  | diesOut => exact worker.memory.home.isClear_releaseLane shared.common worker.lane
  | aborts => exact worker.memory.home.isClear_releaseLane shared.common worker.lane
  | concludes phase kept => exact freed (by rw [keepsBindings, phase, kept]) untaken
  | endsCancelled phase =>
    rcases phase with ⟨_, phase⟩ | ⟨_, fired, _⟩
    · exact absurd (by rw [phase]; rfl) uncancelled
    · exact absurd fired (by simp [quiet])
  | drainsReply phase | drains phase | drainsDry phase =>
    exact freed (by rw [keepsBindings, phase]) untaken

end Worker

/-- Every worker of a lane keeps the lane's bindings where the first one did. -/
theorem LaneRun.home_scope {scope : CursorScope} {log : List LaneStep} {worker : Worker}
    (run : LaneRun scope log worker) : worker.memory.home.scope = scope := by
  induction run with
  | opened => exact CursorHome.scope_ofScope scope
  | fed _ _ ih => exact ih
  | steps _ own step ih =>
    exact step.table.scope ih fun memory passed => absurd passed (own memory)
  | inherits run passed _ _ _ legacy step old own =>
    refine step.table.scope own fun memory found => ?_
    rw [legacy] at found
    cases found
    rw [← (run.bequest.2 _ passed).2, old]

end TrafficReplay
