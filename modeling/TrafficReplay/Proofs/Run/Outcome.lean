import Mathlib.Data.Finset.Card
import Mathlib.Data.Sym.Sym2
import TrafficReplay.Proofs.Run.Cancellation
import TrafficReplay.Proofs.Run.Tidings

namespace TrafficReplay

def LaneId.ends (lane : LaneId) : Sym2 String := s(lane.low, lane.high)

def Record.ends (record : Record) : Sym2 String := s(record.source, record.destination)

theorem Record.ends_lane (record : Record) : record.lane.ends = record.ends := by
  unfold lane LaneId.ofEndpoints
  split
  · rfl
  · exact Sym2.eq_swap

theorem LaneId.ends_injective : Function.Injective LaneId.ends := by
  intro a b same
  rcases Sym2.eq_iff.mp same with ⟨low, high⟩ | ⟨low, high⟩
  · cases a
    cases b
    cases low
    cases high
    rfl
  · obtain ⟨a_low, a_high, a_le⟩ := a
    obtain ⟨b_low, b_high, b_le⟩ := b
    cases low
    cases high
    cases String.le_antisymm a_le b_le
    rfl

theorem card_lanes (records : List Record) :
    (records.map Record.lane).toFinset.card = (records.map Record.ends).toFinset.card := by
  have ends : (records.map Record.ends).toFinset =
      (records.map Record.lane).toFinset.image LaneId.ends := by
    ext pair
    simp [Record.ends_lane]
  rw [ends, Finset.card_image_of_injective _ LaneId.ends_injective]

namespace Run

variable {settings : RunSettings} {steps : List (Run × RunAction)} {effects new : Effects}
  {run after : Run} {event : LaneEvent} {events : List LaneEvent} {fault : PlayFault}

theorem note_ok {noted : Run} (took : run.note event = .ok noted) :
    event.isFatal run.settings.connectFailure = false ∧
      noted.settings = run.settings ∧ (run.connected.Nodup → noted.connected.Nodup) ∧
      ∀ lane, lane ∈ noted.connected ↔ lane ∈ run.connected ∨ event = .connected lane := by
  unfold note at took
  cases event with
  | connected own =>
    cases took
    refine ⟨rfl, rfl, fun nodup => ?_, fun lane => ?_⟩
    · dsimp only
      split
      · exact nodup
      · rename_i absent
        rw [← List.concat_eq_append]
        exact nodup.concat absent
    · dsimp only
      rw [LaneEvent.connected.injEq, eq_comm]
      split
      · rename_i known
        exact ⟨.inl, fun either => either.elim id fun same => same ▸ known⟩
      · simp
  | connectFailed lane cause =>
    dsimp only at took
    split at took
    · cases took
    · rename_i mild
      cases took
      exact ⟨by simpa [LaneEvent.isFatal] using mild, rfl, id, by simp⟩
  | aborted => cases took; exact ⟨rfl, rfl, id, by simp⟩

theorem note_error (fatal : run.note event = .error fault) :
    run.settings.connectFailure = .abortRun ∧
      ∃ lane cause, event = .connectFailed lane cause ∧
        fault = .connect run.settings.address cause := by
  unfold note at fatal
  cases event with
  | connected | aborted => cases fatal
  | connectFailed lane cause =>
    dsimp only at fatal
    split at fatal
    · rename_i policy
      cases fatal
      exact ⟨policy, lane, cause, rfl, rfl⟩
    · cases fatal

theorem noteAll_ok {noted : Run} (took : run.noteAll events = .ok noted) :
    run.heard events = events ∧
      (∀ event ∈ events, event.isFatal run.settings.connectFailure = false) ∧
      (run.connected.Nodup → noted.connected.Nodup) ∧
      ∀ lane, lane ∈ noted.connected ↔ lane ∈ run.connected ∨ .connected lane ∈ events := by
  induction events generalizing run with
  | nil => cases took; exact ⟨rfl, nofun, id, by simp⟩
  | cons event rest ih =>
    simp only [noteAll] at took
    split at took
    · rename_i next first
      obtain ⟨mild, same, nodup, connected⟩ := note_ok first
      obtain ⟨all, others, nodup_rest, more⟩ := ih took
      rw [same] at others
      refine ⟨?_, ?_, nodup_rest ∘ nodup, fun lane => ?_⟩
      · simp only [heard, first, all]
      · exact List.forall_mem_cons.mpr ⟨mild, others⟩
      · rw [more, connected, List.mem_cons, or_assoc, eq_comm]
    · cases took

theorem noteAll_error (fatal : run.noteAll events = .error fault) :
    run.heard events <+: events ∧ run.settings.connectFailure = .abortRun ∧
      ∃ lane cause, .connectFailed lane cause ∈ run.heard events ∧
        fault = .connect run.settings.address cause := by
  induction events generalizing run with
  | nil => cases fatal
  | cons event rest ih =>
    simp only [noteAll] at fatal
    split at fatal
    · rename_i next first
      obtain ⟨within, policy, lane, cause, member, same⟩ := ih fatal
      rw [(note_ok first).2.1] at policy same
      refine ⟨?_, policy, lane, cause, ?_, same⟩
      · simp only [heard, first]
        exact List.prefix_cons_inj event |>.mpr within
      · simp only [heard, first]
        exact List.mem_cons_of_mem _ member
    · rename_i cause first
      cases fatal
      obtain ⟨policy, lane, cause, rfl, same⟩ := note_error first
      simp only [heard, first]
      exact ⟨⟨rest, rfl⟩, policy, lane, cause, List.mem_singleton_self _, same⟩

theorem Carries.lanes (carries : run.Carries after) :
    after.workers.map Worker.lane = run.workers.map Worker.lane := by
  apply List.ext_getElem?
  intro id
  rw [List.getElem?_map, List.getElem?_map]
  cases found : after.workers[id]? with
  | none =>
    have beyond := List.getElem?_eq_none_iff.mp found
    rw [List.getElem?_eq_none (carries.size ▸ beyond)]
  | some worker =>
    obtain ⟨old, was, follows⟩ := carries.follows id worker found
    rw [was]
    exact congrArg some follows.lane

structure Opened (actions : List RunAction) (run : Run) : Prop where
  nodup : run.attempted.Nodup
  staffed : ∀ lane, lane ∈ run.attempted ↔ lane ∈ run.workers.map Worker.lane
  asked : ∀ lane ∈ run.attempted, ∃ record ∈ streamed actions, record.lane = lane

theorem Opened.same {actions more : List RunAction} (opened : Opened actions run)
    (attempted : after.attempted = run.attempted)
    (lanes : after.workers.map Worker.lane = run.workers.map Worker.lane) :
    Opened (actions ++ more) after := by
  refine ⟨attempted ▸ opened.nodup, fun lane => by rw [attempted, lanes, opened.staffed], ?_⟩
  rw [attempted, streamed_append]
  intro lane member
  obtain ⟨record, drew, of_lane⟩ := opened.asked lane member
  exact ⟨record, List.mem_append_left _ drew, of_lane⟩

theorem Opened.opens {actions more : List RunAction} (opened : Opened actions run)
    {record : Record} (drew : record ∈ streamed actions) (predecessor : Option WorkerId) :
    Opened (actions ++ more) (run.openWorker record.lane predecessor) := by
  have known (lane : LaneId) : lane ∈ (run.openWorker record.lane predecessor).attempted ↔
      lane ∈ run.attempted ∨ lane = record.lane := by
    simp only [openWorker]
    split
    · rename_i old
      exact ⟨.inl, fun either => either.elim id fun same => same ▸ old⟩
    · simp
  refine ⟨?_, fun lane => ?_, fun lane member => ?_⟩
  · simp only [openWorker]
    split
    · exact opened.nodup
    · rename_i fresh
      rw [← List.concat_eq_append]
      exact opened.nodup.concat fresh
  · rw [known, opened.staffed]
    simp [openWorker, Worker.opened]
  · rw [streamed_append]
    rcases (known lane).mp member with old | rfl
    · obtain ⟨found, was, of_lane⟩ := opened.asked lane old
      exact ⟨found, List.mem_append_left _ was, of_lane⟩
    · exact ⟨record, List.mem_append_left _ drew, rfl⟩

theorem Trace.hand_streamed {actions : List RunAction} (trace : Trace settings actions effects run)
    {record : Record} (phase : run.router = .delivering record) : record ∈ streamed actions := by
  obtain ⟨left, equal, hand⟩ := trace.accounted record.lane
  have held : left = [record] := by
    rw [hand (isWhole_of_unstopped (by rw [phase]; rfl)), phase]
    simp [RouterPhase.inHand, onLane]
  have member : record ∈ onLane record.lane (streamed actions) := by
    rw [equal, held]
    exact List.mem_append_right _ (List.mem_singleton_self _)
  exact (List.mem_filter.mp member).1

theorem Trace.opened {actions : List RunAction} (trace : Trace settings actions effects run) :
    Opened actions run := by
  induction trace with
  | start => exact ⟨List.nodup_nil, by simp [Run.start], by simp [Run.start]⟩
  | step trace step ih =>
    cases step_of_step? step with
    | works at_id move => exact ih.same rfl (Carries.works at_id move).lanes
    | cancels => exact ih.same rfl rfl
    | routes routed =>
      cases routed with
      | opens phase | replaces phase => exact ih.opens (trace.hand_streamed phase) _
      | delivers phase _ at_id =>
        exact ih.same rfl (Carries.push at_id _ (by simp only [isRouting, phase])).lanes
      | _ => exact ih.same rfl rfl

theorem Trace.lanes_opened {actions : List RunAction} (trace : Trace settings actions effects run)
    (going : run.router.isStopped = false) (empty : run.router.inHand = []) {record : Record}
    (drew : record ∈ streamed actions) : record.lane ∈ run.attempted := by
  obtain ⟨left, equal, hand⟩ := trace.accounted record.lane
  have nothing : left = [] := by
    rw [hand (isWhole_of_unstopped going), empty]
    rfl
  have member : record ∈ onLane record.lane (streamed actions) := by
    simpa [onLane] using drew
  rw [equal, nothing, List.append_nil] at member
  obtain ⟨id, on_lane, _⟩ := List.mem_flatMap.mp member
  obtain ⟨worker, at_id, of_lane⟩ := mem_workersOn.mp on_lane
  exact (trace.opened.staffed _).mpr
    (List.mem_map.mpr ⟨worker, List.mem_of_getElem? at_id, of_lane⟩)

/-- The router has taken note of all events but those in the queue, and of none that is fatal. -/
structure Abreast (steps : List (Run × RunAction)) (run : Run) : Prop where
  told : sent steps = seen steps ++ run.shared.events
  mild : ∀ event ∈ seen steps, event.isFatal run.settings.connectFailure = false
  connected : ∀ lane, lane ∈ run.connected ↔ .connected lane ∈ seen steps
  nodup : run.connected.Nodup

def Drew (steps : List (Run × RunAction)) (rest : List StreamItem) : Prop :=
  drawn (steps.map Prod.snd) = (streamed (steps.map Prod.snd)).map .record ++ rest

inductive Cause (settings : RunSettings) (steps : List (Run × RunAction)) : PlayFault → Prop
  | cancelled (asked : .cancel ∈ steps.map Prod.snd) : Cause settings steps .cancelled
  | connect {lane : LaneId} {fault : LinkFault} {rest : List StreamItem}
      (policy : settings.connectFailure = .abortRun)
      (noted : .connectFailed lane fault ∈ seen steps) (drew : Drew steps rest)
      (unbroken : rest = [] ∨ rest = [.finish]) :
      Cause settings steps (.connect settings.address fault)
  | stream {text : String}
      (mild : ∀ event ∈ seen steps, event.isFatal settings.connectFailure = false)
      (drew : Drew steps [.failure text]) : Cause settings steps (.stream text)

def isUnderway : RouterPhase → Bool
  | .looking _ | .choosing _ | .delivering _ => true
  | .stopping _ | .finished _ => false

/-- How a run stands. -/
inductive Standing (settings : RunSettings) (steps : List (Run × RunAction)) (run : Run) : Prop
  | underway (going : isUnderway run.router = true) (abreast : Abreast steps run)
      (quiet : run.shared.signal.fired = true → .cancel ∈ steps.map Prod.snd)
  | broken {fault : PlayFault}
      (phase : run.router = .stopping fault ∨ run.router = .finished (.error fault))
      (noted : seen steps <+: sent steps) (cause : Cause settings steps fault)
  | past (phase : run.router = .finished run.outcome) (abreast : Abreast steps run)
      (none : run.shared.events = []) (drew : Drew steps [.finish])
      (lanes : ∀ record ∈ streamed (steps.map Prod.snd), record.lane ∈ run.attempted)

theorem Abreast.same {step : Run × RunAction} (abreast : Abreast steps run)
    (unsent : sentIn? step = none) (unseen : seenIn step = [])
    (events : after.shared.events = run.shared.events) (settings : after.settings = run.settings)
    (connected : after.connected = run.connected) : Abreast (steps ++ [step]) after := by
  obtain ⟨told, mild, known, nodup⟩ := abreast
  have sent : sent (steps ++ [step]) = sent steps := by simp [sent_concat, unsent]
  have seen : seen (steps ++ [step]) = seen steps := by simp [seen_concat, unseen]
  exact ⟨by rw [sent, seen, events, told], by rw [seen, settings]; exact mild,
    by rw [seen, connected]; exact known, by rw [connected]; exact nodup⟩

theorem Abreast.works {id : Nat} {worker : Worker} {action : WorkerAction}
    {outcome : Worker.Outcome} (abreast : Abreast steps run)
    (talks : run.Talks id action worker outcome)
    (events : after.shared.events = outcome.2.1.events) (settings : after.settings = run.settings)
    (connected : after.connected = run.connected) :
    Abreast (steps ++ [(run, .worker id action)]) after := by
  obtain ⟨told, mild, known, nodup⟩ := abreast
  have seen : seen (steps ++ [(run, .worker id action)]) = seen steps := by simp [seen_concat, seenIn]
  refine ⟨?_, by rw [seen, settings]; exact mild, by rw [seen, connected]; exact known,
    by rw [connected]; exact nodup⟩
  rw [sent_concat, seen, events, talks.events, told, List.append_assoc]

theorem Abreast.notes {rest : List LaneEvent} {noted : Run} (abreast : Abreast steps run)
    (events : run.shared.events = event :: rest) (took : run.note event = .ok noted)
    (left : after.shared.events = rest) (settings : after.settings = run.settings)
    (connected : after.connected = noted.connected) :
    Abreast (steps ++ [(run, .router .event)]) after := by
  obtain ⟨told, mild, known, nodup⟩ := abreast
  obtain ⟨harmless, _, stays_nodup, more⟩ := note_ok took
  have seen : seen (steps ++ [(run, .router .event)]) = seen steps ++ [event] := by
    simp [seen_concat, seenIn, events]
  have sent : sent (steps ++ [(run, .router .event)]) = sent steps := by
    simp [sent_concat, sentIn?]
  refine ⟨?_, ?_, fun lane => ?_, connected ▸ stays_nodup nodup⟩
  · rw [sent, seen, told, events, left, List.append_assoc]
    rfl
  · rw [seen, settings]
    exact List.forall_mem_append.mpr ⟨mild, by simpa using harmless⟩
  · rw [connected, more, known, seen, List.mem_append, List.mem_singleton, eq_comm]

theorem Abreast.settles {noted : Run} (abreast : Abreast steps run)
    (phase : run.router = .choosing .waiting) (took : run.noteAll run.shared.events = .ok noted)
    (left : after.shared.events = []) (settings : after.settings = run.settings)
    (connected : after.connected = noted.connected) :
    Abreast (steps ++ [(run, .router .settle)]) after := by
  obtain ⟨told, mild, known, nodup⟩ := abreast
  obtain ⟨all, harmless, stays_nodup, more⟩ := noteAll_ok took
  have seen : seen (steps ++ [(run, .router .settle)]) = seen steps ++ run.shared.events := by
    simp only [seen_concat, seenIn, phase, all]
  have sent : sent (steps ++ [(run, .router .settle)]) = sent steps := by
    simp [sent_concat, sentIn?]
  refine ⟨?_, ?_, fun lane => ?_, connected ▸ stays_nodup nodup⟩
  · rw [sent, seen, told, left, List.append_nil]
  · rw [seen, settings]
    exact List.forall_mem_append.mpr ⟨mild, harmless⟩
  · rw [connected, more, known, seen, List.mem_append]

theorem drawn_concat (steps : List (Run × RunAction)) (step : Run × RunAction) :
    drawn ((steps ++ [step]).map Prod.snd) =
      drawn (steps.map Prod.snd) ++ step.2.item?.toList := by
  rw [List.map_append, drawn_append]
  cases item : step.2.item? <;> simp [drawn, item]

theorem streamed_concat (steps : List (Run × RunAction)) (step : Run × RunAction) :
    streamed ((steps ++ [step]).map Prod.snd) =
      streamed (steps.map Prod.snd) ++ (step.2.item?.bind StreamItem.record?).toList := by
  unfold streamed
  rw [drawn_concat, List.filterMap_append]
  cases step.2.item? with
  | none => rfl
  | some item => cases taken : item.record? <;> simp [taken]

theorem streamed_same {step : Run × RunAction} (undrawn : step.2.item? = none) :
    streamed ((steps ++ [step]).map Prod.snd) = streamed (steps.map Prod.snd) := by
  rw [streamed_concat, undrawn]
  exact List.append_nil _

theorem Drew.more {rest : List StreamItem} (drew : Drew steps rest) {step : Run × RunAction}
    (undrawn : step.2.item? = none) : Drew (steps ++ [step]) rest := by
  unfold Drew at drew ⊢
  rw [drawn_concat, streamed_concat, undrawn]
  simpa using drew

theorem asked_more {action : RunAction} (asked : action ∈ steps.map Prod.snd)
    (step : Run × RunAction) : action ∈ (steps ++ [step]).map Prod.snd := by
  rw [List.map_append]
  exact List.mem_append_left _ asked

theorem seen_same {step : Run × RunAction} (unseen : seenIn step = []) :
    seen (steps ++ [step]) = seen steps := by
  rw [seen_concat, unseen, List.append_nil]

theorem Cause.more {step : Run × RunAction} (cause : Cause settings steps fault)
    (undrawn : step.2.item? = none) (unseen : seenIn step = []) :
    Cause settings (steps ++ [step]) fault := by
  cases cause with
  | cancelled asked => exact .cancelled (asked_more asked step)
  | connect policy noted drew unbroken =>
    exact .connect policy (by rw [seen_same unseen]; exact noted) (drew.more undrawn) unbroken
  | stream mild drew => exact .stream (by rw [seen_same unseen]; exact mild) (drew.more undrawn)

theorem streamEnd?_of_underway (going : isUnderway run.router = true) :
    ∃ rest, run.streamEnd? = some rest ∧ (rest = [] ∨ rest = [.finish]) := by
  cases phase : run.router with
  | looking mode | choosing mode =>
    cases mode with
    | routing => exact ⟨[], by simp only [streamEnd?, phase], .inl rfl⟩
    | waiting => exact ⟨[.finish], by simp only [streamEnd?, phase], .inr rfl⟩
  | delivering => exact ⟨[], by simp only [streamEnd?, phase], .inl rfl⟩
  | stopping | finished => cases phase ▸ going

theorem Cause.breaks {step : Run × RunAction} (cause : Cause settings (steps ++ [step]) fault)
    (noted : seen (steps ++ [step]) <+: sent steps) (phase : after.router = .stopping fault) :
    Standing settings (steps ++ [step]) after := by
  refine .broken (.inl phase) (noted.trans ?_) cause
  rw [sent_concat]
  exact List.prefix_append _ _

theorem Abreast.keeps {step : Run × RunAction} (abreast : Abreast steps run)
    (quiet : run.shared.signal.fired = true → .cancel ∈ steps.map Prod.snd)
    (unsent : sentIn? step = none) (unseen : seenIn step = []) (shared : after.shared = run.shared)
    (same_settings : after.settings = run.settings) (connected : after.connected = run.connected)
    (going : isUnderway after.router = true) : Standing settings (steps ++ [step]) after :=
  .underway going
    (abreast.same unsent unseen (congrArg Shared.events shared) same_settings connected)
    fun fired => asked_more (quiet (shared ▸ fired)) step

theorem Abreast.noted (abreast : Abreast steps run) : seen steps <+: sent steps :=
  ⟨_, abreast.told.symm⟩

/-- What becomes of a run that is underway when its router takes a step. -/
theorem Course.routes {action : RouterAction} (course : Course settings steps effects run)
    (going : isUnderway run.router = true) (abreast : Abreast steps run)
    (quiet : run.shared.signal.fired = true → .cancel ∈ steps.map Prod.snd)
    (routed : RouterStep run action after) :
    Standing settings (steps ++ [(run, .router action)]) after := by
  have same : run.settings = settings := course.trace.settings
  obtain ⟨rest, good, unbroken⟩ := streamEnd?_of_underway going
  have drew : Drew steps rest := course.trace.drawn_eq good
  cases routed with
  | stops phase fired | givesUp phase fired =>
    refine Cause.breaks (.cancelled (asked_more (quiet fired) _)) ?_ rfl
    rw [seen_same rfl]
    exact abreast.noted
  | @meetsFailure text phase =>
    have none : [] = rest := by
      simpa only [streamEnd?, phase, Option.some.injEq] using good
    refine Cause.breaks (.stream ?_ ?_) ?_ rfl
    · rw [seen_same rfl, ← same]
      exact abreast.mild
    · unfold Drew at drew ⊢
      rw [drawn_concat, streamed_concat, drew, ← none]
      simp [RunAction.item?, StreamItem.record?]
    · rw [seen_same rfl]
      exact abreast.noted
  | @breaksOff mode event more fault phase events fatal =>
    obtain ⟨policy, lane, cause, rfl, rfl⟩ := note_error fatal
    have seen : seen (steps ++ [(run, .router .event)]) =
        seen steps ++ [.connectFailed lane cause] := by
      simp [seen_concat, seenIn, events]
    have connect : Cause settings (steps ++ [(run, .router .event)])
        (.connect settings.address cause) :=
      .connect (same ▸ policy) (seen ▸ List.mem_append_right _ (List.mem_singleton_self _))
        (drew.more rfl) unbroken
    refine connect.breaks ?_ (by rw [same]; rfl)
    rw [seen, abreast.told, events]
    exact (List.prefix_append_right_inj _).mpr ⟨more, rfl⟩
  | breaksOffLate phase all fatal =>
    obtain ⟨within, policy, lane, cause, member, rfl⟩ := noteAll_error fatal
    have seen : seen (steps ++ [(run, .router .settle)]) =
        seen steps ++ run.heard run.shared.events := by
      simp only [seen_concat, seenIn, phase]
    have connect : Cause settings (steps ++ [(run, .router .settle)])
        (.connect settings.address cause) :=
      .connect (same ▸ policy) (seen ▸ List.mem_append_right _ member) (drew.more rfl) unbroken
    refine connect.breaks ?_ (by rw [same]; rfl)
    rw [seen, abreast.told]
    exact (List.prefix_append_right_inj _).mpr within
  | notes phase events noted =>
    exact .underway rfl (abreast.notes events noted rfl rfl rfl) fun fired =>
      asked_more (quiet fired) _
  | @settles connected phase all noted =>
    have none : [.finish] = rest := by
      simpa only [streamEnd?, phase, Option.some.injEq] using good
    refine .past rfl (abreast.settles phase noted rfl rfl rfl) rfl (none ▸ drew.more rfl) ?_
    intro record drew
    rw [streamed_same rfl] at drew
    exact course.trace.lanes_opened (by rw [phase]; rfl) (by rw [phase]; rfl) drew
  | settlesStopped phase => cases phase ▸ going
  | joins phase =>
    rcases phase with ⟨mode, phase, rfl⟩ | ⟨_, phase, _⟩
    · exact abreast.keeps quiet rfl rfl rfl rfl rfl rfl
    · cases phase ▸ going
  | looks | looksAgain | draws | meetsEnd | delivers =>
    exact abreast.keeps quiet rfl rfl rfl rfl rfl rfl
  | opens phase | replaces phase => exact abreast.keeps quiet rfl rfl rfl rfl rfl going

theorem Course.standing (course : Course settings steps effects run) :
    Standing settings steps run := by
  induction course with
  | start => exact .underway rfl ⟨rfl, nofun, by simp [Run.start, seen], List.nodup_nil⟩ nofun
  | @step steps effects new run after reading action course step ih =>
    have move := step_of_step? step
    cases ih with
    | underway going abreast quiet =>
      cases move with
      | routes routed => exact course.routes going abreast quiet routed
      | cancels => exact .underway going (abreast.same rfl rfl rfl rfl rfl) fun _ => by simp
      | works at_id move =>
        refine .underway going (abreast.works (talks at_id move) rfl rfl rfl) fun fired => ?_
        exact asked_more (quiet (move.signal ▸ fired)) _
    | @broken fault phase noted cause =>
      -- A run that has failed keeps its fault: its router only joins the workers and settles.
      have sent : seen steps <+: sent (steps ++ [(run, action)]) := by
        rw [sent_concat]
        exact noted.trans (List.prefix_append _ _)
      have stays (same : after.router = .stopping fault ∨ after.router = .finished (.error fault))
          (undrawn : action.item? = none) (unseen : seenIn (run, action) = []) :
          Standing settings (steps ++ [(run, action)]) after :=
        .broken same (by rwa [seen_same unseen]) (cause.more undrawn unseen)
      cases move with
      | works => exact stays phase rfl rfl
      | cancels => exact stays phase rfl rfl
      | routes routed =>
        cases routed with
        | joins own =>
          rcases own with ⟨mode, own, _⟩ | ⟨other, own, rfl⟩
          · rcases phase with phase | phase <;> cases own.symm.trans phase
          · rcases phase with phase | phase <;> cases own.symm.trans phase
            exact stays (.inl rfl) rfl rfl
        | settlesStopped own =>
          rcases phase with phase | phase <;> cases own.symm.trans phase
          exact stays (.inr rfl) rfl (by simp only [seenIn, own])
        | stops own | looks own | looksAgain own | notes own | breaksOff own | draws own
        | meetsFailure own | meetsEnd own | opens own | replaces own | delivers own | givesUp own
        | settles own | breaksOffLate own =>
          rcases phase with phase | phase <;> cases own.symm.trans phase
    | past phase abreast none drew lanes =>
      have finished : run.isFinished = true := isFinished_iff.mpr ⟨_, phase⟩
      cases move with
      | routes routed => exact absurd (finished.symm.trans routed.not_finished) (by decide)
      | works at_id move =>
        exact absurd (course.trace.ended_of_finished finished _ (List.mem_of_getElem? at_id))
          move.not_ended
      | cancels =>
        refine .past phase (abreast.same rfl rfl rfl rfl rfl) none (drew.more rfl) ?_
        rw [streamed_same rfl]
        exact lanes

/-- No connection failed, or the run goes on without it. -/
def Spared (settings : RunSettings) (steps : List (Run × RunAction)) : Prop :=
  settings.connectFailure = .abortRun → ∀ lane fault, (lane, .failed fault) ∉ contacts steps

structure Concluded (settings : RunSettings) (steps : List (Run × RunAction))
    (records : List Record) (result : Except PlayFault PlaySummary) : Prop where
  fatal : ¬Spared settings steps → ∃ lane fault, (lane, .failed fault) ∈ contacts steps ∧
    result = .error (.connect settings.address fault)
  nobody : Spared settings steps →
    (result = .error (.noLaneConnected (records.map Record.ends).toFinset.card) ↔
      records ≠ [] ∧ ∀ lane, (lane, .made) ∉ contacts steps)
  somebody : Spared settings steps → (records = [] ∨ ∃ lane, (lane, .made) ∈ contacts steps) →
    ∃ summary, result = .ok summary ∧
      summary.lanesOpened = (records.map Record.ends).toFinset.card ∧
      summary.lanesConnected = ((records.map Record.lane).toFinset.filter fun lane =>
        (lane, .made) ∈ contacts steps).card
  heard : Spared settings steps → seen steps = sent steps

theorem records_eq_of_isPrefix {own records : List Record} {item other : StreamItem}
    {rest : List StreamItem} (last : item.record? = none) (next : other.record? = none)
    (within : own.map .record ++ [item] <+: records.map .record ++ other :: rest) :
    own = records ∧ item = other := by
  induction own generalizing records with
  | nil =>
    cases records with
    | nil => exact ⟨rfl, (List.cons_prefix_cons.mp within).1⟩
    | cons record records =>
      cases (List.cons_prefix_cons.mp within).1
      cases last
  | cons record own ih =>
    cases records with
    | nil =>
      cases (List.cons_prefix_cons.mp within).1
      cases next
    | cons first records =>
      obtain ⟨first_same, more⟩ := List.cons_prefix_cons.mp within
      cases first_same
      obtain ⟨rfl, same⟩ := ih more
      exact ⟨rfl, same⟩

theorem records_isPrefix {own records : List Record} {other : StreamItem} {rest : List StreamItem}
    (next : other.record? = none)
    (within : own.map .record <+: records.map .record ++ other :: rest) :
    own.map .record <+: records.map StreamItem.record := by
  induction own generalizing records with
  | nil => exact List.nil_prefix
  | cons record own ih =>
    cases records with
    | nil =>
      cases (List.cons_prefix_cons.mp within).1
      cases next
    | cons first records =>
      obtain ⟨same, more⟩ := List.cons_prefix_cons.mp within
      exact List.cons_prefix_cons.mpr ⟨same, ih more⟩

/-- A run that nothing has broken off has heard everything and counts what it heard. -/
theorem Course.concludes (course : Course settings steps effects run)
    (phase : run.router = .finished run.outcome) (abreast : Abreast steps run)
    (none : run.shared.events = [])
    (lanes : ∀ record ∈ streamed (steps.map Prod.snd), record.lane ∈ run.attempted) :
    Spared settings steps ∧
      Concluded settings steps (streamed (steps.map Prod.snd)) run.outcome := by
  have trace := course.trace
  have finished : run.isFinished = true := isFinished_iff.mpr ⟨_, phase⟩
  have heard : seen steps = sent steps := by rw [abreast.told, none, List.append_nil]
  have told {lane : LaneId} {contact : Contact} :
      (lane, contact) ∈ contacts steps ↔ contact.event lane ∈ seen steps := by
    rw [heard]
    exact course.contacts_iff (trace.ended_of_finished finished)
  have spared : Spared settings steps := by
    intro policy lane fault failed
    have mild := abreast.mild _ (told.mp failed)
    simp [Contact.event, LaneEvent.isFatal, trace.settings, policy] at mild
  have made (lane : LaneId) : lane ∈ run.connected ↔ (lane, .made) ∈ contacts steps := by
    rw [abreast.connected, told]
    rfl
  have opened := trace.opened
  have attempted : run.attempted.toFinset =
      ((streamed (steps.map Prod.snd)).map Record.lane).toFinset := by
    ext lane
    rw [List.mem_toFinset, List.mem_toFinset, List.mem_map]
    refine ⟨opened.asked lane, ?_⟩
    rintro ⟨record, drew, rfl⟩
    exact lanes record drew
  have total : run.attempted.length =
      ((streamed (steps.map Prod.snd)).map Record.ends).toFinset.card := by
    rw [← card_lanes, ← attempted, List.toFinset_card_of_nodup opened.nodup]
  have connected : run.connected.length =
      (((streamed (steps.map Prod.snd)).map Record.lane).toFinset.filter fun lane =>
        (lane, .made) ∈ contacts steps).card := by
    rw [← attempted, ← List.toFinset_card_of_nodup abreast.nodup]
    congr 1
    ext lane
    rw [List.mem_toFinset, Finset.mem_filter, made, List.mem_toFinset]
    refine ⟨fun contact => ⟨?_, contact⟩, And.right⟩
    obtain ⟨worker, member, of_lane⟩ := course.contact_lane contact
    exact (opened.staffed lane).mpr (List.mem_map.mpr ⟨worker, member, of_lane⟩)
  have lost : (!run.attempted.isEmpty && run.connected.isEmpty) = true ↔
      streamed (steps.map Prod.snd) ≠ [] ∧ ∀ lane, (lane, .made) ∉ contacts steps := by
    have empty : run.attempted = [] ↔ streamed (steps.map Prod.snd) = [] := by
      rw [← List.toFinset_eq_empty_iff, attempted, List.toFinset_eq_empty_iff, List.map_eq_nil_iff]
    have unconnected : run.connected = [] ↔ ∀ lane, (lane, .made) ∉ contacts steps := by
      rw [List.eq_nil_iff_forall_not_mem]
      exact forall_congr' fun lane => not_congr (made lane)
    simp only [Bool.and_eq_true, Bool.not_eq_true', List.isEmpty_eq_false_iff, List.isEmpty_iff,
      ne_eq, empty, unconnected]
  refine ⟨spared, fun unspared => absurd spared unspared, fun _ => ?_, fun _ some => ?_,
    fun _ => heard⟩
  · rw [← lost, outcome, total]
    split <;> simp [*]
  · have kept : ¬(!run.attempted.isEmpty && run.connected.isEmpty) = true := by
      rw [lost]
      rintro ⟨nonempty, nobody⟩
      rcases some with none | ⟨lane, member⟩
      · exact nonempty none
      · exact nobody lane member
    rw [outcome, if_neg kept]
    exact ⟨_, rfl, total, connected⟩

/-- How a run that is not cancelled ends. Over a stream of records, only how the attempts to connect
    ended decides, and no event is missed. An error of the stream ends the run, unless the failure of
    a connection did before. -/
theorem Course.outcome_of_contacts (course : Course settings steps effects run)
    (uncancelled : .cancel ∉ steps.map Prod.snd) {result : Except PlayFault PlaySummary}
    (finished : run.router = .finished result) :
    seen steps <+: sent steps ∧
      (∀ lane contact, (lane, contact) ∈ contacts steps ↔ contact.event lane ∈ sent steps) ∧
      (∀ records : List Record,
        drawn (steps.map Prod.snd) <+: records.map StreamItem.record ++ [.finish] →
          Concluded settings steps records result ∧
            (Spared settings steps →
              drawn (steps.map Prod.snd) = records.map StreamItem.record ++ [.finish])) ∧
      ∀ (records : List Record) (text : String) (rest : List StreamItem),
        drawn (steps.map Prod.snd) <+: records.map StreamItem.record ++ .failure text :: rest →
          result = .error (.stream text) ∧
              drawn (steps.map Prod.snd) = records.map StreamItem.record ++ [.failure text] ∧
              (∀ event ∈ seen steps, event.isFatal settings.connectFailure = false) ∨
            ∃ lane fault, result = .error (.connect settings.address fault) ∧
              settings.connectFailure = .abortRun ∧ (lane, .failed fault) ∈ contacts steps ∧
              .connectFailed lane fault ∈ seen steps ∧
              drawn (steps.map Prod.snd) <+: records.map StreamItem.record := by
  have finished_run : run.isFinished = true := isFinished_iff.mpr ⟨_, finished⟩
  have told (lane : LaneId) (contact : Contact) :
      (lane, contact) ∈ contacts steps ↔ contact.event lane ∈ sent steps :=
    course.contacts_iff (course.trace.ended_of_finished finished_run)
  cases course.standing with
  | underway going => cases finished ▸ going
  | past phase abreast none drew lanes =>
    cases finished.symm.trans phase
    refine ⟨abreast.noted, told, fun records within => ?_, fun records text rest within => ?_⟩
    · rw [drew] at within ⊢
      obtain ⟨rfl, _⟩ := records_eq_of_isPrefix rfl rfl within
      exact ⟨(course.concludes phase abreast none lanes).2, fun _ => rfl⟩
    · rw [drew] at within
      cases (records_eq_of_isPrefix rfl rfl within).2
  | @broken verdict phase noted cause =>
    have same : result = .error verdict := by
      rcases phase with phase | phase
      · cases finished.symm.trans phase
      · exact RouterPhase.finished.inj (finished.symm.trans phase)
    refine ⟨noted, told, ?_⟩
    cases cause with
    | cancelled asked => exact absurd asked uncancelled
    | stream mild drew =>
      refine ⟨fun records within => ?_, fun records text rest within => .inl ?_⟩
      · rw [drew] at within
        cases (records_eq_of_isPrefix rfl rfl within).2
      · rw [drew] at within ⊢
        obtain ⟨rfl, one⟩ := records_eq_of_isPrefix rfl rfl within
        cases one
        exact ⟨same, rfl, mild⟩
    | @connect lane fault rest policy heard drew unbroken =>
      have failed : (lane, .failed fault) ∈ contacts steps :=
        (told lane (.failed fault)).mpr (noted.subset heard)
      have unspared : ¬Spared settings steps := fun spared => spared policy lane fault failed
      refine ⟨fun records within => ⟨?_, fun spared => absurd spared unspared⟩,
        fun records text more within => .inr ?_⟩
      · exact ⟨fun _ => ⟨lane, fault, failed, same⟩, fun spared => absurd spared unspared,
          fun spared => absurd spared unspared, fun spared => absurd spared unspared⟩
      · refine ⟨lane, fault, same, policy, failed, heard, ?_⟩
        rw [drew] at within ⊢
        rcases unbroken with rfl | rfl
        · rw [List.append_nil] at within ⊢
          exact records_isPrefix rfl within
        · cases (records_eq_of_isPrefix rfl rfl within).2

/-- The short run ends well, since its only lane has connected. Where the only lane is refused, nobody
    connects, or the refusal is fatal before the stream has ended. -/
theorem sampleRuns_conclude :
    (∃ steps, Course (default : Run).settings steps shortEnd.2 shortEnd.1 ∧
      steps.map Prod.snd = shortRun ∧ .cancel ∉ shortRun ∧
      drawn shortRun = shortStream.map .record ++ [.finish] ∧
      shortEnd.1.router = .finished (.ok ⟨1, 1, 0, 1, 0, 0, 0⟩) ∧
      Concluded (default : Run).settings steps shortStream (.ok ⟨1, 1, 0, 1, 0, 0, 0⟩)) ∧
    (∃ steps, Course unpaced steps ((refusedMid .closeLane).2 ++ lonelyEnd.2) lonelyEnd.1 ∧
      steps.map Prod.snd = refusedRun ++ lonelyRunLater ∧ .cancel ∉ refusedRun ++ lonelyRunLater ∧
      drawn (refusedRun ++ lonelyRunLater) =
        [SampleLane.query, SampleLane.query].map .record ++ [.finish] ∧
      lonelyEnd.1.router = .finished (.error (.noLaneConnected 1)) ∧
      Concluded unpaced steps [SampleLane.query, SampleLane.query] (.error (.noLaneConnected 1))) ∧
    ∃ steps, Course { unpaced with connectFailure := .abortRun } steps
        ((refusedMid .abortRun).2 ++ fatalEnd.2) fatalEnd.1 ∧
      steps.map Prod.snd = refusedRun ++ fatalRunLater ∧ .cancel ∉ refusedRun ++ fatalRunLater ∧
      drawn (refusedRun ++ fatalRunLater) = [SampleLane.query, SampleLane.query].map .record ∧
      fatalEnd.1.router = .finished (.error (.connect "" .connectTimedOut)) ∧
      Concluded { unpaced with connectFailure := .abortRun } steps
        [SampleLane.query, SampleLane.query] (.error (.connect "" .connectTimedOut)) := by
  have concludes {settings : RunSettings} {actions : List RunAction} {effects : Effects} {run : Run}
      {result : Except PlayFault PlaySummary} (records : List Record)
      (trace : Trace settings actions effects run) (uncancelled : .cancel ∉ actions)
      (drew : drawn actions <+: records.map .record ++ [.finish])
      (finished : run.router = .finished result) :
      ∃ steps, Course settings steps effects run ∧ steps.map Prod.snd = actions ∧
        Concluded settings steps records result := by
    obtain ⟨steps, course, rfl⟩ := trace.course
    obtain ⟨_, _, concluded, _⟩ := course.outcome_of_contacts uncancelled finished
    exact ⟨steps, course, rfl, (concluded records drew).1⟩
  have refused (policy : ConnectFailurePolicy) :
      Trace { unpaced with connectFailure := policy } refusedRun (refusedMid policy).2
        (refusedMid policy).1 := trace_of_steps? (Option.some_get _).symm
  have lonely := (refused .closeLane).onward
    (onward_of_steps? (Option.some_get _).symm : Onward _ lonelyRunLater lonelyEnd.2 lonelyEnd.1)
  have fatal := (refused .abortRun).onward
    (onward_of_steps? (Option.some_get _).symm : Onward _ fatalRunLater fatalEnd.2 fatalEnd.1)
  refine ⟨?_, ?_, ?_⟩
  · have drew : drawn shortRun = shortStream.map .record ++ [.finish] := by decide
    obtain ⟨steps, course, same, concluded⟩ := concludes shortStream trace_shortRun
      (by decide) (drew ▸ List.prefix_rfl) rfl
    exact ⟨steps, course, same, by decide, drew, rfl, concluded⟩
  · have drew : drawn (refusedRun ++ lonelyRunLater) =
        [SampleLane.query, SampleLane.query].map .record ++ [.finish] := by decide
    obtain ⟨steps, course, same, concluded⟩ := concludes
      [SampleLane.query, SampleLane.query] lonely (by decide)
      (drew ▸ List.prefix_rfl) rfl
    exact ⟨steps, course, same, by decide, drew, rfl, concluded⟩
  · have drew : drawn (refusedRun ++ fatalRunLater) =
        [SampleLane.query, SampleLane.query].map .record := by decide
    obtain ⟨steps, course, same, concluded⟩ := concludes
      [SampleLane.query, SampleLane.query] fatal (by decide)
      (drew ▸ List.prefix_append _ _) rfl
    exact ⟨steps, course, same, by decide, drew, rfl, concluded⟩

end Run

end TrafficReplay
