import TrafficReplay.Proofs.Config.ConnectionString
import TrafficReplay.Proofs.Config.Validation
import TrafficReplay.Proofs.Run.Outcome

namespace TrafficReplay

namespace Run

variable {settings : RunSettings} {actions : List RunAction} {effects : Effects} {run : Run}

theorem Trace.not_misconfigured (trace : Trace settings actions effects run) (fault : ConfigFault) :
    run.router ≠ .stopping (.config fault) ∧ run.router ≠ .finished (.error (.config fault)) := by
  obtain ⟨steps, course, _⟩ := trace.course
  cases course.standing with
  | underway going =>
    constructor
    · intro stopping
      rw [stopping] at going
      cases going
    · intro finished
      rw [finished] at going
      cases going
  | broken phase noted cause =>
    rcases phase with phase | phase
    · constructor
      · intro stopping
        cases phase.symm.trans stopping
        cases cause
      · intro finished
        cases phase.symm.trans finished
    · constructor
      · intro stopping
        cases phase.symm.trans stopping
      · intro finished
        cases phase.symm.trans finished
        cases cause
  | past phase =>
    constructor
    · intro stopping
      cases phase.symm.trans stopping
    · intro finished
      have same := RouterPhase.finished.inj (phase.symm.trans finished)
      unfold outcome at same
      split at same <;> cases same

theorem ofConfig_of_validate {config : PlayConfig} {found : Address} {login : Option Credentials}
    (valid : config.validate = .ok ()) (address : config.address = .ok found)
    (credentials : config.credentials = .ok login) :
    ofConfig config = .ok (start (settingsOf config found login) .fresh) := by
  simp only [ofConfig, valid, address, credentials, Bind.bind, Except.bind, Pure.pure, Except.pure]

end Run

namespace PlayConfig

variable {config : PlayConfig}

/-- A configuration that validation accepts names a host, and a user and a source where there is user
    information, except in two ways: nothing between the brackets of the first host, and nothing for the
    value of the last option that names a source. It makes a run that its configuration never ends. -/
theorem usable_of_validate (valid : config.validate = .ok ()) :
    ∃ found login, config.address = .ok found ∧ config.credentials = .ok login ∧
      (found.host ≠ "" ∧ ∀ inside, found.host = "[" ++ inside ++ "]" →
        (inside = "" ↔ ['[', ']'] <+: Target.firstHost config.target.toList)) ∧
      ('@' ∈ Target.authority config.target.toList →
        ∃ named, login = some named ∧ named.userName ≠ "" ∧
          (named.source = "" ↔
            (Target.sources (Target.options config.target.toList)).getLast? = some []) ∧
          ∀ option ∈ Target.options config.target.toList,
            Target.isNamed "authMechanism" option = true →
              String.ofList (Target.keyValue option).2 = "SCRAM-SHA-256") ∧
      (config.speed = .infinity ∨ config.speed.isFinite = true ∧
        (config.speed.isZero = true ∨ config.speed.isPositive = true)) ∧
      0 < config.responseTimeoutMs ∧ 0 < config.connectTimeoutMs ∧
      ∃ run, Run.ofConfig config = .ok run ∧
        SlotPool.ofLimit? config.laneLimit = some run.shared.pool ∧ 0 < run.settings.queueDepth ∧
        ∀ actions effects after, Run.Trace run.settings actions effects after → ∀ fault,
          after.router ≠ .stopping (.config fault) ∧
            after.router ≠ .finished (.error (.config fault)) := by
  have checked := isValid_of_validate valid
  obtain ⟨found, address⟩ := checked.address
  obtain ⟨login, credentials⟩ := checked.credentials
  have pool : SlotPool.ofLimit? config.laneLimit =
      some (SlotPool.ofLimit (α := WorkerId) config.laneLimit) :=
    if_neg (Nat.ne_of_gt checked.laneLimit)
  refine ⟨found, login, address, credentials, ?_, ?_, checked.speed, checked.responseTimeout,
    checked.connectTimeout, _, Run.ofConfig_of_validate valid address credentials, pool,
    checked.queueDepth, fun _ _ _ trace fault => trace.not_misconfigured fault⟩
  · exact Target.host_of_address (mapError_eq_ok.mp address)
  · exact Target.login_of_credentials (mapError_eq_ok.mp credentials)

theorem sampleTarget_usable :
    (ofTarget sampleTarget).validate = .ok () ∧
      (∃ named, (ofTarget sampleTarget).credentials = .ok (some named) ∧ named.userName ≠ "" ∧
        named.source ≠ "") ∧
      ∃ run, Run.ofConfig (ofTarget sampleTarget) = .ok run ∧
        SlotPool.ofLimit? 64 = some run.shared.pool := by
  have valid : (ofTarget sampleTarget).validate = .ok () := rfl
  have logged : '@' ∈ Target.authority sampleTarget.toList := by decide +kernel
  have last : (Target.sources (Target.options sampleTarget.toList)).getLast? ≠ some [] := by
    decide +kernel
  obtain ⟨_, login, _, credentials, _, logs_in, _, _, _, run, made, pool, _⟩ :=
    usable_of_validate valid
  obtain ⟨named, rfl, some_user, source, _⟩ := logs_in logged
  exact ⟨valid, ⟨named, credentials, some_user, mt source.mp last⟩, run, made, pool⟩

/-- Both brackets with nothing between them are accepted for a host, and an empty source is. -/
theorem unusable_targets_accepted :
    ((ofTarget "mongodb://[]").validate = .ok () ∧
        (ofTarget "mongodb://[]").address = .ok ⟨"[" ++ "" ++ "]", 27017⟩) ∧
      (ofTarget "mongodb://u:p@h/?authSource=").validate = .ok () ∧
        (ofTarget "mongodb://u:p@h/?authSource=").credentials = .ok (some ⟨"u", "p", ""⟩) := by
  refine ⟨⟨?_, ?_⟩, ?_, ?_⟩
  · rfl
  · rfl
  · rfl
  · rfl

end PlayConfig

end TrafficReplay
