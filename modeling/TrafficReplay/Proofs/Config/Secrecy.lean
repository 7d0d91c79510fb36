import TrafficReplay.Config.Play
import TrafficReplay.Proofs.Config.Credentials

namespace TrafficReplay

/-- A text that stands in a password's place in a target, and the password. -/
structure Password where
  code : String
  word : String
  inside : ∀ c ∈ code.toList, Target.endsAuthority c = false
  decodes : Percent.decode code = .ok word

structure Gapped where
  schemed : Bool
  user : String
  hosts : String
  tail : String
  user_inside : ∀ c ∈ user.toList, c ≠ ':' ∧ Target.endsAuthority c = false
  hosts_inside : ∀ c ∈ hosts.toList, c ≠ '@' ∧ Target.endsAuthority c = false
  tail_outside : ∀ c ∈ tail.toList.head?, Target.endsAuthority c = true

namespace Gapped

variable (gapped : Gapped) (password own other : Password)

def text : String :=
  (if gapped.schemed then "mongodb://" else "") ++ gapped.user ++ ":" ++ password.code ++ "@" ++
    gapped.hosts ++ gapped.tail

def info : List Char := gapped.user.toList ++ ':' :: password.code.toList

theorem info_inside : ∀ c ∈ gapped.info password, Target.endsAuthority c = false := by
  intro c member
  rcases List.mem_append.mp member with front | back
  · exact (gapped.user_inside c front).2
  · rcases List.mem_cons.mp back with rfl | back
    · rfl
    · exact password.inside c back

def parts : Target.Parts where
  schemed := gapped.schemed
  info? := some (gapped.info password)
  hosts := gapped.hosts.toList
  tail := gapped.tail.toList
  info_inside _ found := Option.some.inj found ▸ gapped.info_inside password
  hosts_inside := gapped.hosts_inside
  tail_outside := gapped.tail_outside
  bare _ absent := nomatch absent

theorem toList_text : (gapped.text password).toList = (gapped.parts password).chars := by
  have info : String.ofList (gapped.info password) = gapped.user ++ ":" ++ password.code := by
    apply String.toList_injective
    simp [Gapped.info]
  have found : (gapped.parts password).info? = some (gapped.info password) := rfl
  have whole : (gapped.parts password).text = gapped.text password := by
    rw [Target.Parts.text_of_info found, info]
    simp only [parts, text, String.ofList_toList, String.append_assoc]
    rfl
  rw [← whole, Target.Parts.text, String.toList_ofList]

theorem userInfo_text : Target.userInfo? (gapped.text password).toList =
    some (gapped.info password) := by
  rw [toList_text, Target.Parts.userInfo?_chars]
  rfl

theorem hosts_text : Target.hosts (gapped.text password).toList = gapped.hosts.toList := by
  rw [toList_text, Target.Parts.hosts_chars]
  rfl

theorem tail_text : Target.tail (gapped.text password).toList = gapped.tail.toList := by
  rw [toList_text, Target.Parts.tail_chars]
  rfl

theorem cut_info : Text.cutFirst? (· = ':') (gapped.info password) =
    some (gapped.user.toList, password.code.toList) := by
  refine Text.cutFirst?_append (fun c member => ?_) (decide_eq_true rfl) _
  exact decide_eq_false (gapped.user_inside c member).1

/-- Every target with a colon in its user information is one of these. -/
theorem exists_of_target {target : String} {user code : List Char}
    (cut : (Target.userInfo? target.toList).bind (Text.cutFirst? (· = ':')) = some (user, code)) :
    ∃ gapped : Gapped, gapped.user = String.ofList user ∧
      ∀ password : Password, password.code = String.ofList code → gapped.text password = target := by
  obtain ⟨info, found, halves⟩ := Option.bind_eq_some_iff.mp cut
  obtain ⟨plain, c, colon, rfl⟩ := Text.cutFirst?_eq_some halves
  obtain rfl := of_decide_eq_true colon
  have inside := (Target.Parts.ofTarget target).info_inside _ found
  refine ⟨{
    schemed := (Target.Parts.ofTarget target).schemed
    user := String.ofList user
    hosts := String.ofList (Target.Parts.ofTarget target).hosts
    tail := String.ofList (Target.Parts.ofTarget target).tail
    user_inside := ?_
    hosts_inside := ?_
    tail_outside := ?_ }, rfl, ?_⟩
  · intro c member
    rw [String.toList_ofList] at member
    exact ⟨of_decide_eq_false (plain c member), inside c (List.mem_append_left _ member)⟩
  · rw [String.toList_ofList]
    exact (Target.Parts.ofTarget target).hosts_inside
  · rw [String.toList_ofList]
    exact (Target.Parts.ofTarget target).tail_outside
  · intro password same
    have split : String.ofList (user ++ ':' :: code) =
        String.ofList user ++ ":" ++ String.ofList code := by
      apply String.toList_injective
      simp
    rw [text, same]
    conv => rhs; rw [← Target.Parts.text_ofTarget target, Target.Parts.text_of_info found, split]
    simp only [String.append_assoc]

theorem address_text :
    Target.address (gapped.text other) = Target.address (gapped.text own) := by
  apply Target.address_congr
  rw [hosts_text, hosts_text]

theorem credentials_text : Target.credentials (gapped.text other) =
    (Target.credentials (gapped.text own)).map
      (Option.map fun login => { login with password := other.word }) := by
  have home : Target.home (gapped.text other).toList = Target.home (gapped.text own).toList := by
    unfold Target.home Target.database Target.path
    rw [tail_text, tail_text]
  have options : Target.options (gapped.text other).toList =
      Target.options (gapped.text own).toList := by
    unfold Target.options
    rw [tail_text, tail_text]
  have decoded (password : Password) :
      Target.decode .password password.code.toList = .ok password.word := by
    rw [Target.decode, String.ofList_toList, password.decodes]
    rfl
  rw [Target.credentials_eq (gapped.userInfo_text other) (gapped.cut_info other),
    Target.credentials_eq (gapped.userInfo_text own) (gapped.cut_info own), home, options, decoded,
    decoded]
  cases Target.decode .userName gapped.user.toList with
  | error fault => rfl
  | ok userName =>
    dsimp only [Except.bind]
    split
    · rfl
    · cases Target.home (gapped.text own).toList with
      | error fault => rfl
      | ok source =>
        dsimp only
        cases Target.sourceAfter source (Target.options (gapped.text own).toList) <;> rfl

theorem text_inj : gapped.text own = gapped.text other ↔ own.code = other.code := by
  simp only [text, String.append_assoc, String.append_right_inj, String.append_left_inj]

end Gapped

theorem TargetFault.quotes (fault : TargetFault) :
    ∃ before after : String, ∀ target, fault.message target = before ++ target ++ after := by
  cases fault with
  | noHost => exact ⟨_, _, fun _ => rfl⟩
  | unterminatedLiteral => exact ⟨_, _, fun _ => rfl⟩
  | afterLiteral tail => exact ⟨_, _, fun _ => rfl⟩
  | port fault =>
    refine ⟨"Invalid port in target '", "': " ++ fault.message, fun target => ?_⟩
    dsimp only [message, toString]
    rw [String.append_assoc]
  | portZero => exact ⟨_, _, fun _ => rfl⟩
  | noPassword => exact ⟨_, _, fun _ => rfl⟩
  | encoding part fault =>
    refine ⟨"Invalid " ++ part.text ++ " in target '", "': " ++ fault.message, fun target => ?_⟩
    dsimp only [message, toString]
    rw [String.append_assoc]
  | emptyUserName => exact ⟨_, _, fun _ => rfl⟩
  | mechanism name =>
    refine ⟨"Unsupported authMechanism '" ++ name ++ "' in target '",
      "', only " ++ scramMechanism ++ " is spoken", fun target => ?_⟩
    dsimp only [message, toString]
    simp only [String.append_assoc]

theorem TargetFault.message_inj (fault : TargetFault) {own other : String} :
    fault.message own = fault.message other ↔ own = other := by
  obtain ⟨before, after, quoted⟩ := fault.quotes
  rw [quoted, quoted, String.append_left_inj, String.append_right_inj]

theorem Gapped.message_shows (gapped : Gapped) (fault : TargetFault) :
    ∃ before after : String, ∀ password : Password,
      fault.message (gapped.text password) = before ++ password.code ++ after := by
  obtain ⟨before, after, quoted⟩ := fault.quotes
  refine ⟨before ++ ((if gapped.schemed then "mongodb://" else "") ++ gapped.user ++ ":"),
    "@" ++ gapped.hosts ++ gapped.tail ++ after, fun password => ?_⟩
  rw [quoted, text]
  simp only [String.append_assoc]

namespace ConfigFault

def quoting (target : String) : ConfigFault → ConfigFault
  | .target _ fault => .target target fault
  | .speed value => .speed value
  | .notPositive setting => .notPositive setting
  | .unreadable => .unreadable
  | .notParsed => .notParsed

def isOfTarget : ConfigFault → Bool
  | .target .. => true
  | _ => false

theorem message_quoting {own other : String} {fault : ConfigFault}
    (quotes : fault.quoting own = fault) :
    (fault.quoting other).message = fault.message ↔ fault.isOfTarget = false ∨ own = other := by
  cases fault with
  | target target fault =>
    cases quotes
    change fault.message other = fault.message own ↔ true = false ∨ own = other
    rw [TargetFault.message_inj]
    simp [eq_comm]
  | speed | notPositive | unreadable | notParsed => exact ⟨fun _ => .inl rfl, fun _ => rfl⟩

end ConfigFault

namespace PlayConfig

def withTarget (config : PlayConfig) (target : String) : PlayConfig := { config with target := target }

def checkSettings (config : PlayConfig) : Except ConfigFault Unit := do
  if config.speed.isNaN || config.speed.isBelowZero then throw (.speed config.speed)
  if config.laneLimit = 0 then throw (.notPositive "lane_limit")
  if config.queueDepth = 0 then throw (.notPositive "queue_depth")
  if config.responseTimeoutMs = 0 then throw (.notPositive "response_timeout_ms")
  if config.connectTimeoutMs = 0 then throw (.notPositive "connect_timeout_ms")

theorem validate_eq (config : PlayConfig) : config.validate =
    config.address.bind fun _ => config.credentials.bind fun _ => config.checkSettings := rfl

theorem checkSettings_quoting (config : PlayConfig) (target : String) :
    config.checkSettings.mapError (.quoting target) = config.checkSettings := by
  unfold checkSettings
  simp only [Bind.bind, Except.bind, Pure.pure, Except.pure, throw, throwThe,
    MonadExceptOf.throw]
  split_ifs <;> rfl

def shownCredentials (config : PlayConfig) : Except ConfigFault (Option String) :=
  config.credentials.map (Option.map Credentials.shown)

/-- What is wrong with a configuration, whichever way it is asked. -/
def Reports (config : PlayConfig) (fault : ConfigFault) : Prop :=
  config.address = .error fault ∨ config.shownCredentials = .error fault ∨
    config.validate = .error fault

section gapped

variable (config : PlayConfig) (gapped : Gapped) (own other : Password)

theorem address_gapped : (config.withTarget (gapped.text other)).address =
    (config.withTarget (gapped.text own)).address.mapError (.quoting (gapped.text other)) := by
  simp only [address, withTarget, gapped.address_text own other]
  cases Target.address (gapped.text own) <;> rfl

theorem credentials_gapped : (config.withTarget (gapped.text other)).credentials =
    ((config.withTarget (gapped.text own)).credentials.mapError (.quoting (gapped.text other))).map
      (Option.map fun login => { login with password := other.word }) := by
  simp only [credentials, withTarget, gapped.credentials_text own other]
  cases Target.credentials (gapped.text own) <;> rfl

theorem shownCredentials_gapped : (config.withTarget (gapped.text other)).shownCredentials =
    (config.withTarget (gapped.text own)).shownCredentials.mapError
      (.quoting (gapped.text other)) := by
  rw [shownCredentials, shownCredentials, credentials_gapped config gapped own other]
  cases (config.withTarget (gapped.text own)).credentials with
  | error fault => rfl
  | ok login? => cases login? <;> rfl

theorem validate_gapped : (config.withTarget (gapped.text other)).validate =
    (config.withTarget (gapped.text own)).validate.mapError (.quoting (gapped.text other)) := by
  have settings : (config.withTarget (gapped.text other)).checkSettings =
      (config.withTarget (gapped.text own)).checkSettings := rfl
  rw [validate_eq, validate_eq, mapError_bind, address_gapped config gapped own other,
    credentials_gapped config gapped own other, settings]
  congr 1
  funext _
  rw [mapError_bind, checkSettings_quoting]
  cases (config.withTarget (gapped.text own)).credentials <;> rfl

theorem Reports.quotes {config : PlayConfig} {gapped : Gapped} {own : Password} {fault : ConfigFault}
    (reports : (config.withTarget (gapped.text own)).Reports fault) :
    fault.quoting (gapped.text own) = fault := by
  -- Filled with the same password, a target comes to what it comes to with its faults quoting it.
  rcases reports with address | credentials | validate
  · have same := config.address_gapped gapped own own
    rw [address] at same
    exact (Except.error.inj same).symm
  · have same := config.shownCredentials_gapped gapped own own
    rw [credentials] at same
    exact (Except.error.inj same).symm
  · have same := config.validate_gapped gapped own own
    rw [validate] at same
    exact (Except.error.inj same).symm

/-- Two configurations come to the same, except for the target that an error text quotes. -/
structure Alike (mine theirs : PlayConfig) : Prop where
  address : theirs.address = mine.address.mapError (.quoting theirs.target)
  credentials : theirs.shownCredentials = mine.shownCredentials.mapError (.quoting theirs.target)
  validate : theirs.validate = mine.validate.mapError (.quoting theirs.target)
  texts : ∀ fault, mine.Reports fault → ((fault.quoting theirs.target).message = fault.message ↔
    fault.isOfTarget = false ∨ mine.target = theirs.target)

theorem alike_gapped :
    Alike (config.withTarget (gapped.text own)) (config.withTarget (gapped.text other)) where
  address := config.address_gapped gapped own other
  credentials := config.shownCredentials_gapped gapped own other
  validate := config.validate_gapped gapped own other
  texts _ reports := ConfigFault.message_quoting reports.quotes

end gapped

/-- Two targets that differ in the password alone succeed and fail alike: in their address, in what
    shows of their credentials and in the validation of a configuration. Error texts about other
    settings are the same. Those about the target quote it, so they show the password and are the same
    for one password only. This is so of every target with a colon in its user information. -/
theorem password_in_quotes_only (gapped : Gapped) (own other : Password) :
    (∀ config : PlayConfig,
      Alike (config.withTarget (gapped.text own)) (config.withTarget (gapped.text other))) ∧
    (gapped.text own = gapped.text other ↔ own.code = other.code) ∧
    (∀ fault : TargetFault, ∃ before after : String, ∀ password : Password,
      (ConfigFault.target (gapped.text password) fault).message =
        before ++ password.code ++ after) ∧
    ∀ (target : String) (user code : List Char),
      (Target.userInfo? target.toList).bind (Text.cutFirst? (· = ':')) = some (user, code) →
        ∃ filled : Gapped, filled.user = String.ofList user ∧ ∀ password : Password,
          password.code = String.ofList code → filled.text password = target := by
  refine ⟨fun config => config.alike_gapped gapped own other, gapped.text_inj own other,
    fun fault => ?_, fun target user code cut => ?_⟩
  · exact gapped.message_shows fault
  · exact Gapped.exists_of_target cut

def portless : Gapped where
  schemed := true
  user := "u"
  hosts := "h:0"
  tail := ""
  user_inside := by simp [Target.endsAuthority]
  hosts_inside := by simp [Target.endsAuthority]
  tail_outside := by simp

def hush : Password := ⟨"hush", "hush", by simp [Target.endsAuthority], rfl⟩

def hiss : Password := ⟨"hiss", "hiss", by simp [Target.endsAuthority], rfl⟩

theorem portless_quoted :
    ((ofTarget "").withTarget (portless.text hush)).Reports
        (.target (portless.text hush) .portZero) ∧
      (ConfigFault.target (portless.text hiss) .portZero).message ≠
        (ConfigFault.target (portless.text hush) .portZero).message := by
  have reports : ((ofTarget "").withTarget (portless.text hush)).Reports
      (.target (portless.text hush) .portZero) := .inl rfl
  obtain ⟨alike, equal, _⟩ := password_in_quotes_only portless hush hiss
  refine ⟨reports, fun same => ?_⟩
  rcases ((alike (ofTarget "")).texts _ reports).mp same with elsewhere | one_target
  · exact absurd elsewhere (by decide)
  · exact absurd (equal.mp one_target) (by decide)

/-- The port is refused in both targets, and each text shows the password. -/
theorem portless_texts_differ :
    portless.text hush = "mongodb://u:hush@h:0" ∧ portless.text hiss = "mongodb://u:hiss@h:0" ∧
      ∃ mine theirs, (ofTarget (portless.text hush)).validate = .error mine ∧
        (ofTarget (portless.text hiss)).validate = .error theirs ∧
        mine.message = "Port cannot be 0 in target 'mongodb://u:hush@h:0'" ∧
        theirs.message = "Port cannot be 0 in target 'mongodb://u:hiss@h:0'" ∧
        mine.message ≠ theirs.message := by
  refine ⟨by decide, by decide, .target (portless.text hush) .portZero,
    .target (portless.text hiss) .portZero, rfl, rfl, ?_, ?_, ?_⟩
  · decide
  · decide
  · decide

end PlayConfig

end TrafficReplay
