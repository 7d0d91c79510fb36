import TrafficReplay.Proofs.Checked
import TrafficReplay.Proofs.Config.Anatomy
import TrafficReplay.Proofs.Text.Percent

namespace TrafficReplay

namespace Target

def keyValue (option : List Char) : List Char × List Char :=
  (Text.cutFirst? (· = '=') option).getD (option, [])

def isNamed (name : String) (option : List Char) : Bool :=
  Text.sameLetters (String.ofList (keyValue option).1) name

def path (target : List Char) : List Char :=
  ((Text.cutFirst? (· = '?') (tail target)).getD (tail target, [])).1

def options (target : List Char) : List (List Char) :=
  Text.pieces (· = '&') ((Text.cutFirst? (· = '?') (tail target)).getD (tail target, [])).2

def database (target : List Char) : List Char := (path target).dropWhile (· = '/')

def home (target : List Char) : Except TargetFault String :=
  if (database target).isEmpty then .ok defaultSource else decode .database (database target)

def sources (options : List (List Char)) : List (List Char) :=
  (options.filter (isNamed "authSource")).map fun option => (keyValue option).2

section options

variable {source result : String} {options rest front back : List (List Char)} {option : List Char}

def IsSpoken (option : List Char) : Prop :=
  isNamed "authMechanism" option = true → String.ofList (keyValue option).2 = scramMechanism

theorem ne_nil_of_isNamed {name : String} (some_name : name.toList ≠ [])
    (named : isNamed name option = true) : option ≠ [] := by
  rintro rfl
  have same : ([] : List Char) = name.toList.map Text.lowerAscii := of_decide_eq_true named
  exact some_name (List.map_eq_nil_iff.mp same.symm)

theorem not_isNamed_both (source : isNamed "authSource" option = true) :
    isNamed "authMechanism" option = false := by
  have one : (String.ofList (keyValue option).1).toList.map Text.lowerAscii = "authsource".toList :=
    of_decide_eq_true source
  cases mechanism : isNamed "authMechanism" option with
  | false => rfl
  | true =>
    have other : (String.ofList (keyValue option).1).toList.map Text.lowerAscii =
        "authmechanism".toList := of_decide_eq_true mechanism
    rw [one] at other
    exact absurd other (by decide)

theorem sourceAfter_source (named : isNamed "authSource" option = true) :
    sourceAfter source (option :: rest) =
      (decode .authSource (keyValue option).2).bind fun source => sourceAfter source rest := by
  have some_option : ¬option.isEmpty = true :=
    mt List.isEmpty_iff.mp (ne_nil_of_isNamed (by decide) named)
  have same : Text.sameLetters (String.ofList (keyValue option).1) "authSource" = true := named
  rw [sourceAfter, if_neg some_option]
  exact if_pos same

theorem sourceAfter_other (unnamed : isNamed "authSource" option = false)
    (spoken : IsSpoken option) : sourceAfter source (option :: rest) = sourceAfter source rest := by
  rw [sourceAfter]
  split
  · rfl
  · have other : ¬Text.sameLetters (String.ofList (keyValue option).1) "authSource" = true :=
      Bool.not_eq_true _ ▸ unnamed
    have known : ¬(Text.sameLetters (String.ofList (keyValue option).1) "authMechanism" = true ∧
        String.ofList (keyValue option).2 ≠ scramMechanism) :=
      fun unknown => unknown.2 (spoken unknown.1)
    exact (if_neg other).trans (if_neg known)

theorem sourceAfter_unspoken (unknown : ¬IsSpoken option) :
    sourceAfter source (option :: rest) = .error (.mechanism (String.ofList (keyValue option).2)) := by
  obtain ⟨named, other⟩ := Classical.not_imp.mp unknown
  have some_option : ¬option.isEmpty = true :=
    mt List.isEmpty_iff.mp (ne_nil_of_isNamed (by decide) named)
  have unnamed : ¬Text.sameLetters (String.ofList (keyValue option).1) "authSource" = true := by
    intro source
    rw [not_isNamed_both source] at named
    cases named
  rw [sourceAfter, if_neg some_option]
  exact (if_neg unnamed).trans (if_pos ⟨named, other⟩)

theorem isSpoken_of_sourceAfter (read : sourceAfter source (option :: rest) = .ok result) :
    IsSpoken option := by
  by_contra unknown
  rw [sourceAfter_unspoken unknown] at read
  cases read

theorem sourceAfter_append : sourceAfter source (front ++ back) =
    (sourceAfter source front).bind fun source => sourceAfter source back := by
  induction front generalizing source with
  | nil => rfl
  | cons option front ih =>
    rw [List.cons_append]
    by_cases spoken : IsSpoken option
    · cases named : isNamed "authSource" option with
      | true =>
        rw [sourceAfter_source named, sourceAfter_source named]
        cases decode .authSource (keyValue option).2 with
        | error fault => rfl
        | ok value => exact ih
      | false =>
        rw [sourceAfter_other named spoken, sourceAfter_other named spoken]
        exact ih
    · rw [sourceAfter_unspoken spoken, sourceAfter_unspoken spoken]
      rfl

theorem sourceAfter_others (others : ∀ option ∈ options, isNamed "authSource" option = false ∧
    IsSpoken option) : sourceAfter source options = .ok source := by
  induction options with
  | nil => rfl
  | cons option rest ih =>
    obtain ⟨⟨unnamed, spoken⟩, later⟩ := List.forall_mem_cons.mp others
    rw [sourceAfter_other unnamed spoken]
    exact ih later

def lastSource (source : String) (options : List (List Char)) : Except TargetFault String :=
  ((sources options).getLast?.map (decode .authSource)).getD (.ok source)

theorem sources_cons (option : List Char) (rest : List (List Char)) :
    sources (option :: rest) =
      if isNamed "authSource" option = true then (keyValue option).2 :: sources rest
      else sources rest := by
  unfold sources
  rw [List.filter_cons]
  split <;> rfl

theorem sourceAfter_eq_ok (read : sourceAfter source options = .ok result) :
    (∀ option ∈ options, IsSpoken option) ∧ lastSource source options = .ok result := by
  induction options generalizing source with
  | nil => exact ⟨List.forall_mem_nil _, read⟩
  | cons option rest ih =>
    have spoken := isSpoken_of_sourceAfter read
    cases named : isNamed "authSource" option with
    | true =>
      rw [sourceAfter_source named] at read
      obtain ⟨value, decoded, later⟩ := bind_eq_ok.mp read
      obtain ⟨others, last⟩ := ih later
      refine ⟨List.forall_mem_cons.mpr ⟨spoken, others⟩, ?_⟩
      rw [lastSource] at last ⊢
      rw [sources_cons, if_pos named, List.getLast?_cons, Option.map_some, Option.getD_some]
      cases final : (sources rest).getLast? with
      | none =>
        rw [final] at last
        rw [Option.getD_none, decoded]
        exact last
      | some other =>
        rw [final] at last
        exact last
    | false =>
      rw [sourceAfter_other named spoken] at read
      obtain ⟨others, last⟩ := ih read
      refine ⟨List.forall_mem_cons.mpr ⟨spoken, others⟩, ?_⟩
      rwa [lastSource, sources_cons, named, if_neg Bool.false_ne_true]

end options

section login

variable {target : String} {login : Credentials}

structure IsLogin (target : List Char) (login : Credentials) (user password : List Char)
    (source : String) : Prop where
  cut : (userInfo? target).bind (Text.cutFirst? (· = ':')) = some (user, password)
  userName : decode .userName user = .ok login.userName
  some_name : login.userName ≠ ""
  password : decode .password password = .ok login.password
  home : home target = .ok source
  source : sourceAfter source (options target) = .ok login.source

theorem credentials_eq {info user password : List Char}
    (found : userInfo? target.toList = some info)
    (cut : Text.cutFirst? (· = ':') info = some (user, password)) :
    credentials target =
      (decode .userName user).bind fun userName =>
        if userName.isEmpty = true then .error .emptyUserName
        else (decode .password password).bind fun password =>
          (home target.toList).bind fun source =>
            (sourceAfter source (options target.toList)).bind fun source =>
              .ok (some ⟨userName, password, source⟩) := by
  have chosen : (database target.toList).isEmpty = true ∧ home target.toList = .ok defaultSource ∨
      ¬(database target.toList).isEmpty = true ∧
        home target.toList = decode .database (database target.toList) := by
    unfold home
    split
    · rename_i bare
      exact .inl ⟨bare, rfl⟩
    · rename_i named
      exact .inr ⟨named, rfl⟩
  unfold credentials
  rcases chosen with ⟨bare, place⟩ | ⟨named, place⟩
  · rw [place]
    unfold database path at bare
    simp only [found, cut, bare, if_true]
    rfl
  · rw [place]
    unfold database path at named
    simp only [found, cut, named]
    rfl

theorem credentials_of_isLogin {user password : List Char} {source : String}
    (named : IsLogin target.toList login user password source) :
    credentials target = .ok (some login) := by
  obtain ⟨info, found, cut⟩ := Option.bind_eq_some_iff.mp named.cut
  have some_name : ¬login.userName.isEmpty = true := mt String.isEmpty_iff.mp named.some_name
  rw [credentials_eq found cut, named.userName, Except.bind, if_neg some_name, named.password,
    Except.bind, named.home, Except.bind, named.source]
  rfl

theorem credentials_eq_ok {result : Option Credentials} (read : credentials target = .ok result) :
    userInfo? target.toList = none ∧ result = none ∨
      ∃ login user password source, result = some login ∧
        IsLogin target.toList login user password source := by
  cases found : userInfo? target.toList with
  | none =>
    rw [credentials, found] at read
    cases read
    exact .inl ⟨rfl, rfl⟩
  | some info =>
    cases cut : Text.cutFirst? (· = ':') info with
    | none =>
      simp only [credentials, found, cut] at read
      cases read
    | some halves =>
      obtain ⟨user, password⟩ := halves
      rw [credentials_eq found cut] at read
      obtain ⟨userName, decodedName, read⟩ := bind_eq_ok.mp read
      split at read
      · cases read
      rename_i some_name
      obtain ⟨word, decodedWord, read⟩ := bind_eq_ok.mp read
      obtain ⟨source, place, read⟩ := bind_eq_ok.mp read
      obtain ⟨last, chosen, read⟩ := bind_eq_ok.mp read
      cases read
      refine .inr ⟨_, user, password, source, rfl, ?_, decodedName,
        mt String.isEmpty_iff.mpr some_name, decodedWord, place, chosen⟩
      rw [found, Option.bind_some, cut]

end login

section home

variable {target text : List Char} {source : String} {part : EncodedPart}

theorem decode_eq_ok (read : decode part text = .ok source) :
    Percent.decode (String.ofList text) = .ok source := mapError_eq_ok.mp read

theorem decode_eq_empty (read : decode part text = .ok "") : text = [] := by
  by_contra some_text
  have some_chars : String.ofList text ≠ "" := by
    intro empty
    rw [← String.toList_eq_nil_iff, String.toList_ofList] at empty
    exact some_text empty
  exact Percent.decode_ne_empty some_chars (decode_eq_ok read) rfl

theorem home_ne_empty (read : home target = .ok source) : source ≠ "" := by
  rintro rfl
  unfold home at read
  split at read
  · exact absurd (Except.ok.inj read) (by decide)
  · rename_i named
    rw [decode_eq_empty read] at named
    exact named rfl

end home

end Target

end TrafficReplay
