import TrafficReplay.Proofs.Checked
import TrafficReplay.Proofs.Config.Anatomy
import TrafficReplay.Proofs.Text.Digits

namespace TrafficReplay

/-- Decimal digits of a number that is not zero, without a sign or a leading zero. -/
structure IsDecimal (digits : List Char) (n : Nat) : Prop where
  digits_only : ∀ c ∈ digits, c.isDigit = true
  significant : ∃ c, digits.head? = some c ∧ c ≠ '0'
  value : Nat.ofDigitChars 10 digits 0 = n

theorem isDecimal_toDigits {n : Nat} (positive : 0 < n) : IsDecimal (Nat.toDigits 10 n) n where
  digits_only _ member := Nat.isDigit_of_mem_toDigits (by decide) (by decide) member
  significant := head?_toDigits positive
  value := Nat.ofDigitChars_ten_toDigits

namespace Target

section port

variable {text digits : List Char} {value n : Nat}

theorem digit?_of_isDigit {c : Char} (digit : c.isDigit = true) :
    digit? c = some (c.toNat - '0'.toNat) := by
  rw [Char.isDigit_iff_toNat] at digit
  exact if_pos digit

theorem le_ofDigitChars (digits : List Char) (value : Nat) :
    value ≤ Nat.ofDigitChars 10 digits value := by
  induction digits generalizing value with
  | nil => exact Nat.le_refl value
  | cons c digits ih =>
    rw [Nat.ofDigitChars_cons]
    have later := ih (10 * value + (c.toNat - '0'.toNat))
    omega

theorem portDigits_of_digits (digits_only : ∀ c ∈ digits, c.isDigit = true)
    (fits : Nat.ofDigitChars 10 digits value < 65536) :
    portDigits value digits = .ok (Nat.ofDigitChars 10 digits value) := by
  induction digits generalizing value with
  | nil => rfl
  | cons c digits ih =>
    obtain ⟨first, others⟩ := List.forall_mem_cons.mp digits_only
    rw [Nat.ofDigitChars_cons] at fits ⊢
    have below := Nat.lt_of_le_of_lt (le_ofDigitChars digits _) fits
    simp only [portDigits, digit?_of_isDigit first, below, if_true]
    exact ih others fits

theorem portDigits_lt (small : value < 65536) (read : portDigits value digits = .ok n) :
    n < 65536 := by
  induction digits generalizing value with
  | nil =>
    cases read
    exact small
  | cons c digits ih =>
    rw [portDigits] at read
    split at read
    · cases read
    · split at read
      · rename_i fits
        exact ih fits read
      · cases read

theorem port_lt (read : port text = .ok n) : n < 65536 := by
  unfold port at read
  split at read
  · cases read
  · cases read
  · exact portDigits_lt (by decide) read
  · exact portDigits_lt (by decide) read

theorem port_of_isDecimal (decimal : IsDecimal text n) (fits : n < 65536) : port text = .ok n := by
  obtain ⟨c, first, _⟩ := decimal.significant
  have plain : '+' ∉ text := fun sign => absurd (decimal.digits_only '+' sign) (by decide)
  have small : Nat.ofDigitChars 10 text 0 < 65536 := decimal.value.symm ▸ fits
  have read := portDigits_of_digits decimal.digits_only small
  rw [decimal.value] at read
  unfold port
  split
  · cases first
  · exact absurd (List.mem_singleton_self '+') plain
  · exact absurd List.mem_cons_self plain
  · exact read

end port

/-- A name that a host can begin with: brackets are closed at its end or not opened at all. -/
structure IsName (name : List Char) : Prop where
  plain : ∀ c ∈ name, c ≠ ',' ∧ c ≠ '@' ∧ endsAuthority c = false
  shown : ∃ c, name.head? = some c ∧ Text.isBlank c = false
  closed : ∀ literal, name = '[' :: literal → ∃ inside, literal = inside ++ [']'] ∧ ']' ∉ inside

section host

variable {name host : List Char} {portText : Option (List Char)}

theorem splitHost_literal {inside : List Char} (plain : ']' ∉ inside) (rest : List Char) :
    Text.cutFirst? (· = ']') (inside ++ ']' :: rest) = some (inside, rest) := by
  apply Text.cutFirst?_append
  · intro c member
    exact decide_eq_false (ne_of_mem_of_not_mem member plain)
  · exact decide_eq_true rfl

theorem splitHost_name (named : IsName name) {digits : List Char} (plain : ':' ∉ digits) :
    splitHost (name ++ ':' :: digits) = .ok (name, some digits) := by
  obtain ⟨c, first, _⟩ := named.shown
  obtain ⟨rest, rfl⟩ : ∃ rest, name = c :: rest := List.head?_eq_some_iff.mp first
  by_cases literal : c = '['
  · subst literal
    obtain ⟨inside, rfl, closed⟩ := named.closed rest rfl
    have shape : '[' :: (inside ++ [']']) ++ ':' :: digits =
        '[' :: (inside ++ ']' :: ':' :: digits) := by simp
    simp only [shape, splitHost, splitHost_literal closed]
    rfl
  · have cut : Text.cutLast? (· = ':') (c :: rest ++ ':' :: digits) = some (c :: rest, digits) := by
      apply Text.cutLast?_append (decide_eq_true rfl)
      intro d member
      exact decide_eq_false (ne_of_mem_of_not_mem member plain)
    unfold splitHost
    split
    · rename_i same
      rw [List.cons_append] at same
      exact absurd (List.cons.inj same).1 literal
    · rw [cut]

theorem isName_literal {inside rest : List Char} (closed : ']' ∉ inside)
    (plain : ∀ c ∈ '[' :: (inside ++ ']' :: rest), c ≠ ',' ∧ c ≠ '@' ∧ endsAuthority c = false) :
    IsName ('[' :: inside ++ [']']) where
  plain c member := by
    apply plain
    simp only [List.cons_append, List.mem_cons, List.mem_append, List.not_mem_nil, or_false] at member ⊢
    tauto
  shown := ⟨'[', rfl, by decide⟩
  closed _ same := ⟨inside, (List.cons.inj same).2.symm, closed⟩

theorem isName_of_prefix (unbracketed : ∀ literal, host ≠ '[' :: literal)
    (plain : ∀ c ∈ host, c ≠ ',' ∧ c ≠ '@' ∧ endsAuthority c = false)
    (shown : ∀ c ∈ host.head?, Text.isBlank c = false) (front : name <+: host)
    (some_name : name ≠ []) : IsName name := by
  obtain ⟨c, rest, rfl⟩ := List.exists_cons_of_ne_nil some_name
  obtain ⟨more, rfl⟩ := front
  refine ⟨fun d member => plain d (List.mem_append_left _ member), ⟨c, rfl, shown c rfl⟩, ?_⟩
  rintro literal same
  obtain rfl := (List.cons.inj same).1
  exact absurd rfl (unbracketed (rest ++ more))

/-- A host that begins with a bracket is split behind the first closing one, any other host behind a part
    of it. -/
theorem splitHost_cases (halves : splitHost host = .ok (name, portText)) :
    (∃ inside rest, ']' ∉ inside ∧ name = '[' :: inside ++ [']'] ∧
        host = '[' :: (inside ++ ']' :: rest)) ∨
      (∀ literal, host ≠ '[' :: literal) ∧ name <+: host := by
  unfold splitHost at halves
  split at halves
  · rename_i literal
    have bracketed {inside rest : List Char}
        (cut : Text.cutFirst? (· = ']') literal = some (inside, rest)) :
        ']' ∉ inside ∧ literal = inside ++ ']' :: rest := by
      obtain ⟨unclosed, c, cuts, rfl⟩ := Text.cutFirst?_eq_some cut
      obtain rfl := of_decide_eq_true cuts
      exact ⟨fun member => of_decide_eq_false (unclosed ']' member) rfl, rfl⟩
    split at halves
    · cases halves
    · rename_i inside cut
      obtain ⟨closed, rfl⟩ := bracketed cut
      cases halves
      exact .inl ⟨inside, [], closed, rfl, rfl⟩
    · rename_i inside port cut
      obtain ⟨closed, rfl⟩ := bracketed cut
      cases halves
      exact .inl ⟨inside, ':' :: port, closed, rfl, rfl⟩
    · cases halves
  · rename_i unbracketed
    refine .inr ⟨unbracketed, ?_⟩
    rcases Text.cutLast?_cases (· = ':') host with ⟨uncut, _⟩ | ⟨front, c, rest, cut, _, _, whole⟩
    · rw [uncut] at halves
      cases halves
      exact List.prefix_rfl
    · rw [cut] at halves
      cases halves
      exact ⟨c :: rest, whole.symm⟩

theorem isName_of_splitHost (plain : ∀ c ∈ host, c ≠ ',' ∧ c ≠ '@' ∧ endsAuthority c = false)
    (shown : ∀ c ∈ host.head?, Text.isBlank c = false)
    (halves : splitHost host = .ok (name, portText)) (some_name : name ≠ []) : IsName name := by
  rcases splitHost_cases halves with ⟨inside, rest, closed, rfl, rfl⟩ | ⟨unbracketed, front⟩
  · exact isName_literal closed plain
  · exact isName_of_prefix unbracketed plain shown front some_name

end host

section address

variable {target : String} {found : Address}

theorem firstHost_inside {target : List Char} {c : Char} (member : c ∈ firstHost target) :
    c ≠ ',' ∧ c ≠ '@' ∧ endsAuthority c = false := by
  have inside := Text.mem_of_mem_trim member
  have kept := List.mem_takeWhile_imp inside
  exact ⟨of_decide_eq_true kept, hosts_inside ((List.takeWhile_prefix _).mem inside)⟩

theorem address_eq_ok (read : address target = .ok found) :
    ∃ name portText, splitHost (firstHost target.toList) = .ok (name, portText) ∧ name ≠ [] ∧
      found.host = String.ofList name ∧ 0 < found.port ∧ found.port < 65536 := by
  simp only [address, Bind.bind, Except.bind, Pure.pure, Except.pure, throw, throwThe,
    MonadExceptOf.throw] at read
  split at read
  · cases read
  obtain ⟨⟨name, portText⟩, halves, read⟩ := bind_eq_ok.mp read
  dsimp only at read
  split at read
  · cases read
  rename_i named
  have some_name : name ≠ [] := by
    rintro rfl
    exact named rfl
  cases portText with
  | none =>
    cases read
    have within : 0 < defaultPort ∧ defaultPort < 65536 := by decide
    exact ⟨name, none, halves, some_name, rfl, within⟩
  | some text =>
    obtain ⟨value, number, read⟩ := bind_eq_ok.mp read
    split at read
    · cases read
    rename_i nonzero
    cases read
    exact ⟨name, some text, halves, some_name, rfl, Nat.pos_of_ne_zero nonzero,
      port_lt (mapError_eq_ok.mp number)⟩

theorem isName_of_address (read : address target = .ok found) : IsName found.host.toList := by
  obtain ⟨name, portText, halves, some_name, host, _⟩ := address_eq_ok read
  rw [host, String.toList_ofList]
  exact isName_of_splitHost (fun c member => firstHost_inside member)
    (fun c first => Text.head?_trim first) halves some_name

theorem toList_text (found : Address) :
    found.text.toList = found.host.toList ++ ':' :: Nat.toDigits 10 found.port := by
  simp [Address.text]

theorem isBlank_of_isDigit {c : Char} (digit : c.isDigit = true) : Text.isBlank c = false := by
  have within := Char.isDigit_iff_toNat.mp digit
  have zero : '0'.toNat = 48 := rfl
  have nine : '9'.toNat = 57 := rfl
  simp only [Text.isBlank, Bool.or_eq_false_iff, Bool.and_eq_false_iff, decide_eq_false_iff_not]
  omega

theorem address_of_isName (named : IsName found.host.toList) (positive : 0 < found.port)
    (fits : found.port < 65536)
    (first : (hosts target.toList).takeWhile (fun c => c ≠ ',') = found.text.toList) :
    address target = .ok found := by
  obtain ⟨c, begins, shown⟩ := named.shown
  obtain ⟨rest, whole⟩ : ∃ rest, found.host.toList = c :: rest := List.head?_eq_some_iff.mp begins
  have host : firstHost target.toList = found.text.toList := by
    rw [firstHost, first]
    apply Text.trim_of_ends
    · intro d front
      rw [toList_text, whole] at front
      cases front
      exact shown
    · intro d last
      have digit : d ∈ (Nat.toDigits 10 found.port).getLast? := by
        rwa [toList_text, List.getLast?_append_cons, List.getLast?_cons_of_ne_nil
          Nat.toDigits_ne_nil] at last
      have member := List.mem_of_mem_getLast? digit
      exact isBlank_of_isDigit (Nat.isDigit_of_mem_toDigits (by decide) (by decide) member)
  have halves : splitHost found.text.toList =
      .ok (found.host.toList, some (Nat.toDigits 10 found.port)) := by
    rw [toList_text]
    exact splitHost_name named (digits_plain (by decide) found.port)
  have number := port_of_isDecimal (isDecimal_toDigits positive) fits
  have some_text : found.text.toList.isEmpty = false := by
    rw [toList_text, whole]
    rfl
  have some_name : found.host.toList.isEmpty = false := by
    rw [whole]
    rfl
  have nonzero : found.port ≠ 0 := Nat.ne_of_gt positive
  simp only [address, host, some_text, halves, some_name, number, nonzero, Bind.bind, Except.bind,
    Pure.pure, Except.pure, Except.mapError, Bool.false_eq_true, if_false, String.ofList_toList]

theorem inside_of_isDigit {c : Char} (digit : c.isDigit = true) :
    c ≠ '@' ∧ endsAuthority c = false := by
  have apart {d : Char} (sign : d.isDigit = false) : c ≠ d := by
    rintro rfl
    rw [sign] at digit
    cases digit
  exact ⟨apart rfl, endsAuthority_eq_false.mpr ⟨apart rfl, apart rfl⟩⟩

theorem text_inside (named : IsName found.host.toList) :
    ∀ c ∈ found.text.toList, c ≠ '@' ∧ endsAuthority c = false := by
  intro c member
  rw [toList_text] at member
  rcases List.mem_append.mp member with inside | inside
  · exact (named.plain c inside).2
  · rcases List.mem_cons.mp inside with rfl | inside
    · exact ⟨by decide, rfl⟩
    · exact inside_of_isDigit (Nat.isDigit_of_mem_toDigits (by decide) (by decide) inside)

theorem text_unlisted (named : IsName found.host.toList) :
    ∀ c ∈ found.text.toList, decide (c ≠ ',') = true := by
  intro c member
  rw [toList_text] at member
  apply decide_eq_true
  rcases List.mem_append.mp member with inside | inside
  · exact (named.plain c inside).1
  · rcases List.mem_cons.mp inside with rfl | inside
    · decide
    · exact ne_of_mem_of_not_mem inside (digits_plain rfl found.port)

def Parts.ofAddress (schemed : Bool) (found : Address) (named : IsName found.host.toList) :
    Parts where
  schemed := schemed
  info? := none
  hosts := found.text.toList
  tail := []
  info_inside := nofun
  hosts_inside := text_inside named
  tail_outside := nofun
  bare := by
    rintro - - ⟨rest, whole⟩
    have slash : '/' ∈ found.text.toList := by
      rw [← List.append_nil found.text.toList, ← whole]
      exact List.mem_append_left rest (by decide)
    exact absurd (text_inside named '/' slash).2 (by decide)

theorem Parts.address_ofAddress (schemed : Bool) (named : IsName found.host.toList)
    (positive : 0 < found.port) (fits : found.port < 65536) :
    Target.address (ofAddress schemed found named).text = .ok found := by
  apply address_of_isName named positive fits
  rw [text, String.toList_ofList, hosts_chars]
  exact List.takeWhile_eq_self_iff.mpr (text_unlisted named)

/-- The address of a target is a name and the decimal form of a port. As a target it names no user and
    is its own address, also with the scheme and any user information in front of it. -/
theorem address_is_normal (read : address target = .ok found) :
    (∃ digits, found.text = found.host ++ ":" ++ String.ofList digits ∧
      IsDecimal digits found.port) ∧
      found.host ≠ "" ∧ (∀ c ∈ found.host.toList, c ≠ '/' ∧ c ≠ '?' ∧ c ≠ '@') ∧
      1 ≤ found.port ∧ found.port ≤ 65535 ∧
      address found.text = .ok found ∧ credentials found.text = .ok none ∧
      address ("mongodb://" ++ found.text) = .ok found ∧
      ∀ user password : String, (∀ c ∈ user.toList ++ password.toList, c ≠ '/' ∧ c ≠ '?') →
        address ("mongodb://" ++ user ++ ":" ++ password ++ "@" ++ found.text) = .ok found := by
  have named := isName_of_address read
  obtain ⟨_, _, _, _, _, positive, fits⟩ := address_eq_ok read
  have own (schemed : Bool) := Parts.address_ofAddress schemed named positive fits
  have bare : (Parts.ofAddress false found named).text = found.text := by
    simp [Parts.text, Parts.chars, Parts.ofAddress, Parts.authority]
  have schemed : (Parts.ofAddress true found named).text = "mongodb://" ++ found.text := by
    rw [Parts.text_of_schemed rfl]
    simp [Parts.ofAddress, Parts.authority]
  refine ⟨⟨_, ?_, isDecimal_toDigits positive⟩, ?_, ?_, positive, Nat.le_of_lt_succ fits, ?_, ?_, ?_, ?_⟩
  · rw [Address.text, Nat.toString_eq_ofList_toDigits]
  · obtain ⟨c, first, _⟩ := named.shown
    rintro empty
    rw [empty] at first
    cases first
  · intro c member
    obtain ⟨_, no_at, inside⟩ := named.plain c member
    obtain ⟨no_slash, no_mark⟩ := endsAuthority_eq_false.mp inside
    exact ⟨no_slash, no_mark, no_at⟩
  · rw [← bare]
    exact own false
  · have nobody : userInfo? found.text.toList = none := by
      rw [← bare, Parts.text, String.toList_ofList, Parts.userInfo?_chars]
      rfl
    rw [credentials, nobody]
    rfl
  · rw [← schemed]
    exact own true
  · intro user password plain
    have inside : ∀ c ∈ user.toList ++ ':' :: password.toList, endsAuthority c = false := by
      intro c member
      rw [endsAuthority_eq_false]
      rcases List.mem_append.mp member with front | back
      · exact plain c (List.mem_append_left _ front)
      · rcases List.mem_cons.mp back with rfl | back
        · decide
        · exact plain c (List.mem_append_right _ back)
    have logged : ((Parts.ofAddress true found named).withInfo _ inside).text =
        "mongodb://" ++ user ++ ":" ++ password ++ "@" ++ found.text := by
      rw [Parts.text_of_schemed rfl]
      simp [Parts.ofAddress, Parts.authority, Parts.withInfo, String.append_assoc]
    rw [← logged, address_withInfo]
    exact own true

/-- A literal with a port that has a sign and leading zeros. -/
theorem literalTarget_is_normal :
    address "mongodb://app:pwd@[::1]:+0080,db2/shop" = .ok ⟨"[::1]", 80⟩ ∧
      address (Address.text ⟨"[::1]", 80⟩) = .ok ⟨"[::1]", 80⟩ ∧
      credentials (Address.text ⟨"[::1]", 80⟩) = .ok none ∧
      address ("mongodb://" ++ "app" ++ ":" ++ "p@wd" ++ "@" ++ Address.text ⟨"[::1]", 80⟩) =
        .ok ⟨"[::1]", 80⟩ := by
  have read : address "mongodb://app:pwd@[::1]:+0080,db2/shop" = .ok ⟨"[::1]", 80⟩ := by rfl
  obtain ⟨_, _, _, _, _, again, nobody, _, logged⟩ := address_is_normal read
  exact ⟨read, again, nobody, logged "app" "p@wd" (by simp)⟩

end address

end Target

end TrafficReplay
