import TrafficReplay.Config.Play
import TrafficReplay.Proofs.Config.Address
import TrafficReplay.Proofs.Config.Credentials

namespace TrafficReplay

namespace Target

variable {name inside host : List Char} {portText : Option (List Char)} {target : String}
  {found : Address} {login : Credentials}

/-- Nothing stands between the brackets of a name only where the host begins with both of them. -/
theorem literal_eq_nil (halves : splitHost host = .ok (name, portText))
    (literal : name = '[' :: inside ++ [']']) : inside = [] ↔ ['[', ']'] <+: host := by
  rcases splitHost_cases halves with ⟨address, rest, closed, same, rfl⟩ | ⟨unbracketed, rest, rfl⟩
  · obtain rfl : address = inside := List.append_cancel_right (List.cons.inj (same.symm.trans literal)).2
    constructor
    · rintro rfl
      exact ⟨rest, rfl⟩
    · rintro ⟨more, whole⟩
      cases address with
      | nil => rfl
      | cons d others =>
        have closing : ']' = d := (List.cons.inj (List.cons.inj whole).2).1
        exact absurd (closing ▸ List.mem_cons_self) closed
  · rw [literal] at unbracketed
    exact absurd rfl (unbracketed _)

theorem host_of_address (read : address target = .ok found) :
    found.host ≠ "" ∧ ∀ inside, found.host = "[" ++ inside ++ "]" →
      (inside = "" ↔ ['[', ']'] <+: firstHost target.toList) := by
  obtain ⟨name, portText, halves, some_name, host, _⟩ := address_eq_ok read
  constructor
  · rw [host]
    intro empty
    rw [← String.toList_eq_nil_iff, String.toList_ofList] at empty
    exact some_name empty
  · intro inside bracketed
    have literal : name = '[' :: inside.toList ++ [']'] := by
      rw [← String.toList_ofList (l := name), ← host, bracketed]
      simp
    rw [← String.toList_eq_nil_iff]
    exact literal_eq_nil halves literal

theorem login_of_credentials {result : Option Credentials} (read : credentials target = .ok result)
    (logged : '@' ∈ authority target.toList) :
    ∃ login, result = some login ∧ login.userName ≠ "" ∧
      (login.source = "" ↔ (sources (options target.toList)).getLast? = some []) ∧
      ∀ option ∈ options target.toList, IsSpoken option := by
  rcases credentials_eq_ok read with ⟨absent, _⟩ | ⟨login, user, password, source, same, named⟩
  · rcases authority_cases target.toList with ⟨_, whole, unsigned⟩ | ⟨info, found, _⟩
    · exact absurd (whole ▸ logged) unsigned
    · rw [absent] at found
      cases found
  · obtain ⟨spoken, last⟩ := sourceAfter_eq_ok named.source
    refine ⟨login, same, named.some_name, ?_, spoken⟩
    unfold lastSource at last
    cases given : (sources (options target.toList)).getLast? with
    | none =>
      rw [given] at last
      obtain rfl : source = login.source := Except.ok.inj last
      exact ⟨fun empty => absurd empty (home_ne_empty named.home), nofun⟩
    | some value =>
      rw [given] at last
      have read : decode .authSource value = .ok login.source := last
      rw [Option.some.injEq]
      constructor
      · intro empty
        exact decode_eq_empty (empty ▸ read)
      · rintro rfl
        exact (Except.ok.inj read).symm

end Target

def Double.IsSpeed (x : Double) : Prop :=
  x = .infinity ∨ x.isFinite = true ∧ (x.isZero = true ∨ x.isPositive = true)

theorem Double.isSpeed_of_not_below {x : Double} (number : x.isNaN = false)
    (notBelow : x.isBelowZero = false) : x.IsSpeed := by
  have zero_or : x.isZero = true ∨ x.isNegative = false := by
    rw [isBelowZero, number] at notBelow
    cases sign : x.isNegative with
    | false => exact .inr rfl
    | true => exact .inl (by simpa [sign] using notBelow)
  by_cases finite : x.isFinite = true
  · refine .inr ⟨finite, ?_⟩
    rcases zero_or with zero | unsigned
    · exact .inl zero
    · cases zero : x.isZero with
      | true => exact .inl rfl
      | false => exact .inr (by simp [isPositive, unsigned, number, zero])
  · -- All exponent bits are set and, as it is a number, no others are.
    have bound := x.bits.toNat_lt
    rw [isFinite, decide_eq_true_eq, exponentField] at finite
    rw [isNaN, Bool.and_eq_false_iff, decide_eq_false_iff_not, decide_eq_false_iff_not,
      exponentField, fraction] at number
    rw [isZero, decide_eq_true_eq, isNegative, decide_eq_false_iff_not] at zero_or
    have bits : x.bits.toNat = 2047 * 2 ^ 52 := by omega
    have same : x.bits = 0x7FF0000000000000 := UInt64.toNat_inj.mp bits
    exact .inl (congrArg Double.mk same)

namespace PlayConfig

structure IsValid (config : PlayConfig) : Prop where
  address : ∃ found, config.address = .ok found
  credentials : ∃ found, config.credentials = .ok found
  speed : config.speed.IsSpeed
  laneLimit : 0 < config.laneLimit
  queueDepth : 0 < config.queueDepth
  responseTimeout : 0 < config.responseTimeoutMs
  connectTimeout : 0 < config.connectTimeoutMs

theorem isValid_of_validate {config : PlayConfig} (valid : config.validate = .ok ()) :
    config.IsValid := by
  obtain ⟨found, address, valid⟩ := bind_eq_ok.mp valid
  obtain ⟨login, credentials, valid⟩ := bind_eq_ok.mp valid
  simp only [Bind.bind, Except.bind, Pure.pure, Except.pure, throw, throwThe,
    MonadExceptOf.throw] at valid
  split at valid
  · cases valid
  rename_i speed
  split at valid
  · cases valid
  rename_i limit
  split at valid
  · cases valid
  rename_i depth
  split at valid
  · cases valid
  rename_i response
  split at valid
  · cases valid
  rename_i connect
  rw [Bool.not_eq_true, Bool.or_eq_false_iff] at speed
  exact {
    address := ⟨found, address⟩
    credentials := ⟨login, credentials⟩
    speed := Double.isSpeed_of_not_below speed.1 speed.2
    laneLimit := Nat.pos_of_ne_zero limit
    queueDepth := Nat.pos_of_ne_zero depth
    responseTimeout := UInt64.pos_iff_ne_zero.mpr response
    connectTimeout := UInt64.pos_iff_ne_zero.mpr connect }

end PlayConfig

end TrafficReplay
