import TrafficReplay.Proofs.Text.Cut
import TrafficReplay.Proofs.Text.Digits
import TrafficReplay.Text.Json.Reader

namespace TrafficReplay.Json

section quoted

def IsPlain (c : Char) : Prop := 0x20 ≤ c.toNat

instance : DecidablePred IsPlain := fun _ => inferInstanceAs (Decidable (_ ≤ _))

theorem plain_of_all {text : List Char} (all : text.all (fun c => IsPlain c) = true) :
    ∀ c ∈ text, IsPlain c := fun c member => of_decide_eq_true (List.all_eq_true.mp all c member)

theorem value?_hexDigit {n : Nat} (small : n < 16) : Hex.value? (hexDigit n) = some n := by
  have every : ∀ n : Fin 16, Hex.value? (hexDigit n) = some n.val := by decide
  exact every ⟨n, small⟩

theorem hexDigit_plain {n : Nat} (small : n < 16) : IsPlain (hexDigit n) := by
  have every : ∀ n : Fin 16, IsPlain (hexDigit n) := by decide
  exact every ⟨n, small⟩

theorem codePoint?_control {c : Char} (control : c.toNat < 0x20) (rest : List Char) :
    codePoint? ('0' :: '0' :: hexDigit (c.toNat / 16) :: hexDigit (c.toNat % 16) :: rest) =
      some (c, rest) := by
  have zero : Hex.value? '0' = some 0 := rfl
  have number : 4096 * 0 + 256 * 0 + 16 * (c.toNat / 16) + c.toNat % 16 = c.toNat := by omega
  have unit : unit? ('0' :: '0' :: hexDigit (c.toNat / 16) :: hexDigit (c.toNat % 16) :: rest) =
      some (c.toNat, rest) := by
    simp only [unit?, zero, value?_hexDigit (show c.toNat / 16 < 16 by omega),
      value?_hexDigit (show c.toNat % 16 < 16 by omega), Option.bind_eq_bind, Option.bind_some, number]
    rfl
  simp only [codePoint?, unit, Option.bind_eq_bind, Option.bind_some]
  rw [if_neg (by omega), if_neg (by omega), Char.ofNat_toNat]

theorem escapeChar_cases (c : Char) :
    (∃ tail, escapeChar c = '\\' :: tail ∧ (∀ rest, escape? (tail ++ rest) = some (c, rest)) ∧
      ∀ d ∈ tail, IsPlain d) ∨
    escapeChar c = [c] ∧ c ≠ '"' ∧ c ≠ '\\' ∧ IsPlain c := by
  by_cases special : c ∈ ['"', '\\', '\x08', '\x0c', '\n', '\r', '\t']
  · simp only [List.mem_cons, List.not_mem_nil, or_false] at special
    rcases special with rfl | rfl | rfl | rfl | rfl | rfl | rfl
    all_goals exact .inl ⟨_, rfl, fun _ => rfl, plain_of_all (by decide)⟩
  · simp only [List.mem_cons, List.not_mem_nil, or_false, not_or] at special
    obtain ⟨quote, slash, backspace, feed, newline, carriage, tab⟩ := special
    unfold escapeChar
    rw [if_neg quote, if_neg slash, if_neg backspace, if_neg feed, if_neg newline, if_neg carriage,
      if_neg tab]
    by_cases control : c.toNat < 0x20
    · have plain : ∀ d ∈ ['u', '0', '0', hexDigit (c.toNat / 16), hexDigit (c.toNat % 16)],
          IsPlain d := by
        simp only [List.forall_mem_cons]
        exact ⟨by decide, by decide, by decide, hexDigit_plain (by omega), hexDigit_plain (by omega),
          List.forall_mem_nil _⟩
      exact .inl ⟨_, if_pos control, codePoint?_control control, plain⟩
    · exact .inr ⟨if_neg control, quote, slash, Nat.le_of_not_lt control⟩

theorem content?_escapeChar (c : Char) (fuel : Nat) (rest : List Char) :
    content? (fuel + 1) (escapeChar c ++ rest) =
      (content? fuel rest).map fun (chars, rest) => (c :: chars, rest) := by
  rcases escapeChar_cases c with ⟨tail, written, read, _⟩ | ⟨written, quote, slash, plain⟩
  · have other : '\\' ≠ '"' := by decide
    rw [written, List.cons_append, content?, if_neg other, if_pos rfl, read]
    rfl
  · rw [written, List.singleton_append, content?, if_neg quote, if_neg slash,
      if_neg (Nat.not_lt.mpr plain)]

theorem content?_escaped (chars rest : List Char) {fuel : Nat} (enough : chars.length < fuel) :
    content? fuel (chars.flatMap escapeChar ++ '"' :: rest) = some (chars, rest) := by
  induction chars generalizing fuel with
  | nil =>
    obtain ⟨fuel, rfl⟩ := Nat.exists_eq_add_one.mpr enough
    rw [List.flatMap_nil, List.nil_append, content?, if_pos rfl]
  | cons c chars ih =>
    obtain ⟨fuel, rfl⟩ := Nat.exists_eq_add_one.mpr (Nat.zero_lt_of_lt enough)
    rw [List.flatMap_cons, List.append_assoc, content?_escapeChar, ih (Nat.lt_of_succ_lt_succ enough)]
    rfl

theorem length_le_escaped (chars : List Char) :
    chars.length ≤ (chars.flatMap escapeChar).length := by
  induction chars with
  | nil => exact Nat.le_refl 0
  | cons c chars ih =>
    have some_char : 0 < (escapeChar c).length := by
      rcases escapeChar_cases c with ⟨tail, written, _⟩ | ⟨written, _⟩ <;>
        exact written ▸ Nat.succ_pos _
    rw [List.flatMap_cons, List.length_append, List.length_cons]
    omega

@[simp] theorem quoted?_renderText (text : String) (rest : List Char) :
    quoted? (renderText text ++ rest) = some (text, rest) := by
  have whole : renderText text ++ rest =
      '"' :: (text.toList.flatMap escapeChar ++ '"' :: rest) := by
    simp only [renderText, List.cons_append, List.append_assoc, List.nil_append]
  have enough : text.toList.length < (text.toList.flatMap escapeChar ++ '"' :: rest).length := by
    have escaped := length_le_escaped text.toList
    rw [List.length_append, List.length_cons]
    omega
  rw [whole, quoted?, content?_escaped _ _ enough, Option.map_some]
  exact congrArg (fun chars => some (chars, rest)) String.ofList_toList

theorem renderText_plain (text : String) : ∀ c ∈ renderText text, IsPlain c := by
  intro c member
  have quote : IsPlain '"' := by decide
  rw [renderText, List.cons_append, List.mem_cons, List.mem_append, List.mem_singleton,
    List.mem_flatMap] at member
  rcases member with rfl | ⟨d, _, inside⟩ | rfl
  · exact quote
  · rcases escapeChar_cases d with ⟨tail, written, _, plain⟩ | ⟨written, _, _, plain⟩
    · rw [written, List.mem_cons] at inside
      rcases inside with rfl | inside
      · decide
      · exact plain c inside
    · rw [written, List.mem_singleton] at inside
      exact inside ▸ plain
  · exact quote

end quoted

section number

variable {rest : List Char}

def continuesNumber (c : Char) : Bool := c.isDigit || c = '.' || Notation.isExponentMark c

/-- Text behind a number that ends. -/
def Ends (rest : List Char) : Prop := ∀ c ∈ rest.head?, continuesNumber c = false

theorem ends_nil : Ends [] := fun _ first => absurd first (Option.not_mem_none _)

theorem Ends.of_cons {c : Char} (stops : continuesNumber c = false) : Ends (c :: rest) := by
  intro d first
  cases first
  exact stops

theorem digits?_append {digits : List Char} (digits_only : ∀ c ∈ digits, c.isDigit = true)
    (some_digit : digits ≠ []) (stops : ∀ c ∈ rest.head?, c.isDigit = false) :
    digits? (digits ++ rest) = some (digits, rest) := by
  have taken : rest.takeWhile Char.isDigit = [] := by
    cases rest with
    | nil => rfl
    | cons c rest => exact List.takeWhile_cons_of_neg (by rw [stops c rfl]; exact Bool.false_ne_true)
  have dropped : rest.dropWhile Char.isDigit = rest := Text.dropWhile_of_head? stops
  have nonempty : digits.isEmpty = false := List.isEmpty_eq_false_iff.mpr some_digit
  simp only [digits?, List.takeWhile_append_of_pos digits_only, taken, List.append_nil, nonempty,
    List.dropWhile_append_of_pos digits_only, dropped, Bool.false_eq_true, if_false]

theorem digits?_toDigits (n : Nat) (stops : ∀ c ∈ rest.head?, c.isDigit = false) :
    digits? (Nat.toDigits 10 n ++ rest) = some (Nat.toDigits 10 n, rest) :=
  digits?_append (fun _ member => Nat.isDigit_of_mem_toDigits (by decide) (by decide) member)
    Nat.toDigits_ne_nil stops

theorem whole?_toDigits (n : Nat) (stops : ∀ c ∈ rest.head?, c.isDigit = false) :
    whole? (Nat.toDigits 10 n ++ rest) = some (Nat.toDigits 10 n, rest) := by
  have proper : ¬((Nat.toDigits 10 n).head? = some '0' ∧ Nat.toDigits 10 n ≠ ['0']) := by
    rintro ⟨zero, more⟩
    rcases Nat.eq_zero_or_pos n with rfl | positive
    · exact more rfl
    · obtain ⟨c, first, nonzero⟩ := head?_toDigits positive
      exact nonzero (Option.some.inj (first.symm.trans zero))
  simp only [whole?, digits?_toDigits n stops, Option.bind_eq_bind, Option.bind_some, if_neg proper]

theorem toList_toString (n : Nat) : (toString n).toList = Nat.toDigits 10 n := by
  rw [Nat.toString_eq_ofList_toDigits, String.toList_ofList]

theorem renderInt_natCast (n : Nat) : renderInt n = Nat.toDigits 10 n := by
  have written : toString (n : Int) = toString n := rfl
  rw [renderInt, written, toList_toString]

theorem renderInt_negSucc (n : Nat) :
    renderInt (Int.negSucc n) = '-' :: Nat.toDigits 10 (n + 1) := by
  have written : toString (Int.negSucc n) = "-" ++ toString (n + 1) := rfl
  rw [renderInt, written, String.toList_append, toList_toString]
  rfl

theorem renderInt_cases (n : Int) : ∃ magnitude,
    n = signed false magnitude ∧ renderInt n = Nat.toDigits 10 magnitude ∨
    n = signed true magnitude ∧ renderInt n = '-' :: Nat.toDigits 10 magnitude := by
  cases n with
  | ofNat n => exact ⟨n, .inl ⟨rfl, renderInt_natCast n⟩⟩
  | negSucc n => exact ⟨n + 1, .inr ⟨rfl, renderInt_negSucc n⟩⟩

theorem toDigits_eq_cons (n : Nat) :
    ∃ c digits, Nat.toDigits 10 n = c :: digits ∧ c.isDigit = true := by
  obtain ⟨c, digits, same⟩ := List.exists_cons_of_ne_nil (Nat.toDigits_ne_nil (n := n) (b := 10))
  have member : c ∈ Nat.toDigits 10 n := same ▸ List.mem_cons_self
  exact ⟨c, digits, same, Nat.isDigit_of_mem_toDigits (by decide) (by decide) member⟩

theorem renderInt_eq_cons (n : Int) :
    ∃ c tail, renderInt n = c :: tail ∧ (c.isDigit = true ∨ c = '-') := by
  obtain ⟨magnitude, ⟨_, written⟩ | ⟨_, written⟩⟩ := renderInt_cases n
  · obtain ⟨c, digits, same, digit⟩ := toDigits_eq_cons magnitude
    exact ⟨c, digits, written.trans same, .inl digit⟩
  · exact ⟨'-', _, written, .inr rfl⟩

theorem renderInt_plain (n : Int) : ∀ c ∈ renderInt n, IsPlain c := by
  intro c member
  have digits {magnitude : Nat} (inside : c ∈ Nat.toDigits 10 magnitude) : IsPlain c := by
    have digit := Nat.isDigit_of_mem_toDigits (by decide) (by decide) inside
    have zero : '0'.toNat = 48 := rfl
    exact Nat.le_trans (by omega) (Char.isDigit_iff_toNat.mp digit).1
  obtain ⟨magnitude, ⟨_, written⟩ | ⟨_, written⟩⟩ := renderInt_cases n
  · exact digits (written ▸ member)
  · rw [written, List.mem_cons] at member
    rcases member with rfl | inside
    · decide
    · exact digits inside

theorem cutSign_toDigits (n : Nat) :
    Notation.cutSign (Nat.toDigits 10 n ++ rest) = (false, Nat.toDigits 10 n ++ rest) := by
  obtain ⟨c, digits, same, digit⟩ := toDigits_eq_cons n
  rw [same, List.cons_append, Notation.cutSign]
  · rintro _ ⟨⟩
    exact absurd digit (by decide)
  · rintro _ ⟨⟩
    exact absurd digit (by decide)

theorem power?_renderInt (n : Int) (stops : ∀ c ∈ rest.head?, c.isDigit = false) :
    power? ('e' :: (renderInt n ++ rest)) = some (some n, rest) := by
  have mark : Notation.isExponentMark 'e' = true := rfl
  obtain ⟨magnitude, ⟨same, written⟩ | ⟨same, written⟩⟩ := renderInt_cases n
  · rw [written, same]
    simp only [power?, mark, if_true, cutSign_toDigits, digits?_toDigits _ stops, Option.map_some,
      Nat.ofDigitChars_ten_toDigits]
  · rw [written, same, List.cons_append]
    simp only [power?, mark, if_true, Notation.cutSign, digits?_toDigits _ stops, Option.map_some,
      Nat.ofDigitChars_ten_toDigits]

theorem fraction?_of_head? (stops : ∀ c ∈ rest.head?, c ≠ '.') : fraction? rest = some ([], rest) := by
  cases rest with
  | nil => rfl
  | cons c rest =>
    rw [fraction?]
    rintro _ ⟨⟩
    exact stops '.' rfl rfl

theorem magnitude?_toDigits (negative : Bool) (n : Nat) {power : Option Int} {after : List Char}
    (stops : ∀ c ∈ rest.head?, c.isDigit = false ∧ c ≠ '.')
    (read : power? rest = some (power, after)) :
    magnitude? negative (Nat.toDigits 10 n ++ rest) =
      some (if power.isNone then .int (signed negative n) else
        .decimal (signed negative n) (power.getD 0), after) := by
  have whole := whole?_toDigits n fun c first => (stops c first).1
  have part := fraction?_of_head? fun c first => (stops c first).2
  simp only [magnitude?, whole, part, read, Option.bind_eq_bind, Option.bind_some, List.append_nil,
    Nat.ofDigitChars_ten_toDigits, List.isEmpty_nil, Bool.true_and, List.length_nil]
  cases power with
  | none => rfl
  | some power => simp

theorem number?_digits {n : Nat} :
    number? (Nat.toDigits 10 n ++ rest) = magnitude? false (Nat.toDigits 10 n ++ rest) := by
  obtain ⟨c, digits, same, digit⟩ := toDigits_eq_cons n
  rw [same, List.cons_append, number?]
  rintro _ ⟨⟩
  exact absurd digit (by decide)

theorem number?_append (n : Int) {power : Option Int} {after : List Char}
    (stops : ∀ c ∈ rest.head?, c.isDigit = false ∧ c ≠ '.')
    (read : power? rest = some (power, after)) :
    number? (renderInt n ++ rest) =
      some (if power.isNone then .int n else .decimal n (power.getD 0), after) := by
  obtain ⟨magnitude, ⟨same, written⟩ | ⟨same, written⟩⟩ := renderInt_cases n
  · rw [written, number?_digits, magnitude?_toDigits false magnitude stops read, same]
  · rw [written, List.cons_append, number?, magnitude?_toDigits true magnitude stops read, same]

theorem Ends.stops (ends : Ends rest) : ∀ c ∈ rest.head?, c.isDigit = false ∧ c ≠ '.' := by
  intro c first
  have stops := ends c first
  simp only [continuesNumber, Bool.or_eq_false_iff, decide_eq_false_iff_not] at stops
  exact stops.1

theorem Ends.power? (ends : Ends rest) : power? rest = some (none, rest) := by
  cases rest with
  | nil => rfl
  | cons c rest =>
    have stops := ends c rfl
    simp only [continuesNumber, Bool.or_eq_false_iff] at stops
    simp only [Json.power?, stops.2, Bool.false_eq_true, if_false]

theorem number?_renderInt (n : Int) (ends : Ends rest) :
    number? (renderInt n ++ rest) = some (.int n, rest) := number?_append n ends.stops ends.power?

theorem number?_decimal (mantissa power : Int) (ends : Ends rest) :
    number? (renderInt mantissa ++ 'e' :: (renderInt power ++ rest)) =
      some (.decimal mantissa power, rest) := by
  have stops : ∀ c ∈ ('e' :: (renderInt power ++ rest)).head?, c.isDigit = false ∧ c ≠ '.' := by
    rintro _ ⟨⟩
    decide
  exact number?_append mantissa stops
    (power?_renderInt power fun c first => (ends.stops c first).1)

end number

section lists

def renderField (field : String × Json) : List Char :=
  renderText field.1 ++ ':' :: field.2.render

theorem renderItems_eq (items : List Json) :
    renderItems items = [','].intercalate (items.map render) := by
  match items with
  | [] => rfl
  | [item] => simp [renderItems]
  | item :: next :: rest =>
    rw [renderItems, renderItems_eq (next :: rest)]
    · simp [List.intercalate]
    · exact List.cons_ne_nil _ _

theorem renderFields_eq (fields : List (String × Json)) :
    renderFields fields = [','].intercalate (fields.map renderField) := by
  match fields with
  | [] => rfl
  | [field] => simp [renderFields, renderField]
  | field :: next :: rest =>
    rw [renderFields, renderFields_eq (next :: rest)]
    · simp [List.intercalate, renderField]
    · exact List.cons_ne_nil _ _

variable {α : Type} {element : Reader α} {written : α → List Char} {close c : Char}
  {items : List α} {rest : List Char} {fuel : Nat}

theorem skipBlank_cons (proper : isBlank c = false) (rest : List Char) :
    skipBlank (c :: rest) = c :: rest :=
  List.dropWhile_cons_of_neg (by rw [proper]; exact Bool.false_ne_true)

theorem listed?_comma {a : α} {head : List Char} (fuel : Nat)
    (read : element (head ++ ',' :: rest) = some (a, ',' :: rest)) :
    listed? element close (fuel + 1) (head ++ ',' :: rest) =
      (listed? element close fuel rest).map fun (others, rest) => (a :: others, rest) := by
  have comma : skipBlank (',' :: rest) = ',' :: rest := skipBlank_cons rfl rest
  simp only [listed?, read, Option.bind_eq_bind, Option.bind_some, comma, if_true]

/-- Elements with commas behind them are of no use if what follows cannot be read. -/
theorem listed?_eq_none (fails : ∀ fuel, listed? element close fuel rest = none) (fuel : Nat)
    (read : ∀ a ∈ items, ∀ rest, Ends rest → element (written a ++ rest) = some (a, rest)) :
    listed? element close fuel (items.flatMap (fun a => written a ++ [',']) ++ rest) = none := by
  induction items generalizing fuel with
  | nil => exact fails fuel
  | cons a items ih =>
    obtain ⟨first, others⟩ := List.forall_mem_cons.mp read
    have joined : (a :: items).flatMap (fun a => written a ++ [',']) ++ rest =
        written a ++ ',' :: (items.flatMap (fun a => written a ++ [',']) ++ rest) := by simp
    cases fuel with
    | zero => rfl
    | succ fuel =>
      rw [joined, listed?_comma fuel (first _ (.of_cons rfl)), ih fuel others, Option.map_none]

theorem listed?_close {a : α} {head : List Char} (fuel : Nat) (proper : isBlank close = false)
    (other : close ≠ ',') (read : element (head ++ close :: rest) = some (a, close :: rest)) :
    listed? element close (fuel + 1) (head ++ close :: rest) = some ([a], rest) := by
  simp only [listed?, read, Option.bind_eq_bind, Option.bind_some, skipBlank_cons proper,
    if_neg other, if_true]

theorem listed?_intercalate (proper : isBlank close = false) (other : close ≠ ',')
    (ends : continuesNumber close = false) (some_item : items ≠ []) (enough : items.length ≤ fuel)
    (read : ∀ a ∈ items, ∀ rest, Ends rest → element (written a ++ rest) = some (a, rest)) :
    listed? element close fuel ([','].intercalate (items.map written) ++ close :: rest) =
      some (items, rest) := by
  induction items generalizing fuel with
  | nil => exact absurd rfl some_item
  | cons a items ih =>
    obtain ⟨first, others⟩ := List.forall_mem_cons.mp read
    obtain ⟨fuel, rfl⟩ := Nat.exists_eq_add_one.mpr (Nat.zero_lt_of_lt enough)
    cases items with
    | nil =>
      have single : [','].intercalate ([a].map written) = written a := by simp [List.intercalate]
      rw [single, listed?_close fuel proper other (first _ (.of_cons ends))]
    | cons b items =>
      have joined : [','].intercalate ((a :: b :: items).map written) ++ close :: rest =
          written a ++ ',' :: ([','].intercalate ((b :: items).map written) ++ close :: rest) := by
        simp [List.intercalate]
      rw [joined, listed?_comma fuel (first _ (.of_cons rfl)),
        ih (List.cons_ne_nil _ _) (Nat.le_of_succ_le_succ enough) others, Option.map_some]

theorem length_le_intercalate (items : List α) :
    items.length ≤ ([','].intercalate (items.map written)).length + 1 := by
  induction items with
  | nil => exact Nat.zero_le _
  | cons a items ih =>
    cases items with
    | nil => exact Nat.le_add_left 1 _
    | cons b items =>
      simp only [List.map_cons, List.intercalate_cons_cons, List.length_append, List.length_cons,
        List.length_nil] at ih ⊢
      omega

theorem length_written_le {a : α} (member : a ∈ items) :
    (written a).length ≤ ([','].intercalate (items.map written)).length := by
  induction items with
  | nil => cases member
  | cons b items ih =>
    cases items with
    | nil =>
      rw [List.mem_singleton.mp member]
      simp [List.intercalate]
    | cons d items =>
      rw [List.map_cons, List.map_cons, List.intercalate_cons_cons, List.length_append,
        List.length_append]
      rcases List.mem_cons.mp member with rfl | later
      · omega
      · have bound := ih later
        rw [List.map_cons] at bound
        omega

theorem enclosed?_of_head? {text : List Char} (first : text.head? = some c)
    (proper : isBlank c = false) (other : c ≠ close) :
    enclosed? element close text = listed? element close text.length text := by
  cases text with
  | nil => cases first
  | cons d text =>
    cases first
    simp only [enclosed?, skipBlank_cons proper, if_neg other]

theorem enclosed?_intercalate (proper : isBlank close = false) (other : close ≠ ',')
    (ends : continuesNumber close = false)
    (starts : ∀ a ∈ items, ∃ c, (written a).head? = some c ∧ isBlank c = false ∧ c ≠ close)
    (read : ∀ a ∈ items, ∀ rest, Ends rest → element (written a ++ rest) = some (a, rest)) :
    enclosed? element close ([','].intercalate (items.map written) ++ close :: rest) =
      some (items, rest) := by
  have enough : items.length ≤
      ([','].intercalate (items.map written) ++ close :: rest).length := by
    have bound : items.length ≤ ([','].intercalate (items.map written)).length + 1 :=
      length_le_intercalate items
    rw [List.length_append, List.length_cons]
    omega
  cases items with
  | nil =>
    have bare : [','].intercalate ([].map written) ++ close :: rest = close :: rest := rfl
    rw [bare, enclosed?, skipBlank_cons proper]
    exact if_pos rfl
  | cons a items =>
    obtain ⟨c, first, plain, different⟩ := starts a List.mem_cons_self
    have front : ([','].intercalate ((a :: items).map written) ++ close :: rest).head? = some c := by
      cases items with
      | nil => simp [List.intercalate, first]
      | cons b items => simp [List.intercalate, first]
    rw [enclosed?_of_head? front plain different]
    exact listed?_intercalate proper other ends (List.cons_ne_nil _ _) enough read

end lists

section value

variable {rest : List Char}

def marks : List Char := [' ', '\t', '\n', '\r', '\x7b', '\x7d', '[', ']', '"', 'n', 't', 'f']

theorem not_mem_marks {c : Char} (first : c.isDigit = true ∨ c = '-') : c ∉ marks := by
  rcases first with digit | rfl
  · intro member
    have none_digit : marks.all (fun d => !d.isDigit) = true := by decide
    have sign := List.all_eq_true.mp none_digit c member
    rw [digit] at sign
    cases sign
  · decide

theorem isBlank_of_not_mem {c : Char} (other : c ∉ marks) : isBlank c = false := by
  simp only [marks, List.mem_cons, not_or] at other
  obtain ⟨space, tab, newline, carriage, _⟩ := other
  simp only [isBlank, decide_eq_false space, decide_eq_false tab, decide_eq_false newline,
    decide_eq_false carriage, Bool.or_self]

theorem head?_render (v : Json) :
    ∃ c, v.render.head? = some c ∧ isBlank c = false ∧ c ≠ ']' ∧ c ≠ '\x7d' := by
  have number (n : Int) (more : List Char) : ∃ c, (renderInt n ++ more).head? = some c ∧
      isBlank c = false ∧ c ≠ ']' ∧ c ≠ '\x7d' := by
    obtain ⟨c, tail, written, first⟩ := renderInt_eq_cons n
    have other := not_mem_marks first
    refine ⟨c, by rw [written]; rfl, isBlank_of_not_mem other, ?_, ?_⟩
    · rintro rfl
      exact other (by decide)
    · rintro rfl
      exact other (by decide)
  cases v with
  | null => exact ⟨'n', rfl, by decide⟩
  | bool b => cases b <;> exact ⟨_, rfl, by decide⟩
  | int n => simpa [render] using number n []
  | decimal mantissa power => exact number mantissa _
  | text s => exact ⟨'"', rfl, by decide⟩
  | array items => exact ⟨'[', rfl, by decide⟩
  | object fields => exact ⟨'\x7b', rfl, by decide⟩

theorem head?_renderField (field : String × Json) : (renderField field).head? = some '"' := rfl

theorem length_render_pos (v : Json) : 0 < v.render.length := by
  obtain ⟨c, first, _⟩ := head?_render v
  exact List.length_pos_of_mem (List.mem_of_mem_head? first)

theorem value?_of_number {c : Char} {tail : List Char} (fuel : Nat)
    (first : c.isDigit = true ∨ c = '-') :
    value? (fuel + 1) (c :: tail) = number? (c :: tail) := by
  have other := not_mem_marks first
  rw [value?, skipBlank_cons (isBlank_of_not_mem other)]
  simp only [marks, List.mem_cons, List.not_mem_nil, or_false, not_or] at other
  obtain ⟨_, _, _, _, brace, _, bracket, _, quote, n, t, f⟩ := other
  simp only [if_neg brace, if_neg bracket, if_neg quote, if_neg n, if_neg t, if_neg f]

theorem field?_renderField {value : Reader Json} (field : String × Json)
    (read : value (field.2.render ++ rest) = some (field.2, rest)) :
    field? value (renderField field ++ rest) = some (field, rest) := by
  have whole : renderField field ++ rest =
      renderText field.1 ++ ':' :: (field.2.render ++ rest) := by
    simp [renderField]
  have proper : skipBlank (renderText field.1 ++ ':' :: (field.2.render ++ rest)) =
      renderText field.1 ++ ':' :: (field.2.render ++ rest) := skipBlank_cons rfl _
  have colon : skipBlank (':' :: (field.2.render ++ rest)) = ':' :: (field.2.render ++ rest) :=
    skipBlank_cons rfl _
  simp only [whole, field?, proper, quoted?_renderText, colon, read, Option.bind_eq_bind,
    Option.bind_some, Option.map_some]

theorem value?_bracket (fuel : Nat) (rest : List Char) : value? (fuel + 1) ('[' :: rest) =
    (enclosed? (value? fuel) ']' rest).map fun (items, rest) => (.array items, rest) := rfl

theorem value?_brace (fuel : Nat) (rest : List Char) : value? (fuel + 1) ('\x7b' :: rest) =
    (enclosed? (field? (value? fuel)) '\x7d' rest).map
      fun (fields, rest) => (.object fields, rest) := rfl

/-- A value is read back with fuel for its text. -/
theorem value?_render (v : Json) {fuel : Nat} (enough : v.render.length ≤ fuel)
    (ends : Ends rest) : value? fuel (v.render ++ rest) = some (v, rest) := by
  -- Each part of an array or an object has a shorter text, for which one unit less is enough.
  induction fuel generalizing v rest with
  | zero => exact absurd (length_render_pos v) (Nat.not_lt.mpr enough)
  | succ fuel ih =>
    have number (n : Int) (more : List Char) :
        value? (fuel + 1) (renderInt n ++ more) = number? (renderInt n ++ more) := by
      obtain ⟨c, tail, written, first⟩ := renderInt_eq_cons n
      rw [written]
      exact value?_of_number fuel first
    cases v with
    | null => rfl
    | bool b => cases b <;> rfl
    | int n => exact (number n rest).trans (number?_renderInt n ends)
    | decimal mantissa power =>
      have whole : (Json.decimal mantissa power).render ++ rest =
          renderInt mantissa ++ 'e' :: (renderInt power ++ rest) := by simp [render]
      rw [whole, number, number?_decimal mantissa power ends]
    | text s =>
      have quoted : value? (fuel + 1) ((Json.text s).render ++ rest) =
          (quoted? (renderText s ++ rest)).map (Prod.map Json.text id) := rfl
      rw [quoted, quoted?_renderText]
      rfl
    | array items =>
      have whole : (Json.array items).render ++ rest =
          '[' :: ([','].intercalate (items.map render) ++ ']' :: rest) := by
        simp [render, renderItems_eq]
      have read : enclosed? (value? fuel) ']'
          ([','].intercalate (items.map render) ++ ']' :: rest) = some (items, rest) := by
        refine enclosed?_intercalate rfl (by decide) rfl ?_ ?_
        · intro item _
          obtain ⟨c, first, proper, bracket, _⟩ := head?_render item
          exact ⟨c, first, proper, bracket⟩
        · intro item member rest ends
          have bound : item.render.length ≤ ([','].intercalate (items.map render)).length :=
            length_written_le member
          have shorter : item.render.length ≤ fuel := by
            simp only [render, renderItems_eq, List.length_cons, List.length_append] at enough
            omega
          exact ih item shorter ends
      rw [whole, value?_bracket, read]
      rfl
    | object fields =>
      have whole : (Json.object fields).render ++ rest =
          '\x7b' :: ([','].intercalate (fields.map renderField) ++ '\x7d' :: rest) := by
        simp [render, renderFields_eq]
      have read : enclosed? (field? (value? fuel)) '\x7d'
          ([','].intercalate (fields.map renderField) ++ '\x7d' :: rest) = some (fields, rest) := by
        refine enclosed?_intercalate rfl (by decide) rfl ?_ ?_
        · intro field _
          exact ⟨'"', head?_renderField field, rfl, by decide⟩
        · intro field member rest ends
          have bound : (renderField field).length ≤
              ([','].intercalate (fields.map renderField)).length := length_written_le member
          have shorter : field.2.render.length ≤ fuel := by
            simp only [render, renderFields_eq, List.length_cons, List.length_append, renderField]
              at enough bound
            omega
          exact field?_renderField field (ih field.2 shorter ends)
      rw [whole, value?_brace, read]
      rfl

theorem field?_render {fuel : Nat} (field : String × Json)
    (enough : (renderField field).length ≤ fuel) (ends : Ends rest) :
    field? (value? fuel) (renderField field ++ rest) = some (field, rest) := by
  have shorter : field.2.render.length ≤ fuel := by
    rw [renderField, List.length_append, List.length_cons] at enough
    omega
  exact field?_renderField field (value?_render field.2 shorter ends)

theorem read?_render (v : Json) : read? v.render = some v := by
  have read := value?_render v (Nat.le_refl _) ends_nil
  rw [List.append_nil] at read
  rw [read?, read]
  rfl

theorem readFields?_render (fields : List (String × Json)) :
    readFields? (object fields).render = some fields := by
  rw [readFields?, read?_render]

end value

section plain

mutual

theorem render_plain : (v : Json) → ∀ c ∈ v.render, IsPlain c
  | .null => plain_of_all (by decide)
  | .bool true => plain_of_all (by decide)
  | .bool false => plain_of_all (by decide)
  | .int n => renderInt_plain n
  | .decimal mantissa power => by
    simp only [render, List.forall_mem_append, List.forall_mem_cons]
    exact ⟨renderInt_plain mantissa, by decide, renderInt_plain power⟩
  | .text s => renderText_plain s
  | .array items => by
    simp only [render, List.cons_append, List.forall_mem_append, List.forall_mem_cons]
    exact ⟨by decide, renderItems_plain items, by decide, List.forall_mem_nil _⟩
  | .object fields => by
    simp only [render, List.cons_append, List.forall_mem_append, List.forall_mem_cons]
    exact ⟨by decide, renderFields_plain fields, by decide, List.forall_mem_nil _⟩

theorem renderItems_plain : (items : List Json) → ∀ c ∈ renderItems items, IsPlain c
  | [] => List.forall_mem_nil _
  | [item] => render_plain item
  | item :: next :: rest => by
    simp only [renderItems, List.forall_mem_append, List.forall_mem_cons]
    exact ⟨render_plain item, by decide, renderItems_plain (next :: rest)⟩

theorem renderFields_plain : (fields : List (String × Json)) → ∀ c ∈ renderFields fields, IsPlain c
  | [] => List.forall_mem_nil _
  | [(key, value)] => by
    simp only [renderFields, List.forall_mem_append, List.forall_mem_cons]
    exact ⟨renderText_plain key, by decide, render_plain value⟩
  | (key, value) :: next :: rest => by
    simp only [renderFields, List.cons_append, List.append_assoc, List.forall_mem_append,
      List.forall_mem_cons]
    exact ⟨renderText_plain key, by decide, render_plain value, by decide,
      renderFields_plain (next :: rest)⟩

end

theorem renderField_plain (field : String × Json) : ∀ c ∈ renderField field, IsPlain c := by
  rw [renderField, List.forall_mem_append, List.forall_mem_cons]
  exact ⟨renderText_plain field.1, by decide, render_plain field.2⟩

end plain

end TrafficReplay.Json
