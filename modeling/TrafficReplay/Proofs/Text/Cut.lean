import TrafficReplay.Text.Blank
import TrafficReplay.Text.Cut

namespace TrafficReplay.Text

section cut

variable {separates : Char → Bool} {text head rest : List Char} {c : Char}

theorem cutFirst?_eq_none (plain : ∀ d ∈ text, separates d = false) :
    cutFirst? separates text = none := by
  induction text with
  | nil => rfl
  | cons c text ih =>
    obtain ⟨first, others⟩ := List.forall_mem_cons.mp plain
    rw [cutFirst?, first, ih others]
    rfl

theorem cutFirst?_append (plain : ∀ d ∈ head, separates d = false) (cuts : separates c = true)
    (rest : List Char) : cutFirst? separates (head ++ c :: rest) = some (head, rest) := by
  induction head with
  | nil => rw [List.nil_append, cutFirst?, if_pos cuts]
  | cons d head ih =>
    obtain ⟨first, others⟩ := List.forall_mem_cons.mp plain
    rw [List.cons_append, cutFirst?, first, ih others]
    rfl

theorem cutFirst?_eq_some (found : cutFirst? separates text = some (head, rest)) :
    (∀ d ∈ head, separates d = false) ∧
      ∃ c, separates c = true ∧ text = head ++ c :: rest := by
  induction text generalizing head with
  | nil => cases found
  | cons d text ih =>
    rw [cutFirst?] at found
    split at found
    · rename_i cuts
      cases found
      exact ⟨List.forall_mem_nil _, d, cuts, rfl⟩
    · rename_i spares
      obtain ⟨⟨later, tail⟩, cut, same⟩ := Option.map_eq_some_iff.mp found
      cases same
      obtain ⟨plain, c, cuts, rfl⟩ := ih cut
      exact ⟨List.forall_mem_cons.mpr ⟨Bool.not_eq_true _ ▸ spares, plain⟩, c, cuts, rfl⟩

theorem cutLast?_eq_none (plain : ∀ d ∈ text, separates d = false) :
    cutLast? separates text = none := by
  induction text with
  | nil => rfl
  | cons c text ih =>
    obtain ⟨first, others⟩ := List.forall_mem_cons.mp plain
    simp only [cutLast?, ih others, first, Bool.false_eq_true, if_false]

theorem cutLast?_append (cuts : separates c = true) (plain : ∀ d ∈ rest, separates d = false)
    (head : List Char) : cutLast? separates (head ++ c :: rest) = some (head, rest) := by
  induction head with
  | nil => simp only [List.nil_append, cutLast?, cutLast?_eq_none plain, cuts, if_true]
  | cons d head ih => simp only [List.cons_append, cutLast?, ih]

theorem cutLast?_cases (separates : Char → Bool) (text : List Char) :
    cutLast? separates text = none ∧ (∀ d ∈ text, separates d = false) ∨
      ∃ head c rest, cutLast? separates text = some (head, rest) ∧ separates c = true ∧
        (∀ d ∈ rest, separates d = false) ∧ text = head ++ c :: rest := by
  induction text with
  | nil => exact .inl ⟨rfl, List.forall_mem_nil _⟩
  | cons d text ih =>
    rcases ih with ⟨uncut, plain⟩ | ⟨head, c, rest, cut, cuts, plain, rfl⟩
    · cases first : separates d with
      | true => exact .inr ⟨[], d, text, by simp [cutLast?, uncut, first], first, plain, rfl⟩
      | false =>
        exact .inl ⟨by simp [cutLast?, uncut, first], List.forall_mem_cons.mpr ⟨first, plain⟩⟩
    · exact .inr ⟨d :: head, c, rest, by simp [cutLast?, cut], cuts, plain, rfl⟩

end cut

section pieces

variable {separates : Char → Bool} {c : Char}

theorem pieces_ne_nil (separates : Char → Bool) (text : List Char) : pieces separates text ≠ [] := by
  cases text with
  | nil => exact List.cons_ne_nil _ _
  | cons c rest =>
    rw [pieces]
    split
    · exact List.cons_ne_nil _ _
    · split <;> exact List.cons_ne_nil _ _

theorem pieces_cons {rest piece : List Char} {others : List (List Char)}
    (later : pieces separates rest = piece :: others) :
    pieces separates (c :: rest) =
      if separates c = true then [] :: piece :: others else (c :: piece) :: others := by
  simp only [pieces, later]

theorem pieces_of_plain {text : List Char} (plain : ∀ d ∈ text, separates d = false) :
    pieces separates text = [text] := by
  induction text with
  | nil => rfl
  | cons d rest ih =>
    obtain ⟨first, others⟩ := List.forall_mem_cons.mp plain
    rw [pieces_cons (ih others), first]
    rfl

theorem pieces_append {piece : List Char} (plain : ∀ d ∈ piece, separates d = false)
    (cuts : separates c = true) (rest : List Char) :
    pieces separates (piece ++ c :: rest) = piece :: pieces separates rest := by
  induction piece with
  | nil =>
    obtain ⟨first, others, found⟩ := List.exists_cons_of_ne_nil (pieces_ne_nil separates rest)
    rw [List.nil_append, pieces_cons found, if_pos cuts, found]
  | cons d piece ih =>
    obtain ⟨first, others⟩ := List.forall_mem_cons.mp plain
    rw [List.cons_append, pieces_cons (ih others), first]
    rfl

theorem pieces_intercalate {parts : List (List Char)} (some_parts : parts ≠ [])
    (plain : ∀ part ∈ parts, ∀ d ∈ part, separates d = false) (cuts : separates c = true) :
    pieces separates ([c].intercalate parts) = parts := by
  induction parts with
  | nil => exact absurd rfl some_parts
  | cons part parts ih =>
    obtain ⟨first, others⟩ := List.forall_mem_cons.mp plain
    cases parts with
    | nil =>
      have single : [c].intercalate [part] = part := by simp [List.intercalate]
      rw [single, pieces_of_plain first]
    | cons next parts =>
      have joined : [c].intercalate (part :: next :: parts) =
          part ++ c :: [c].intercalate (next :: parts) := by
        simp [List.intercalate]
      rw [joined, pieces_append first cuts, ih (List.cons_ne_nil _ _) others]

end pieces

section trim

variable {text : List Char} {c : Char}

theorem dropWhile_of_head? {drops : Char → Bool} (kept : ∀ d ∈ text.head?, drops d = false) :
    text.dropWhile drops = text := by
  cases text with
  | nil => rfl
  | cons d rest => exact List.dropWhile_cons_of_neg (by rw [kept d rfl]; exact Bool.false_ne_true)

theorem trim_of_ends (first : ∀ d ∈ text.head?, isBlank d = false)
    (last : ∀ d ∈ text.getLast?, isBlank d = false) : trim text = text := by
  have kept : ∀ d ∈ text.reverse.head?, isBlank d = false := by
    rw [List.head?_reverse]
    exact last
  rw [trim, dropWhile_of_head? first, dropWhile_of_head? kept, List.reverse_reverse]

theorem trim_isPrefix (text : List Char) : trim text <+: text.dropWhile isBlank := by
  rw [trim, ← List.reverse_suffix, List.reverse_reverse]
  exact List.dropWhile_suffix _

theorem mem_of_mem_trim (member : c ∈ trim text) : c ∈ text :=
  (List.dropWhile_suffix _).mem ((trim_isPrefix text).mem member)

theorem head?_trim (first : c ∈ (trim text).head?) : isBlank c = false := by
  obtain ⟨back, whole⟩ := trim_isPrefix text
  have same : (text.dropWhile isBlank).head? = some c := by
    rw [← whole, List.head?_append, first]
    rfl
  have stops := List.head?_dropWhile_not isBlank text
  rw [same] at stops
  exact stops

end trim

end TrafficReplay.Text
