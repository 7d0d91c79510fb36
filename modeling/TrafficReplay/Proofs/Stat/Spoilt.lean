import Mathlib.Data.List.Chain
import TrafficReplay.Proofs.Stat.Lines

namespace TrafficReplay.Stat

/-- What stands in the output for a record that has no form. -/
def remnant (stat : Stat) : List Char :=
  '\x7b' :: (stat.leading.flatMap (fun field => Json.renderField field ++ [',']) ++
    (Json.renderText "played_at" ++ [':']))

theorem writeFields_cut (fields : List (String × Json)) (key : String)
    (rest : List (String × Option Json)) :
    writeFields (fields.map (fun field => (field.1, some field.2)) ++ (key, none) :: rest) =
      (fields.flatMap (fun field => Json.renderField field ++ [',']) ++
        (Json.renderText key ++ [':']), false) := by
  induction fields with
  | nil => rfl
  | cons field fields ih =>
    have written : (field :: fields).flatMap (fun field => Json.renderField field ++ [',']) =
        Json.renderField field ++ ',' ::
          fields.flatMap (fun field => Json.renderField field ++ [',']) := by simp
    rw [List.map_cons, List.cons_append, writeFields, ih, written, if_neg (by simp), List.append_assoc]
    rfl

theorem jsonLine_of_undated {stat : Stat} (undated : ¬stat.Dated) : jsonLine stat = stat.remnant := by
  have time : timeJson? stat.playedAt = none := if_pos (Int.not_le.mp undated)
  have fields : stat.jsonFields =
      stat.leading.map (fun field => (field.1, some field.2)) ++ ("played_at", none) ::
        [("error", some (orNull (fun error => .text error.text) stat.error)),
          ("translation_miss", some (.bool stat.miss))] := by
    rw [jsonFields, time]
    rfl
  rw [jsonLine, fields, writeFields_cut]
  rfl

section reading

variable {rest : List Char}

def UsedUp (text : List Char) : Prop :=
  ∀ fuel, text.length ≤ fuel → ∀ v rest, Json.value? fuel text = some (v, rest) → rest = []

theorem usedUp_nil : UsedUp [] := by
  intro fuel _ v rest read
  cases fuel <;> cases read

theorem usedUp_render (v : Json) : UsedUp v.render := by
  intro fuel enough w rest read
  have whole := Json.value?_render v enough Json.ends_nil
  rw [List.append_nil, read] at whole
  cases whole
  rfl

theorem UsedUp.played_at {fuel : Nat} (used : UsedUp rest) (enough : rest.length ≤ fuel)
    (steps : Nat) : Json.listed? (Json.field? (Json.value? fuel)) '\x7d' steps
      (Json.renderText "played_at" ++ ':' :: rest) = none := by
  have proper : Json.skipBlank (Json.renderText "played_at" ++ ':' :: rest) =
      Json.renderText "played_at" ++ ':' :: rest := Json.skipBlank_cons rfl _
  have colon : Json.skipBlank (':' :: rest) = ':' :: rest := Json.skipBlank_cons rfl _
  cases steps with
  | zero => rfl
  | succ steps =>
    simp only [Json.listed?, Json.field?, proper, Json.quoted?_renderText, colon,
      Option.bind_eq_bind, Option.bind_some]
    cases read : Json.value? fuel rest with
    | none => rfl
    | some found =>
      obtain ⟨v, after⟩ := found
      -- the value is there, the brace that would close the object is not
      cases used fuel enough v after read
      rfl

/-- Behind a remnant no value completes the object, unless something comes after the value. -/
theorem value?_remnant {fuel : Nat} (stat : Stat) (used : UsedUp rest)
    (enough : (stat.remnant ++ rest).length ≤ fuel) :
    Json.value? fuel (stat.remnant ++ rest) = none := by
  have whole : stat.remnant ++ rest =
      '\x7b' :: (stat.leading.flatMap (fun field => Json.renderField field ++ [',']) ++
        (Json.renderText "played_at" ++ ':' :: rest)) := by simp [remnant]
  rw [whole, List.length_cons, List.length_append, List.length_append, List.length_cons] at enough
  obtain ⟨fuel, rfl⟩ := Nat.exists_eq_add_one.mpr (Nat.zero_lt_of_lt enough)
  have read : ∀ field ∈ stat.leading, ∀ rest, Json.Ends rest →
      Json.field? (Json.value? fuel) (Json.renderField field ++ rest) = some (field, rest) := by
    intro field member rest ends
    have bound : (Json.renderField field).length ≤
        (stat.leading.flatMap (fun field => Json.renderField field ++ [','])).length := by
      obtain ⟨front, back, split⟩ := List.append_of_mem member
      rw [split, List.flatMap_append, List.flatMap_cons, List.length_append, List.length_append,
        List.length_append]
      omega
    exact Json.field?_render field (by omega) ends
  have first : (stat.leading.flatMap (fun field => Json.renderField field ++ [',']) ++
      (Json.renderText "played_at" ++ ':' :: rest)).head? = some '"' := rfl
  rw [whole, Json.value?_brace, Json.enclosed?_of_head? first rfl (by decide),
    Json.listed?_eq_none (used.played_at (by omega)) _ read, Option.map_none]

theorem usedUp_remnants (spoilt : List Stat) (used : UsedUp rest) :
    UsedUp (spoilt.flatMap remnant ++ rest) := by
  induction spoilt with
  | nil => exact used
  | cons stat spoilt ih =>
    intro fuel enough v after read
    rw [List.flatMap_cons, List.append_assoc] at enough read
    rw [value?_remnant stat ih enough] at read
    cases read

theorem readFields?_remnants {spoilt : List Stat} (some_spoilt : spoilt ≠ []) (used : UsedUp rest) :
    Json.readFields? (spoilt.flatMap remnant ++ rest) = none := by
  cases spoilt with
  | nil => exact absurd rfl some_spoilt
  | cons stat spoilt =>
    have nothing := value?_remnant stat (usedUp_remnants spoilt used) (Nat.le_refl _)
    rw [List.flatMap_cons, List.append_assoc, Json.readFields?, Json.read?, nothing]
    rfl

end reading

section lines

/-- The records that have a form and do not directly follow one that has none. -/
def unspoilt (spoilt : Bool) : List Stat → List Stat
  | [] => []
  | stat :: stats =>
    if stat.Dated then
      if spoilt then unspoilt false stats else stat :: unspoilt false stats
    else unspoilt true stats

theorem remnant_plain (stat : Stat) : ∀ c ∈ stat.remnant, Json.IsPlain c := by
  have fields : ∀ c ∈ stat.leading.flatMap (fun field => Json.renderField field ++ [',']),
      Json.IsPlain c := by
    intro c member
    obtain ⟨field, _, inside⟩ := List.mem_flatMap.mp member
    rcases List.mem_append.mp inside with inside | inside
    · exact Json.renderField_plain field c inside
    · cases List.mem_singleton.mp inside
      decide
  rw [remnant, List.forall_mem_cons, List.forall_mem_append]
  exact ⟨by decide, fields, Json.plain_of_all (by decide)⟩

theorem remnants_plain (spoilt : List Stat) : ∀ c ∈ spoilt.flatMap remnant, Json.IsPlain c := by
  intro c member
  obtain ⟨stat, _, inside⟩ := List.mem_flatMap.mp member
  exact remnant_plain stat c inside

theorem plain_of_isPlain {text : List Char} (plain : ∀ c ∈ text, Json.IsPlain c) :
    ∀ c ∈ text, decide (c = '\n') = false := by
  intro c member
  refine decide_eq_false ?_
  rintro rfl
  exact newline_not_plain (plain _ member)

/-- The lines that are objects are those of the records that nothing spoils. -/
theorem objects_among_pieces (spoilt stats : List Stat) :
    (Text.pieces (· = '\n') (spoilt.flatMap remnant ++ jsonLines stats)).filter
        (fun line => (Json.readFields? line).isSome) =
      (unspoilt (!spoilt.isEmpty) stats).map objectText := by
  -- What spoilt records leave behind runs on into the next line, so they are carried along.
  induction stats generalizing spoilt with
  | nil =>
    have front := plain_of_isPlain (remnants_plain spoilt)
    have unread : Json.readFields? (spoilt.flatMap remnant) = none := by
      cases spoilt with
      | nil => rfl
      | cons stat spoilt =>
        have nothing := readFields?_remnants (List.cons_ne_nil stat spoilt) usedUp_nil
        rwa [List.append_nil] at nothing
    have none_left : spoilt.flatMap remnant ++ jsonLines [] = spoilt.flatMap remnant :=
      List.append_nil _
    rw [none_left, Text.pieces_of_plain front, List.filter_cons, unread]
    rfl
  | cons stat stats ih =>
    have joined : jsonLines (stat :: stats) = jsonLine stat ++ jsonLines stats := rfl
    by_cases dated : stat.Dated
    · have line : spoilt.flatMap remnant ++ jsonLines (stat :: stats) =
          (spoilt.flatMap remnant ++ stat.objectText) ++ '\n' :: jsonLines stats := by
        rw [joined, jsonLine_of_dated dated]
        simp
      have plain : ∀ c ∈ spoilt.flatMap remnant ++ stat.objectText, Json.IsPlain c :=
        List.forall_mem_append.mpr ⟨remnants_plain spoilt, Json.render_plain _⟩
      have later := ih []
      rw [List.flatMap_nil, List.nil_append] at later
      rw [line, Text.pieces_append (plain_of_isPlain plain) rfl, List.filter_cons, later, unspoilt,
        if_pos dated]
      cases spoilt with
      | nil =>
        have read : Json.readFields? (List.flatMap remnant [] ++ stat.objectText) =
            some stat.object := Json.readFields?_render stat.object
        rw [read]
        rfl
      | cons other spoilt =>
        have unread : Json.readFields? ((other :: spoilt).flatMap remnant ++ stat.objectText) =
            none := readFields?_remnants (List.cons_ne_nil other spoilt) (usedUp_render _)
        rw [unread]
        rfl
    · have line : spoilt.flatMap remnant ++ jsonLines (stat :: stats) =
          (spoilt ++ [stat]).flatMap remnant ++ jsonLines stats := by
        rw [joined, jsonLine_of_undated dated]
        simp
      have left : (!(spoilt ++ [stat]).isEmpty) = true := by simp
      rw [line, ih, left, unspoilt, if_neg dated]

theorem dated_of_mem_unspoilt {stat : Stat} {spoilt : Bool} {stats : List Stat}
    (member : stat ∈ unspoilt spoilt stats) : stat.Dated := by
  induction stats generalizing spoilt with
  | nil => cases member
  | cons first stats ih =>
    rw [unspoilt] at member
    split at member
    · rename_i dated
      split at member
      · exact ih member
      · rcases List.mem_cons.mp member with rfl | later
        · exact dated
        · exact ih later
    · exact ih member

theorem length_unspoilt_le (spoilt : Bool) (stats : List Stat) :
    (unspoilt spoilt stats).length ≤ (stats.filter (·.Dated)).length := by
  induction stats generalizing spoilt with
  | nil => exact Nat.le_refl 0
  | cons stat stats ih =>
    have clean := ih false
    rw [unspoilt]
    split
    · rename_i dated
      rw [List.filter_cons, if_pos (decide_eq_true dated), List.length_cons]
      split
      · omega
      · exact Nat.succ_le_succ clean
    · rename_i undated
      rw [List.filter_cons_of_neg (by simpa using undated)]
      exact ih true

theorem unspoilt_eq_filter (spoilt : Bool) (stats : List Stat) :
    unspoilt spoilt stats = stats.filter (·.Dated) ↔
      (spoilt = true → ∀ stat ∈ stats.head?, ¬stat.Dated) ∧
        stats.IsChain fun a b => a.Dated ∨ ¬b.Dated := by
  induction stats generalizing spoilt with
  | nil => exact ⟨fun _ => ⟨fun _ _ member => absurd member (by simp), .nil⟩, fun _ => rfl⟩
  | cons stat stats ih =>
    rw [unspoilt, List.isChain_cons]
    by_cases dated : stat.Dated
    · rw [if_pos dated, List.filter_cons, if_pos (decide_eq_true dated)]
      cases spoilt with
      | true =>
        have fewer := length_unspoilt_le false stats
        constructor
        · intro same
          have lengths := congrArg List.length same
          rw [if_pos rfl, List.length_cons] at lengths
          omega
        · rintro ⟨first, _⟩
          exact absurd dated (first rfl stat rfl)
      | false =>
        rw [if_neg Bool.false_ne_true, List.cons_inj_right, ih false]
        simp [dated]
    · rw [if_neg dated, List.filter_cons_of_neg (by simpa using dated), ih true]
      simp [dated]

/-- What the lines of an output tell, with records that have no form anywhere among the others: the
    objects of those records that do not directly follow one without a form. -/
theorem lines_of_unspoilt (stats : List Stat) :
    (Text.pieces (· = '\n') (jsonLines stats)).filter (fun line => (Json.readFields? line).isSome) =
      (unspoilt false stats).map objectText ∧
    (Text.pieces (· = '\n') (jsonLines stats)).filterMap ofLine? =
      (unspoilt false stats).map told ∧
    (unspoilt false stats = stats.filter (·.Dated) ↔
      stats.IsChain fun a b => a.Dated ∨ ¬b.Dated) := by
  have objects := objects_among_pieces [] stats
  rw [List.flatMap_nil, List.nil_append] at objects
  refine ⟨objects, ?_, ?_⟩
  · have read (lines : List (List Char)) : lines.filterMap ofLine? =
        (lines.filter fun line => (Json.readFields? line).isSome).filterMap ofLine? := by
      rw [List.filterMap_filter]
      refine List.filterMap_congr fun line _ => ?_
      cases found : Json.readFields? line with
      | none => simp [ofLine?, found]
      | some fields => simp
    rw [read, objects, List.filterMap_map]
    have told : ∀ stat ∈ unspoilt false stats, ofLine? stat.objectText = some stat.told :=
      fun stat member => ofLine?_objectText (dated_of_mem_unspoilt member)
    exact (List.filterMap_congr told).trans (congrFun List.filterMap_eq_map _)
  · rw [unspoilt_eq_filter false stats]
    simp

def earlyRecord : Stat :=
  { lane := "a <-> b", seq := 0, kind := .query, ns := none, command := none, numReturned := 0,
    latency := .zero, requestId := 1, playedAt := ⟨-1⟩, error := none, miss := false }

def lateRecord : Stat := { earlyRecord with seq := 1, playedAt := .epoch }

/-- A record that has a form, behind one that has none, is on no line that is an object. -/
theorem lateRecord_spoilt :
    (Text.pieces (· = '\n') (jsonLines [earlyRecord, lateRecord])).filter
        (fun line => (Json.readFields? line).isSome) ≠
      ([earlyRecord, lateRecord].filter (·.Dated)).map objectText := by
  have objects := objects_among_pieces [] [earlyRecord, lateRecord]
  have left : unspoilt false [earlyRecord, lateRecord] = [] := by decide
  have formed : [earlyRecord, lateRecord].filter (·.Dated) = [lateRecord] := by decide
  rw [List.flatMap_nil, List.nil_append] at objects
  rw [objects, List.isEmpty_nil, Bool.not_true, left, formed]
  exact (List.cons_ne_nil _ _).symm

end lines

end TrafficReplay.Stat
