import TrafficReplay.Proofs.Text.Json
import TrafficReplay.Proofs.Text.Utf8
import TrafficReplay.Stat.Reader

namespace TrafficReplay

theorem OpError.ofText?_text (error : OpError) : ofText? error.text = some error := by
  cases error <;> rfl

@[simp] theorem OpKind.ofText?_text (kind : OpKind) : ofText? kind.text = some kind := by
  cases kind <;> rfl

namespace Json

@[simp] theorem text?_text (text : String) : (Json.text text).text? = some text := rfl

@[simp] theorem bool?_bool (value : Bool) : (Json.bool value).bool? = some value := rfl

@[simp] theorem natural?_int (n : Nat) : (Json.int n).natural? = some n := rfl

@[simp] theorem int32?_toInt (n : Int32) : (Json.int n.toInt).int32? = some n := by
  have bounds : -2 ^ 31 ≤ n.toInt ∧ n.toInt < 2 ^ 31 := ⟨n.le_toInt, n.toInt_lt⟩
  simp only [int32?, int?, Option.bind_eq_bind, Option.bind_some, if_pos bounds, Int32.ofInt_toInt]

end Json

namespace Stat

/-- A record that has a form: it was played at the epoch or later. -/
def Dated (stat : Stat) : Prop := 0 ≤ stat.playedAt.nanos

instance : DecidablePred Dated := fun _ => inferInstanceAs (Decidable (_ ≤ _))

def leading (stat : Stat) : List (String × Json) :=
  [("lane", .text stat.lane),
    ("seq", .int stat.seq),
    ("op_type", .text stat.kind.text),
    ("ns", orNull .text stat.ns),
    ("command", orNull .text stat.command),
    ("num_returned", .int stat.numReturned.toInt),
    ("latency_us", .int stat.latency.micros.toNat),
    ("request_id", .int stat.requestId.toInt)]

def object (stat : Stat) : List (String × Json) :=
  stat.leading ++
    [("played_at", .object [("secs_since_epoch", .int stat.playedAt.seconds),
      ("nanos_since_epoch", .int stat.playedAt.subsecond)]),
    ("error", orNull (fun error => .text error.text) stat.error),
    ("translation_miss", .bool stat.miss)]

def objectText (stat : Stat) : List Char := (Json.object stat.object).render

def told (stat : Stat) : Stat :=
  { stat with latency := .ofNanos (1000 * min (stat.latency.nanos / 1000) (2 ^ 64 - 1)) }

theorem orNull?_orNull {α : Type} {form : α → Json} {read : Json → Option α}
    (proper : ∀ a, form a ≠ .null) (back : ∀ a, read (form a) = some a) (a : Option α) :
    (orNull form a).orNull? read = some a := by
  cases a with
  | none => rfl
  | some a =>
    rw [orNull, Json.orNull?]
    · rw [back, Option.map_some]
    · exact proper a

theorem toNat_micros (d : Duration) : d.micros.toNat = min (d.nanos / 1000) (2 ^ 64 - 1) := by
  rw [Duration.micros, UInt64.toNat_ofNat']
  exact Nat.mod_eq_of_lt (by omega)

theorem time?_whole {seconds subsecond : Nat} (small : subsecond < nanosPerSecond) :
    time? (.object [("secs_since_epoch", .int seconds), ("nanos_since_epoch", .int subsecond)]) =
      some ⟨seconds * nanosPerSecond + subsecond⟩ := by
  simp [time?, List.lookup_cons, small]

theorem time?_object {t : Timestamp} (late : 0 ≤ t.nanos) :
    time? (.object [("secs_since_epoch", .int t.seconds), ("nanos_since_epoch", .int t.subsecond)]) =
      some t := by
  obtain ⟨nanos⟩ := t
  obtain ⟨n, rfl⟩ := Int.eq_ofNat_of_zero_le late
  have positive : (0 : Int) ≤ nanosPerSecond := Int.natCast_nonneg _
  have seconds : Timestamp.seconds ⟨n⟩ = (n / nanosPerSecond : Nat) :=
    Int.fdiv_eq_ediv_of_nonneg _ positive
  have subsecond : Timestamp.subsecond ⟨n⟩ = n % nanosPerSecond := by
    rw [Timestamp.subsecond, Int.fmod_eq_emod_of_nonneg _ positive]
    rfl
  have whole : ((n / nanosPerSecond : Nat) : Int) * nanosPerSecond + (n % nanosPerSecond : Nat) = n := by
    exact_mod_cast Nat.div_add_mod' n nanosPerSecond
  rw [seconds, subsecond, time?_whole (Nat.mod_lt _ (by decide)), whole]

theorem ofFields?_object {stat : Stat} (dated : stat.Dated) :
    ofFields? stat.object = some stat.told := by
  have name (text : Option String) : (orNull Json.text text).orNull? Json.text? = some text :=
    orNull?_orNull (by rintro _ ⟨⟩) Json.text?_text text
  have error : (orNull (fun error => .text (OpError.text error)) stat.error).orNull? error? =
      some stat.error := orNull?_orNull (by rintro _ ⟨⟩) OpError.ofText?_text stat.error
  rw [told, ← toNat_micros]
  simp [ofFields?, object, leading, List.lookup_cons, time?_object dated, name, error]

theorem ofLine?_objectText {stat : Stat} (dated : stat.Dated) :
    ofLine? stat.objectText = some stat.told := by
  rw [ofLine?, objectText, Json.readFields?_render, Option.bind_some, ofFields?_object dated]

theorem writeFields_whole (fields : List (String × Json)) :
    writeFields (fields.map fun field => (field.1, some field.2)) =
      (Json.renderFields fields, true) := by
  induction fields with
  | nil => rfl
  | cons field rest ih =>
    cases rest with
    | nil => rfl
    | cons next rest =>
      have written : Json.renderFields (field :: next :: rest) = Json.renderText field.1 ++
          ':' :: field.2.render ++ ',' :: Json.renderFields (next :: rest) := rfl
      simp only [List.map_cons] at ih ⊢
      rw [writeFields, ih, written]
      rfl

theorem jsonLine_of_dated {stat : Stat} (dated : stat.Dated) :
    jsonLine stat = stat.objectText ++ ['\n'] := by
  have time : timeJson? stat.playedAt = some (.object
      [("secs_since_epoch", .int stat.playedAt.seconds),
        ("nanos_since_epoch", .int stat.playedAt.subsecond)]) := if_neg (Int.not_lt.mpr dated)
  have fields : stat.jsonFields = stat.object.map fun field => (field.1, some field.2) := by
    rw [jsonFields, time]
    rfl
  rw [jsonLine, fields, writeFields_whole]
  simp [objectText, Json.render]

theorem jsonLines_of_dated {stats : List Stat} (dated : ∀ stat ∈ stats, stat.Dated) :
    jsonLines stats = (stats.map objectText).flatMap (· ++ ['\n']) := by
  induction stats with
  | nil => rfl
  | cons stat stats ih =>
    obtain ⟨first, others⟩ := List.forall_mem_cons.mp dated
    have joined : jsonLines (stat :: stats) = jsonLine stat ++ jsonLines stats := rfl
    rw [joined, jsonLine_of_dated first, ih others]
    rfl

theorem newline_not_plain : ¬Json.IsPlain '\n' := by decide

theorem newline_not_mem_objectText (stat : Stat) : '\n' ∉ stat.objectText :=
  fun member => newline_not_plain (Json.render_plain _ _ member)

theorem count_lines {objects : List (List Char)} (plain : ∀ object ∈ objects, '\n' ∉ object) :
    (objects.flatMap (· ++ ['\n'])).count '\n' = objects.length := by
  induction objects with
  | nil => rfl
  | cons object objects ih =>
    obtain ⟨first, others⟩ := List.forall_mem_cons.mp plain
    rw [List.flatMap_cons, List.count_append, List.count_append, ih others,
      List.count_eq_zero_of_not_mem first, List.length_cons]
    exact Nat.add_comm _ _

/-- Every record has a line of its own, in the order of the records, and no line spoils another: a
    line break stands behind each object and nowhere else, and from each line its record is read, the
    latency in whole microseconds. -/
theorem lines_tell_records {stats : List Stat} {room : Nat} (dated : ∀ stat ∈ stats, stat.Dated)
    (fits : (Utf8.encodeChars (jsonLines stats)).length ≤ room) :
    ∃ objects : List (List Char),
      Utf8.decode (jsonWithin room stats) = .ok (String.ofList (objects.flatMap (· ++ ['\n']))) ∧
      (objects.flatMap (· ++ ['\n'])).count '\n' = stats.length ∧
      (∀ object ∈ objects, '\n' ∉ object) ∧
      objects.map ofLine? = stats.map (fun stat => some stat.told) ∧
      ∀ a ∈ stats, ∀ b ∈ stats, a.told ≠ b.told → jsonLine a ≠ jsonLine b := by
  have plain : ∀ object ∈ stats.map objectText, '\n' ∉ object := by
    intro object member
    obtain ⟨stat, _, rfl⟩ := List.mem_map.mp member
    exact newline_not_mem_objectText stat
  refine ⟨stats.map objectText, ?_, ?_, plain, ?_, ?_⟩
  · rw [jsonWithin, List.take_of_length_le fits, Utf8.decode, Utf8.decodeChars_encodeChars,
      jsonLines_of_dated dated]
    rfl
  · rw [count_lines plain, List.length_map]
  · rw [List.map_map]
    exact List.map_congr_left fun stat member => ofLine?_objectText (dated stat member)
  · intro a in_a b in_b different same
    rw [jsonLine_of_dated (dated a in_a), jsonLine_of_dated (dated b in_b)] at same
    have texts : a.objectText = b.objectText := List.append_cancel_right same
    have read := ofLine?_objectText (dated a in_a)
    rw [texts, ofLine?_objectText (dated b in_b)] at read
    exact different (Option.some.inj read).symm

def sampleRecords : List Stat :=
  [{ lane := "10.0.0.1:5000 <-> \"h\\\n\":27017", seq := 18446744073709551615, kind := .query,
     ns := some "db.\x01\t😀", command := some "", numReturned := -1, latency := .max,
     requestId := -2147483648, playedAt := ⟨1700000000123456789⟩, error := some .staleCursor,
     miss := true },
    { lane := "", seq := 0, kind := .command, ns := none, command := none, numReturned := 0,
      latency := .ofNanos 1999, requestId := 7, playedAt := .epoch, error := none, miss := false }]

theorem sampleRecords_told :
    (∀ stat ∈ sampleRecords, stat.Dated) ∧
    (Utf8.encodeChars (jsonLines sampleRecords)).length ≤ 1000 ∧
    ∃ objects : List (List Char),
      Utf8.decode (jsonWithin 1000 sampleRecords) =
        .ok (String.ofList (objects.flatMap (· ++ ['\n']))) ∧
      (objects.flatMap (· ++ ['\n'])).count '\n' = sampleRecords.length ∧
      (∀ object ∈ objects, '\n' ∉ object) ∧
      objects.map ofLine? = sampleRecords.map (fun stat => some stat.told) ∧
      ∀ a ∈ sampleRecords, ∀ b ∈ sampleRecords, a.told ≠ b.told → jsonLine a ≠ jsonLine b := by
  have dated : ∀ stat ∈ sampleRecords, stat.Dated := by decide
  have fits : (Utf8.encodeChars (jsonLines sampleRecords)).length ≤ 1000 := by decide +kernel
  exact ⟨dated, fits, lines_tell_records dated fits⟩

end Stat

end TrafficReplay
