import TrafficReplay.Proofs.Document.Reading
import TrafficReplay.Proofs.Wire.Rewrite
import TrafficReplay.Server.Basic

namespace TrafficReplay

def Document.bytes (doc : Document) : List UInt8 := doc.encode?.getD []

theorem Document.encode?_eq {doc : Document} (encodable : doc.encode?.isSome) :
    doc.encode? = some doc.bytes := by
  obtain ⟨bytes, written⟩ := Option.isSome_iff_exists.mp encodable
  rw [Document.bytes, written]
  rfl

theorem Document.decode?_bytes {doc : Document} (encodable : doc.encode?.isSome)
    (plain : fieldsPlain doc = true) (short : doc.bytes.length < 2 ^ 31) :
    Document.decode? doc.bytes = some doc :=
  Document.decode?_encode? (Document.encode?_eq encodable) plain short

theorem Document.length_bytes {doc : Document} (encodable : doc.encode?.isSome) :
    5 ≤ doc.bytes.length := by
  obtain ⟨content, _, framed⟩ := Option.map_eq_some_iff.mp (Document.encode?_eq encodable)
  rw [← framed, length_frameFields]
  omega

theorem Document.length_le {docs : List Document} (encodable : ∀ doc ∈ docs, doc.encode?.isSome) :
    docs.length ≤ (docs.flatMap Document.bytes).length := by
  induction docs with
  | nil => exact Nat.le_refl 0
  | cons doc rest ih =>
    have long := Document.length_bytes (encodable doc List.mem_cons_self)
    have later := ih fun other member => encodable other (List.mem_cons_of_mem _ member)
    rw [List.flatMap_cons, List.length_append, List.length_cons]
    omega

theorem readCString_encode (front back : List UInt8) {text : String} {offset : Nat}
    (clean : '\x00' ∉ text.toList) (start : front.length = offset) :
    readCString (front ++ (Utf8.encode text ++ 0 :: back)) offset =
      .ok (text, offset + (Utf8.encode text).length + 1) := by
  subst start
  have inside : ¬(front ++ (Utf8.encode text ++ 0 :: back)).length < front.length := by simp
  simp only [readCString, if_neg inside, List.drop_left, splitAtZero?_encode clean,
    Utf8.decode_encode]

theorem readDocument_decoded (front back : List UInt8) {doc read : Document} {offset : Nat}
    (decoded : Document.decode? doc.bytes = some read) (start : front.length = offset) :
    readDocument (front ++ (doc.bytes ++ back)) offset = .ok (read, offset + doc.bytes.length) :=
  readDocument_of_drop (List.drop_left' start) decoded

theorem readDocument_bytes (front back : List UInt8) {doc : Document} {offset : Nat}
    (encodable : doc.encode?.isSome) (plain : fieldsPlain doc = true)
    (short : doc.bytes.length < 2 ^ 31) (start : front.length = offset) :
    readDocument (front ++ (doc.bytes ++ back)) offset = .ok (doc, offset + doc.bytes.length) :=
  readDocument_decoded front back (Document.decode?_bytes encodable plain short) start

namespace Server

theorem readDocuments_bytes {docs : List Document} (front : List UInt8) {fuel offset : Nat}
    (encodable : ∀ doc ∈ docs, doc.encode?.isSome) (plain : ∀ doc ∈ docs, fieldsPlain doc = true)
    (short : (docs.flatMap Document.bytes).length < 2 ^ 31) (start : front.length = offset)
    (enough : docs.length ≤ fuel) :
    readDocuments (front ++ docs.flatMap Document.bytes) fuel offset = .ok docs := by
  induction docs generalizing front fuel offset with
  | nil =>
    cases fuel with
    | zero => rfl
    | succ fuel => simp [readDocuments, start]
  | cons doc rest ih =>
    cases fuel with
    | zero => cases enough
    | succ fuel =>
      have encoded := encodable doc List.mem_cons_self
      have long := Document.length_bytes encoded
      rw [List.flatMap_cons, List.length_append] at short
      have inside : offset < (front ++ (doc.bytes ++ rest.flatMap Document.bytes)).length := by
        simp only [List.length_append]
        omega
      have first := readDocument_bytes front (rest.flatMap Document.bytes) encoded
        (plain doc List.mem_cons_self) (by omega) start
      have later := ih (front ++ doc.bytes) (fun other member => encodable other (by simp [member]))
        (fun other member => plain other (by simp [member])) (by omega)
        (by rw [List.length_append, start]) (Nat.le_of_succ_le_succ enough)
      rw [List.append_assoc] at later
      rw [List.flatMap_cons, readDocuments, if_pos inside, first]
      simp only [bind, Except.bind, later]
      rfl

theorem documents_appendTo (ns other : String) (docs : List Document)
    (collections : List (String × List Document)) :
    ((appendTo ns docs collections).lookup other).getD [] =
      (collections.lookup other).getD [] ++ if other = ns then docs else [] := by
  induction collections with
  | nil =>
    by_cases same : other = ns
    · simp [appendTo, same]
    · have apart : (other == ns) = false := by simpa using same
      simp [appendTo, same, List.lookup_cons, apart]
  | cons entry rest ih =>
    obtain ⟨held, kept⟩ := entry
    by_cases here : other = held
    · subst here
      by_cases same : other = ns <;> simp [appendTo, same]
    · have past : (other == held) = false := by simpa using here
      rw [appendTo]
      split
      · rename_i found
        have apart : other ≠ ns := found ▸ here
        simp [List.lookup_cons, past, apart]
      · simpa only [List.lookup_cons, past] using ih

theorem documents_store (server : Server) (ns other : String) (docs : List Document) :
    (server.store ns docs).documents other =
      server.documents other ++ if other = ns then docs else [] :=
  documents_appendTo ns other docs server.collections

end Server

namespace Frame

def Part.bytes (part : Part) : List UInt8 := part.encode?.getD []

theorem encodeParts?_eq {parts : List Part} (encodable : ∀ part ∈ parts, part.encode?.isSome) :
    encodeParts? parts = some (parts.flatMap Part.bytes) := by
  induction parts with
  | nil => rfl
  | cons part rest ih =>
    obtain ⟨bytes, written⟩ := Option.isSome_iff_exists.mp (encodable part List.mem_cons_self)
    have later := ih fun other member => encodable other (List.mem_cons_of_mem _ member)
    simp only [encodeParts?, written, later, bind, Option.bind, pure, List.flatMap_cons, Part.bytes,
      Option.getD_some]

theorem isSome_of_encodeParts? {parts : List Part} {body : List UInt8}
    (encoded : encodeParts? parts = some body) : ∀ part ∈ parts, part.encode?.isSome := by
  induction parts generalizing body with
  | nil => exact List.forall_mem_nil _
  | cons part rest ih =>
    simp only [encodeParts?, Option.bind_eq_bind, Option.bind_eq_some_iff] at encoded
    obtain ⟨bytes, written, others, later, _⟩ := encoded
    intro other member
    rcases List.mem_cons.mp member with rfl | member
    · exact Option.isSome_iff_exists.mpr ⟨bytes, written⟩
    · exact ih later other member

theorem ofParts_eq_ok {opCode : OpCode} {requestId responseTo : Int32} {parts : List Part}
    {body : List UInt8} (encoded : encodeParts? parts = some body)
    (fits : headerLength + body.length ≤ frameLimit) :
    ofParts opCode requestId responseTo parts = .ok ⟨requestId, responseTo, opCode, body, fits⟩ := by
  have small : frameLimit < 2 ^ 31 := by decide
  have below : ¬2 ^ 31 ≤ headerLength + body.length := by omega
  simp only [ofParts, encoded, if_neg below, dif_pos fits]

/-- What a frame is built to say. -/
inductive Saying where
  | insert (ns : String) (docs : List Document)
  | query (ns : String) (skip limit : Int32) (doc : Document)
  | getMore (ns : String) (limit : Int32) (cursor : Int64)
  | killCursors (cursors : List Int64)
  | reply (responseTo flags : Int32) (cursor : Int64) (start : Int32) (docs : List Document)
  | command (db name : String) (arguments : Document)
  | commandReply (responseTo : Int32) (doc : Document)
  | msg (responseTo : Int32) (doc : Document)

def leadingKey? : Document → Option String
  | [] => none
  | ("$query", .document inner) :: _ => Document.firstKey? inner
  | ("query", .document inner) :: _ => Document.firstKey? inner
  | (key, _) :: _ => some key

namespace Saying

def opCode : Saying → OpCode
  | .insert .. => .insert
  | .query .. => .query
  | .getMore .. => .getMore
  | .killCursors .. => .killCursors
  | .reply .. => .reply
  | .command .. => .command
  | .commandReply .. => .commandReply
  | .msg .. => .msg

def responseTo : Saying → Int32
  | .reply responseTo .. | .commandReply responseTo _ | .msg responseTo _ => responseTo
  | _ => 0

def strings : Saying → List String
  | .insert ns _ | .query ns .. | .getMore ns .. => [ns]
  | .command db name _ => [db, name]
  | _ => []

def documents : Saying → List Document
  | .insert _ docs | .reply _ _ _ _ docs => docs
  | .query _ _ _ doc | .command _ _ doc | .commandReply _ doc | .msg _ doc => [doc]
  | _ => []

def build (requestId : Int32) : Saying → Except FrameFault Frame
  | .insert ns docs => Frame.insert requestId ns docs
  | .query ns skip limit doc => Frame.query requestId ns skip limit doc
  | .getMore ns limit cursor => Frame.getMore requestId ns limit cursor
  | .killCursors cursors => Frame.killCursors requestId cursors
  | .reply responseTo flags cursor start docs =>
    Frame.reply requestId responseTo flags cursor start docs
  | .command db name arguments => Frame.command requestId db name arguments
  | .commandReply responseTo doc => Frame.commandReply requestId responseTo doc
  | .msg responseTo doc => Frame.msg requestId responseTo doc

def parts : Saying → List Part
  | .insert ns docs => .int32 0 :: .text ns :: docs.map .document
  | .query ns skip limit doc => [.int32 0, .text ns, .int32 skip, .int32 limit, .document doc]
  | .getMore ns limit cursor => [.int32 0, .text ns, .int32 limit, .int64 cursor]
  | .killCursors cursors =>
    .int32 0 :: .int32 (Int32.ofNat cursors.length) :: cursors.map .int64
  | .reply _ flags cursor start docs =>
    .int32 flags :: .int64 cursor :: .int32 start :: .int32 (Int32.ofNat docs.length) ::
      docs.map .document
  | .command db name arguments => [.text db, .text name, .document [], .document arguments]
  | .commandReply _ doc => [.document doc, .document []]
  | .msg _ doc => [.int32 0, .byte 0, .document doc]

def body : Saying → List UInt8
  | .insert ns docs => int32Bytes 0 ++ (Utf8.encode ns ++ 0 :: docs.flatMap Document.bytes)
  | .query ns skip limit doc =>
    int32Bytes 0 ++ (Utf8.encode ns ++ 0 :: (int32Bytes skip ++ (int32Bytes limit ++ doc.bytes)))
  | .getMore ns limit cursor =>
    int32Bytes 0 ++ (Utf8.encode ns ++ 0 :: (int32Bytes limit ++ int64Bytes cursor))
  | .killCursors cursors =>
    int32Bytes 0 ++ (int32Bytes (Int32.ofNat cursors.length) ++ cursors.flatMap int64Bytes)
  | .reply _ flags cursor start docs =>
    int32Bytes flags ++ (int64Bytes cursor ++ (int32Bytes start ++
      (int32Bytes (Int32.ofNat docs.length) ++ docs.flatMap Document.bytes)))
  | .command db name arguments =>
    Utf8.encode db ++ 0 :: (Utf8.encode name ++ 0 ::
      (Document.bytes [] ++ Document.bytes arguments))
  | .commandReply _ doc => doc.bytes ++ Document.bytes []
  | .msg _ doc => int32Bytes 0 ++ 0 :: doc.bytes

def size (saying : Saying) : Nat := headerLength + saying.body.length

/-- What the readers of a frame find in it. -/
def IsReadIn (frame : Frame) : Saying → Prop
  | .insert ns docs =>
    frame.namespace? = some ns ∧
      ∀ server : Server, server.apply frame = (server.store ns docs, .ok none) ∧
        ∀ other, (server.store ns docs).documents other =
          server.documents other ++ if other = ns then docs else []
  | .query ns _ limit doc =>
    frame.namespace? = some ns ∧ frame.numberToReturn? = some limit ∧
      frame.queryDocument = .ok doc ∧
      (frame.kind = .command ↔ commandSuffix.toList <:+ ns.toList) ∧
      (frame.kind = .command → frame.commandName? = leadingKey? doc)
  | .getMore ns limit cursor =>
    frame.namespace? = some ns ∧ frame.numberToReturn? = some limit ∧
      frame.cursorIds = .ok [cursor]
  | .killCursors cursors => frame.cursorIds = .ok cursors
  | .reply _ flags cursor _ docs =>
    frame.cursorIds = .ok [cursor] ∧
      (∃ summary, frame.replySummary = .ok summary ∧ summary.cursorId = cursor ∧
        summary.numberReturned.toInt = docs.length ∧
        summary.failed = (flags.toBitVec.getLsbD 0 || flags.toBitVec.getLsbD 1)) ∧
      frame.replyDocument = match docs with
        | [] => .error .noReplyDocument
        | doc :: _ => .ok doc
  | .command db name _ =>
    frame.namespace? = some (db ++ commandSuffix) ∧ frame.commandName? = some name
  | .commandReply _ doc => frame.replyDocument = .ok doc
  | .msg _ doc =>
    frame.commandName? = doc.firstKey? ∧
      frame.namespace? = (doc.text? "$db").map (· ++ commandSuffix) ∧
      frame.replyDocument = .ok doc

theorem build_eq (saying : Saying) (requestId : Int32) :
    saying.build requestId = ofParts saying.opCode requestId saying.responseTo saying.parts := by
  cases saying <;> rfl

theorem flatMap_parts (saying : Saying) : saying.parts.flatMap Part.bytes = saying.body := by
  have documents (docs : List Document) :
      docs.flatMap (fun doc => doc.encode?.getD []) = docs.flatMap Document.bytes := rfl
  cases saying <;>
    simp [parts, body, Part.bytes, Part.encode?, List.flatMap_map, documents, Document.bytes]

theorem encodable_parts (saying : Saying) : (∀ part ∈ saying.parts, part.encode?.isSome) ↔
    ∀ doc ∈ saying.documents, doc.encode?.isSome := by
  have empty : (Document.encode? []).isSome := rfl
  cases saying <;> simp [parts, documents, Part.encode?, empty]

theorem build_eq_ok {saying : Saying} {requestId : Int32} {frame : Frame} :
    saying.build requestId = .ok frame ↔ (∀ doc ∈ saying.documents, doc.encode?.isSome) ∧
      ∃ fits : saying.size ≤ frameLimit,
        frame = ⟨requestId, saying.responseTo, saying.opCode, saying.body, fits⟩ := by
  rw [build_eq, ← encodable_parts]
  constructor
  · intro made
    obtain ⟨encoded, code, own, response⟩ := ofParts_ok made
    have encodable := isSome_of_encodeParts? encoded
    have same := (encodeParts?_eq encodable).symm.trans encoded
    rw [flatMap_parts, Option.some.injEq] at same
    refine ⟨encodable, by rw [size, same]; exact frame.body_le, ?_⟩
    obtain ⟨requestId, responseTo, opCode, held, fits⟩ := frame
    dsimp only at code own response same
    subst code own response same
    rfl
  · rintro ⟨encodable, fits, rfl⟩
    exact ofParts_eq_ok ((encodeParts?_eq encodable).trans (by rw [flatMap_parts])) fits

end Saying

theorem readInt64_flatMap (front : List UInt8) (cursors : List Int64) :
    List.Forall₂ (fun field cursor =>
        readInt64 (front ++ cursors.flatMap int64Bytes) field = .ok cursor)
      ((List.range cursors.length).map fun i => front.length + i * 8) cursors := by
  induction cursors generalizing front with
  | nil => exact .nil
  | cons cursor rest ih =>
    have later := ih (front ++ int64Bytes cursor)
    have further (i : Nat) : (front ++ int64Bytes cursor).length + i * 8 =
        front.length + (i + 1) * 8 := by
      rw [List.length_append, length_int64Bytes]
      omega
    simp only [further, List.append_assoc] at later
    rw [List.length_cons, List.range_succ_eq_map, List.map_cons, List.map_map, List.flatMap_cons]
    exact .cons (readInt64_append front _ cursor (by simp)) later

theorem isCommandNamespace_iff {ns : String} :
    isCommandNamespace ns = true ↔ commandSuffix.toList <:+ ns.toList := by
  rw [isCommandNamespace, String.endsWith_eq_endsWith_toSlice, String.Slice.endsWith_string_iff,
    String.copy_toSlice]

theorem commandKey?_eq (doc : Document) : commandKey? doc = leadingKey? doc := by
  fun_cases leadingKey? doc with
  | case1 => rfl
  | case2 inner rest => rfl
  | case3 inner rest => rfl
  | case4 key value rest unwrapped unasked =>
    by_cases wrapper : key = "$query" ∨ key = "query"
    · have held : (Document.document? ((key, value) :: rest) key) = none := by
        simp only [Document.document?, Document.get?, List.lookup_cons, beq_self_eq_true]
        cases value with
        | document inner =>
          rcases wrapper with rfl | rfl
          · exact absurd rfl (unwrapped inner rfl)
          · exact absurd rfl (unasked inner rfl)
        | _ => rfl
      simp only [commandKey?, Document.firstKey?, List.head?_cons, Option.map_some,
        Option.bind_eq_bind, Option.bind_some, if_pos wrapper, held]
      rfl
    · simp only [commandKey?, Document.firstKey?, List.head?_cons, Option.map_some,
        Option.bind_eq_bind, Option.bind_some, if_neg wrapper]
      rfl

theorem failureFlags (flags : Int32) :
    decide (flags &&& (cursorNotFoundFlag ||| queryFailureFlag) ≠ 0) =
      (flags.toBitVec.getLsbD 0 || flags.toBitVec.getLsbD 1) := by
  have masked : (flags &&& (cursorNotFoundFlag ||| queryFailureFlag)).toBitVec.toNat =
      flags.toBitVec.toNat % 2 ^ 2 := by
    rw [Int32.toBitVec_and, BitVec.toNat_and]
    exact Nat.and_two_pow_sub_one_eq_mod _ 2
  have zero : flags &&& (cursorNotFoundFlag ||| queryFailureFlag) = 0 ↔
      flags.toBitVec.toNat % 2 ^ 2 = 0 := by
    rw [← masked, ← Int32.toBitVec_inj, BitVec.toNat_inj.symm]
    rfl
  rw [Bool.eq_iff_iff, decide_eq_true_eq, Bool.or_eq_true, ne_eq, zero, BitVec.getLsbD,
    BitVec.getLsbD, Nat.testBit_eq_decide_div_mod_eq, Nat.testBit_eq_decide_div_mod_eq,
    decide_eq_true_eq, decide_eq_true_eq]
  omega

namespace Saying

section Readers

variable {frame : Frame} {ns : String}

theorem namespace_read {rest : List UInt8} (clean : '\x00' ∉ ns.toList)
    (body : frame.body = int32Bytes 0 ++ (Utf8.encode ns ++ 0 :: rest)) :
    readCString frame.body 4 = .ok (ns, 4 + (Utf8.encode ns).length + 1) := by
  rw [body]
  exact readCString_encode _ rest clean (length_int32Bytes 0)

theorem insert_isReadIn {docs : List Document} (code : frame.opCode = .insert)
    (body : frame.body = (insert ns docs).body) (clean : '\x00' ∉ ns.toList)
    (encodable : ∀ doc ∈ docs, doc.encode?.isSome) (plain : ∀ doc ∈ docs, fieldsPlain doc = true) :
    (insert ns docs).IsReadIn frame := by
  have text := namespace_read clean body
  have split : frame.body = (int32Bytes 0 ++ (Utf8.encode ns ++ [0])) ++
      docs.flatMap Document.bytes := by
    rw [body, Saying.body]
    simp
  have fits := frame.body_le
  have limit : frameLimit < 2 ^ 31 := by decide
  have start : (int32Bytes 0 ++ (Utf8.encode ns ++ [0])).length =
      4 + (Utf8.encode ns).length + 1 := by
    simp
    omega
  have total := congrArg List.length split
  rw [List.length_append] at total
  have count := Document.length_le encodable
  have read : Server.readDocuments frame.body frame.body.length
      (4 + (Utf8.encode ns).length + 1) = .ok docs := by
    have whole := Server.readDocuments_bytes _ encodable plain (by omega) start
      (show docs.length ≤ frame.body.length by omega)
    rwa [← split] at whole
  have inserted : Server.insertion frame = .ok (ns, docs) := by
    simp only [Server.insertion, text, read, bind, Except.bind]
    rfl
  refine ⟨by simp [namespace?, code, text, Except.toOption], fun server => ⟨?_, fun other => ?_⟩⟩
  · simp only [Server.apply, code, inserted]
  · exact Server.documents_store server ns other docs

theorem query_short {skip limit : Int32} {doc : Document}
    (body : frame.body = (query ns skip limit doc).body) : doc.bytes.length < 2 ^ 31 := by
  have fits := frame.body_le
  have small : frameLimit < 2 ^ 31 := by decide
  have total := congrArg List.length body
  simp only [Saying.body, List.length_append, List.length_cons] at total
  omega

theorem queryDocument_decoded {skip limit : Int32} {doc read : Document}
    (code : frame.opCode = .query) (body : frame.body = (query ns skip limit doc).body)
    (clean : '\x00' ∉ ns.toList) (decoded : Document.decode? doc.bytes = some read) :
    frame.queryDocument = .ok read := by
  have text := namespace_read clean body
  have doc_read : readDocument frame.body (4 + (Utf8.encode ns).length + 1 + 8) =
      .ok (read, 4 + (Utf8.encode ns).length + 1 + 8 + doc.bytes.length) := by
    have whole := readDocument_decoded
      (int32Bytes 0 ++ (Utf8.encode ns ++ 0 :: (int32Bytes skip ++ int32Bytes limit))) [] decoded rfl
    simpa [body, Saying.body, ← Nat.add_assoc] using whole
  simp only [queryDocument, code, text, doc_read, bind, Except.bind]
  rfl

theorem query_isReadIn {skip limit : Int32} {doc : Document} (code : frame.opCode = .query)
    (body : frame.body = (query ns skip limit doc).body) (clean : '\x00' ∉ ns.toList)
    (encodable : doc.encode?.isSome) (plain : fieldsPlain doc = true) :
    (query ns skip limit doc).IsReadIn frame := by
  have text := namespace_read clean body
  have limit_read : readInt32 frame.body (4 + (Utf8.encode ns).length + 1 + 4) = .ok limit := by
    have whole := readInt32_append (int32Bytes 0 ++ (Utf8.encode ns ++ 0 :: int32Bytes skip))
      doc.bytes limit rfl
    simpa [body, Saying.body, ← Nat.add_assoc] using whole
  have named : frame.namespace? = some ns := by simp [namespace?, code, text, Except.toOption]
  have asked : frame.queryDocument = .ok doc := queryDocument_decoded code body clean
    (Document.decode?_bytes encodable plain (query_short body))
  have commanding : frame.isCommandQuery = isCommandNamespace ns := by
    simp [isCommandQuery, code, named]
  have kind_iff : frame.kind = .command ↔ isCommandNamespace ns = true := by
    rw [kind, code]
    simp [commanding]
  refine ⟨named, ?_, asked, kind_iff.trans isCommandNamespace_iff, fun is_command => ?_⟩
  · simp [numberToReturn?, text, code, limit_read, Except.toOption]
  · rw [kind_iff, ← commanding] at is_command
    simp [commandName?, code, is_command, asked, Except.toOption, commandKey?_eq]

theorem getMore_isReadIn {limit : Int32} {cursor : Int64} (code : frame.opCode = .getMore)
    (body : frame.body = (getMore ns limit cursor).body) (clean : '\x00' ∉ ns.toList) :
    (getMore ns limit cursor).IsReadIn frame := by
  have text := namespace_read clean body
  have total := congrArg List.length body
  simp only [Saying.body, List.length_append, List.length_cons, length_int32Bytes,
    length_int64Bytes] at total
  have limit_read : readInt32 frame.body (4 + (Utf8.encode ns).length + 1) = .ok limit := by
    have whole := readInt32_append (int32Bytes 0 ++ (Utf8.encode ns ++ [0])) (int64Bytes cursor)
      limit rfl
    simpa [body, Saying.body, ← Nat.add_assoc] using whole
  have cursor_read : readInt64 frame.body (4 + (Utf8.encode ns).length + 1 + 4) = .ok cursor := by
    have whole := readInt64_append (int32Bytes 0 ++ (Utf8.encode ns ++ 0 :: int32Bytes limit)) []
      cursor rfl
    simpa [body, Saying.body, ← Nat.add_assoc] using whole
  have placed : frame.CursorFieldsAt [4 + (Utf8.encode ns).length + 1 + 4] :=
    .more code text (by omega)
  refine ⟨by simp [namespace?, code, text, Except.toOption], ?_, ?_⟩
  · simp [numberToReturn?, text, code, limit_read, Except.toOption]
  · simp only [cursorIds, cursorFields_of_at placed, bind, Except.bind]
    exact mapM_eq_ok.mpr (.cons cursor_read .nil)

theorem killCursors_isReadIn {cursors : List Int64} (code : frame.opCode = .killCursors)
    (body : frame.body = (killCursors cursors).body) : (killCursors cursors).IsReadIn frame := by
  have fits := frame.body_le
  have limit : frameLimit < 2 ^ 31 := by decide
  have total := congrArg List.length body
  have bytes : (cursors.flatMap int64Bytes).length = cursors.length * 8 := by
    simp [List.length_flatMap]
  simp only [Saying.body, List.length_append, length_int32Bytes, bytes] at total
  have small : cursors.length < 2 ^ 31 := by omega
  obtain ⟨positive, count⟩ := clamp_of_toInt (Int32.toInt_ofNat_of_lt small)
  have number : readInt32 frame.body 4 = .ok (Int32.ofNat cursors.length) := by
    rw [body]
    exact readInt32_append (int32Bytes 0) _ _ (length_int32Bytes 0)
  have placed := CursorFieldsAt.killed code number positive (by omega)
  have read := readInt64_flatMap (int32Bytes 0 ++ int32Bytes (Int32.ofNat cursors.length)) cursors
  simp only [List.append_assoc, List.length_append, length_int32Bytes] at read
  change frame.cursorIds = .ok cursors
  simp only [cursorIds, cursorFields_of_at placed, bind, Except.bind, count]
  rw [body]
  exact mapM_eq_ok.mpr read

theorem reply_isReadIn {requestId responseTo flags start : Int32} {cursor : Int64}
    {docs : List Document} (made : Frame.reply requestId responseTo flags cursor start docs = .ok frame)
    (body : frame.body = (reply responseTo flags cursor start docs).body)
    (encodable : ∀ doc ∈ docs, doc.encode?.isSome) (plain : ∀ doc ∈ docs, fieldsPlain doc = true) :
    (reply responseTo flags cursor start docs).IsReadIn frame := by
  have code : frame.opCode = .reply := (ofParts_ok made).2.1
  have fits := frame.body_le
  have limit : frameLimit < 2 ^ 31 := by decide
  have total := congrArg List.length body
  simp only [Saying.body, List.length_append, length_int32Bytes, length_int64Bytes] at total
  have count := Document.length_le encodable
  have number_value := Int32.toInt_ofNat_of_lt (show docs.length < 2 ^ 31 by omega)
  have cursor_read : readInt64 frame.body 4 = .ok cursor := by
    rw [body]
    exact readInt64_append _ _ cursor (length_int32Bytes flags)
  have number_read : readInt32 frame.body 16 = .ok (Int32.ofNat docs.length) := by
    have whole := readInt32_append (int32Bytes flags ++ (int64Bytes cursor ++ int32Bytes start))
      (docs.flatMap Document.bytes) (Int32.ofNat docs.length) rfl
    simpa [body, Saying.body] using whole
  refine ⟨?_, ⟨_, reply_summary made, rfl, number_value, failureFlags flags⟩, ?_⟩
  · simp only [cursorIds, cursorFields_of_at (.answered code (by omega)), bind, Except.bind]
    exact mapM_eq_ok.mpr (.cons cursor_read .nil)
  · have none_iff : Int32.ofNat docs.length < 1 ↔ docs = [] := by
      rw [Int32.lt_iff_toInt_lt, number_value, ← List.length_eq_zero_iff]
      change (docs.length : Int) < 1 ↔ _
      omega
    cases docs with
    | nil =>
      simp only [replyDocument, code, number_read, bind, Except.bind, if_pos (none_iff.mpr rfl)]
      rfl
    | cons doc rest =>
      have some : ¬Int32.ofNat (doc :: rest).length < 1 := fun none => List.cons_ne_nil _ _ (none_iff.mp none)
      have doc_read : readDocument frame.body 20 = .ok (doc, 20 + doc.bytes.length) := by
        simp only [List.flatMap_cons, List.length_append] at total
        have whole := readDocument_bytes (int32Bytes flags ++ (int64Bytes cursor ++
          (int32Bytes start ++ int32Bytes (Int32.ofNat (doc :: rest).length))))
          (rest.flatMap Document.bytes) (encodable doc List.mem_cons_self)
          (plain doc List.mem_cons_self) (by omega) rfl
        simpa [body, Saying.body] using whole
      simp only [replyDocument, code, number_read, bind, Except.bind, if_neg some, doc_read]
      rfl

theorem command_isReadIn {db name : String} {arguments : Document} (code : frame.opCode = .command)
    (body : frame.body = (command db name arguments).body) (clean_db : '\x00' ∉ db.toList)
    (clean_name : '\x00' ∉ name.toList) : (command db name arguments).IsReadIn frame := by
  have db_read : readCString frame.body 0 = .ok (db, (Utf8.encode db).length + 1) := by
    have whole := readCString_encode [] (Utf8.encode name ++ 0 ::
      (Document.bytes [] ++ Document.bytes arguments)) clean_db rfl
    simpa [body, Saying.body] using whole
  have name_read : readCString frame.body ((Utf8.encode db).length + 1) =
      .ok (name, (Utf8.encode db).length + 1 + (Utf8.encode name).length + 1) := by
    have whole := readCString_encode (Utf8.encode db ++ [0])
      (Document.bytes [] ++ Document.bytes arguments) clean_name rfl
    simpa [body, Saying.body] using whole
  constructor
  · simp [namespace?, code, db_read, Except.toOption]
  · simp [commandName?, code, db_read, name_read, Except.toOption]

theorem commandReply_isReadIn {responseTo : Int32} {doc : Document}
    (code : frame.opCode = .commandReply)
    (body : frame.body = (commandReply responseTo doc).body) (encodable : doc.encode?.isSome)
    (plain : fieldsPlain doc = true) : (commandReply responseTo doc).IsReadIn frame := by
  have fits := frame.body_le
  have limit : frameLimit < 2 ^ 31 := by decide
  have total := congrArg List.length body
  simp only [Saying.body, List.length_append] at total
  have doc_read : readDocument frame.body 0 = .ok (doc, 0 + doc.bytes.length) := by
    rw [body]
    exact readDocument_bytes [] _ encodable plain (by omega) rfl
  change frame.replyDocument = .ok doc
  simp only [replyDocument, code, doc_read, bind, Except.bind]
  rfl

theorem msg_isReadIn {responseTo : Int32} {doc : Document} (code : frame.opCode = .msg)
    (body : frame.body = (msg responseTo doc).body) (encodable : doc.encode?.isSome)
    (plain : fieldsPlain doc = true) : (msg responseTo doc).IsReadIn frame := by
  have fits := frame.body_le
  have limit : frameLimit < 2 ^ 31 := by decide
  have total := congrArg List.length body
  simp only [Saying.body, List.length_append, List.length_cons, length_int32Bytes] at total
  have flags_read : readInt32 frame.body 0 = .ok 0 := by
    rw [body]
    exact readInt32_append [] _ 0 rfl
  have doc_read : readDocument frame.body 5 = .ok (doc, 5 + doc.bytes.length) := by
    have whole := readDocument_bytes (int32Bytes 0 ++ [0]) [] encodable plain (by omega) rfl
    simpa [body, Saying.body] using whole
  have kind : frame.body[4]? = some 0 := by
    rw [body]
    exact List.getElem?_append_right (by simp)
  have inside : 4 < sectionsEnd 0 frame.body.length := by
    change 4 < frame.body.length
    omega
  have read : frame.messageDocument = .ok doc := by
    simp only [messageDocument, flags_read, bind, Except.bind]
    rw [bodySection, if_pos inside]
    simp only [kind, if_true, doc_read]
    rfl
  refine ⟨?_, ?_, ?_⟩
  · simp [commandName?, code, read, Except.toOption]
  · simp only [namespace?, code, read, Except.toOption, Option.bind_eq_bind, Option.bind_some]
    cases doc.text? "$db" <;> rfl
  · simp only [replyDocument, code, read]

end Readers

/-- Every reader of a built frame gives back what the frame was built to say. -/
theorem isReadIn_of_build {requestId : Int32} {saying : Saying} {frame : Frame}
    (made : saying.build requestId = .ok frame) (clean : ∀ text ∈ saying.strings, '\x00' ∉ text.toList)
    (plain : ∀ doc ∈ saying.documents, fieldsPlain doc = true) : saying.IsReadIn frame := by
  obtain ⟨encodable, fits, rfl⟩ := build_eq_ok.mp made
  cases saying with
  | insert ns docs => exact insert_isReadIn rfl rfl (clean ns (by simp [strings])) encodable plain
  | query ns skip limit doc =>
    exact query_isReadIn rfl rfl (clean ns (by simp [strings])) (encodable doc (by simp [documents]))
      (plain doc (by simp [documents]))
  | getMore ns limit cursor => exact getMore_isReadIn rfl rfl (clean ns (by simp [strings]))
  | killCursors cursors => exact killCursors_isReadIn rfl rfl
  | reply responseTo flags cursor start docs => exact reply_isReadIn made rfl encodable plain
  | command db name arguments =>
    exact command_isReadIn rfl rfl (clean db (by simp [strings])) (clean name (by simp [strings]))
  | commandReply responseTo doc =>
    exact commandReply_isReadIn rfl rfl (encodable doc (by simp [documents]))
      (plain doc (by simp [documents]))
  | msg responseTo doc =>
    exact msg_isReadIn rfl rfl (encodable doc (by simp [documents])) (plain doc (by simp [documents]))

/-- A frame is built, and its readers give back all that it was built to say. -/
def ReadsBack (requestId : Int32) (saying : Saying) : Prop :=
  ∃ frame, saying.build requestId = .ok frame ∧ frame.requestId = requestId ∧
    frame.responseTo = saying.responseTo ∧ frame.opCode = saying.opCode ∧
    frame.length = saying.size ∧ saying.IsReadIn frame

theorem built_as_said (requestId : Int32) (saying : Saying)
    (clean : ∀ text ∈ saying.strings, '\x00' ∉ text.toList)
    (encodable : ∀ doc ∈ saying.documents, doc.encode?.isSome) (fits : saying.size ≤ frameLimit)
    (plain : ∀ doc ∈ saying.documents, fieldsPlain doc = true) : saying.ReadsBack requestId := by
  have made := build_eq_ok.mpr ⟨encodable, fits, Eq.refl (Frame.mk requestId ..)⟩
  exact ⟨_, made, rfl, rfl, rfl, rfl, isReadIn_of_build made clean plain⟩

def wrappedQuery : Saying :=
  .query "db.$cmd" 0 (-1) [("$query", .document [("isMaster", .int32 1)])]

theorem wrappedQuery_reads_back : wrappedQuery.ReadsBack 7 :=
  built_as_said 7 wrappedQuery (by decide +kernel) (by decide +kernel) (by decide +kernel)
    (by decide +kernel)

def markedQuery : Saying :=
  .query "db.c" 0 0 [("k", .document [("$oid", .text "507f1f77bcf86cd799439011")])]

theorem markedQuery_fits : markedQuery.size ≤ frameLimit := by decide +kernel

def markedFrame : Frame := ⟨1, 0, .query, markedQuery.body, markedQuery_fits⟩

def nests : Document → Bool
  | (_, .document _) :: _ => true
  | _ => false

theorem markedFrame_flat : markedFrame.queryDocument.toOption.map nests = some false := by
  decide +kernel

def disorderedQuery : Saying := .query "db.c" 0 0 [("k", .regex "a" "xi")]

theorem disorderedQuery_fits : disorderedQuery.size ≤ frameLimit := by decide +kernel

def disorderedFrame : Frame := ⟨1, 0, .query, disorderedQuery.body, disorderedQuery_fits⟩

theorem disorderedFrame_sorted :
    disorderedFrame.queryDocument = .ok [("k", .regex "a" "ix")] := by
  have encodable : Document.encode? [("k", .regex "a" "xi")] |>.isSome := by decide +kernel
  have short : (Document.bytes [("k", .regex "a" "xi")]).length < 2 ^ 31 := by decide +kernel
  have sorted : String.ofList (inOrder "xi".toList) = "ix" := by
    simp [inOrder, List.mergeSort]
  have decoded := Document.decode?_regex (Document.encode?_eq encodable) (by decide +kernel) short
  rw [sorted] at decoded
  exact queryDocument_decoded rfl rfl (by decide +kernel) decoded

/-- An extended form inside a document is read as the value that it stands for, and options of a
    pattern are read in order. -/
theorem not_all_read_back :
    (¬∀ (requestId : Int32) (saying : Saying),
      (∀ text ∈ saying.strings, '\x00' ∉ text.toList) →
      (∀ doc ∈ saying.documents, doc.encode?.isSome) → saying.size ≤ frameLimit →
      saying.ReadsBack requestId) ∧
    ¬disorderedQuery.ReadsBack 1 := by
  constructor
  · intro claimed
    have encodable : ∀ doc ∈ markedQuery.documents, doc.encode?.isSome := by decide +kernel
    have made : markedQuery.build 1 = .ok markedFrame :=
      build_eq_ok.mpr ⟨encodable, markedQuery_fits, rfl⟩
    obtain ⟨frame, built, _, _, _, _, read⟩ :=
      claimed 1 markedQuery (by decide +kernel) encodable markedQuery_fits
    cases made.symm.trans built
    have asked : markedFrame.queryDocument =
        .ok [("k", .document [("$oid", .text "507f1f77bcf86cd799439011")])] := read.2.2.1
    have flat := markedFrame_flat
    rw [asked] at flat
    cases flat
  · rintro ⟨frame, built, _, _, _, _, read⟩
    have encodable : ∀ doc ∈ disorderedQuery.documents, doc.encode?.isSome := by decide +kernel
    have made : disorderedQuery.build 1 = .ok disorderedFrame :=
      build_eq_ok.mpr ⟨encodable, disorderedQuery_fits, rfl⟩
    cases made.symm.trans built
    have asked : disorderedFrame.queryDocument = .ok [("k", .regex "a" "xi")] := read.2.2.1
    have sorted := asked.symm.trans disorderedFrame_sorted
    simp only [Except.ok.injEq, List.cons.injEq, Prod.mk.injEq, Value.regex.injEq] at sorted
    exact absurd sorted.1.2.2 (by decide)

end Saying

end Frame

end TrafficReplay
