import TrafficReplay.Proofs.Text.Base64
import TrafficReplay.Proofs.Text.Cut
import TrafficReplay.Proofs.Text.Utf8
import TrafficReplay.Scram.Client
import TrafficReplay.Scram.Server

namespace TrafficReplay

namespace Scram

theorem parts_ne_nil (text : List Char) : parts text ≠ [] := Text.pieces_ne_nil _ text

theorem parts_of_plain {text : List Char} (plain : ',' ∉ text) : parts text = [text] := by
  apply Text.pieces_of_plain
  rintro c member
  exact decide_eq_false fun same => plain (same ▸ member)

theorem parts_append {part rest : List Char} (plain : ',' ∉ part) :
    parts (part ++ ',' :: rest) = part :: parts rest := by
  apply Text.pieces_append _ (decide_eq_true rfl)
  rintro c member
  exact decide_eq_false fun same => plain (same ▸ member)

theorem comma_not_mem_part {letter : Char} {value : List Char} (letter_plain : letter ≠ ',')
    (plain : ',' ∉ value) : ',' ∉ letter :: '=' :: value := by
  simp [plain, letter_plain.symm]

@[simp] theorem part?_self (letter : Char) (value : List Char) :
    part? letter (letter :: '=' :: value) = some value := by
  simp [part?]

theorem parts_two {a b : Char} {first second : List Char} (plain_a : a ≠ ',') (plain_b : b ≠ ',')
    (plain_first : ',' ∉ first) (plain_second : ',' ∉ second) :
    parts (a :: '=' :: (first ++ ',' :: b :: '=' :: second)) =
      [a :: '=' :: first, b :: '=' :: second] := by
  rw [← List.cons_append, ← List.cons_append, parts_append (comma_not_mem_part plain_a plain_first),
    parts_of_plain (comma_not_mem_part plain_b plain_second)]

theorem parts_three {a b c : Char} {first second third : List Char} (plain_a : a ≠ ',')
    (plain_b : b ≠ ',') (plain_c : c ≠ ',') (plain_first : ',' ∉ first) (plain_second : ',' ∉ second)
    (plain_third : ',' ∉ third) :
    parts (a :: '=' :: (first ++ ',' :: b :: '=' :: (second ++ ',' :: c :: '=' :: third))) =
      [a :: '=' :: first, b :: '=' :: second, c :: '=' :: third] := by
  rw [← List.cons_append, ← List.cons_append, parts_append (comma_not_mem_part plain_a plain_first),
    parts_two plain_b plain_c plain_second plain_third]

theorem ClientFirst.parse_text {userName : String} {nonce : List Char}
    (plain_name : ',' ∉ userName.toList) (plain_nonce : ',' ∉ nonce) :
    ClientFirst.parse (ClientFirst.ofUser userName nonce).text =
      .ok (ClientFirst.ofUser userName nonce) := by
  have split : parts (ClientFirst.ofUser userName nonce).text =
      [['n'], [], 'n' :: '=' :: userName.toList, 'r' :: '=' :: nonce] := by
    have two := parts_two (show 'n' ≠ ',' by decide) (show 'r' ≠ ',' by decide) plain_name plain_nonce
    have shape : (ClientFirst.ofUser userName nonce).text =
        ['n'] ++ ',' :: ([] ++ ',' :: 'n' :: '=' :: (userName.toList ++ ',' :: 'r' :: '=' :: nonce)) := by
      simp [text, ofUser, plainBinding]
    rw [shape, parts_append (by decide), parts_append (by decide), two]
  have long : isStub ('r' :: '=' :: nonce) = false := by
    have two : Utf8.encodeChars ('r' :: '=' :: nonce) = 114 :: 61 :: Utf8.encodeChars nonce := rfl
    simp [isStub, two]
  simp only [parse, split, part?_self, long]
  simp [isFlag, isIdentity, ofUser, plainBinding, joined]

theorem ServerFirst.parse?_text {first : ServerFirst} (plain_nonce : ',' ∉ first.nonce)
    (plain_count : ',' ∉ (toString first.iterations).toList)
    (count : iterations? (toString first.iterations).toList = some first.iterations) :
    ServerFirst.parse? first.text = some first := by
  have shape : first.text = 'r' :: '=' :: (first.nonce ++ ',' :: 's' :: '=' ::
      (Base64.encode first.salt ++ ',' :: 'i' :: '=' :: (toString first.iterations).toList)) := by
    simp [text]
  simp only [parse?, shape, parts_three (show 'r' ≠ ',' by decide) (show 's' ≠ ',' by decide)
    (show 'i' ≠ ',' by decide) plain_nonce (Base64.comma_not_mem_encode first.salt) plain_count,
    part?_self, Base64.decode?_encode, count, Option.bind_eq_bind, Option.bind_some]

@[simp] theorem signature?_verifierText (signature : List UInt8) :
    signature? (verifierText signature) = some signature := by
  have plain := comma_not_mem_part (show 'v' ≠ ',' by decide) (Base64.comma_not_mem_encode signature)
  have split : parts (verifierText signature) = ['v' :: '=' :: Base64.encode signature] :=
    parts_of_plain plain
  simp only [signature?, split, part?_self, Option.bind_some, Base64.decode?_encode]

theorem parts_cons_of_ne_comma {c : Char} (plain : c ≠ ',') (rest : List Char) :
    ∃ piece others, parts (c :: rest) = (c :: piece) :: others := by
  obtain ⟨piece, others, found⟩ := List.exists_cons_of_ne_nil (parts_ne_nil rest)
  exact ⟨piece, others, (Text.pieces_cons found).trans (by simp [plain])⟩

theorem signature?_first (first : ServerFirst) : signature? first.text = none := by
  have shape : first.text = 'r' :: '=' :: (first.nonce ++ ([',', 's', '='] ++
      Base64.encode first.salt ++ [',', 'i', '='] ++ (toString first.iterations).toList)) := by
    simp [ServerFirst.text]
  obtain ⟨piece, others, split⟩ := parts_cons_of_ne_comma (show 'r' ≠ ',' by decide)
    ('=' :: (first.nonce ++ ([',', 's', '='] ++ Base64.encode first.salt ++ [',', 'i', '='] ++
      (toString first.iterations).toList)))
  have other : part? 'v' ('r' :: piece) = none := by
    cases piece with
    | nil => rfl
    | cons d value =>
      unfold part?
      split
      · rename_i same
        cases same
        rfl
      · rfl
  rw [shape, signature?, split]
  simp only [other, Option.bind_none]

theorem parts_clientFinal {binding nonce : List Char} (proof : List UInt8)
    (plain_nonce : ',' ∉ nonce) :
    parts (ClientFinal.text ⟨binding, nonce, proof⟩) =
      ['c' :: '=' :: Base64.encode (Utf8.encodeChars binding), 'r' :: '=' :: nonce,
        'p' :: '=' :: Base64.encode proof] := by
  have three := parts_three (show 'c' ≠ ',' by decide) (show 'r' ≠ ',' by decide)
    (show 'p' ≠ ',' by decide) (Base64.comma_not_mem_encode (Utf8.encodeChars binding)) plain_nonce
    (Base64.comma_not_mem_encode proof)
  rw [← three]
  simp [ClientFinal.text, ClientFinal.unproved]

theorem Keys.length_clientProof (keys : Keys) (said : List UInt8)
    (client : keys.client.length = Sha256.digestLength) :
    (keys.clientProof said).length = Sha256.digestLength := by
  rw [clientProof, length_xorBytes, client, Hmac.length_sign, Nat.min_self]

/-- How a conversation goes on which both sides agree: what the server says to the client's first
    message, and the proof and the signature that follow from it. -/
structure Agreement (account : Account) (client : Client) (serverNonce : List Char)
    (challenge : Challenge) (proof signature : List UInt8) : Prop where
  challenged : account.challenge serverNonce client.first.text = .ok challenge
  said : challenge.server = ⟨client.nonce ++ serverNonce, account.salt, account.iterations⟩
  answered : client.answer? challenge.text =
    some (⟨ClientFirst.plainBinding, client.nonce ++ serverNonce, proof⟩, signature)
  proved : challenge.verdict?
      (ClientFinal.text ⟨ClientFirst.plainBinding, client.nonce ++ serverNonce, proof⟩) =
    some (.proved signature)
  proof_length : proof.length = Sha256.digestLength
  signature_length : signature.length = Sha256.digestLength

/-- A client with the name and the password of the account is convinced and convinces. -/
theorem agreement {account : Account} {client : Client} {serverNonce : List Char}
    (name : client.userName = account.userName) (password : client.password = account.password)
    (plain_name : ',' ∉ client.userName.toList) (plain_client : ',' ∉ client.nonce)
    (plain_server : ',' ∉ serverNonce)
    (plain_count : ',' ∉ (toString account.iterations).toList)
    (count : ServerFirst.iterations? (toString account.iterations).toList = some account.iterations) :
    ∃ challenge proof signature, Agreement account client serverNonce challenge proof signature := by
  have plain_nonce : ',' ∉ client.nonce ++ serverNonce := by simp [plain_client, plain_server]
  have read : ServerFirst.parse? (ServerFirst.text ⟨client.nonce ++ serverNonce, account.salt,
      account.iterations⟩) = some ⟨client.nonce ++ serverNonce, account.salt, account.iterations⟩ :=
    ServerFirst.parse?_text plain_nonce plain_count count
  have first : client.first = ClientFirst.ofUser account.userName client.nonce := by
    rw [Client.first, name]
  have parsed : ClientFirst.parse client.first.text = .ok client.first := by
    rw [first]
    exact ClientFirst.parse_text (name ▸ plain_name) plain_client
  obtain ⟨keys, made⟩ : ∃ keys, keys =
    Keys.ofSalted (saltedPassword account.password account.salt account.iterations) := ⟨_, rfl⟩
  obtain ⟨said, whole⟩ : ∃ said, said = conversation client.first
    (ServerFirst.text ⟨client.nonce ++ serverNonce, account.salt, account.iterations⟩)
    (client.nonce ++ serverNonce) := ⟨_, rfl⟩
  have client_length : keys.client.length = Sha256.digestLength := by
    rw [made, Keys.ofSalted, Hmac.length_sign]
  refine ⟨⟨keys, client.first, ⟨client.nonce ++ serverNonce, account.salt, account.iterations⟩⟩,
    keys.clientProof said, keys.serverSignature said, ⟨?_, rfl, ?_, ?_, ?_, ?_⟩⟩
  · have same : client.first.userName = account.userName.toList := by rw [first, ClientFirst.ofUser]
    have nonce : client.first.nonce = client.nonce := rfl
    simp only [Account.challenge, parsed, bind, Except.bind, same, nonce, made, ne_eq, not_true,
      if_false]
    rfl
  · have extends_nonce : client.nonce.isPrefixOf (client.nonce ++ serverNonce) = true := by simp
    simp only [Client.answer?, Challenge.text, read, Option.bind_eq_bind, Option.bind_some,
      extends_nonce, password, made, whole]
    rfl
  · have binding : client.first.binding = ClientFirst.plainBinding := rfl
    simp only [Challenge.verdict?, parts_clientFinal _ plain_nonce, part?_self, binding,
      Option.bind_eq_bind, Option.bind_some, Base64.decode?_encode, Challenge.text, ← whole]
    simp
  · exact Keys.length_clientProof keys said client_length
  · rw [Keys.serverSignature, Hmac.length_sign]

end Scram

end TrafficReplay
