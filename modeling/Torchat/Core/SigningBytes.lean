import Torchat.Core.PeerProtocol

namespace Torchat.Core

open Foundation

def ShortText (text : String) : Prop := (utf8 text).length < 2 ^ 32

section Cancel

theorem pushBytes_cancel (leftShort : left.length < 2 ^ 32)
    (rightShort : right.length < 2 ^ 32)
    (equal : pushBytes left ++ leftRest = pushBytes right ++ rightRest) :
    left = right ∧ leftRest = rightRest :=
  lengthPrefixed_selfDelimiting 4 left leftShort right rightShort _ _ equal

theorem pushStr_selfDelimiting : SelfDelimiting pushStr {text | ShortText text} :=
  (lengthPrefixed_selfDelimiting 4).comap utf8_injective

theorem pushStr_cancel
    (leftShort : ShortText left) (rightShort : ShortText right)
    (equal : pushStr left ++ leftRest = pushStr right ++ rightRest) :
    left = right ∧ leftRest = rightRest :=
  pushStr_selfDelimiting left leftShort right rightShort _ _ equal

theorem pushU16_cancel
    (equal : pushU16 left ++ leftRest = pushU16 right ++ rightRest) :
    left = right ∧ leftRest = rightRest := by
  obtain ⟨same, rest⟩ := bigEndian_selfDelimiting 2 _ left.toNat_lt _
    right.toNat_lt _ _ equal
  exact ⟨UInt16.toNat_inj.mp same, rest⟩

theorem pushU64_cancel
    (equal : pushU64 left ++ leftRest = pushU64 right ++ rightRest) :
    left = right ∧ leftRest = rightRest := by
  obtain ⟨same, rest⟩ := bigEndian_selfDelimiting 8 _ left.toNat_lt _
    right.toNat_lt _ _ equal
  exact ⟨UInt64.toNat_inj.mp same, rest⟩

theorem pushI64_selfDelimiting : SelfDelimiting pushI64 Set.univ := by
  rintro ⟨left⟩ - ⟨right⟩ - leftRest rightRest equal
  obtain ⟨same, rest⟩ := pushU64_cancel equal
  exact ⟨congrArg Int64.ofUInt64 same, rest⟩

theorem pushI64_cancel
    (equal : pushI64 left ++ leftRest = pushI64 right ++ rightRest) :
    left = right ∧ leftRest = rightRest :=
  pushI64_selfDelimiting left trivial right trivial _ _ equal

theorem pushArray_cancel
    (small : size < 2 ^ 32) {left right : Vector UInt8 size}
    (equal : pushBytes left.toList ++ leftRest =
      pushBytes right.toList ++ rightRest) :
    left = right ∧ leftRest = rightRest := by
  obtain ⟨same, rest⟩ := pushBytes_cancel (by simpa using small)
    (by simpa using small) equal
  exact ⟨Vector.toList_inj.mp same, rest⟩

theorem pushUuid_cancel
    (equal : pushBytes (uuidBytes left) ++ leftRest =
      pushBytes (uuidBytes right) ++ rightRest) :
    left = right ∧ leftRest = rightRest := by
  have sized : ∀ uuid : Uuid, (uuidBytes uuid).length < 2 ^ 32 := by
    intro uuid
    rw [uuidBytes, length_bigEndian]
    decide
  obtain ⟨same, rest⟩ := pushBytes_cancel (sized left) (sized right) equal
  have fits : ∀ uuid : Uuid, uuid.toNat < 256 ^ 16 := fun uuid => uuid.isLt
  exact ⟨BitVec.toNat_inj.mp (bigEndian_inj (fits left) (fits right) same), rest⟩

end Cancel

inductive Signable
  | endpoint (bundle : PeerEndpointBundle)
  | handshake
      (client : PeerClientHello) (serverInstallationId : String)
      (serverEndpointSequence : UInt64) (serverNonce : Key32)
      (sessionId : Uuid) (onionAddress : String)
  | message (envelope : PeerMessageEnvelope)

namespace Signable

def signingBytes (crypto : Crypto) : Signable → Bytes
  | endpoint bundle => bundle.signingBytes
  | handshake client serverInstallationId serverEndpointSequence serverNonce
      sessionId onionAddress =>
      handshakeTranscript client serverInstallationId serverEndpointSequence
        serverNonce sessionId onionAddress
  | message envelope => envelope.signingBytes crypto

/-- The object without what is not signed: its signature, and the proof of a
client's hello. -/
def signed : Signable → Signable
  | endpoint bundle => .endpoint { bundle with signature := "" }
  | handshake client serverInstallationId serverEndpointSequence serverNonce
      sessionId onionAddress =>
      .handshake { client with capabilityProof := "" } serverInstallationId
        serverEndpointSequence serverNonce sessionId onionAddress
  | message envelope => .message { envelope with signature := "" }

def Short : Signable → Prop
  | endpoint bundle =>
    ShortText bundle.installationId ∧ ShortText bundle.onionAddress ∧
    ShortText bundle.identityPublicKey ∧
    bundle.capabilities.length < 2 ^ 32 ∧
    ∀ capability ∈ bundle.capabilities, ShortText capability
  | handshake client serverInstallationId _ _ _ onionAddress =>
    ShortText client.installationId ∧ ShortText client.capabilityId ∧
    ShortText serverInstallationId ∧ ShortText onionAddress
  | message envelope =>
    ShortText envelope.conversationId ∧
    ShortText envelope.senderInstallationId

def ciphertexts : Signable → Set Bytes
  | message envelope => {envelope.ciphertext}
  | _ => ∅

def domain : Signable → Bytes
  | endpoint _ => endpointDomain
  | handshake .. => handshakeDomain
  | message _ => messageDomain

theorem domain_short (object : Signable) : object.domain.length < 2 ^ 32 := by
  have endpoint : endpointDomain.length < 2 ^ 32 := by decide
  have handshake : handshakeDomain.length < 2 ^ 32 := by decide
  have message : messageDomain.length < 2 ^ 32 := by decide
  cases object <;> assumption

theorem signingBytes_domain (crypto : Crypto) (object : Signable) :
    ∃ rest, object.signingBytes crypto = pushBytes object.domain ++ rest := by
  cases object with
  | endpoint bundle =>
    simp only [signingBytes, PeerEndpointBundle.signingBytes,
      List.append_assoc]
    exact ⟨_, rfl⟩
  | handshake | message =>
    exact ⟨_, rfl⟩

theorem domain_eq {left right : Signable}
    (equal : left.signingBytes crypto = right.signingBytes crypto) :
    left.domain = right.domain := by
  obtain ⟨leftRest, leftBytes⟩ := left.signingBytes_domain crypto
  obtain ⟨rightRest, rightBytes⟩ := right.signingBytes_domain crypto
  rw [leftBytes, rightBytes] at equal
  exact (pushBytes_cancel left.domain_short right.domain_short equal).1

theorem endpoint_signed
    (leftShort : (endpoint left).Short) (rightShort : (endpoint right).Short)
    (equal : (endpoint left).signingBytes crypto =
      (endpoint right).signingBytes crypto) :
    (endpoint left).signed = (endpoint right).signed := by
  obtain ⟨leftId, leftOnion, leftKey, leftCount, leftCapabilities⟩ := leftShort
  obtain ⟨rightId, rightOnion, rightKey, rightCount, rightCapabilities⟩ :=
    rightShort
  simp only [signingBytes, PeerEndpointBundle.signingBytes,
    List.append_assoc] at equal
  obtain ⟨-, equal⟩ := pushBytes_cancel (by decide) (by decide) equal
  obtain ⟨version, equal⟩ := pushU16_cancel equal
  obtain ⟨installation, equal⟩ := pushStr_cancel leftId rightId equal
  obtain ⟨onion, equal⟩ := pushStr_cancel leftOnion rightOnion equal
  obtain ⟨port, equal⟩ := pushU16_cancel equal
  obtain ⟨key, equal⟩ := pushStr_cancel leftKey rightKey equal
  obtain ⟨capabilities, equal⟩ :=
    counted_selfDelimiting 4 pushStr_selfDelimiting _
      ⟨leftCount, leftCapabilities⟩ _ ⟨rightCount, rightCapabilities⟩ _ _ equal
  obtain ⟨sequence, equal⟩ := pushU64_cancel equal
  obtain ⟨issued, equal⟩ := pushI64_cancel equal
  obtain ⟨expires, -⟩ := optional_selfDelimiting pushI64_selfDelimiting _
    (fun _ _ => trivial) _ (fun _ _ => trivial) [] [] (by simpa using equal)
  simp only [signed, version, installation, onion, port, key, capabilities,
    sequence, issued, expires]

theorem handshake_signed_of_front
    {left right : PeerClientHello} (leftId : ShortText left.installationId)
    (leftCapability : ShortText left.capabilityId)
    (leftServerShort : ShortText leftServer)
    (rightId : ShortText right.installationId)
    (rightCapability : ShortText right.capabilityId)
    (rightServerShort : ShortText rightServer)
    (equal :
      handshakeTranscript left leftServer leftSequence leftNonce leftSession
          leftOnion =
        handshakeTranscript right rightServer rightSequence rightNonce
          rightSession rightOnion) :
    (handshake left leftServer leftSequence leftNonce leftSession
        leftOnion).signed =
      (handshake right rightServer rightSequence rightNonce rightSession
        rightOnion).signed := by
  simp only [handshakeTranscript, List.append_assoc] at equal
  obtain ⟨-, equal⟩ := pushBytes_cancel (by decide) (by decide) equal
  obtain ⟨version, equal⟩ := pushU16_cancel equal
  obtain ⟨installation, equal⟩ := pushStr_cancel leftId rightId equal
  obtain ⟨sequence, equal⟩ := pushU64_cancel equal
  obtain ⟨capability, equal⟩ := pushStr_cancel leftCapability rightCapability equal
  obtain ⟨nonce, equal⟩ := pushArray_cancel (by decide) equal
  obtain ⟨server, equal⟩ := pushStr_cancel leftServerShort rightServerShort equal
  obtain ⟨serverSequence, equal⟩ := pushU64_cancel equal
  obtain ⟨serverNonce, equal⟩ := pushArray_cancel (by decide) equal
  obtain ⟨session, equal⟩ := pushUuid_cancel equal
  have onion := utf8_injective (List.append_inj_right equal (by simp))
  simp only [signed, version, installation, sequence, capability, nonce, server,
    serverSequence, serverNonce, session, onion]

theorem handshake_signed
    (leftShort :
      (handshake left leftServer leftSequence leftNonce leftSession
        leftOnion).Short)
    (rightShort :
      (handshake right rightServer rightSequence rightNonce rightSession
        rightOnion).Short)
    (equal :
      (handshake left leftServer leftSequence leftNonce leftSession
          leftOnion).signingBytes crypto =
        (handshake right rightServer rightSequence rightNonce rightSession
          rightOnion).signingBytes crypto) :
    (handshake left leftServer leftSequence leftNonce leftSession
        leftOnion).signed =
      (handshake right rightServer rightSequence rightNonce rightSession
        rightOnion).signed := by
  obtain ⟨leftId, leftCapability, leftServerShort, -⟩ := leftShort
  obtain ⟨rightId, rightCapability, rightServerShort, -⟩ := rightShort
  exact handshake_signed_of_front leftId leftCapability leftServerShort rightId
    rightCapability rightServerShort equal

theorem message_signed {crypto : Crypto}
    (collisionFree : crypto.sha256 left.ciphertext =
      crypto.sha256 right.ciphertext → left.ciphertext = right.ciphertext)
    (leftShort : (message left).Short) (rightShort : (message right).Short)
    (equal : (message left).signingBytes crypto =
      (message right).signingBytes crypto) :
    (message left).signed = (message right).signed := by
  simp only [signingBytes, PeerMessageEnvelope.signingBytes,
    List.append_assoc] at equal
  obtain ⟨-, equal⟩ := pushBytes_cancel (by decide) (by decide) equal
  obtain ⟨version, equal⟩ := pushU16_cancel equal
  obtain ⟨session, equal⟩ := pushUuid_cancel equal
  obtain ⟨messageId, equal⟩ := pushUuid_cancel equal
  obtain ⟨conversation, equal⟩ := pushStr_cancel leftShort.1 rightShort.1 equal
  obtain ⟨sender, equal⟩ := pushStr_cancel leftShort.2 rightShort.2 equal
  obtain ⟨sequence, equal⟩ := pushU64_cancel equal
  obtain ⟨created, equal⟩ := pushI64_cancel equal
  have same : pushBytes (left.ciphertextHash crypto).toList ++ [] =
      pushBytes (right.ciphertextHash crypto).toList ++ [] := by
    simpa using equal
  obtain ⟨digest, -⟩ := pushArray_cancel (by decide) same
  have ciphertext := collisionFree digest
  simp only [signed, version, session, messageId, conversation, sender, sequence,
    created, ciphertext]

theorem signed_eq_of_signingBytes_eq {crypto : Crypto} {ciphertexts : Set Bytes}
    (collisionFree : Set.InjOn crypto.sha256 ciphertexts)
    {left right : Signable} (leftShort : left.Short) (rightShort : right.Short)
    (leftKnown : left.ciphertexts ⊆ ciphertexts)
    (rightKnown : right.ciphertexts ⊆ ciphertexts)
    (equal : left.signingBytes crypto = right.signingBytes crypto) :
    left.signed = right.signed := by
  -- The three domains have different names, so both objects are of one kind.
  have kinds := domain_eq equal
  have apart : endpointDomain ≠ handshakeDomain ∧
      endpointDomain ≠ messageDomain ∧ handshakeDomain ≠ messageDomain := by
    decide
  cases left with
  | endpoint left =>
    cases right with
    | endpoint right => exact endpoint_signed leftShort rightShort equal
    | handshake => exact absurd kinds apart.1
    | message => exact absurd kinds apart.2.1
  | handshake =>
    cases right with
    | endpoint => exact absurd kinds.symm apart.1
    | handshake => exact handshake_signed leftShort rightShort equal
    | message => exact absurd kinds apart.2.2
  | message left =>
    cases right with
    | endpoint => exact absurd kinds.symm apart.2.1
    | handshake => exact absurd kinds.symm apart.2.2
    | message right =>
      refine message_signed ?_ leftShort rightShort equal
      exact collisionFree (leftKnown rfl) (rightKnown rfl)

end Signable

/-- Signing bytes determine the object, and so does a signature. -/
theorem signing_bytes_identify_the_object
    (crypto : Crypto) (correct : crypto.Correct) (ciphertexts : Set Bytes)
    (collisionFree : Set.InjOn crypto.sha256 ciphertexts)
    (left right : Signable) (leftShort : left.Short) (rightShort : right.Short)
    (leftKnown : left.ciphertexts ⊆ ciphertexts)
    (rightKnown : right.ciphertexts ⊆ ciphertexts) :
    (left.signingBytes crypto = right.signingBytes crypto →
      left.signed = right.signed) ∧
    ∀ messages : Set Bytes, crypto.Unforgeable messages →
      left.signingBytes crypto ∈ messages →
      right.signingBytes crypto ∈ messages →
      ∀ identity,
        verifySignature crypto (publicKey crypto identity)
            (right.signingBytes crypto)
            (sign crypto identity (left.signingBytes crypto)) = true →
        left.signed = right.signed := by
  have identify := Signable.signed_eq_of_signingBytes_eq collisionFree leftShort
    rightShort leftKnown rightKnown
  refine ⟨identify, ?_⟩
  intro messages unforgeable leftMessage rightMessage identity verified
  rw [verifySignature_own correct] at verified
  exact identify (unforgeable identity _ leftMessage _ rightMessage verified).symm

/-! An endpoint's signature on a message. -/

def sampleEndpoint : PeerEndpointBundle where
  protocolVersion := 1
  installationId := "alice"
  onionAddress := "alice.onion"
  virtualPort := 443
  identityPublicKey := "key"
  capabilities := ["peer_message_v1"]
  sequence := 1
  issuedAt := 0
  expiresAt := some 600
  signature := ""

def sampleMessage : PeerMessageEnvelope where
  protocolVersion := 1
  sessionId := 1
  messageId := 2
  conversationId := "bob"
  senderInstallationId := "alice"
  sequence := 1
  createdAt := 0
  ciphertext := [1, 2, 3]
  signature := ""

theorem sampleEndpoint_signature_fails_for_sampleMessage :
    verifySignature .plain (publicKey .plain ())
        (sampleMessage.signingBytes .plain)
        (sign .plain () sampleEndpoint.signingBytes) ≠ true := by
  intro verified
  have short : (Signable.endpoint sampleEndpoint).Short ∧
      (Signable.message sampleMessage).Short := by
    simp only [Signable.Short, ShortText]
    decide
  have unforgeable : Crypto.plain.Unforgeable
      {sampleEndpoint.signingBytes, sampleMessage.signingBytes .plain} := by
    rintro ⟨⟩ signed (rfl | rfl) message (rfl | rfl) verified
    · rfl
    · exact absurd verified (by decide)
    · exact absurd verified (by decide)
    · rfl
  have same := (signing_bytes_identify_the_object .plain Crypto.plain_correct
    {sampleMessage.ciphertext} (Set.injOn_singleton _ _)
    (.endpoint sampleEndpoint) (.message sampleMessage) short.1 short.2
    (Set.empty_subset _) subset_rfl).2 _ unforgeable (.inl rfl) (.inr rfl) ()
    verified
  cases same

end Torchat.Core
