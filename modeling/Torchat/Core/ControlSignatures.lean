import Torchat.Core.RelayPayload
import Torchat.Core.SigningBytes

namespace Torchat.Core

open Foundation Crypto ContactCard Function

section Text

theorem utf8_append (left right : String) :
    utf8 (left ++ right) = utf8 left ++ utf8 right := by
  simp [utf8, String.toByteArray_append]

theorem utf8_ofList (characters : List Char) :
    utf8 (String.ofList characters) =
      characters.flatMap String.utf8EncodeChar := by
  simp [utf8, String.toByteArray_ofList, List.utf8Encode, List.data_toByteArray]

theorem length_utf8_ofList_le (characters : List Char) :
    (utf8 (String.ofList characters)).length ≤ 4 * characters.length := by
  rw [utf8_ofList]
  induction characters with
  | nil => simp
  | cons character characters induction =>
    have one := character.utf8Size_le_four
    rw [List.flatMap_cons, List.length_append, String.length_utf8EncodeChar,
      List.length_cons]
    omega

theorem le_length_utf8_ofList (characters : List Char) :
    characters.length ≤ (utf8 (String.ofList characters)).length := by
  rw [utf8_ofList]
  induction characters with
  | nil => simp
  | cons character characters induction =>
    have one := character.utf8Size_pos
    rw [List.flatMap_cons, List.length_append, String.length_utf8EncodeChar,
      List.length_cons]
    omega

theorem natRepr_toList (number : Nat) :
    (Nat.repr number).toList = Nat.toDigits 10 number := by
  rw [Nat.repr_eq_ofList_toDigits, String.toList_ofList]

theorem natRepr_injective : Injective Nat.repr := by
  intro left right equal
  have digits : Nat.toDigits 10 left = Nat.toDigits 10 right := by
    rw [← natRepr_toList, equal, natRepr_toList]
  rw [← Nat.ofDigitChars_ten_toDigits (n := left), digits,
    Nat.ofDigitChars_ten_toDigits]

theorem notMem_natRepr (other : character.isDigit = false) (number : Nat) :
    character ∉ (Nat.repr number).toList := by
  intro digit
  rw [natRepr_toList] at digit
  have isDigit := Nat.isDigit_of_mem_toDigits (by decide) (by decide) digit
  rw [other] at isDigit
  cases isDigit

theorem bar_notMem_intRepr (number : Int) : '|' ∉ (Int.repr number).toList := by
  rw [Int.repr_eq_if]
  split
  · exact notMem_natRepr rfl _
  · rw [String.toList_append, List.mem_append, not_or]
    exact ⟨by decide, notMem_natRepr rfl _⟩

theorem negative_ne_natRepr (text : String) (number : Nat) :
    "-" ++ text ≠ Nat.repr number := by
  intro equal
  have minus : '-' ∈ (Nat.repr number).toList := by
    rw [← equal, String.toList_append]
    exact List.mem_append_left _ (by decide)
  exact notMem_natRepr rfl number minus

theorem intRepr_injective : Injective Int.repr := by
  intro left right equal
  rw [Int.repr_eq_if, Int.repr_eq_if] at equal
  split at equal <;> split at equal
  · have same := natRepr_injective equal
    omega
  · exact absurd equal.symm (negative_ne_natRepr _ _)
  · exact absurd equal (negative_ne_natRepr _ _)
  · have same := natRepr_injective (String.append_right_inj "-" |>.mp equal)
    omega

theorem intRepr_cancel {leftNumber rightNumber : Int64}
    (equal : left ++ "|" ++ Int.repr leftNumber.toInt =
      right ++ "|" ++ Int.repr rightNumber.toInt) :
    left = right ∧ leftNumber = rightNumber := by
  have characters := congrArg String.toList equal
  simp only [String.toList_append, List.append_assoc] at characters
  obtain ⟨front, number⟩ := append_cons_inj_of_last (bar_notMem_intRepr _)
    (bar_notMem_intRepr _) characters
  exact ⟨String.toList_inj.mp front,
    Int64.toInt_inj.mp (intRepr_injective (String.toList_inj.mp number))⟩

end Text

structure Control where
  sender : ContactCard
  recipient : String
  message : Bytes
  signature : String

namespace RelayPayloadV1

variable (crypto : Crypto) (serialize : PeerEndpointBundle → Bytes)

def control? : RelayPayloadV1 → Option Control
  | .welcome _ sender recipient inviteId sealed ratchetTree peerEndpoint
      peerCapabilityId peerCapabilitySecret signature =>
      some {
        sender, recipient, signature
        message := welcomeSigningBytes serialize sender recipient inviteId
          sealed ratchetTree peerEndpoint peerCapabilityId
          peerCapabilitySecret }
  | .welcomeApplied _ sender recipient inviteId signature =>
    some {
      sender, recipient, signature
      message := welcomeAppliedSigningBytes sender recipient inviteId }
  | .relationshipRemovalApplied _ sender recipient removalId epoch appliedAt
      signature =>
      some {
        sender, recipient, signature
        message := relationshipRemovalAppliedSigningBytes sender recipient
          removalId epoch appliedAt }
  | _ => none

/-- What a receiver reads: the payload without its version, which is checked
before, and without its signature. Of the sender of a removal's acknowledgement
only the id is read. -/
def contents : RelayPayloadV1 → RelayPayloadV1
  | .welcome _ sender recipient inviteId sealed ratchetTree peerEndpoint
      peerCapabilityId peerCapabilitySecret _ =>
      .welcome 0 sender recipient inviteId sealed ratchetTree peerEndpoint
        peerCapabilityId peerCapabilitySecret ""
  | .welcomeApplied _ sender recipient inviteId _ =>
    .welcomeApplied 0 sender recipient inviteId ""
  | .relationshipRemovalApplied _ sender recipient removalId epoch appliedAt _ =>
    .relationshipRemovalApplied 0 ⟨sender.installationId, "", "", ""⟩ recipient
      removalId epoch appliedAt ""
  | other => other

def Accepts (payload : RelayPayloadV1) (sender recipient : String) : Prop :=
  match payload with
  | .welcome .. =>
    payload.verifyWelcome crypto serialize sender recipient = .ok ()
  | .welcomeApplied _ _ _ inviteId _ =>
    payload.verifyWelcomeApplied crypto sender recipient = .ok inviteId
  | .relationshipRemovalApplied _ _ _ removalId _ _ _ =>
    payload.verifyRelationshipRemovalApplied crypto sender recipient =
      .ok removalId
  | _ => False

/-- The payloads an honest client signs. The capability of a Welcome is there
with both its parts or not at all. -/
inductive Honest (identity : crypto.SigningKey) : RelayPayloadV1 → Prop
  | welcome
      (nickname recipient inviteId : String) (sealed ratchetTree : Bytes)
      (peerEndpoint : Option PeerEndpointBundle)
      (peerCapabilityId peerCapabilitySecret : Option String)
      (complete :
        (peerCapabilityId = none ∧ peerCapabilitySecret = none) ∨
        ∃ id secret, peerCapabilityId = some id ∧
          peerCapabilitySecret = some secret ∧ id ≠ "" ∧ secret ≠ "") :
      Honest identity
        (welcomeWithEndpoint crypto serialize identity nickname recipient
          inviteId sealed ratchetTree peerEndpoint peerCapabilityId
          peerCapabilitySecret)
  | welcomeApplied (nickname recipient inviteId : String) :
      Honest identity
        (welcomeAppliedBy crypto identity nickname recipient inviteId)
  | relationshipRemovalApplied
      (recipient removalId : String) (epoch appliedAt : Int64) :
      Honest identity
        (relationshipRemovalAppliedBy crypto identity recipient removalId epoch
          appliedAt)

def Short : RelayPayloadV1 → Prop
  | .welcome _ sender recipient inviteId sealed ratchetTree peerEndpoint
      peerCapabilityId peerCapabilitySecret _ =>
      (∀ text ∈ [sender.installationId, sender.publicKey, sender.fingerprint,
        sender.nickname, recipient, inviteId, sealed, ratchetTree],
        ShortText text) ∧
      (∀ endpoint ∈ peerEndpoint, (serialize endpoint).length < 2 ^ 32) ∧
      (∀ id ∈ peerCapabilityId, ShortText id) ∧
      ∀ secret ∈ peerCapabilitySecret, ShortText secret
  | .welcomeApplied _ sender recipient inviteId _ =>
    ∀ text ∈ [sender.installationId, sender.publicKey, sender.fingerprint,
      sender.nickname, recipient, inviteId], ShortText text
  | _ => True

/-- No string whose length is signed takes more than so many bytes. -/
def Within (size : Nat) : RelayPayloadV1 → Prop
  | .welcome _ sender recipient inviteId sealed ratchetTree peerEndpoint
      peerCapabilityId peerCapabilitySecret _ =>
      (∀ text ∈ [sender.installationId, sender.publicKey, sender.fingerprint,
        sender.nickname, recipient, inviteId, sealed, ratchetTree],
        (utf8 text).length ≤ size) ∧
      (∀ endpoint ∈ peerEndpoint, (serialize endpoint).length ≤ size) ∧
      (∀ id ∈ peerCapabilityId, (utf8 id).length ≤ size) ∧
      ∀ secret ∈ peerCapabilitySecret, (utf8 secret).length ≤ size
  | .welcomeApplied _ sender recipient inviteId _ =>
    ∀ text ∈ [sender.installationId, sender.publicKey, sender.fingerprint,
      sender.nickname, recipient, inviteId], (utf8 text).length ≤ size
  | _ => True

/-- The longest message a WebSocket client takes in. No payload arrives in a
longer one: boxes end at 48 KiB, frames of the relay at 64 and of a peer at
256. -/
def maxMessageBytes : Nat := 64 * 1024 * 1024

/-- A payload is read out of the message that carried it. An endpoint written as
the array of its fields grows when `serialize` puts their names in. -/
structure Bounded (fromSlice : Bytes → Except String RelayPayloadV1) :
    Prop where
  decoded : ∀ text bytes, crypto.decode64 text = some bytes →
    bytes.length ≤ (utf8 text).length
  read : ∀ bytes payload, fromSlice bytes = .ok payload →
    payload.Within serialize (16 * bytes.length)

variable {crypto serialize}

theorem Within.short {payload : RelayPayloadV1}
    (within : payload.Within serialize size) (small : size < 2 ^ 32) :
    payload.Short serialize := by
  have short : ∀ {length : Nat}, length ≤ size → length < 2 ^ 32 := by
    intro length bound
    omega
  cases payload with
  | welcome =>
    obtain ⟨texts, endpoint, id, secret⟩ := within
    exact ⟨fun text held => short (texts text held),
      fun bundle held => short (endpoint bundle held),
      fun text held => short (id text held),
      fun text held => short (secret text held)⟩
  | welcomeApplied => exact fun text held => short (within text held)
  | _ => trivial

theorem Bounded.short (bounded : Bounded crypto serialize fromSlice)
    (received : (utf8 value).length ≤ maxMessageBytes)
    (decodes : decode crypto fromSlice value = .ok payload) :
    payload.Short serialize := by
  obtain ⟨bytes, unwrapped, rest⟩ := required_bind_eq_ok.mp decodes
  obtain ⟨read, reads, rest⟩ := bind_eq_ok.mp rest
  rw [mapError_eq_ok] at reads
  obtain ⟨-, same⟩ := refuseIf_bind_eq_ok.mp rest
  obtain rfl := Except.ok.inj same
  have shorter := bounded.decoded value bytes unwrapped
  refine (bounded.read bytes read reads).short ?_
  unfold maxMessageBytes at received
  omega

theorem verifyControl_eq_ok_iff :
    verifyControl crypto sender recipient message signature expectedSender
        expectedRecipient senderText recipientText signatureText = .ok result ↔
      sender.validate crypto = .ok () ∧
      sender.installationId = expectedSender ∧
      recipient = expectedRecipient ∧
      verifySignature crypto sender.publicKey message signature = true := by
  simp [verifyControl, bind_eq_ok, Unique.exists_iff]

variable {payload : RelayPayloadV1}

theorem Accepts.iff_control :
    payload.Accepts crypto serialize sender recipient ↔
      ∃ control, payload.control? serialize = some control ∧
        control.sender.validate crypto = .ok () ∧
        control.sender.installationId = sender ∧
        control.recipient = recipient ∧
        verifySignature crypto control.sender.publicKey control.message
          control.signature = true := by
  cases payload <;>
    simp [Accepts, control?, verifyWelcome, verifyWelcomeApplied,
      verifyRelationshipRemovalApplied, verifyControl_eq_ok_iff, bind_eq_ok,
      pure, Except.pure]

theorem Honest.control {identity : crypto.SigningKey}
    (honest : Honest crypto serialize identity payload) {control : Control}
    (has : payload.control? serialize = some control) :
    control.sender.installationId = installationId crypto identity ∧
    control.signature = sign crypto identity control.message := by
  cases honest <;> cases has <;> exact ⟨rfl, rfl⟩

theorem verifySignature_of_validate (correct : crypto.Correct)
    (onlyKey : ∀ key, installationIdFromPublicKey crypto key =
      installationId crypto identity → key = crypto.verifyingKey identity)
    {card : ContactCard} (valid : card.validate crypto = .ok ())
    (sameId : card.installationId = installationId crypto identity) :
    verifySignature crypto card.publicKey message signature =
      verifySignature crypto (publicKey crypto identity) message signature := by
  simp only [validate, required_bind_eq_ok, refuseIf_bind_eq_ok,
    not_not] at valid
  obtain ⟨decoded, decodes, key, sized, cardId, -⟩ := valid
  obtain rfl := onlyKey key (cardId.trans sameId)
  simp [verifySignature, publicKey, decodes, sized, correct.decode_encode,
    toArray?_toList]

/-! The three kinds differ in the seventeenth byte, or already in the eighth. -/

def domain : RelayPayloadV1 → Bytes
  | .welcome .. => utf8 "torchat-welcome-v"
  | .welcomeApplied .. => utf8 "torchat-welcome-a"
  | .relationshipRemovalApplied .. => utf8 "torchat.relations"
  | _ => []

theorem take_message
    {control : Control} (has : payload.control? serialize = some control) :
    control.message.take 17 = payload.domain := by
  cases payload with
  | welcome =>
    obtain rfl := Option.some.inj has
    simp only [welcomeSigningBytes, List.append_assoc]
    rw [List.take_append_of_le_length (by decide), domain]
    decide
  | welcomeApplied =>
    obtain rfl := Option.some.inj has
    simp only [welcomeAppliedSigningBytes]
    rw [List.take_append_of_le_length (by decide), domain]
    decide
  | relationshipRemovalApplied =>
    obtain rfl := Option.some.inj has
    simp only [relationshipRemovalAppliedSigningBytes, utf8_append,
      List.append_assoc]
    rw [List.take_append_of_le_length (by decide), domain]
    decide
  | _ => cases has

def Complete : RelayPayloadV1 → Prop
  | .welcome _ _ _ _ _ _ _ peerCapabilityId peerCapabilitySecret _ =>
    (peerCapabilityId = none ∧ peerCapabilitySecret = none) ∨
    ∃ id secret, peerCapabilityId = some id ∧
      peerCapabilitySecret = some secret ∧ id ≠ "" ∧ secret ≠ ""
  | _ => True

theorem Honest.complete (honest : Honest crypto serialize identity payload) :
    payload.Complete := by
  cases honest with
  | welcome _ _ _ _ _ _ _ _ complete => exact complete
  | welcomeApplied => trivial
  | relationshipRemovalApplied => trivial

theorem serialized_inj (injective : Injective serialize)
    (written : ∀ endpoint, serialize endpoint ≠ [])
    {left right : Option PeerEndpointBundle}
    (equal : (left.map serialize).getD [] = (right.map serialize).getD []) :
    left = right := by
  cases left with
  | none =>
    cases right with
    | none => rfl
    | some endpoint => exact absurd equal.symm (written endpoint)
  | some endpoint =>
    cases right with
    | none => exact absurd equal (written endpoint)
    | some other => exact congrArg some (injective equal)

theorem serialized_short {endpoint : Option PeerEndpointBundle}
    (short : ∀ bundle ∈ endpoint, (serialize bundle).length < 2 ^ 32) :
    ((endpoint.map serialize).getD []).length < 2 ^ 32 := by
  cases endpoint with
  | none => simp
  | some bundle => exact short bundle rfl

theorem eq_some_of_getD (held : text = value.getD "") (nonempty : text ≠ "") :
    some text = value := by
  cases value with
  | none => exact absurd held nonempty
  | some other => exact congrArg some held

def capabilityBytes (id secret : Option String) : Bytes :=
  if id.isSome ∨ secret.isSome then
    [id.getD "", secret.getD ""].flatMap pushStr
  else
    []

theorem capabilityBytes_eq_nil {id secret : Option String}
    (empty : [] = capabilityBytes id secret) : none = id ∧ none = secret := by
  unfold capabilityBytes at empty
  split at empty
  · have length := congrArg List.length empty
    simp [pushStr, pushBytes, lengthPrefixed] at length
    omega
  · simp_all

theorem capabilityBytes_inj {id secret otherId otherSecret : Option String}
    (complete : (id = none ∧ secret = none) ∨
      ∃ idText secretText, id = some idText ∧ secret = some secretText ∧
        idText ≠ "" ∧ secretText ≠ "") (idShort : ∀ text ∈ id, ShortText text)
    (secretShort : ∀ text ∈ secret, ShortText text)
    (otherIdShort : ∀ text ∈ otherId, ShortText text)
    (otherSecretShort : ∀ text ∈ otherSecret, ShortText text)
    (equal : capabilityBytes id secret = capabilityBytes otherId otherSecret) :
    id = otherId ∧ secret = otherSecret := by
  have shortD : ∀ value : Option String, (∀ text ∈ value, ShortText text) →
      ShortText (value.getD "") := by
    intro value short
    cases value with
    | none => simp [ShortText, utf8]
    | some text => exact short text rfl
  rcases complete with ⟨rfl, rfl⟩ | ⟨idText, secretText, rfl, rfl, hasId, hasSecret⟩
  · exact capabilityBytes_eq_nil equal
  · by_cases absent : otherId = none ∧ otherSecret = none
    · obtain ⟨rfl, rfl⟩ := absent
      cases (capabilityBytes_eq_nil equal.symm).1
    · have there : otherId.isSome ∨ otherSecret.isSome := by
        cases otherId <;> cases otherSecret <;> simp_all
      simp only [capabilityBytes, there, if_true, Option.isSome_some, true_or,
        List.flatMap_cons, List.flatMap_nil, Option.getD_some] at equal
      obtain ⟨sameId, equal⟩ := pushStr_cancel (idShort _ rfl)
        (shortD _ otherIdShort) equal
      obtain ⟨sameSecret, -⟩ := pushStr_cancel (secretShort _ rfl)
        (shortD _ otherSecretShort) equal
      exact ⟨eq_some_of_getD sameId hasId, eq_some_of_getD sameSecret hasSecret⟩

theorem pushTexts_cancel
    {left right : List String} (leftShort : ∀ text ∈ left, ShortText text)
    (rightShort : ∀ text ∈ right, ShortText text)
    (sameLength : left.length = right.length)
    (equal : left.flatMap pushStr ++ leftRest =
      right.flatMap pushStr ++ rightRest) :
    left = right ∧ leftRest = rightRest :=
  pushStr_selfDelimiting.flatMap leftShort rightShort sameLength equal

theorem contents_eq_of_message_eq (injective : Injective serialize)
    (written : ∀ endpoint, serialize endpoint ≠ [])
    {left right : RelayPayloadV1}
    (leftHas : left.control? serialize = some leftControl)
    (rightHas : right.control? serialize = some rightControl)
    (complete : left.Complete) (leftShort : left.Short serialize)
    (rightShort : right.Short serialize)
    (sender : leftControl.sender.installationId =
      rightControl.sender.installationId)
    (recipient : leftControl.recipient = rightControl.recipient)
    (message : leftControl.message = rightControl.message) :
    left.contents = right.contents := by
  have kinds : left.domain = right.domain := by
    rw [← take_message leftHas, ← take_message rightHas, message]
  cases left with
  | welcome version leftSender leftRecipient leftInvite leftSealed leftTree
      leftEndpoint leftId leftSecret leftSignature =>
      cases right with
      | welcome version rightSender rightRecipient rightInvite rightSealed
          rightTree rightEndpoint rightId rightSecret rightSignature =>
          obtain rfl := Option.some.inj leftHas
          obtain rfl := Option.some.inj rightHas
          obtain ⟨leftTexts, leftEndpointShort, leftIdShort, leftSecretShort⟩ :=
            leftShort
          obtain ⟨rightTexts, rightEndpointShort, rightIdShort,
            rightSecretShort⟩ := rightShort
          simp only [welcomeSigningBytes, List.append_assoc] at message
          obtain ⟨texts, tail⟩ := pushTexts_cancel leftTexts rightTexts rfl
            (List.append_cancel_left message)
          obtain ⟨endpointBytes, capability⟩ := pushBytes_cancel
            (serialized_short leftEndpointShort)
            (serialized_short rightEndpointShort) tail
          have endpoint := serialized_inj injective written endpointBytes
          have capabilities := capabilityBytes_inj complete leftIdShort
            leftSecretShort rightIdShort rightSecretShort capability
          obtain ⟨_, _, _, _⟩ := leftSender
          obtain ⟨_, _, _, _⟩ := rightSender
          simp_all [contents]
      | welcomeApplied => exact absurd kinds (by simp only [domain]; decide)
      | relationshipRemovalApplied =>
        exact absurd kinds (by simp only [domain]; decide)
      | _ => cases rightHas
  | welcomeApplied version leftSender leftRecipient leftInvite leftSignature =>
    cases right with
    | welcome => exact absurd kinds (by simp only [domain]; decide)
    | welcomeApplied version rightSender rightRecipient rightInvite
        rightSignature =>
        obtain rfl := Option.some.inj leftHas
        obtain rfl := Option.some.inj rightHas
        simp only [welcomeAppliedSigningBytes] at message
        have bytes := congrArg (· ++ []) (List.append_cancel_left message)
        obtain ⟨texts, -⟩ := pushTexts_cancel leftShort rightShort rfl bytes
        obtain ⟨_, _, _, _⟩ := leftSender
        obtain ⟨_, _, _, _⟩ := rightSender
        simp_all [contents]
    | relationshipRemovalApplied =>
      exact absurd kinds (by simp only [domain]; decide)
    | _ => cases rightHas
  | relationshipRemovalApplied version leftSender leftRecipient leftRemoval
      leftEpoch leftTime leftSignature =>
      cases right with
      | welcome | welcomeApplied =>
        exact absurd kinds (by simp only [domain]; decide)
      | relationshipRemovalApplied version rightSender rightRecipient
          rightRemoval rightEpoch rightTime rightSignature =>
          obtain rfl := Option.some.inj leftHas
          obtain rfl := Option.some.inj rightHas
          have text := utf8_injective message
          obtain ⟨text, time⟩ := intRepr_cancel text
          obtain ⟨text, epoch⟩ := intRepr_cancel text
          simp only at sender recipient
          rw [sender, recipient] at text
          have removal := (String.append_right_inj _).mp text
          simp only [contents, sender, recipient, removal, epoch, time]
      | _ => cases rightHas
  | _ => cases leftHas

end RelayPayloadV1

open RelayPayloadV1

/-- What is accepted with a control signature reads as what was signed. -/
theorem control_signatures_are_not_transferable
    (crypto : Crypto) (correct : crypto.Correct)
    (serialize : PeerEndpointBundle → Bytes)
    (injective : Function.Injective serialize)
    (written : ∀ endpoint, serialize endpoint ≠ [])
    (fromSlice : Bytes → Except String RelayPayloadV1)
    (bounded : Bounded crypto serialize fromSlice)
    (identity : crypto.SigningKey)
    (onlyKey : ∀ key, installationIdFromPublicKey crypto key =
      installationId crypto identity → key = crypto.verifyingKey identity)
    (messages : Set Bytes) (unforgeable : crypto.Unforgeable messages)
    (signed accepted : RelayPayloadV1)
    (honest : Honest crypto serialize identity signed)
    (signedShort : signed.Short serialize)
    (value : String) (received : (utf8 value).length ≤ maxMessageBytes)
    (decoded : decode crypto fromSlice value = .ok accepted)
    (original copy : Control)
    (signedControl : signed.control? serialize = some original)
    (acceptedControl : accepted.control? serialize = some copy)
    (originalKnown : original.message ∈ messages)
    (copyKnown : copy.message ∈ messages)
    (sameSignature : copy.signature = original.signature)
    (accepts : accepted.Accepts crypto serialize
      (installationId crypto identity) original.recipient) :
    accepted.contents = signed.contents := by
  have acceptedShort := bounded.short received decoded
  obtain ⟨control, has, valid, sender, recipient, verified⟩ :=
    Accepts.iff_control.mp accepts
  obtain rfl := Option.some.inj (acceptedControl.symm.trans has)
  obtain ⟨signer, signature⟩ := honest.control signedControl
  rw [verifySignature_of_validate correct onlyKey valid sender, sameSignature,
    signature, verifySignature_own correct] at verified
  have message := unforgeable identity _ originalKnown _ copyKnown verified
  exact (contents_eq_of_message_eq injective written signedControl
    acceptedControl honest.complete signedShort acceptedShort
    (signer.trans sender.symm) recipient.symm message.symm).symm

def plainText (text : String) : Bytes := unaryPrefixed (utf8 text)

def plainSerialize (endpoint : PeerEndpointBundle) : Bytes :=
  pushU16 endpoint.protocolVersion ++
  plainText endpoint.installationId ++
  plainText endpoint.onionAddress ++
  pushU16 endpoint.virtualPort ++
  plainText endpoint.identityPublicKey ++
  unary endpoint.capabilities.length ++
  endpoint.capabilities.flatMap plainText ++
  pushU64 endpoint.sequence ++
  pushI64 endpoint.issuedAt ++
  optional pushI64 endpoint.expiresAt ++
  plainText endpoint.signature

theorem plainText_selfDelimiting : SelfDelimiting plainText Set.univ :=
  unaryPrefixed_selfDelimiting.comap utf8_injective

theorem plainText_cancel
    (equal : plainText left ++ leftRest = plainText right ++ rightRest) :
    left = right ∧ leftRest = rightRest :=
  plainText_selfDelimiting left trivial right trivial _ _ equal

theorem plainSerialize_injective : Injective plainSerialize := by
  intro left right same
  have equal := congrArg (· ++ []) same
  simp only [plainSerialize, List.append_assoc] at equal
  obtain ⟨version, equal⟩ := pushU16_cancel equal
  obtain ⟨installation, equal⟩ := plainText_cancel equal
  obtain ⟨onion, equal⟩ := plainText_cancel equal
  obtain ⟨port, equal⟩ := pushU16_cancel equal
  obtain ⟨key, equal⟩ := plainText_cancel equal
  obtain ⟨count, equal⟩ := unary_selfDelimiting _ trivial _ trivial _ _ equal
  obtain ⟨capabilities, equal⟩ := plainText_selfDelimiting.flatMap
    (fun _ _ => trivial) (fun _ _ => trivial) count equal
  obtain ⟨sequence, equal⟩ := pushU64_cancel equal
  obtain ⟨issued, equal⟩ := pushI64_cancel equal
  obtain ⟨expires, equal⟩ := optional_selfDelimiting pushI64_selfDelimiting _
    (fun _ _ => trivial) _ (fun _ _ => trivial) _ _ equal
  obtain ⟨signature, -⟩ := plainText_cancel equal
  cases left
  simp_all

theorem plainSerialize_ne_nil (endpoint : PeerEndpointBundle) :
    plainSerialize endpoint ≠ [] := by
  intro empty
  have length := congrArg List.length empty
  simp [plainSerialize, pushU16] at length

theorem padded_toList (array : Vector UInt8 size) :
    padded size array.toList = array := by
  ext place bound
  simp [padded]

theorem plain_onlyKey (key : Key32)
    (same : installationIdFromPublicKey .plain key = installationId .plain ()) :
    key = plain.verifyingKey () := by
  have decoded := congrArg plain.decode64 same
  simp only [installationIdFromPublicKey, installationId,
    plain_correct.decode_encode, Option.some.injEq] at decoded
  have digests := Vector.toList_inj.mp decoded
  simp only [plain, padded_toList] at digests
  exact digests

/-! Of its sender an acknowledgement of a removal signs the id alone. -/

def signedAck : RelayPayloadV1 :=
  relationshipRemovalAppliedBy .plain () "bob" "removal" 3 7

def ackBytes : Bytes :=
  relationshipRemovalAppliedSigningBytes
    (ContactCard.fromIdentity .plain () "TorChat") "bob" "removal" 3 7

def ackControl (nickname : String) : Control where
  sender := ContactCard.fromIdentity .plain () nickname
  recipient := "bob"
  message := ackBytes
  signature := sign .plain () ackBytes

def renamedAck : RelayPayloadV1 :=
  .relationshipRemovalApplied protocolVersion
    (ContactCard.fromIdentity .plain () "Alice") "bob" "removal" 3 7
    (sign .plain () ackBytes)

def readAck (bytes : Bytes) : Except String RelayPayloadV1 :=
  if bytes = utf8 "ack" then .ok renamedAck else .error "expected value"

theorem readAck_bounded : Bounded .plain plainSerialize readAck where
  decoded := by
    intro text bytes decodes
    obtain rfl := Option.some.inj decodes
    have longer := le_length_utf8_ofList text.toList
    rw [String.ofList_toList] at longer
    rwa [List.length_map]
  read := by
    intro bytes payload read
    unfold readAck at read
    split at read
    · obtain rfl := Except.ok.inj read
      trivial
    · cases read

theorem renamedAck_reads_as_signed :
    renamedAck.contents = signedAck.contents := by
  have accepts : renamedAck.Accepts .plain plainSerialize
      (installationId .plain ()) "bob" := by
    refine Accepts.iff_control.mpr
      ⟨ackControl "Alice", rfl, by decide, rfl, rfl, ?_⟩
    refine (verifySignature_own Crypto.plain_correct () _ _).trans ?_
    exact Crypto.plain_correct.verify_sign _ _
  refine control_signatures_are_not_transferable .plain Crypto.plain_correct
    plainSerialize plainSerialize_injective plainSerialize_ne_nil readAck
    readAck_bounded () plain_onlyKey {ackBytes} ?_ signedAck renamedAck
    (.relationshipRemovalApplied "bob" "removal" 3 7) trivial "ack" (by decide)
    rfl (ackControl "TorChat") (ackControl "Alice") rfl rfl rfl rfl rfl accepts
  rintro ⟨⟩ _ rfl _ rfl _
  rfl

end Torchat.Core
