import Torchat.Core.PeerProtocol

namespace Torchat.Core

open Foundation

theorem saturatingSub_le_skew (left right : Int64) :
    saturatingSub left right ≤ maxEndpointClockSkewSecs ↔
      left.toInt ≤ right.toInt + 10 * 60 := by
  have skew : maxEndpointClockSkewSecs.toInt = 10 * 60 := by decide
  rw [Int64.le_iff_toInt_le, skew, saturatingSub, Int64.toInt_ofInt_of_le]
  · omega
  · omega
  · omega

/-- What `PeerEndpointBundle::validate` asks of an endpoint. -/
structure PeerEndpointBundle.Valid
    (crypto : Crypto) (endpoint : PeerEndpointBundle) (now : Int64) : Prop where
  version : endpoint.protocolVersion = Core.protocolVersion
  numbered : endpoint.sequence ≠ 0
  port : endpoint.virtualPort = peerVirtualPort
  issued : endpoint.issuedAt.toInt ≤ now.toInt + 10 * 60
  onion : isValidOnionAddress endpoint.onionAddress = true
  live : ∀ expiresAt ∈ endpoint.expiresAt, now ≤ expiresAt
  expiry : ∀ expiresAt ∈ endpoint.expiresAt,
    expiresAt.toInt ≤ now.toInt + 10 * 60
  capable : endpoint.capabilities ≠ []
  named : ∀ capability ∈ endpoint.capabilities,
    trim capability ≠ "" ∧ capability.utf8ByteSize ≤ 64
  distinct : endpoint.capabilities.Nodup
  identity : ∃ key : Key32,
    crypto.decode64 endpoint.identityPublicKey = some key.toList ∧
    endpoint.installationId = installationIdFromPublicKey crypto key
  signed : verifySignature crypto endpoint.identityPublicKey
    endpoint.signingBytes endpoint.signature = true

theorem toArray?_eq_some_iff :
    toArray? size bytes = some array ↔ bytes = array.toList := by
  constructor
  · intro converted
    unfold toArray? at converted
    split at converted
    · cases converted
      rfl
    · cases converted
  · rintro rfl
    exact toArray?_toList array

variable {endpoint : PeerEndpointBundle}

theorem PeerEndpointBundle.validate_eq_ok_iff :
    endpoint.validate crypto now = .ok () ↔ endpoint.Valid crypto now := by
  simp only [validate, refuseIf_bind_eq_ok, required_bind_eq_ok, refuseIf_eq_ok,
    toArray?_eq_some_iff, not_exists, not_and, not_or, not_not, ne_eq, not_lt,
    gt_iff_lt, Int64.not_lt, saturatingSub_le_skew]
  constructor
  · rintro ⟨version, numbered, port, issued, onion, live, expiry,
      ⟨capable, named⟩, distinct, decoded, found, key, rfl, installation,
      signed⟩
    exact {
      version, numbered, port, issued, onion, live, expiry, capable, named,
      distinct, signed
      identity := ⟨key, found, installation.symm⟩ }
  · intro valid
    obtain ⟨key, found, installation⟩ := valid.identity
    exact ⟨valid.version, valid.numbered, valid.port, valid.issued, valid.onion,
      valid.live, valid.expiry, ⟨valid.capable, valid.named⟩, valid.distinct,
      key.toList, found, key, rfl, installation.symm, valid.signed⟩

theorem PeerEndpointBundle.validateSuccessor_eq_ok_iff :
    endpoint.validateSuccessor crypto previous now = .ok () ↔
      endpoint.Valid crypto now ∧
      endpoint.installationId = previous.installationId ∧
      endpoint.identityPublicKey = previous.identityPublicKey ∧
      previous.sequence < endpoint.sequence := by
  simp only [validateSuccessor, bind_eq_ok, Unique.exists_iff,
    refuseIf_eq_ok, not_or, not_not, ne_eq, UInt64.not_le, and_assoc]
  exact and_congr_left' validate_eq_ok_iff

structure ContactInvite where
  version : UInt16
  installationId : String
  publicKey : String
  fingerprint : String
  nickname : Option String
  recipientInstallationId : Option String
  keyPackage : String
  inviteId : String
  expiresAt : UInt64
  peerEndpoint : Option PeerEndpointBundle
  peerCapabilityId : Option String
  peerCapabilitySecret : Option String
  signature : Option String

structure InviteValidationPolicy where
  maxFutureLifetimeSecs : UInt64 := 15 * 60 + 120

/-- `serde_json` on invites and `Uuid::parse_str`. -/
structure InviteCodec where
  fromStr : String → Except String ContactInvite
  toText : ContactInvite → Option String
  parsesUuid : String → Bool

/-- An invite that is written, and read back as it was written. -/
def InviteCodec.RoundTrips (codec : InviteCodec) (invite : ContactInvite) :
    Prop :=
  ∃ text, codec.toText invite = some text ∧ codec.fromStr text = .ok invite

def isAsciiHexDigit (character : Char) : Bool :=
  ('0' ≤ character && character ≤ '9') || ('a' ≤ character && character ≤ 'f') ||
    ('A' ≤ character && character ≤ 'F')

namespace ContactInvite

variable (crypto : Crypto) (codec : InviteCodec)

def signingBytes (invite : ContactInvite) : Option Bytes :=
  (codec.toText { invite with signature := none }).map utf8

def checkCapability (invite : ContactInvite) : Except String Unit :=
  match invite.peerCapabilityId, invite.peerCapabilitySecret with
  | some id, some secret => do
      refuseIf (id.utf8ByteSize ≠ 16 ∨ ¬ id.toList.all isAsciiHexDigit)
        "invite capability ID is invalid"
      let secret ← required (crypto.decode64 secret)
        "invite capability secret is invalid"
      refuseIf (secret.length < 16) "invite capability secret is too short"
      let endpoint ← required invite.peerEndpoint
        "invite capability has no peer endpoint"
      refuseIf (("contact_endpoint_v1:" ++ id) ∉ endpoint.capabilities)
        "invite capability is not advertised by endpoint"
  | none, none => .ok ()
  | _, _ => .error "invite capability credentials are incomplete"

def checkEndpoint (invite : ContactInvite) (now : UInt64) :
    Except String Unit :=
  match invite.peerEndpoint with
  | none => .ok ()
  | some endpoint => do
      endpoint.validate crypto now.toInt64
      refuseIf
        (endpoint.installationId ≠ invite.installationId ∨
          endpoint.identityPublicKey ≠ invite.publicKey)
        "invite peer endpoint does not match invite identity"

def parseAtWithPolicy (value : String) (now : UInt64)
    (policy : InviteValidationPolicy) : Except String ContactInvite := do
  let invite ← (codec.fromStr value).mapError ("invalid invite JSON: " ++ ·)
  refuseIf (invite.version ≠ protocolVersion) "unsupported invite version"
  let decoded ← required (crypto.decode64 invite.publicKey)
    "invalid invite public key"
  let key ← required (toArray? 32 decoded) "invalid invite public key length"
  refuseIf (invite.installationId ≠ installationIdFromPublicKey crypto key)
    "invite installation ID does not match public key"
  refuseIf (invite.fingerprint ≠ fingerprintFromPublicKey crypto key)
    "invite fingerprint does not match public key"
  refuseIf (invite.keyPackage = "") "invite has no MLS KeyPackage"
  refuseIf (invite.recipientInstallationId = some "")
    "invite recipient is invalid"
  refuseIf (¬ codec.parsesUuid invite.inviteId) "invite ID is invalid"
  refuseIf (invite.expiresAt < now) "invite has expired"
  refuseIf
    (invite.expiresAt.toNat - now.toNat > policy.maxFutureLifetimeSecs.toNat)
    "invite lifetime exceeds clock-skew policy"
  let signature ← required (invite.signature.filter (· ≠ ""))
    "invite has no signature"
  let bytes ← required (invite.signingBytes codec) "invite serialization failed"
  refuseIf (¬ verifySignature crypto invite.publicKey bytes signature)
    "invite signature is invalid"
  refuseIf
    (∃ nickname ∈ invite.nickname,
      trim nickname = "" ∨ nickname.toList.length > 32)
    "invite nickname is invalid"
  invite.checkEndpoint crypto now
  invite.checkCapability crypto
  return invite

def sign (identity : crypto.SigningKey) (invite : ContactInvite) :
    Option ContactInvite := do
  let bytes ← invite.signingBytes codec
  return { invite with signature := some (Core.sign crypto identity bytes) }

/-- The rules an invite's fields keep, its signature apart. -/
structure WellFormed (invite : ContactInvite) (now : UInt64)
    (policy : InviteValidationPolicy) : Prop where
  version : invite.version = protocolVersion
  identity : ∃ key : Key32,
    crypto.decode64 invite.publicKey = some key.toList ∧
    invite.installationId = installationIdFromPublicKey crypto key ∧
    invite.fingerprint = fingerprintFromPublicKey crypto key
  keyPackage : invite.keyPackage ≠ ""
  recipient : invite.recipientInstallationId ≠ some ""
  inviteId : codec.parsesUuid invite.inviteId = true
  live : now ≤ invite.expiresAt
  lifetime : invite.expiresAt.toNat ≤
    now.toNat + policy.maxFutureLifetimeSecs.toNat
  nickname : ∀ nickname ∈ invite.nickname,
    trim nickname ≠ "" ∧ nickname.toList.length ≤ 32
  endpoint : ∀ endpoint ∈ invite.peerEndpoint,
    endpoint.Valid crypto now.toInt64 ∧
    endpoint.installationId = invite.installationId ∧
    endpoint.identityPublicKey = invite.publicKey
  capability :
    (invite.peerCapabilityId = none ∧ invite.peerCapabilitySecret = none) ∨
    ∃ id secret bytes endpoint,
      invite.peerCapabilityId = some id ∧
      invite.peerCapabilitySecret = some secret ∧
      id.utf8ByteSize = 16 ∧ id.toList.all isAsciiHexDigit = true ∧
      crypto.decode64 secret = some bytes ∧ 16 ≤ bytes.length ∧
      invite.peerEndpoint = some endpoint ∧
      "contact_endpoint_v1:" ++ id ∈ endpoint.capabilities

def Signed (invite : ContactInvite) : Prop :=
  ∃ signature bytes, invite.signature = some signature ∧ signature ≠ "" ∧
    invite.signingBytes codec = some bytes ∧
    verifySignature crypto invite.publicKey bytes signature = true

variable {crypto codec} {invite : ContactInvite}

theorem checkCapability_eq_ok_iff :
    invite.checkCapability crypto = .ok () ↔
      (invite.peerCapabilityId = none ∧ invite.peerCapabilitySecret = none) ∨
      ∃ id secret bytes endpoint,
        invite.peerCapabilityId = some id ∧
        invite.peerCapabilitySecret = some secret ∧
        id.utf8ByteSize = 16 ∧ id.toList.all isAsciiHexDigit = true ∧
        crypto.decode64 secret = some bytes ∧ 16 ≤ bytes.length ∧
        invite.peerEndpoint = some endpoint ∧
        "contact_endpoint_v1:" ++ id ∈ endpoint.capabilities := by
  unfold checkCapability
  cases invite.peerCapabilityId with
  | none => cases invite.peerCapabilitySecret <;> simp
  | some id =>
    cases invite.peerCapabilitySecret with
    | none => simp
    | some secret =>
      simp only [refuseIf_bind_eq_ok, required_bind_eq_ok, refuseIf_eq_ok,
        not_or, not_not, ne_eq, not_lt]
      constructor
      · rintro ⟨⟨sized, hex⟩, bytes, decoded, long, endpoint, found, listed⟩
        exact .inr ⟨id, secret, bytes, endpoint, rfl, rfl, sized, hex,
          decoded, long, found, listed⟩
      · rintro (⟨missing, _⟩ | ⟨_, _, bytes, endpoint, same, sameSecret,
          sized, hex, decoded, long, found, listed⟩)
        · cases missing
        · cases same
          cases sameSecret
          exact ⟨⟨sized, hex⟩, bytes, decoded, long, endpoint, found,
            listed⟩

theorem checkEndpoint_eq_ok_iff :
    invite.checkEndpoint crypto now = .ok () ↔
      ∀ endpoint ∈ invite.peerEndpoint,
        endpoint.Valid crypto now.toInt64 ∧
        endpoint.installationId = invite.installationId ∧
        endpoint.identityPublicKey = invite.publicKey := by
  unfold checkEndpoint
  cases invite.peerEndpoint with
  | none => simp
  | some endpoint =>
    simp only [bind_eq_ok, refuseIf_eq_ok, not_or, not_not, ne_eq,
      Option.mem_def, Option.some.injEq, forall_eq']
    constructor
    · rintro ⟨⟨⟩, valid, bound⟩
      exact ⟨PeerEndpointBundle.validate_eq_ok_iff.mp valid, bound⟩
    · rintro ⟨valid, bound⟩
      exact ⟨(), PeerEndpointBundle.validate_eq_ok_iff.mpr valid, bound⟩

theorem parseAtWithPolicy_eq_ok_iff :
    parseAtWithPolicy crypto codec value now policy = .ok invite ↔
      codec.fromStr value = .ok invite ∧
      invite.WellFormed crypto codec now policy ∧
      invite.Signed crypto codec := by
  have lifetime : ∀ expiresAt bound : Nat,
      expiresAt - now.toNat ≤ bound ↔ expiresAt ≤ now.toNat + bound :=
    fun _ _ => Nat.sub_le_iff_le_add'
  rw [parseAtWithPolicy, bind_eq_ok]
  simp only [mapError_eq_ok, refuseIf_bind_eq_ok, required_bind_eq_ok,
    toArray?_eq_some_iff, not_exists, not_and, not_or, not_not, ne_eq, not_lt,
    gt_iff_lt, UInt64.not_lt, lifetime, Option.filter_eq_some_iff]
  constructor
  · rintro ⟨parsed, read, version, decoded, found, key, rfl, installation,
      fingerprint, keyPackage, recipient, inviteId, live, lifetime, signature,
      ⟨held, nonempty⟩, bytes, signing, verified, nickname, checks⟩
    simp only [bind_eq_ok] at checks
    obtain ⟨⟨⟩, endpoint, ⟨⟩, capability, same⟩ := checks
    cases same
    refine ⟨read, ?_, signature, bytes, held, by simpa using nonempty, signing,
      verified⟩
    exact {
      version, keyPackage, recipient, inviteId, live, lifetime, nickname
      identity := ⟨key, found, installation, fingerprint⟩
      endpoint := checkEndpoint_eq_ok_iff.mp endpoint
      capability := checkCapability_eq_ok_iff.mp capability }
  · rintro ⟨read, wellFormed, signature, bytes, held, nonempty, signing,
      verified⟩
    obtain ⟨key, found, installation, fingerprint⟩ := wellFormed.identity
    refine ⟨invite, read, wellFormed.version, key.toList, found, key, rfl,
      installation, fingerprint, wellFormed.keyPackage, wellFormed.recipient,
      wellFormed.inviteId, wellFormed.live, wellFormed.lifetime, signature,
      ⟨held, by simpa using nonempty⟩, bytes, signing, verified,
      wellFormed.nickname, ?_⟩
    rw [checkEndpoint_eq_ok_iff.mpr wellFormed.endpoint,
      checkCapability_eq_ok_iff.mpr wellFormed.capability]
    rfl

theorem WellFormed.sign
    (wellFormed : invite.WellFormed crypto codec now policy)
    {identity : crypto.SigningKey}
    (signs : invite.sign crypto codec identity = some signed) :
    signed.WellFormed crypto codec now policy := by
  obtain ⟨bytes, -, same⟩ := Option.bind_eq_some_iff.mp signs
  cases same
  exact {
    version := wellFormed.version
    identity := wellFormed.identity
    keyPackage := wellFormed.keyPackage
    recipient := wellFormed.recipient
    inviteId := wellFormed.inviteId
    live := wellFormed.live
    lifetime := wellFormed.lifetime
    nickname := wellFormed.nickname
    endpoint := wellFormed.endpoint
    capability := wellFormed.capability }

theorem signed_of_sign (correct : crypto.Correct)
    (own : invite.publicKey = Core.publicKey crypto identity)
    (signs : invite.sign crypto codec identity = some signed) :
    signed.Signed crypto codec := by
  obtain ⟨bytes, signing, same⟩ := Option.bind_eq_some_iff.mp signs
  cases same
  refine ⟨_, bytes, rfl, ?_, signing, ?_⟩
  · intro empty
    have decoded := correct.decode_encode (crypto.sign identity bytes).toList
    rw [← Core.sign, empty, ← correct.encode_empty,
      correct.decode_encode] at decoded
    have sized := congrArg List.length (Option.some.inj decoded)
    simp at sized
  · have verified := correct.verify_sign identity bytes
    rw [← verifySignature_own correct] at verified
    simpa only [own] using verified

theorem sign_of_written
    (written : codec.toText { invite with signature := none } = some text)
    (identity : crypto.SigningKey) :
    invite.sign crypto codec identity =
      some { invite with
        signature := some (Core.sign crypto identity (utf8 text)) } := by
  rw [sign, signingBytes, written]
  rfl

end ContactInvite

/-- An invite is accepted exactly when it decodes to one that keeps the rules
and is signed, and one that keeps the rules is signed and comes back from its
serialization. -/
theorem invites_accepted_are_the_wellFormed_signed_ones
    (crypto : Crypto) (codec : InviteCodec) (correct : crypto.Correct) :
    (∀ value now policy invite,
      ContactInvite.parseAtWithPolicy crypto codec value now policy =
          .ok invite ↔
        codec.fromStr value = .ok invite ∧
        invite.WellFormed crypto codec now policy ∧
        invite.Signed crypto codec) ∧
    (∀ (identity : crypto.SigningKey) (invite : ContactInvite) now policy,
      (∀ signature, codec.RoundTrips { invite with signature }) →
      invite.publicKey = publicKey crypto identity →
      invite.WellFormed crypto codec now policy →
      ∃ signed text,
        invite.sign crypto codec identity = some signed ∧
        { signed with signature := invite.signature } = invite ∧
        codec.toText signed = some text ∧
        ContactInvite.parseAtWithPolicy crypto codec text now policy =
          .ok signed) := by
  refine ⟨fun _ _ _ _ => ContactInvite.parseAtWithPolicy_eq_ok_iff, ?_⟩
  intro identity invite now policy roundTrips own wellFormed
  obtain ⟨unsigned, unsignedText, -⟩ := roundTrips none
  have signs := ContactInvite.sign_of_written unsignedText identity
  obtain ⟨text, written, read⟩ :=
    roundTrips (some (sign crypto identity (utf8 unsigned)))
  refine ⟨_, text, signs, rfl, written, ?_⟩
  exact ContactInvite.parseAtWithPolicy_eq_ok_iff.mpr
    ⟨read, wellFormed.sign signs,
      ContactInvite.signed_of_sign correct own signs⟩

/-! A minimal invite of the one plain identity, written as its signature. -/

def sampleInvite : ContactInvite where
  version := 1
  installationId := installationId .plain ()
  publicKey := publicKey .plain ()
  fingerprint := fingerprint .plain ()
  nickname := some "Alice"
  recipientInstallationId := none
  keyPackage := "package"
  inviteId := "0"
  expiresAt := 600
  peerEndpoint := none
  peerCapabilityId := none
  peerCapabilitySecret := none
  signature := none

def sampleCodec : InviteCodec where
  fromStr text :=
    match text.toList with
    | ['-'] => .ok sampleInvite
    | '+' :: signature =>
      .ok { sampleInvite with signature := some (String.ofList signature) }
    | _ => .error "expected value at line 1 column 1"
  toText invite :=
    match invite.signature with
    | none => some "-"
    | some signature => some (String.ofList ('+' :: signature.toList))
  parsesUuid _ := true

theorem sampleCodec_roundTrips (signature : Option String) :
    sampleCodec.RoundTrips { sampleInvite with signature } := by
  cases signature with
  | none => exact ⟨"-", rfl, rfl⟩
  | some signature =>
    refine ⟨_, rfl, ?_⟩
    simp only [sampleCodec, String.toList_ofList, String.ofList_toList]

theorem sampleInvite_comes_back :
    ∃ signed text,
      sampleInvite.sign .plain sampleCodec () = some signed ∧
      { signed with signature := sampleInvite.signature } = sampleInvite ∧
      sampleCodec.toText signed = some text ∧
      ContactInvite.parseAtWithPolicy .plain sampleCodec text 0 {} =
        .ok signed := by
  have wellFormed : sampleInvite.WellFormed .plain sampleCodec 0 {} := by
    exact {
      version := rfl
      identity := ⟨Crypto.plain.verifyingKey (),
        Crypto.plain_correct.decode_encode _, rfl, rfl⟩
      keyPackage := by decide
      recipient := by decide
      inviteId := rfl
      live := by decide
      lifetime := by decide
      nickname := by decide
      endpoint := by
        intro endpoint held
        cases held
      capability := .inl ⟨rfl, rfl⟩ }
  exact (invites_accepted_are_the_wellFormed_signed_ones .plain sampleCodec
    Crypto.plain_correct).2 () sampleInvite 0 {} sampleCodec_roundTrips rfl
    wellFormed

end Torchat.Core
