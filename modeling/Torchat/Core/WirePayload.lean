import Torchat.Core.RelayPayload

namespace Torchat.Core

open Foundation

/-- The values of `serde_json`; an object is the list of its fields. -/
inductive Json
  | null
  | bool (value : Bool)
  | number (value : Int)
  | text (value : String)
  | array (items : List Json)
  | object (fields : List (String × Json))

/-- `serde_json::to_vec` and `serde_json::from_slice`, down to the value. -/
structure JsonCodec where
  toVec : Json → Bytes
  fromSlice : Bytes → Except String Json

/-- A value that is read back as it was written. -/
def JsonCodec.RoundTrips (codec : JsonCodec) (json : Json) : Prop :=
  codec.fromSlice (codec.toVec json) = .ok json

namespace Json

/-- A field that a derived `Deserialize` asks for. The texts go on with the
place in the input, which is left out. -/
def field (name : String) (fields : List (String × Json)) : Except String Json :=
  match fields.filter fun entry => entry.1 = name with
  | [] => .error ("missing field `" ++ name ++ "`")
  | [entry] => .ok entry.2
  | _ => .error ("duplicate field `" ++ name ++ "`")

def asU16 : Json → Except String UInt16
  | number value =>
    if 0 ≤ value ∧ value < 2 ^ 16 then .ok (.ofNat value.toNat)
    else .error "invalid value, expected u16"
  | _ => .error "invalid type, expected u16"

def asText : Json → Except String String
  | text value => .ok value
  | _ => .error "invalid type, expected a string"

end Json

structure PeerCiphertextPayload where
  protocolVersion : UInt16
  ciphertext : String

namespace PeerCiphertextPayload

variable (crypto : Crypto) (codec : JsonCodec)

def new (ciphertext : Bytes) : PeerCiphertextPayload :=
  ⟨Core.protocolVersion, crypto.encode64 ciphertext⟩

def toJson (payload : PeerCiphertextPayload) : Json :=
  .object
    [("protocolVersion", .number payload.protocolVersion.toNat),
      ("ciphertext", .text payload.ciphertext)]

/-- A structure may be written as an object, with further fields passed over, or
as the array of its fields. -/
def ofJson : Json → Except String PeerCiphertextPayload
  | .object fields => do
      let protocolVersion ← Json.field "protocolVersion" fields
      let protocolVersion ← protocolVersion.asU16
      let ciphertext ← Json.field "ciphertext" fields
      return ⟨protocolVersion, ← ciphertext.asText⟩
  | .array [protocolVersion, ciphertext] => do
      return ⟨← protocolVersion.asU16, ← ciphertext.asText⟩
  | _ => .error "invalid type, expected struct PeerCiphertextPayload"

def encode (payload : PeerCiphertextPayload) : String :=
  crypto.encode64 (codec.toVec payload.toJson)

def decode (value : String) : Except String Bytes := do
  let bytes ← required (crypto.decode64 value)
    "invalid peer ciphertext payload encoding"
  let payload ← (codec.fromSlice bytes >>= ofJson).mapError fun error =>
    "invalid peer ciphertext payload: " ++ error
  refuseIf (payload.protocolVersion ≠ Core.protocolVersion)
    "unsupported peer ciphertext payload version"
  required (crypto.decode64 payload.ciphertext)
    "invalid peer ciphertext encoding"

end PeerCiphertextPayload

def decodeWire (crypto : Crypto) (codec : JsonCodec) (bytes : Bytes) :
    Except String Bytes :=
  match String.fromUTF8? ⟨bytes.toArray⟩ with
  | none => .error "peer wire ciphertext is not UTF-8"
  | some text => PeerCiphertextPayload.decode crypto codec text

theorem decodeWire_utf8 (crypto : Crypto) (codec : JsonCodec) (text : String) :
    decodeWire crypto codec (utf8 text) =
      PeerCiphertextPayload.decode crypto codec text := by
  have read : String.fromUTF8? ⟨(utf8 text).toArray⟩ = some text := by
    have same : (⟨(utf8 text).toArray⟩ : ByteArray) = text.toByteArray := by
      simp [utf8]
    simp only [String.fromUTF8?, Option.dite_none_right_eq_some]
    exact ⟨text.isValidUTF8, rfl⟩
  rw [decodeWire, read]

theorem decodeWire_encode (correct : crypto.Correct)
    (read : codec.RoundTrips
      (PeerCiphertextPayload.new crypto ciphertext).toJson) :
    decodeWire crypto codec
        (utf8 ((PeerCiphertextPayload.new crypto ciphertext).encode crypto
          codec)) = .ok ciphertext := by
  have version : Json.asU16 (.number (protocolVersion.toNat : Int)) =
      .ok protocolVersion := by decide
  have parsed : PeerCiphertextPayload.ofJson
      (PeerCiphertextPayload.new crypto ciphertext).toJson =
        .ok (.new crypto ciphertext) := by
    simp [PeerCiphertextPayload.toJson, PeerCiphertextPayload.ofJson,
      PeerCiphertextPayload.new, Json.field, Json.asText, version, bind,
      Except.bind, pure, Except.pure]
  rw [decodeWire_utf8, PeerCiphertextPayload.decode,
    PeerCiphertextPayload.encode, correct.decode_encode]
  unfold JsonCodec.RoundTrips at read
  simp only [required, bind, Except.bind, read, parsed, mapError_ok]
  simp [PeerCiphertextPayload.new, refuseIf, correct.decode_encode]

namespace ContactCard

def toJson (card : ContactCard) : Json :=
  .object
    [("installation_id", .text card.installationId),
      ("public_key", .text card.publicKey),
      ("fingerprint", .text card.fingerprint),
      ("nickname", .text card.nickname)]

end ContactCard

namespace PeerEndpointBundle

def toJson (endpoint : PeerEndpointBundle) : Json :=
  .object
    ([("protocolVersion", .number endpoint.protocolVersion.toNat),
      ("installationId", .text endpoint.installationId),
      ("onionAddress", .text endpoint.onionAddress),
      ("virtualPort", .number endpoint.virtualPort.toNat),
      ("identityPublicKey", .text endpoint.identityPublicKey),
      ("capabilities", .array (endpoint.capabilities.map .text)),
      ("sequence", .number endpoint.sequence.toNat),
      ("issuedAt", .number endpoint.issuedAt.toInt)] ++
    (endpoint.expiresAt.map fun expiresAt =>
      ("expiresAt", Json.number expiresAt.toInt)).toList ++
    [("signature", .text endpoint.signature)])

end PeerEndpointBundle

namespace RelayPayloadV1

def kind : RelayPayloadV1 → String
  | pairingOffer .. => "pairing_offer"
  | pairingRejected .. => "pairing_rejected"
  | welcome .. => "welcome"
  | welcomeApplied .. => "welcome_applied"
  | peerEndpointBootstrap .. => "peer_endpoint_bootstrap"
  | relationshipRemovalApplied .. => "relationship_removal_applied"

def fields : RelayPayloadV1 → List (String × Json)
  | pairingOffer version pairingId capability invite =>
    [("version", .number version.toNat), ("pairing_id", .text pairingId),
      ("capability", .text capability), ("invite", .text invite)]
  | pairingRejected version pairingId =>
    [("version", .number version.toNat), ("pairing_id", .text pairingId)]
  | welcome version sender recipient inviteId message ratchetTree peerEndpoint
      peerCapabilityId peerCapabilitySecret signature =>
      [("version", .number version.toNat), ("sender", sender.toJson),
        ("recipient", .text recipient), ("invite_id", .text inviteId),
        ("welcome", .text message), ("ratchet_tree", .text ratchetTree)] ++
      (peerEndpoint.map fun endpoint =>
        ("peer_endpoint", endpoint.toJson)).toList ++
      (peerCapabilityId.map fun id => ("peer_capability_id", .text id)).toList ++
      (peerCapabilitySecret.map fun secret =>
        ("peer_capability_secret", .text secret)).toList ++
      [("signature", .text signature)]
  | welcomeApplied version sender recipient inviteId signature =>
    [("version", .number version.toNat), ("sender", sender.toJson),
      ("recipient", .text recipient), ("invite_id", .text inviteId),
      ("signature", .text signature)]
  | peerEndpointBootstrap version sender recipient endpoint =>
    [("version", .number version.toNat), ("sender", sender.toJson),
      ("recipient", .text recipient), ("endpoint", endpoint.toJson)]
  | relationshipRemovalApplied version sender recipientInstallationId removalId
      relationshipEpoch appliedAt signature =>
      [("version", .number version.toNat), ("sender", sender.toJson),
        ("recipient_installation_id", .text recipientInstallationId),
        ("removal_id", .text removalId),
        ("relationship_epoch", .number relationshipEpoch.toInt),
        ("applied_at", .number appliedAt.toInt),
        ("signature", .text signature)]

def toJson (payload : RelayPayloadV1) : Json :=
  .object (("kind", .text payload.kind) :: payload.fields)

def encode (crypto : Crypto) (codec : JsonCodec) (payload : RelayPayloadV1) :
    String :=
  crypto.encode64 (codec.toVec payload.toJson)

theorem protocolVersion_notMem_fields (payload : RelayPayloadV1) :
    ∀ entry ∈ payload.fields, entry.1 ≠ "protocolVersion" := by
  cases payload with
  | welcome version sender recipient inviteId message ratchetTree peerEndpoint
      peerCapabilityId peerCapabilitySecret signature =>
      cases peerEndpoint <;> cases peerCapabilityId <;>
        cases peerCapabilitySecret <;> simp [fields]
  | _ => simp [fields]

theorem decodeWire_encode (correct : crypto.Correct)
    {payload : RelayPayloadV1} (read : codec.RoundTrips payload.toJson) :
    decodeWire crypto codec (utf8 (payload.encode crypto codec)) =
      .error ("invalid peer ciphertext payload: " ++
        "missing field `protocolVersion`") := by
  have missing : Json.field "protocolVersion"
      (("kind", .text payload.kind) :: payload.fields) =
        .error "missing field `protocolVersion`" := by
    have none : (payload.fields.filter fun entry =>
        decide (entry.1 = "protocolVersion")) = [] := by
      simpa using protocolVersion_notMem_fields payload
    simp [Json.field, none]
  rw [decodeWire_utf8, PeerCiphertextPayload.decode, encode,
    correct.decode_encode]
  unfold JsonCodec.RoundTrips at read
  simp only [required, bind, Except.bind, read]
  simp only [toJson, PeerCiphertextPayload.ofJson, bind, Except.bind, missing,
    mapError_error]

end RelayPayloadV1

end Torchat.Core
