import Torchat.Core.PeerProtocol

namespace Torchat.Core

open Foundation

structure ContactCard where
  installationId : String
  publicKey : String
  fingerprint : String
  nickname : String
  deriving DecidableEq

namespace ContactCard

variable (crypto : Crypto)

def fromIdentity (identity : crypto.SigningKey) (nickname : String) :
    ContactCard where
  installationId := Core.installationId crypto identity
  publicKey := Core.publicKey crypto identity
  fingerprint := Core.fingerprint crypto identity
  nickname := nickname

def validate (card : ContactCard) : Except String Unit := do
  let decoded ← required (crypto.decode64 card.publicKey)
    "invalid contact public key"
  let key ← required (toArray? 32 decoded) "invalid contact public key length"
  refuseIf (installationIdFromPublicKey crypto key ≠ card.installationId)
    "contact installation ID does not match public key"
  refuseIf (fingerprintFromPublicKey crypto key ≠ card.fingerprint)
    "contact fingerprint does not match public key"
  let nickname := trim card.nickname
  refuseIf (nickname.utf8ByteSize < 2 ∨ nickname.toList.length > 32)
    "contact nickname is invalid"

end ContactCard

inductive RelayPayloadV1
  | pairingOffer
      (version : UInt16) (pairingId capability invite : String)
  | pairingRejected (version : UInt16) (pairingId : String)
  | welcome
      (version : UInt16) (sender : ContactCard)
      (recipient inviteId welcome ratchetTree : String)
      (peerEndpoint : Option PeerEndpointBundle)
      (peerCapabilityId peerCapabilitySecret : Option String)
      (signature : String)
  | welcomeApplied
      (version : UInt16) (sender : ContactCard) (recipient inviteId : String)
      (signature : String)
  | peerEndpointBootstrap
      (version : UInt16) (sender : ContactCard) (recipient : String)
      (endpoint : PeerEndpointBundle)
  | relationshipRemovalApplied
      (version : UInt16) (sender : ContactCard)
      (recipientInstallationId removalId : String)
      (relationshipEpoch appliedAt : Int64) (signature : String)
  deriving DecidableEq

/-- The bytes signed for a Welcome. The capability fields are appended only
where one of them is there, and a missing one counts as empty. `serialize` is
`serde_json::to_vec`. -/
def welcomeSigningBytes (serialize : PeerEndpointBundle → Bytes)
    (sender : ContactCard) (recipient inviteId welcome ratchetTree : String)
    (peerEndpoint : Option PeerEndpointBundle)
    (peerCapabilityId peerCapabilitySecret : Option String) : Bytes :=
  utf8 "torchat-welcome-v1" ++
  [sender.installationId, sender.publicKey, sender.fingerprint, sender.nickname,
    recipient, inviteId, welcome, ratchetTree].flatMap pushStr ++
  pushBytes ((peerEndpoint.map serialize).getD []) ++
  if peerCapabilityId.isSome ∨ peerCapabilitySecret.isSome then
    [peerCapabilityId.getD "", peerCapabilitySecret.getD ""].flatMap pushStr
  else
    []

def welcomeAppliedSigningBytes
    (sender : ContactCard) (recipient inviteId : String) : Bytes :=
  utf8 "torchat-welcome-applied-v1" ++
  [sender.installationId, sender.publicKey, sender.fingerprint, sender.nickname,
    recipient, inviteId].flatMap pushStr

def relationshipRemovalAppliedSigningBytes
    (sender : ContactCard) (recipientInstallationId removalId : String)
    (relationshipEpoch appliedAt : Int64) : Bytes :=
  utf8
    ("torchat.relationship-removal-applied.v1" ++
      "|" ++ Nat.repr protocolVersion.toNat ++
      "|" ++ sender.installationId ++
      "|" ++ recipientInstallationId ++
      "|" ++ removalId ++
      "|" ++ Int.repr relationshipEpoch.toInt ++
      "|" ++ Int.repr appliedAt.toInt)

namespace RelayPayloadV1

variable (crypto : Crypto) (serialize : PeerEndpointBundle → Bytes)

def welcomeWithEndpoint
    (identity : crypto.SigningKey) (nickname recipient inviteId : String)
    (welcome ratchetTree : Bytes) (peerEndpoint : Option PeerEndpointBundle)
    (peerCapabilityId peerCapabilitySecret : Option String) : RelayPayloadV1 :=
  let sender := ContactCard.fromIdentity crypto identity (trim nickname)
  let welcome := crypto.encode64 welcome
  let ratchetTree := crypto.encode64 ratchetTree
  .welcome protocolVersion sender recipient inviteId welcome ratchetTree
    peerEndpoint peerCapabilityId peerCapabilitySecret
    (sign crypto identity
      (welcomeSigningBytes serialize sender recipient inviteId welcome
        ratchetTree peerEndpoint peerCapabilityId peerCapabilitySecret))

def welcomeAppliedBy (identity : crypto.SigningKey)
    (nickname recipient inviteId : String) : RelayPayloadV1 :=
  let sender := ContactCard.fromIdentity crypto identity (trim nickname)
  .welcomeApplied protocolVersion sender recipient inviteId
    (sign crypto identity (welcomeAppliedSigningBytes sender recipient inviteId))

def relationshipRemovalAppliedBy
    (identity : crypto.SigningKey) (recipientInstallationId removalId : String)
    (relationshipEpoch appliedAt : Int64) : RelayPayloadV1 :=
  let sender := ContactCard.fromIdentity crypto identity "TorChat"
  .relationshipRemovalApplied protocolVersion sender recipientInstallationId
    removalId relationshipEpoch appliedAt
    (sign crypto identity
      (relationshipRemovalAppliedSigningBytes sender recipientInstallationId
        removalId relationshipEpoch appliedAt))

def version : RelayPayloadV1 → UInt16
  | .pairingOffer version .. | .pairingRejected version _
  | .welcome version .. | .welcomeApplied version ..
  | .peerEndpointBootstrap version ..
  | .relationshipRemovalApplied version .. => version

/-- `fromSlice` is `serde_json::from_slice` at this type. -/
def decode (fromSlice : Bytes → Except String RelayPayloadV1) (value : String) :
    Except String RelayPayloadV1 := do
  let bytes ← required (crypto.decode64 value) "invalid relay payload encoding"
  let payload ← (fromSlice bytes).mapError fun error =>
    "invalid relay payload: " ++ error
  refuseIf (payload.version ≠ protocolVersion)
    "unsupported relay payload version"
  return payload

/-- The checks the three verify functions share, with each one's texts. -/
def verifyControl (sender : ContactCard) (recipient : String) (message : Bytes)
    (signature expectedSender expectedRecipient : String)
    (senderText recipientText signatureText : String) : Except String Unit := do
  sender.validate crypto
  refuseIf (sender.installationId ≠ expectedSender) senderText
  refuseIf (recipient ≠ expectedRecipient) recipientText
  refuseIf (¬ verifySignature crypto sender.publicKey message signature)
    signatureText

def verifyWelcome (payload : RelayPayloadV1)
    (expectedSender expectedRecipient : String) : Except String Unit :=
  match payload with
  | .welcome _ sender recipient inviteId sealed ratchetTree peerEndpoint
      peerCapabilityId peerCapabilitySecret signature =>
      verifyControl crypto sender recipient
        (welcomeSigningBytes serialize sender recipient inviteId sealed
          ratchetTree peerEndpoint peerCapabilityId peerCapabilitySecret)
        signature expectedSender expectedRecipient
        "Welcome sender does not match relay sender"
        "Welcome recipient does not match local identity"
        "invalid Welcome signature"
  | _ => .error "relay payload is not a Welcome"

def verifyWelcomeApplied (payload : RelayPayloadV1)
    (expectedSender expectedRecipient : String) : Except String String :=
  match payload with
  | .welcomeApplied _ sender recipient inviteId signature => do
      verifyControl crypto sender recipient
        (welcomeAppliedSigningBytes sender recipient inviteId)
        signature expectedSender expectedRecipient
        "WelcomeApplied sender does not match relay sender"
        "WelcomeApplied recipient does not match local identity"
        "invalid WelcomeApplied signature"
      return inviteId
  | _ => .error "relay payload is not a WelcomeApplied acknowledgement"

def verifyRelationshipRemovalApplied (payload : RelayPayloadV1)
    (expectedSender expectedRecipient : String) : Except String String :=
  match payload with
  | .relationshipRemovalApplied _ sender recipientInstallationId removalId
      relationshipEpoch appliedAt signature => do
      verifyControl crypto sender recipientInstallationId
        (relationshipRemovalAppliedSigningBytes sender recipientInstallationId
          removalId relationshipEpoch appliedAt)
        signature expectedSender expectedRecipient
        "relationship removal ACK sender mismatch"
        "relationship removal ACK recipient mismatch"
        "invalid relationship removal ACK signature"
      return removalId
  | _ => .error "relay payload is not a relationship removal acknowledgement"

def verifyPeerEndpointBootstrap
    (payload : RelayPayloadV1) (expectedSender expectedRecipient : String) :
    Except String PeerEndpointBundle :=
  match payload with
  | .peerEndpointBootstrap _ sender recipient endpoint => do
      sender.validate crypto
      refuseIf (sender.installationId ≠ expectedSender)
        "peer endpoint bootstrap sender does not match relay sender"
      refuseIf (recipient ≠ expectedRecipient)
        "peer endpoint bootstrap recipient does not match local identity"
      refuseIf
        (endpoint.installationId ≠ sender.installationId ∨
          endpoint.identityPublicKey ≠ sender.publicKey)
        "peer endpoint bootstrap does not match sender identity"
      return endpoint
  | _ => .error "relay payload is not a peer endpoint bootstrap"

end RelayPayloadV1

end Torchat.Core
