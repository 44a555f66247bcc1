import Torchat.Core.Identity
import Torchat.Foundation.Encoding

namespace Torchat.Core

open Foundation

def peerVirtualPort : UInt16 := 443

def maxEndpointClockSkewSecs : Int64 := 10 * 60

def endpointDomain : Bytes := utf8 "torchat-peer-endpoint-v1"

def handshakeDomain : Bytes := utf8 "torchat-peer-handshake-v1"

def messageDomain : Bytes := utf8 "torchat-peer-message-v1"

/-! The lengths are cast to 32 bits: of a longer string the low bytes of the
length are written. -/

def pushBytes (value : Bytes) : Bytes := lengthPrefixed 4 value

def pushStr (value : String) : Bytes := pushBytes (utf8 value)

def pushU16 (value : UInt16) : Bytes := bigEndian 2 value.toNat

def pushU64 (value : UInt64) : Bytes := bigEndian 8 value.toNat

def pushI64 (value : Int64) : Bytes := bigEndian 8 value.toUInt64.toNat

def uuidBytes (uuid : Uuid) : Bytes := bigEndian 16 uuid.toNat

/-- `saturating_sub` on 64-bit signed integers. -/
def saturatingSub (left right : Int64) : Int64 :=
  Int64.ofInt (max (-2 ^ 63) (min (2 ^ 63 - 1) (left.toInt - right.toInt)))

structure PeerEndpointBundle where
  protocolVersion : UInt16
  installationId : String
  onionAddress : String
  virtualPort : UInt16
  identityPublicKey : String
  capabilities : List String
  sequence : UInt64
  issuedAt : Int64
  expiresAt : Option Int64
  signature : String
  deriving DecidableEq

namespace PeerEndpointBundle

def signingBytes (endpoint : PeerEndpointBundle) : Bytes :=
  pushBytes endpointDomain ++
  pushU16 endpoint.protocolVersion ++
  pushStr endpoint.installationId ++
  pushStr endpoint.onionAddress ++
  pushU16 endpoint.virtualPort ++
  pushStr endpoint.identityPublicKey ++
  counted 4 pushStr endpoint.capabilities ++
  pushU64 endpoint.sequence ++
  pushI64 endpoint.issuedAt ++
  optional pushI64 endpoint.expiresAt

variable (crypto : Crypto)

def new
    (identity : crypto.SigningKey) (onionAddress : String) (sequence : UInt64)
    (issuedAt : Int64) (expiresAt : Option Int64) : PeerEndpointBundle :=
  let endpoint : PeerEndpointBundle :=
    { protocolVersion := Core.protocolVersion
      installationId := Core.installationId crypto identity
      onionAddress := (trim onionAddress).map Char.toLower
      virtualPort := peerVirtualPort
      identityPublicKey := publicKey crypto identity
      capabilities := ["peer_message_v1", "peer_receipt_v1"]
      sequence := sequence
      issuedAt := issuedAt
      expiresAt := expiresAt
      signature := "" }
  { endpoint with signature := sign crypto identity endpoint.signingBytes }

def validate (endpoint : PeerEndpointBundle) (now : Int64) :
    Except String Unit := do
  refuseIf (endpoint.protocolVersion ≠ Core.protocolVersion)
    "unsupported peer endpoint protocol version"
  refuseIf (endpoint.sequence = 0) "peer endpoint sequence must be positive"
  refuseIf (endpoint.virtualPort ≠ peerVirtualPort)
    "unsupported peer endpoint virtual port"
  refuseIf (saturatingSub endpoint.issuedAt now > maxEndpointClockSkewSecs)
    "peer endpoint issued-at exceeds clock skew bound"
  refuseIf (¬ isValidOnionAddress endpoint.onionAddress)
    "invalid Tor v3 peer endpoint"
  refuseIf (∃ expiresAt ∈ endpoint.expiresAt, expiresAt < now)
    "peer endpoint has expired"
  refuseIf
    (∃ expiresAt ∈ endpoint.expiresAt,
      saturatingSub expiresAt now > maxEndpointClockSkewSecs)
    "peer endpoint expiry exceeds clock skew bound"
  refuseIf
    (endpoint.capabilities = [] ∨ ∃ capability ∈ endpoint.capabilities,
      trim capability = "" ∨ capability.utf8ByteSize > 64)
    "invalid peer endpoint capabilities"
  refuseIf (¬ endpoint.capabilities.Nodup) "duplicate peer endpoint capability"
  let decoded ← required (crypto.decode64 endpoint.identityPublicKey)
    "invalid endpoint identity public key"
  let key ← required (toArray? 32 decoded)
    "invalid endpoint identity public key length"
  refuseIf (installationIdFromPublicKey crypto key ≠ endpoint.installationId)
    "peer endpoint installation ID does not match identity key"
  refuseIf
    (¬ verifySignature crypto endpoint.identityPublicKey endpoint.signingBytes
      endpoint.signature)
    "peer endpoint signature is invalid"

def validateSuccessor (endpoint previous : PeerEndpointBundle) (now : Int64) :
    Except String Unit := do
  endpoint.validate crypto now
  refuseIf
    (endpoint.installationId ≠ previous.installationId ∨
      endpoint.identityPublicKey ≠ previous.identityPublicKey)
    "peer endpoint update changed contact identity"
  refuseIf (endpoint.sequence ≤ previous.sequence)
    "peer endpoint sequence did not advance"

end PeerEndpointBundle

structure PeerEndpointUpdate where
  previousSequence : UInt64
  endpoint : PeerEndpointBundle

def PeerEndpointUpdate.validate (crypto : Crypto) (update : PeerEndpointUpdate)
    (previous : PeerEndpointBundle) (now : Int64) : Except String Unit := do
  refuseIf (update.previousSequence ≠ previous.sequence)
    "peer endpoint update does not reference current sequence"
  update.endpoint.validateSuccessor crypto previous now

structure PeerClientHello where
  protocolVersion : UInt16
  installationId : String
  endpointSequence : UInt64
  capabilityId : String
  capabilityProof : String
  nonce : Key32
  deriving DecidableEq

/-- What the capability proof authenticates: the parts one after another,
without their lengths. -/
def capabilityMessage (hello : PeerClientHello) : Bytes :=
  utf8 "torchat-peer-capability-v1" ++ utf8 hello.installationId ++
    pushU64 hello.endpointSequence ++ utf8 hello.capabilityId ++
    hello.nonce.toList

def capabilityProof (crypto : Crypto) (secret : Bytes) (hello : PeerClientHello) :
    String :=
  crypto.encode64 (crypto.hmac secret (capabilityMessage hello))

def verifyCapabilityProof
    (crypto : Crypto) (secret : Bytes) (hello : PeerClientHello) : Bool :=
  crypto.decode64 hello.capabilityProof =
    some (crypto.hmac secret (capabilityMessage hello))

structure PeerServerChallenge where
  protocolVersion : UInt16
  installationId : String
  endpointSequence : UInt64
  nonce : Key32
  sessionId : Uuid
  signature : String
  deriving DecidableEq

structure PeerClientProof where
  sessionId : Uuid
  signature : String

def handshakeTranscript (client : PeerClientHello)
    (serverInstallationId : String) (serverEndpointSequence : UInt64)
    (serverNonce : Key32) (sessionId : Uuid) (onionAddress : String) : Bytes :=
  pushBytes handshakeDomain ++
  pushU16 client.protocolVersion ++
  pushStr client.installationId ++
  pushU64 client.endpointSequence ++
  pushStr client.capabilityId ++
  pushBytes client.nonce.toList ++
  pushStr serverInstallationId ++
  pushU64 serverEndpointSequence ++
  pushBytes serverNonce.toList ++
  pushBytes (uuidBytes sessionId) ++
  pushStr onionAddress

structure PeerMessageEnvelope where
  protocolVersion : UInt16
  sessionId : Uuid
  messageId : Uuid
  conversationId : String
  senderInstallationId : String
  sequence : UInt64
  createdAt : Int64
  ciphertext : Bytes
  signature : String

namespace PeerMessageEnvelope

variable (crypto : Crypto)

def ciphertextHash (envelope : PeerMessageEnvelope) : Key32 :=
  crypto.sha256 envelope.ciphertext

def signingBytes (envelope : PeerMessageEnvelope) : Bytes :=
  pushBytes messageDomain ++
  pushU16 envelope.protocolVersion ++
  pushBytes (uuidBytes envelope.sessionId) ++
  pushBytes (uuidBytes envelope.messageId) ++
  pushStr envelope.conversationId ++
  pushStr envelope.senderInstallationId ++
  pushU64 envelope.sequence ++
  pushI64 envelope.createdAt ++
  pushBytes (envelope.ciphertextHash crypto).toList

end PeerMessageEnvelope

end Torchat.Core
