import Torchat.Engine.Transaction

namespace Torchat

open Foundation Storage

structure RetryPolicy where
  maxAttempts : Nat
  baseDelayMs : Int
  maxDelayMs : Int
  maxAgeMs : Int

namespace RetryPolicy

def delivery : RetryPolicy := ⟨8, 5000, 160000, 24 * 60 * 60 * 1000⟩

def pairing : RetryPolicy := ⟨6, 2000, 120000, 30 * 60 * 1000⟩

def delayMs (policy : RetryPolicy) (attemptCount : Nat) : Int :=
  min (policy.baseDelayMs * 2 ^ min attemptCount 5) policy.maxDelayMs

def exhausted (policy : RetryPolicy) (attemptCount : Nat) : Bool :=
  decide (policy.maxAttempts ≤ attemptCount)

def ageExhausted (policy : RetryPolicy) (createdAtMs nowMs : Int) : Bool :=
  decide (policy.maxAgeMs ≤ nowMs - createdAtMs)

end RetryPolicy

inductive RetryDisposition
  | transient
  | permanent
  | authentication
  | protocol
  deriving DecidableEq

/-- `str::contains`. -/
def mentions (text part : String) : Bool :=
  decide (part.toList <:+: text.toList)

def classifyRetryError (error : String) : RetryDisposition :=
  let normalized := error.map Char.toLower
  if mentions normalized "authentication" ||
      mentions normalized "invalid capability" ||
      mentions normalized "unauthorized" then
    .authentication
  else if mentions normalized "protocol" || mentions normalized "malformed" ||
      mentions normalized "unsupported" ||
      mentions normalized "frame exceeds" ||
      mentions normalized "safe frame budget" then
    .protocol
  else if mentions normalized "permanent" ||
      mentions normalized "invalid command" ||
      mentions normalized "not found" then
    .permanent
  else
    .transient

def retryErrorCode (error : String) : String :=
  match classifyRetryError error with
  | .transient => "transient"
  | .permanent => "permanent"
  | .authentication => "authentication"
  | .protocol => "protocol"

def codedError (error : EngineError) : String :=
  retryErrorCode error.message ++ ": " ++ error.message

def maxTransportCiphertextBytes : Nat := 128 * 1024

def capabilityIdOf (uuid : Uuid) : String :=
  String.ofList ((uuid.text.toList.filter (· ≠ '-')).take 16)

def capabilityMarker (capabilityId : String) : String :=
  "contact_endpoint_v1:" ++ capabilityId

theorem capabilityMarker_head (capabilityId : String) :
    (capabilityMarker capabilityId).toList.head? = some 'c' := by
  have start : "contact_endpoint_v1:".toList.head? = some 'c' := by decide
  have parts : (capabilityMarker capabilityId).toList =
      "contact_endpoint_v1:".toList ++ capabilityId.toList :=
    String.toList_append
  rw [parts, List.head?_append, start]
  exact Option.some_or

theorem capabilityMarker_notMem (capabilityId : String) :
    capabilityMarker capabilityId ∉ ["peer_message_v1", "peer_receipt_v1"] := by
  have first := capabilityMarker_head capabilityId
  have message : "peer_message_v1".toList.head? ≠ some 'c' := by decide
  have receipt : "peer_receipt_v1".toList.head? ≠ some 'c' := by decide
  rw [List.mem_pair]
  rintro (same | same)
  · rw [same] at first
    exact message first
  · rw [same] at first
    exact receipt first

def endpointWithCapability (endpoint : PeerEndpointBundle)
    (capabilityId : String) : PeerEndpointBundle :=
  if capabilityMarker capabilityId ∈ endpoint.capabilities then endpoint
  else
    { endpoint with
      sequence := min (endpoint.sequence + 1) (2 ^ 64 - 1)
      capabilities := endpoint.capabilities ++ [capabilityMarker capabilityId] }

def endpointCapabilityId (endpoint : PeerEndpointBundle) : String :=
  (endpoint.capabilities.findSome? fun value =>
    if "contact_endpoint_v1:".toList.isPrefixOf value.toList then
      some (String.ofList (value.toList.drop 20))
    else
      none).getD ""

namespace Actor

def transact (operation : Runtime.Call α) : Call P α := do
  return (← withRuntime operation).1

def retryBackoffMs (attemptCount : Nat) : Call P Int :=
  onHost (Host.jitter (RetryPolicy.delivery.delayMs attemptCount))

def pairingRetryBackoffMs (attemptCount : Nat) : Call P Int :=
  onHost (Host.jitter (RetryPolicy.pairing.delayMs attemptCount))

/-- `now_ms() + retry_backoff_ms(attempt)`. -/
def retryAt (attemptCount : Nat) : Call P Int := do
  return (← nowMs) + (← retryBackoffMs attemptCount)

def ensureContactEndpointCapability (contact : InstallationId) :
    Call P String := do
  let now ← nowSecs
  match ← query (Database.activeContactCapability contact now) with
  | some capabilityId => return capabilityId
  | none =>
    let capabilityId := capabilityIdOf (← freshUuid)
    let secret := P.uuidBytes (← freshUuid)
    write (Database.putContactEndpointCapability contact capabilityId secret
      now)
    return capabilityId

def localEndpointForContact (contact : InstallationId)
    (endpoint : PeerEndpointBundle) : Call P PeerEndpointBundle := do
  return endpointWithCapability endpoint
    (← ensureContactEndpointCapability contact)

def localCapabilityCredentials (contact : InstallationId) :
    Call P (String × Bytes) := do
  let row ← required
    (← query (·.contactEndpointCapabilities.lookup contact))
    (.storage ("local endpoint capability is missing for contact " ++ contact))
  return (row.capabilityId, row.secret)

def peerCapabilitySecret (contact : InstallationId)
    (endpoint : PeerEndpointBundle) : Call P Bytes := do
  let now ← nowSecs
  return (← query (Database.peerEndpointCapabilitySecret contact
    (endpointCapabilityId endpoint) now)).getD []

/-- A ciphertext on its way out, with its origin if MLS made it. -/
structure Payload where
  ciphertext : Bytes
  origin : Option Origin

def Payload.ofSealed (wire : Sealed) : Payload :=
  ⟨wire.bytes, some wire.origin⟩

def claimDelivery (messageId : Uuid) : Call P Bool := do
  let ackDeadline := (← nowMs) + 60000
  let now ← nowMs
  if ← writeReturning (Database.claimOutboundDelivery messageId ackDeadline
      ackDeadline now) then
    return true
  let delivery ← query (·.outboundDeliveries.lookup messageId)
  if delivery.any fun row => decide (row.state = .inFlight) then
    return false
  Program.fail (.transport "outbound delivery is no longer queued")

def handOver (envelopeId : Uuid) (recipient : InstallationId)
    (payload : Payload) (delivery : PeerDeliveryTag) : Call P Unit := do
  if !(← Program.read Actor.peerTransport) then
    Program.fail (.transport "peer listener is not running")
  onHost (Host.consult .transport (.transport "peer command queue is full"))
  Program.modify fun actor =>
    { actor with
      host := actor.host.recordHandover
        { delivery := delivery
          envelopeId := envelopeId
          recipient := recipient
          ciphertext := payload.ciphertext
          origin := payload.origin
          current := actor.database.currentGroup recipient } }

def usableEndpoint (recipient : InstallationId) :
    Call P PeerEndpointBundle := do
  let endpoint ← required
    (← query (·.contactPeerEndpoints.lookup recipient))
    (.transport
      ("verified peer endpoint is missing for contact " ++ recipient))
  if recipient ∈ (← Program.read Actor.cryptoBlockedPeers) then
    Program.fail
      (.transport "peer MLS session is inconsistent; pair the contact again")
  check (P.validateEndpoint endpoint (← nowSecs)) fun error =>
    .transport ("peer endpoint validation failed: " ++ error)
  if endpoint.installationId ≠ recipient then
    Program.fail
      (.transport "peer endpoint does not belong to the requested contact")
  return endpoint

def queuePeerPayload (envelopeId : Uuid) (recipient : InstallationId)
    (payload : Payload) (delivery : PeerDeliveryTag) : Call P Unit := do
  if maxTransportCiphertextBytes < payload.ciphertext.length then
    Program.fail (.transport ("peer payload exceeds safe frame budget (" ++
      toString payload.ciphertext.length ++ " bytes)"))
  if !(← Program.read Actor.networkOnline) then
    Program.fail
      (.transport "peer transport is paused while the network is offline")
  let _ ← required (← Program.read Actor.socks5Url)
    (.transport "Tor SOCKS endpoint is not available")
  let localEndpoint ← required (← Program.read Actor.localPeerEndpoint)
    (.transport "local onion service is not available")
  let endpoint ← usableEndpoint recipient
  let claimed ← match delivery with
    | .message messageId => claimDelivery messageId
    | _ => Program.pure true
  if claimed then
    let _ ← localEndpointForContact recipient localEndpoint
    let _ ← peerCapabilitySecret recipient endpoint
    handOver envelopeId recipient payload delivery

end Actor

end Torchat
