import Torchat.Engine.Flushing

namespace Torchat

open Foundation Storage

structure Arrival where
  sender : InstallationId
  messageId : Uuid
  ciphertextHash : Bytes
  receivedAt : Int
  snapshot : Bytes

namespace Runtime

def storeSnapshot (arrival : Arrival) : Call Unit :=
  write (Database.putConversationMlsSnapshot arrival.sender arrival.snapshot)

def storeReceived (arrival : Arrival) (receiptState : ReceiptState) :
    Call Unit :=
  write (Database.putReceivedEnvelope arrival.sender arrival.messageId
    ⟨arrival.ciphertextHash, arrival.receivedAt, receiptState⟩)

def markApplied (arrival : Arrival) : Call Unit :=
  onDatabase (Program.modify
    (Database.recordApplied arrival.sender arrival.messageId))

def receiptFor (arrival : Arrival) (envelopeId : Uuid) : DeliveryReceipt where
  envelopeId := envelopeId
  conversationId := arrival.sender
  originalSender := arrival.sender
  receivedAt := arrival.receivedAt
  wireCiphertext := none
  state := .pending
  attemptCount := 0
  nextAttemptAt := 0
  lastError := none
  createdAt := arrival.receivedAt

def mirrored (reply : MessageReply) : MessageReply :=
  { reply with outgoing := !reply.outgoing }

/-! The transaction of each payload kind. -/

def acceptMessage (arrival : Arrival) (body : String)
    (replyTo : Option MessageReply) (envelopeId : Uuid) : Call Unit := do
  let accepts ← contactAcceptsMessages arrival.sender
  if accepts then
    receiveMessageReply arrival.sender body arrival.messageId
      (replyTo.map mirrored)
    write (Database.putDeliveryReceipt arrival.messageId
      (receiptFor arrival envelopeId))
  storeSnapshot arrival
  storeReceived arrival (if accepts then .pending else .none)
  if accepts then
    -- `contact_allows_notifications`
    let _ ← contactRequired arrival.sender
  markApplied arrival

def acceptDeliveryReceipt (arrival : Arrival) (messageId : Uuid) :
    Call Unit := do
  applyMessageTransportOutcome messageId .delivered
  storeSnapshot arrival
  storeReceived arrival .none
  markApplied arrival

def acceptSignal (arrival : Arrival) : Call Unit := do
  storeSnapshot arrival
  markApplied arrival

def acceptReadReceipt (arrival : Arrival) (messageIds : List Uuid) :
    Call Unit := do
  Program.forEach messageIds fun messageId => do
    let _ ← (applyMessageRead messageId).attempt
  storeSnapshot arrival
  markApplied arrival

def acceptRelationshipRemoved
    (arrival : Arrival) (removedAt : Int) (removalId : String)
    (relationshipEpoch : Int) (ack : Bytes) : Call Unit := do
  applyRemoteRelationshipRemoval arrival.sender removedAt removalId
    relationshipEpoch
  write (Database.putRelationshipRemovalAck removalId arrival.sender
    relationshipEpoch ack)
  storeReceived arrival .none
  markApplied arrival

def acceptCapability (arrival : Arrival)
    (statement : Database → RuntimeResult Database) : Call Unit := do
  write statement
  storeSnapshot arrival
  storeReceived arrival .none
  markApplied arrival

def acceptCapabilityOfferAck (arrival : Arrival) : Call Unit := do
  storeSnapshot arrival
  storeReceived arrival .none
  markApplied arrival

end Runtime

namespace Actor

/-- `queue_peer_probe` and the typing, presence and focus frames: no ciphertext
goes out. -/
def queuePeerControl (recipient : InstallationId) : Call P Unit := do
  if !(← Program.read torUsable) then return
  match ← Program.read Actor.localPeerEndpoint with
  | none => return
  | some localEndpoint =>
    match ← query (·.contactPeerEndpoints.lookup recipient) with
    | none => return
    | some endpoint =>
      let _ ← freshUuid
      let _ ← localEndpointForContact recipient localEndpoint
      let _ ← peerCapabilitySecret recipient endpoint
      if !(← Program.read Actor.peerTransport) then
        Program.fail (.transport "peer listener is not running")
      onHost (Host.consult .transport
        (.transport "peer command queue is full"))

def expeditePeerDeliveries (contact : InstallationId) : Call P Unit := do
  write (Database.expediteDeliveries contact)
  write (Database.expediteMessages contact)

def acceptOffer
    (arrival : Arrival) (capabilityId secret : String) (sequence : Nat)
    (issuedAt : Int) (expiresAt : Option Int) : Call P Unit := do
  let secret ← required (P.decodeSecret secret)
    (.invalidCommand "invalid capability secret")
  if secret.length < 16 ∨ capabilityId.utf8ByteSize ≠ 16 then
    Program.fail (.invalidCommand "invalid endpoint capability payload")
  let now ← nowSecs
  let known ← query (Database.peerEndpointCapabilitySecret arrival.sender
    capabilityId now)
  transact (Runtime.acceptCapability arrival
    (Database.putPeerEndpointCapability arrival.sender capabilityId secret
      sequence issuedAt expiresAt))
  if known.isNone then ignoring (sendCapabilityOffer arrival.sender)
  ignoring (sendEphemeralPayload arrival.sender
    (.capabilityOfferAck capabilityId sequence))
  expeditePeerDeliveries arrival.sender
  ignoring (queuePeerControl arrival.sender)

def acceptRemoval (arrival : Arrival) (messageId : Uuid) (removedAt : Int)
    (relationshipEpoch : Option Int) (removalId : Option Uuid) :
    Call P Unit := do
  if messageId ≠ arrival.messageId then
    Program.fail (.invalidCommand "relationship removal messageId mismatch")
  let removalId := (removalId.getD messageId).text
  let epoch := relationshipEpoch.getD 0
  let now ← nowMs
  let ack ← check (P.encodeRemovalApplied arrival.sender removalId epoch now)
    .invalidCommand
  transact (Runtime.acceptRelationshipRemoved arrival removedAt removalId epoch
    ack)

def acceptPayload (arrival : Arrival) : ApplicationPayload → Call P Unit
  | .message messageId _ body replyTo => do
      if messageId ≠ arrival.messageId then
        Program.fail (.invalidCommand "application messageId mismatch")
      let envelopeId ← freshUuid
      transact (Runtime.acceptMessage arrival body replyTo envelopeId)
  | .deliveryReceipt messageId _ =>
    transact (Runtime.acceptDeliveryReceipt arrival messageId)
  | .typing .. | .presence .. => transact (Runtime.acceptSignal arrival)
  | .readReceipt messageIds _ =>
    transact (Runtime.acceptReadReceipt arrival messageIds)
  | .relationshipRemoved messageId removedAt _ relationshipEpoch removalId =>
    acceptRemoval arrival messageId removedAt relationshipEpoch removalId
  | .capabilityOffer capabilityId secret sequence issuedAt expiresAt =>
    acceptOffer arrival capabilityId secret sequence issuedAt expiresAt
  | .capabilityOfferAck _ _ => do
      writeElsewhere
      transact (Runtime.acceptCapabilityOfferAck arrival)
      expeditePeerDeliveries arrival.sender
      ignoring (queuePeerControl arrival.sender)
  | .capabilityRevoked _ _ _ =>
    transact (Runtime.acceptCapability arrival
      (Database.revokePeerEndpointCapability arrival.sender))

def openEnvelope (sender : InstallationId) (messageId : Uuid)
    (ciphertext : Bytes) (conversation : P.Group) : Call P P.Group := do
  let (plaintext, advanced) ←
    check (P.decrypt conversation ciphertext) .invalidCommand
  let application ← check (P.decodeApplication plaintext) .invalidCommand
  let snapshot ← check (P.snapshot advanced) .storage
  let receivedAt ← nowSecs
  acceptPayload ⟨sender, messageId, P.sha256 ciphertext, receivedAt, snapshot⟩
    application
  return advanced

def acknowledgeDuplicate (messageId : Uuid) (ciphertextHash : Bytes)
    (existing : ReceivedEnvelope) : Call P Unit := do
  if existing.ciphertextHash ≠ ciphertextHash then
    Program.fail
      (.invalidCommand "duplicate envelope has different ciphertext")
  if existing.receiptState ≠ .delivered then
    if (← query (·.deliveryReceipts.lookup messageId)).isSome then
      flushPendingReceiptEffects

def deferEnvelope (sender : InstallationId) (messageId : Uuid)
    (ciphertext : Bytes) : Call P Unit := do
  let now ← nowMs
  write (Database.putPendingApplicationEnvelope sender messageId
    ⟨ciphertext, P.sha256 ciphertext, now⟩)

def handleApplicationEnvelope (sender : InstallationId) (messageId : Uuid)
    (ciphertext : Bytes) : Call P Unit := do
  match ← query (·.receivedEnvelopes.lookup (sender, messageId)) with
  | some existing =>
    acknowledgeDuplicate messageId (P.sha256 ciphertext) existing
  | none =>
    match ← Program.read fun actor => actor.conversations.lookup sender with
    | none => deferEnvelope sender messageId ciphertext
    | some conversation =>
      Program.modify (onConversations (·.erase sender))
      let before ← check (P.snapshot conversation) .storage
      match ← (openEnvelope sender messageId ciphertext
          conversation).attempt with
      | .ok advanced =>
        keepConversation sender advanced
        ignoring flushPendingReceiptEffects
      | .error error =>
        let restored ← check (P.restore before) fun error => .storage
          ("restore MLS conversation after receive rollback: " ++ error)
        keepConversation sender restored
        Program.fail error

def drainPendingPreWelcome (contact : InstallationId) : Call P Unit := do
  Program.forEach (← query (Database.pendingEnvelopesOf contact))
    fun ((_, messageId), envelope) => do
      match ← (handleApplicationEnvelope contact messageId
          envelope.ciphertext).attempt with
      | .ok () =>
        write (Database.removePendingApplicationEnvelope contact messageId)
      | .error _ => return

def isCryptographicInboundError : EngineError → Bool
  | .invalidCommand message =>
    mentions message "decrypt" || mentions message "MLS" ||
      mentions message "ciphertext" || mentions message "authentication" ||
      mentions message "hash"
  | _ => false

def block (contact : InstallationId) : Call P Unit :=
  Program.modify fun actor =>
    { actor with
      cryptoBlockedPeers := insert contact actor.cryptoBlockedPeers }

def receivePeerPayload (sender : InstallationId) (messageId : Uuid)
    (wire : Bytes) : Call P Unit := do
  let ciphertext ← check (P.decodeWire wire) .invalidCommand
  handleApplicationEnvelope sender messageId ciphertext
  let _ ← query (·.deliveryReceipts.lookup messageId)

def processInbound (sender : InstallationId) (messageId : Uuid) (wire : Bytes) :
    Call P Unit := do
  match ← (receivePeerPayload sender messageId wire).attempt with
  | .ok () =>
    write (Database.completeInboundPeerEnvelope sender messageId)
    onHost (Host.consult .afterPeerDeliveredAck (.storage "fault injection"))
  | .error error =>
    write (Database.rejectInboundPeerEnvelope sender messageId)
    if isCryptographicInboundError error then block sender

def handleInboundMessage (sender : InstallationId) (messageId : Uuid)
    (wire : Bytes) : Call P Unit := do
  let now ← nowSecs
  let result ← writeReturning (Database.storeInboundPeerEnvelope sender messageId
    wire (P.sha256 wire) now)
  onHost (Host.consult .afterPeerPersistedAck (.storage "fault injection"))
  if result = .duplicate true then
    onHost (Host.consult .afterPeerDeliveredAck (.storage "fault injection"))
  else
    processInbound sender messageId wire

def recoverInbound (sender : InstallationId) (messageId : Uuid) (wire : Bytes) :
    Call P Unit := do
  let ciphertext ← check (P.decodeWire wire) .storage
  match ← (handleApplicationEnvelope sender messageId ciphertext).attempt with
  | .ok () => write (Database.completeInboundPeerEnvelope sender messageId)
  | .error _ =>
    write (Database.rejectInboundPeerEnvelope sender messageId)
    block sender

def recoverPendingInboundPeerEnvelopes : Call P Unit := do
  Program.forEach (← query Database.pendingInboundPeerEnvelopes)
    fun ((sender, messageId), envelope) =>
      recoverInbound sender messageId envelope.ciphertext

end Actor

end Torchat
