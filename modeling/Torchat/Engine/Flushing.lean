import Torchat.Engine.Sending

namespace Torchat

open Foundation Storage

namespace ApplicationPayload

def isCapabilityFrame : ApplicationPayload → Bool
  | capabilityOffer .. | capabilityOfferAck .. | capabilityRevoked ..
  | relationshipRemoved .. => true
  | _ => false

def featureName : ApplicationPayload → String
  | typing .. => "typing indicators"
  | presence .. => "presence signals"
  | readReceipt .. => "read receipts"
  | _ => "ephemeral signals"

end ApplicationPayload

namespace Actor

def torUsable (actor : Actor P) : Bool :=
  actor.networkOnline && actor.socks5Url.isSome

def dispatchEphemeralPayload (contact : InstallationId) (payload : Sealed) :
    Call P Unit := do
  queuePeerPayload (← freshUuid) contact (.ofSealed payload) .ephemeral

def sendEphemeralPayload (contact : InstallationId)
    (application : ApplicationPayload) : Call P Unit := do
  if application.isCapabilityFrame && !(← Program.read torUsable) then
    Program.fail (.transport
      "Tor peer transport is not ready for capability bootstrap")
  if !application.isCapabilityFrame then
    Program.fail (.unsupported (application.featureName ++
      " are disabled until they have durable, ratchet-safe delivery"))
  let encrypted ← encryptKeeping contact
    (.invalidCommand
      "contact requires MLS welcome before sending ephemeral state")
    .storage application
    fun _ snapshot => write (Database.upsertSnapshot contact snapshot)
  let (payload, before) ← Program.ofExcept encrypted
  match ← (dispatchEphemeralPayload contact payload).attempt with
  | .ok () => return
  | .error error =>
    let restored ← check (P.restore before) .storage
    write (Database.upsertSnapshot contact before)
    keepConversation contact restored
    Program.fail error

def sendCapabilityOffer (contact : InstallationId) : Call P Unit := do
  if !(← Program.read fun actor => actor.conversations.contains contact) then
    Program.fail
      (.transport "capability bootstrap is waiting for MLS Welcome")
  let _ ← ensureContactEndpointCapability contact
  let row ← required (← query (·.contactEndpointCapabilities.lookup contact))
    (.storage "contact capability was not created")
  sendEphemeralPayload contact (.capabilityOffer row.capabilityId
    (P.encodeSecret row.secret) row.sequence (← nowSecs) none)

def remoteCapabilityReady (contact : InstallationId) : Call P Bool := do
  match ← query (·.contactPeerEndpoints.lookup contact) with
  | none => return false
  | some endpoint => return !(← peerCapabilitySecret contact endpoint).isEmpty

def sendCapabilityOffersForContacts : Call P Unit := do
  if ← Program.read torUsable then
    Program.forEach (← query fun database => database.contacts.keys)
      fun contact => do
        let ready ← remoteCapabilityReady contact
        let known ← Program.read fun actor => actor.conversations.contains contact
        if known && !ready then ignoring (sendCapabilityOffer contact)

def queueRelayEnvelope : Call P Unit :=
  onHost (Host.consult .relay (.invalidCommand "pairing side token missing"))

def deliverPairingResponse (effect : PairingSendEffect) : Call P Unit := do
  let now ← nowSecs
  match ← query (Database.pairingResponseRetryRecord effect.pairingId now) with
  | none => return
  | some stored =>
    let nextAttemptAt :=
      (← nowMs) + (← pairingRetryBackoffMs stored.details.attemptCount)
    let now ← nowMs
    if ← writeReturning (Database.claimPairingResponseAttempt effect.pairingId
        nextAttemptAt none (now.tdiv 1000) now) then
      match ← (queueRelayEnvelope (P := P)).attempt with
      | .ok () => return
      | .error error =>
        write (Database.recordPairingResponseError effect.pairingId
          error.message)

def deliverSendEffect : SendEffect → Call P Unit
  | .message effect => do
      let payload ← prepareOutboundMessagePayload effect
      dispatchOutboundMessage effect payload
  | .pairing effect =>
    match effect.kind with
    | .offer => Program.pure ()
    | .rejection => deliverPairingResponse effect
  | .receipt effect => do
      let payload ← encryptReceipt effect
      dispatchOutboundReceipt effect payload

def flushPendingReceiptEffects : Call P Unit := do
  let effects ← transact Runtime.preparePendingReceiptEffects
  Program.forEach effects fun effect => deliverSendEffect (.receipt effect)

def flushPendingRelationshipRemovalAcks : Call P Unit := do
  let now ← nowMs
  Program.forEach (← query (Database.dueRelationshipRemovalAcks now))
    fun (removalId, ack) => do
      let envelopeId ← freshUuid
      match ← (queuePeerPayload envelopeId ack.contactInstallationId
          ⟨ack.payload, none⟩ (.relationshipRemovalAck removalId)).attempt with
      | .error _ => return
      | .ok () =>
        let nextAttemptAt ← retryAt (ack.attemptCount + 1)
        write (Database.markRelationshipRemovalAckDispatched removalId
          nextAttemptAt)

def flushRelationshipRemoval (removal : Database.DueRemoval) : Call P Unit := do
  match P.parseUuid removal.removalId with
  | .error _ => return
  | .ok messageId =>
    match ← (sendEphemeralPayload removal.contactInstallationId
        (.relationshipRemoved messageId removal.removedAt
          removal.preserveHistory (some removal.relationshipEpoch)
          (some messageId))).attempt with
    | .error _ => return
    | .ok () =>
      let nextAttemptAt ← retryAt (removal.attemptCount + 1)
      write (Database.markRelationshipRemovalDispatched removal.removalId
        nextAttemptAt)

def flushPendingRelationshipRemovals : Call P Unit := do
  let now ← nowMs
  Program.forEach (← query (Database.dueRelationshipRemovals now))
    flushRelationshipRemoval

def flushPendingSendEffects : Call P Unit := do
  let (messages, pairings) ← transact Runtime.preparePendingSendEffects
  Program.forEach messages fun effect => deliverSendEffect (.message effect)
  Program.forEach pairings fun effect => deliverSendEffect (.pairing effect)
  flushPendingRelationshipRemovalAcks
  flushPendingRelationshipRemovals

def flushMessageDelivery (effect : MessageSendEffect) : Call P Unit := do
  match ← (prepareOutboundMessagePayload effect).attempt with
  | .ok payload => dispatchOutboundMessage effect payload
  | .error error =>
    handleFailedPeerMessageDelivery effect.messageId error.message

def flushPendingMessageDeliveries : Call P Unit := do
  let now ← nowMs
  let effects ← transact (Runtime.featurePreparePendingMessageDeliveries now)
  Program.forEach effects flushMessageDelivery

def flushPendingPairingDeliveries : Call P Unit := do
  let now ← nowSecs
  let effects ← transact (Runtime.featurePendingPairingSendEffects now)
  Program.forEach effects fun effect => deliverSendEffect (.pairing effect)

def retryExpiredAckDeadlines : Call P Unit := do
  let now ← nowMs
  Program.forEach (← query (Database.expiredAckDeadlineMessageIds now))
    fun messageId => applyMessageDeliveryOutcome messageId .retryableFailure

end Actor

end Torchat
