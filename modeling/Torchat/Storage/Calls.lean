import Torchat.Foundation.Machine
import Torchat.Storage.Footprints

namespace Torchat.Storage

open Foundation

/-! # The storage as a machine

The writes of the runtime storage and of the database, each under the values it
is called with. -/

inductive Call
  | putProfile (profile : RuntimeProfile)
  | putContact (contact : ContactRecord)
  | putConversation (conversation : ConversationSummary)
  | markConversationRead (conversationId : InstallationId)
  | upsertSnapshot (conversationId : InstallationId) (snapshot : Bytes)
  | putConversationMlsSnapshot
      (conversationId : InstallationId) (snapshot : Bytes)
  | putMessage (message : ChatMessage)
  | deleteMessage (messageId : Uuid)
  | claimOutgoingAttempt
      (messageId : Uuid) (nextAttemptAt : Int) (ackDeadline : Option Int)
      (lastTransportError : Option String) (nowMs : Int)
  | persistOutboundEncryption
      (messageId : Uuid) (wire : Sealed) (conversationId : InstallationId)
      (snapshot : Bytes)
  | persistOutboundEncryptionAndClaim
      (messageId : Uuid) (wire : Sealed) (conversationId : InstallationId)
      (snapshot : Bytes) (nextAttemptAt : Int) (ackDeadline : Option Int)
      (nowMs : Int)
  | enqueueOutboundDelivery
      (messageId : Uuid) (contact : InstallationId) (createdAtSecs : Int)
  | claimOutboundDelivery
      (messageId : Uuid) (nextAttemptAt ackDeadline nowMs : Int)
  | requeueOutboundDelivery
      (messageId : Uuid) (retryAt : Int) (error : String)
  | completeOutboundDelivery (messageId : Uuid)
  | expediteDeliveries (contact : InstallationId)
  | expediteMessages (contact : InstallationId)
  | requeuePeerDeliveries (nowMs : Int)
  | putDeliveryReceipt (messageId : Uuid) (receipt : DeliveryReceipt)
  | putReceivedEnvelope
      (sender : InstallationId) (messageId : Uuid) (envelope : ReceivedEnvelope)
  | persistReceiptEncryption
      (messageId : Uuid) (wire : Sealed) (conversationId : InstallationId)
      (snapshot : Bytes) (nextAttemptAt : Int) (lastError : Option String)
      (nowMs : Int)
  | claimReceiptAttempt
      (messageId : Uuid) (nextAttemptAt : Int) (lastError : Option String)
      (nowMs : Int)
  | completeDeliveryReceipt (messageId : Uuid)
  | requeueDeliveryReceipt
      (messageId : Uuid) (nextAttemptAt : Int) (lastError : String)
  | requeueAfterDisconnect (nowMs : Int)
  | enqueueReadReceipt
      (receiptId : Uuid) (contact conversationId : InstallationId)
      (messageIds : List Uuid) (readAt nowMs : Int)
  | persistReadReceiptRow
      (receiptId : Uuid) (wire : Sealed) (nextAttemptAt nowMs : Int)
  | requeueReadReceipt
      (receiptId : Uuid) (nextAttemptAt : Int) (error : String)
  | completeReadReceipt (receiptId : Uuid)
  | storeInboundPeerEnvelope
      (sender : InstallationId) (messageId : Uuid)
      (ciphertext ciphertextHash : Bytes) (receivedAt : Int)
  | completeInboundPeerEnvelope (sender : InstallationId) (messageId : Uuid)
  | rejectInboundPeerEnvelope (sender : InstallationId) (messageId : Uuid)
  | putPendingApplicationEnvelope
      (sender : InstallationId) (messageId : Uuid) (envelope : PendingEnvelope)
  | removePendingApplicationEnvelope
      (sender : InstallationId) (messageId : Uuid)
  | removeRelationshipWithId
      (contact : InstallationId) (removedAt : Int) (preserveHistory : Bool)
      (removalId : String) (relationshipEpoch : Int)
  | applyRemoteRelationshipRemoval
      (contact : InstallationId) (removedAt : Int) (removalId : String)
      (relationshipEpoch : Int)
  | putRelationshipRemovalAck
      (removalId : String) (contact : InstallationId) (relationshipEpoch : Int)
      (payload : Bytes)
  | beginVerifiedRelationship (contact : InstallationId) (boundaryAt : Int)
  | markRelationshipRemovalDispatched (removalId : String) (nextAttemptAt : Int)
  | completeRelationshipRemovalAck (removalId : String)
  | markRelationshipRemovalAckDispatched
      (removalId : String) (nextAttemptAt : Int)
  | putContactPeerEndpoint (endpoint : PeerEndpointBundle)
  | markPeerConnected (contact : InstallationId) (connectedAt : Int)
  | enqueueEndpointUpdateForContacts (update : PeerEndpointUpdate)
  | completeEndpointUpdates (contact : InstallationId) (throughSequence : Nat)
  | putPendingPeerEndpointInbox (endpoint : PeerEndpointBundle)
  | removePendingPeerEndpointInbox (contact : InstallationId)
  | putLocalPeerEndpoint (endpoint : PeerEndpointBundle) (generation : Nat)
  | deleteLocalPeerEndpoint
  | putContactEndpointCapability
      (contact : InstallationId) (capabilityId : String) (secret : Bytes)
      (nowSecs : Int)
  | revokeContactEndpointCapability (contact : InstallationId)
  | putPeerEndpointCapability
      (contact : InstallationId) (capabilityId : String) (secret : Bytes)
      (sequence : Nat) (issuedAt : Int) (expiresAt : Option Int)
  | revokePeerEndpointCapability (contact : InstallationId)
  | consumeInvite (inviteId : String)
  | putPendingLocalInviteMls (inviteId : String) (invite : PendingLocalInvite)
  | removePendingLocalInviteMls (inviteId : String)
  | deleteExpiredPendingLocalInviteMls (nowSecs : Int)
  | putPendingWelcome (inviteId : String) (welcome : PendingWelcome)
  | removePendingWelcome (inviteId : String)
  | deleteExpiredPendingWelcomes (nowSecs : Int)
  | claimPendingWelcomeAttempt
      (inviteId : String) (nextAttemptAt : Int) (lastError : Option String)
      (nowMs nowSecs : Int)
  | recordPendingWelcomeError (inviteId error : String)
  | retryDeadWelcome (inviteId : String)
  | putPairingInbox (item : PairingItem)
  | putPairingOutbox (item : PairingItem)
  | bindPairingOutboxPairKey (inviteId pairKey : String)
  | claimPairingResponseAttempt
      (pairingId : String) (nextAttemptAt : Int) (lastError : Option String)
      (nowSecs nowMs : Int)
  | recordPairingResponseError (pairingId error : String)
  | putOperation (operation : DurableOperation)
  | bumpProjectionRevision (conversationIds : List InstallationId)
  | saveProcessedCommand (commandId : String) (command : ProcessedCommand)

namespace Database

def settle (database : Database) : RuntimeResult Database → Database
  | .ok after => after
  | .error _ => database

def settleReturning (database : Database) :
    RuntimeResult (α × Database) → Database
  | .ok (_, after) => after
  | .error _ => database

def settlePairing (database : Database)
    (program : Program PairingTables RuntimeError Unit) : Database :=
  { database with pairing := (program database.pairing).2 }

end Database

namespace Call

def perform (database : Database) : Call → Database
  | putProfile profile => { database with profile := some profile }
  | putContact contact => database.settle (database.putContact contact)
  | putConversation conversation =>
    database.settle (database.putConversation conversation)
  | markConversationRead conversationId =>
    database.settle (database.markConversationRead conversationId)
  | upsertSnapshot conversationId snapshot =>
    database.settle (database.upsertSnapshot conversationId snapshot)
  | putConversationMlsSnapshot conversationId snapshot =>
    database.settle
      (database.putConversationMlsSnapshot conversationId snapshot)
  | putMessage message => database.settle (database.putMessage message)
  | deleteMessage messageId =>
    database.settle (database.deleteMessage messageId)
  | claimOutgoingAttempt messageId nextAttemptAt ackDeadline error nowMs =>
    database.settleReturning
      (database.claimOutgoingAttempt messageId nextAttemptAt ackDeadline error
        nowMs)
  | persistOutboundEncryption messageId wire conversationId snapshot =>
    database.settle
      (database.persistOutboundEncryption messageId wire conversationId
        snapshot)
  | persistOutboundEncryptionAndClaim messageId wire conversationId snapshot
      nextAttemptAt ackDeadline nowMs =>
      database.settleReturning
        (database.persistOutboundEncryptionAndClaim messageId wire
          conversationId snapshot nextAttemptAt ackDeadline nowMs)
  | enqueueOutboundDelivery messageId contact createdAtSecs =>
    database.settle
      (database.enqueueOutboundDelivery messageId contact createdAtSecs)
  | claimOutboundDelivery messageId nextAttemptAt ackDeadline nowMs =>
    database.settleReturning
      (database.claimOutboundDelivery messageId nextAttemptAt ackDeadline
        nowMs)
  | requeueOutboundDelivery messageId retryAt error =>
    database.settle (database.requeueOutboundDelivery messageId retryAt error)
  | completeOutboundDelivery messageId =>
    database.settle (database.completeOutboundDelivery messageId)
  | expediteDeliveries contact =>
    database.settle (database.expediteDeliveries contact)
  | expediteMessages contact =>
    database.settle (database.expediteMessages contact)
  | requeuePeerDeliveries nowMs =>
    database.settle (database.requeuePeerDeliveries nowMs)
  | putDeliveryReceipt messageId receipt =>
    database.settle (database.putDeliveryReceipt messageId receipt)
  | putReceivedEnvelope sender messageId envelope =>
    database.settle (database.putReceivedEnvelope sender messageId envelope)
  | persistReceiptEncryption messageId wire conversationId snapshot
      nextAttemptAt lastError nowMs =>
      database.settleReturning
        (database.persistReceiptEncryption messageId wire conversationId
          snapshot nextAttemptAt lastError nowMs)
  | claimReceiptAttempt messageId nextAttemptAt lastError nowMs =>
    database.settleReturning
      (database.claimReceiptAttempt messageId nextAttemptAt lastError nowMs)
  | completeDeliveryReceipt messageId =>
    database.settle (database.completeDeliveryReceipt messageId)
  | requeueDeliveryReceipt messageId nextAttemptAt lastError =>
    database.settle
      (database.requeueDeliveryReceipt messageId nextAttemptAt lastError)
  | requeueAfterDisconnect nowMs =>
    database.settle (database.requeueAfterDisconnect nowMs)
  | enqueueReadReceipt receiptId contact conversationId messageIds readAt nowMs
      =>
      database.settle
        (database.enqueueReadReceipt receiptId contact conversationId messageIds
          readAt nowMs)
  | persistReadReceiptRow receiptId wire nextAttemptAt nowMs =>
    database.settleReturning
      (database.persistReadReceiptRow receiptId wire nextAttemptAt nowMs)
  | requeueReadReceipt receiptId nextAttemptAt error =>
    database.settle
      (database.requeueReadReceipt receiptId nextAttemptAt error)
  | completeReadReceipt receiptId =>
    database.settle (database.completeReadReceipt receiptId)
  | storeInboundPeerEnvelope sender messageId ciphertext hash receivedAt =>
    database.settleReturning
      (database.storeInboundPeerEnvelope sender messageId ciphertext hash
        receivedAt)
  | completeInboundPeerEnvelope sender messageId =>
    database.settle (database.completeInboundPeerEnvelope sender messageId)
  | rejectInboundPeerEnvelope sender messageId =>
    database.settle (database.rejectInboundPeerEnvelope sender messageId)
  | putPendingApplicationEnvelope sender messageId envelope =>
    database.settle
      (database.putPendingApplicationEnvelope sender messageId envelope)
  | removePendingApplicationEnvelope sender messageId =>
    database.settle
      (database.removePendingApplicationEnvelope sender messageId)
  | removeRelationshipWithId contact removedAt preserveHistory removalId epoch
      =>
      database.settle
        (database.removeRelationshipWithId contact removedAt preserveHistory
          removalId epoch)
  | applyRemoteRelationshipRemoval contact removedAt removalId epoch =>
    database.settle
      (database.applyRemoteRelationshipRemoval contact removedAt removalId
        epoch)
  | putRelationshipRemovalAck removalId contact epoch payload =>
    database.settle
      (database.putRelationshipRemovalAck removalId contact epoch payload)
  | beginVerifiedRelationship contact boundaryAt =>
    database.settle (database.beginVerifiedRelationship contact boundaryAt)
  | markRelationshipRemovalDispatched removalId nextAttemptAt =>
    database.settle
      (database.markRelationshipRemovalDispatched removalId nextAttemptAt)
  | completeRelationshipRemovalAck removalId =>
    database.settle (database.completeRelationshipRemovalAck removalId)
  | markRelationshipRemovalAckDispatched removalId nextAttemptAt =>
    database.settle
      (database.markRelationshipRemovalAckDispatched removalId nextAttemptAt)
  | putContactPeerEndpoint endpoint =>
    database.settle (database.putContactPeerEndpoint endpoint)
  | markPeerConnected contact connectedAt =>
    database.settle (database.markPeerConnected contact connectedAt)
  | enqueueEndpointUpdateForContacts update =>
    database.settle (database.enqueueEndpointUpdateForContacts update)
  | completeEndpointUpdates contact throughSequence =>
    database.settle (database.completeEndpointUpdates contact throughSequence)
  | putPendingPeerEndpointInbox endpoint =>
    database.settle (database.putPendingPeerEndpointInbox endpoint)
  | removePendingPeerEndpointInbox contact =>
    database.settle (database.removePendingPeerEndpointInbox contact)
  | putLocalPeerEndpoint endpoint generation =>
    database.settle (database.putLocalPeerEndpoint endpoint generation)
  | deleteLocalPeerEndpoint => database.settle database.deleteLocalPeerEndpoint
  | putContactEndpointCapability contact capabilityId secret nowSecs =>
    database.settle
      (database.putContactEndpointCapability contact capabilityId secret
        nowSecs)
  | revokeContactEndpointCapability contact =>
    database.settle (database.revokeContactEndpointCapability contact)
  | putPeerEndpointCapability contact capabilityId secret sequence issuedAt
      expiresAt =>
      database.settle
        (database.putPeerEndpointCapability contact capabilityId secret sequence
          issuedAt expiresAt)
  | revokePeerEndpointCapability contact =>
    database.settle (database.revokePeerEndpointCapability contact)
  | consumeInvite inviteId =>
    database.settleReturning (database.consumeInvite inviteId)
  | putPendingLocalInviteMls inviteId invite =>
    database.settle (database.putPendingLocalInviteMls inviteId invite)
  | removePendingLocalInviteMls inviteId =>
    database.settle (database.removePendingLocalInviteMls inviteId)
  | deleteExpiredPendingLocalInviteMls nowSecs =>
    database.settle (database.deleteExpiredPendingLocalInviteMls nowSecs)
  | putPendingWelcome inviteId welcome =>
    database.settle (database.putPendingWelcome inviteId welcome)
  | removePendingWelcome inviteId =>
    database.settle (database.removePendingWelcome inviteId)
  | deleteExpiredPendingWelcomes nowSecs =>
    database.settle (database.deleteExpiredPendingWelcomes nowSecs)
  | claimPendingWelcomeAttempt inviteId nextAttemptAt lastError nowMs nowSecs =>
    database.settleReturning
      (database.claimPendingWelcomeAttempt inviteId nextAttemptAt lastError
        nowMs nowSecs)
  | recordPendingWelcomeError inviteId error =>
    database.settle (database.recordPendingWelcomeError inviteId error)
  | retryDeadWelcome inviteId =>
    database.settle (database.retryDeadWelcome inviteId)
  | putPairingInbox item =>
    database.settlePairing (Program.execute (Storage.putPairingInbox · item))
  | putPairingOutbox item =>
    database.settlePairing (Program.execute (Storage.putPairingOutbox · item))
  | bindPairingOutboxPairKey inviteId pairKey =>
    database.settlePairing (Storage.bindPairingOutboxPairKey inviteId pairKey)
  | claimPairingResponseAttempt pairingId nextAttemptAt lastError nowSecs nowMs
      =>
      database.settleReturning
        (database.claimPairingResponseAttempt pairingId nextAttemptAt lastError
          nowSecs nowMs)
  | recordPairingResponseError pairingId error =>
    database.settle (database.recordPairingResponseError pairingId error)
  | putOperation operation => database.settle (database.putOperation operation)
  | bumpProjectionRevision conversationIds =>
    database.settle (database.bumpProjectionRevision conversationIds)
  | saveProcessedCommand commandId command =>
    database.settle (database.saveProcessedCommand commandId command)

end Call

def machine : Machine Database Call where
  init := .empty
  enabled _ _ := True
  next := Call.perform

@[simp] theorem machine_next : machine.next = Call.perform := rfl

/-- A verified contact with a conversation, for worked examples. -/
def meetingAlice : List Call :=
  [.putContact ⟨"alice", "Alice", "key", "fingerprint", none, false, false,
      .verified, .peerOnly⟩,
    .putConversation ⟨"alice", .active, "", 0, 0⟩]

namespace Database

theorem settle_view (view : Database → β)
    (same : ∀ after, result = .ok after → view after = view database) :
    view (database.settle result) = view database := by
  cases result with
  | error error => rfl
  | ok after => exact same after rfl

theorem settleReturning_view
    {result : RuntimeResult (α × Database)} (view : Database → β)
    (same : ∀ value after, result = .ok (value, after) →
      view after = view database) :
    view (database.settleReturning result) = view database := by
  cases result with
  | error error => rfl
  | ok answer => exact same answer.1 answer.2 rfl

end Database

end Torchat.Storage
