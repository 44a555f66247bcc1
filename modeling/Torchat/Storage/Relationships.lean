import Torchat.Storage.Receipts

namespace Torchat.Storage

open Foundation

namespace Database

def putContact
    (contact : ContactRecord) (database : Database) : RuntimeResult Database :=
  .ok { database with
    contacts := database.contacts.insert contact.installationId contact }

def putConversation (conversation : ConversationSummary) (database : Database) :
    RuntimeResult Database := do
  requireRow (database.contacts.contains conversation.id)
  return { database with
    conversations :=
      database.conversations.insert conversation.id conversation }

def markConversationRead (conversationId : InstallationId)
    (database : Database) : RuntimeResult Database :=
  .ok { database with
    conversations := database.conversations.modify conversationId
      fun conversation => { conversation with unreadCount := 0 } }

/-! ## Removal and renewal of a relationship -/

def blockContact
    (installationId : InstallationId) (database : Database) : Database :=
  { database with
    contacts := database.contacts.modify installationId fun contact =>
      { contact with blocked := true } }

def setConversationOffline
    (installationId : InstallationId) (database : Database) : Database :=
  { database with
    conversations := database.conversations.modify installationId
      fun conversation => { conversation with status := .offline } }

def failPendingMessages
    (installationId : InstallationId) (database : Database) : Database :=
  database.onMessages (·.updateWhere
    (fun _ row =>
      database.conversations.contains installationId &&
        row.message.conversationId = installationId && row.message.outgoing &&
        MessageState.isPending row.message.state)
    fun _ row =>
      { row with
        message :=
          { row.message with
            state := .failed
            nextAttemptAt := 0
            ackDeadline := none
            lastTransportError := some "relationship removed" } })

def deleteOutboundDeliveries
    (installationId : InstallationId) (database : Database) : Database :=
  database.onDeliveries (·.retain fun _ row =>
    decide (row.contactInstallationId ≠ installationId))

def deleteDeliveryReceipts
    (installationId : InstallationId) (database : Database) : Database :=
  database.onReceipts (·.retain fun _ row =>
    !(database.conversations.contains installationId &&
      decide (row.conversationId = installationId)))

def deleteHistory
    (installationId : InstallationId) (database : Database) : Database :=
  let gone (row : MessageRow) : Bool :=
    database.conversations.contains installationId &&
      decide (row.message.conversationId = installationId)
  (database.onDeliveries (·.retain fun messageId _ =>
    !(database.messages.lookup messageId).any gone)).onMessages
    (·.retain fun _ row => !gone row)

/-- The tombstone a removal leaves: times and epochs only grow. -/
def tombstone (installationId : InstallationId) (removedAt : Int)
    (preserveHistory : Bool) (relationshipEpoch : Int) (removalId : String)
    (database : Database) : Database :=
  let row := match database.relationshipTombstones.lookup installationId with
    | none => ⟨removedAt, preserveHistory, relationshipEpoch, removalId⟩
    | some current =>
      { removedAt := max current.removedAt removedAt
        preserveHistory := preserveHistory
        relationshipEpoch := max current.relationshipEpoch relationshipEpoch
        removalId :=
          if current.relationshipEpoch ≤ relationshipEpoch then removalId
          else current.removalId }
  { database with
    relationshipTombstones :=
      database.relationshipTombstones.insert installationId row }

/-- A removal older than the tombstone changes nothing. -/
def staleRemoval (installationId : InstallationId) (relationshipEpoch : Int)
    (database : Database) : Bool :=
  (database.relationshipTombstones.lookup installationId).any fun current =>
    decide (relationshipEpoch < current.relationshipEpoch)

def enqueueRelationshipRemoval (removalId : String)
    (installationId : InstallationId) (relationshipEpoch : Int)
    (preserveHistory : Bool) (database : Database) : Database :=
  { database with
    relationshipRemovals := database.relationshipRemovals.insertNew removalId
      { contactInstallationId := installationId
        relationshipEpoch := relationshipEpoch
        preserveHistory := preserveHistory
        state := .pending
        attemptCount := 0
        nextAttemptAt := 0 } }

/-- The last statements of a local removal: the MLS snapshot, the endpoint, the
updates queued for the contact, and what it sent. -/
def forgetSession
    (installationId : InstallationId) (database : Database) : Database :=
  { database with
    conversationMls :=
      if database.conversations.contains installationId then
        database.conversationMls.erase installationId
      else
        database.conversationMls
    contactPeerEndpoints := database.contactPeerEndpoints.erase installationId
    peerConnectedAt := database.peerConnectedAt.erase installationId
    endpointUpdateOutbox := database.endpointUpdateOutbox.retain fun key _ =>
      decide (key.1 ≠ installationId)
    pendingPeerEndpointInbox :=
      database.pendingPeerEndpointInbox.erase installationId
    inboundPeerEnvelopes := database.inboundPeerEnvelopes.retain fun key _ =>
      decide (key.1 ≠ installationId)
    receivedEnvelopes := database.receivedEnvelopes.retain fun key _ =>
      decide (key.1 ≠ installationId) }

def removeRelationshipWithId (installationId : InstallationId) (removedAt : Int)
    (preserveHistory : Bool) (removalId : String) (relationshipEpoch : Int)
    (database : Database) : RuntimeResult Database :=
  if trim installationId = "" then
    .error (.invalidParams "contact installation id must not be empty")
  else if database.staleRemoval installationId relationshipEpoch then
    .ok database
  else
    let database := database.tombstone installationId removedAt preserveHistory
      relationshipEpoch removalId
    let database := database.enqueueRelationshipRemoval removalId installationId
      relationshipEpoch preserveHistory
    let database := database.blockContact installationId
    let database := database.setConversationOffline installationId
    let database := database.failPendingMessages installationId
    let database := database.deleteOutboundDeliveries installationId
    let database := database.deleteDeliveryReceipts installationId
    let database :=
      if preserveHistory then database else database.deleteHistory installationId
    .ok (database.forgetSession installationId)

def applyRemoteRelationshipRemoval
    (installationId : InstallationId) (removedAt : Int) (removalId : String)
    (relationshipEpoch : Int) (database : Database) : RuntimeResult Database :=
  if trim installationId = "" ∨ trim removalId = "" then
    .error (.invalidParams
      "remote relationship removal identifiers must not be empty")
  else if database.staleRemoval installationId relationshipEpoch then
    .ok database
  else
    let database := database.tombstone installationId removedAt true
      relationshipEpoch removalId
    let database := database.blockContact installationId
    let database := database.setConversationOffline installationId
    let database := database.failPendingMessages installationId
    let database := database.deleteOutboundDeliveries installationId
    .ok (database.deleteDeliveryReceipts installationId)

def putRelationshipRemovalAck
    (removalId : String) (contact : InstallationId) (relationshipEpoch : Int)
    (payload : Bytes) (database : Database) : RuntimeResult Database :=
  .ok { database with
    relationshipRemovalAcks :=
      database.relationshipRemovalAcks.insertNew removalId
        { contactInstallationId := contact
          relationshipEpoch := relationshipEpoch
          payload := payload
          state := .pending
          attemptCount := 0
          nextAttemptAt := 0 } }

def currentRelationshipEpoch
    (installationId : InstallationId) (database : Database) : Int :=
  (database.relationshipBoundaries.lookup installationId).elim 0
    Boundary.relationshipEpoch

/-- The `i64` after an epoch, `saturating_add(1)`. -/
def epochAfter (epoch : Int) : Int := min (epoch + 1) (2 ^ 63 - 1)

/-- The one write that lifts a tombstone. -/
def beginVerifiedRelationship (installationId : InstallationId)
    (boundaryAt : Int) (database : Database) : RuntimeResult Database :=
  let tombstoneEpoch :=
    (database.relationshipTombstones.lookup installationId).elim 0
      Tombstone.relationshipEpoch
  let boundaryEpoch := database.currentRelationshipEpoch installationId
  let nextEpoch := epochAfter (max boundaryEpoch tombstoneEpoch)
  .ok { database with
    relationshipTombstones :=
      database.relationshipTombstones.erase installationId
    relationshipBoundaries :=
      database.relationshipBoundaries.insert installationId
        { boundaryAt := boundaryAt
          relationshipEpoch :=
            (database.relationshipBoundaries.lookup installationId).elim
              nextEpoch fun row => max row.relationshipEpoch nextEpoch } }

structure DueRemoval where
  removalId : String
  contactInstallationId : InstallationId
  removedAt : Int
  relationshipEpoch : Int
  preserveHistory : Bool
  attemptCount : Nat

def dueRelationshipRemovals (nowMs : Int) (database : Database) :
    List DueRemoval :=
  database.relationshipRemovals.entries.filterMap fun (removalId, row) =>
    let due := (row.state = .pending || row.state = .dispatched ||
      row.state = .waitingForAck) && decide (row.nextAttemptAt ≤ nowMs)
    match database.relationshipTombstones.lookup row.contactInstallationId with
    | none => none
    | some tombstone =>
      if due && tombstone.removalId = removalId then
        some
          { removalId := removalId
            contactInstallationId := row.contactInstallationId
            removedAt := tombstone.removedAt
            relationshipEpoch := row.relationshipEpoch
            preserveHistory := row.preserveHistory
            attemptCount := row.attemptCount }
      else
        none

def relationshipRemovalMaxAttempts : Nat := 8

def markRelationshipRemovalDispatched (removalId : String) (nextAttemptAt : Int)
    (database : Database) : RuntimeResult Database :=
  .ok { database with
    relationshipRemovals := database.relationshipRemovals.modify removalId
      fun row =>
        if row.state = .pending || row.state = .dispatched ||
            row.state = .waitingForAck then
          { row with
            state :=
              if relationshipRemovalMaxAttempts ≤ row.attemptCount + 1 then
                .deadLetter
              else .waitingForAck
            attemptCount := row.attemptCount + 1
            nextAttemptAt := nextAttemptAt }
        else
          row }

def completeRelationshipRemovalAck
    (removalId : String) (database : Database) : RuntimeResult Database :=
  .ok { database with
    relationshipRemovals := database.relationshipRemovals.modify removalId
      fun row => { row with state := .acked } }

def dueRelationshipRemovalAcks (nowMs : Int) (database : Database) :
    List (String × RemovalAck) :=
  (database.relationshipRemovalAcks.retain fun _ row =>
    (row.state = .pending || row.state = .dispatched) &&
      decide (row.nextAttemptAt ≤ nowMs)).entries

def markRelationshipRemovalAckDispatched (removalId : String)
    (nextAttemptAt : Int) (database : Database) : RuntimeResult Database :=
  .ok { database with
    relationshipRemovalAcks := database.relationshipRemovalAcks.modify removalId
      fun row =>
        if row.state = .pending || row.state = .dispatched then
          { row with
            state :=
              if relationshipRemovalMaxAttempts ≤ row.attemptCount + 1 then
                .deadLetter
              else .dispatched
            attemptCount := row.attemptCount + 1
            nextAttemptAt := nextAttemptAt }
        else
          row }

end Database

end Torchat.Storage
