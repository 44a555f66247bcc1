import Torchat.Relay.Protocol
import Torchat.Storage.Pairing

namespace Torchat

/-- What a ciphertext was made from: the contact it is for, the group and the
place in the sender ratchet it was encrypted at, and the plaintext. -/
structure Origin where
  contact : InstallationId
  lineage : Nat
  generation : Nat
  plaintext : Bytes
  deriving DecidableEq

/-- A ciphertext of this device. The origin is a ghost: no definition of the
program reads it. -/
structure Sealed where
  bytes : Bytes
  origin : Origin
  deriving DecidableEq

structure MessageReply where
  messageId : Uuid
  body : String
  outgoing : Bool
  deriving DecidableEq

structure ChatMessage where
  id : Uuid
  conversationId : InstallationId
  outgoing : Bool
  body : String
  replyTo : Option MessageReply
  state : MessageState
  createdAt : Int
  attemptCount : Nat := 0
  lastAttemptAt : Option Int := none
  nextAttemptAt : Int := 0
  ackDeadline : Option Int := none
  lastTransportError : Option String := none
  deriving DecidableEq

/-- A conversation is stored under the installation id of its contact: every
writer of the table gives a row that id for both columns. -/
structure ConversationSummary where
  id : InstallationId
  status : ConversationState
  lastMessagePreview : String
  lastMessageAt : Int
  unreadCount : Nat

def ConversationSummary.contactInstallationId
    (conversation : ConversationSummary) : InstallationId :=
  conversation.id

/-- A peer endpoint without its signature, which `Primitives` judges. -/
structure PeerEndpointBundle where
  installationId : InstallationId
  identityPublicKey : String
  onionAddress : String
  sequence : Nat
  expiresAt : Option Int
  capabilities : List String

structure RuntimeProfile where
  installationId : InstallationId
  nickname : String
  publicKey : String
  fingerprint : String

inductive OperationType
  | pairing
  | pairingCancellation
  | messageDelivery
  | relationshipRemoval
  | endpointRotation
  | profileReset
  deriving DecidableEq

inductive OperationState
  | pending
  | running
  | waitingForRetry
  | completed
  | cancelled
  | failedPermanent
  deriving DecidableEq

def OperationState.isTerminal : OperationState → Bool
  | completed | cancelled | failedPermanent => true
  | pending | running | waitingForRetry => false

inductive RuntimeErrorCode
  | invalidInput
  | notFound
  | conflict
  | temporarilyUnavailable
  | transportUnavailable
  | storageFailed
  | cryptoFailed
  | unsupported
  | internal
  deriving DecidableEq

structure DurableOperation where
  operationId : String
  operationType : OperationType
  entityId : String
  state : OperationState
  startedAt : Int
  updatedAt : Int
  attemptCount : Nat
  retryAt : Option Int
  errorCode : Option RuntimeErrorCode
  commandDescriptor : Option String
  deriving DecidableEq

namespace Storage

open Foundation

structure MessageRow where
  message : ChatMessage
  wireCiphertext : Option Sealed
  deriving DecidableEq

inductive DeliveryState
  | queued
  | inFlight
  deriving DecidableEq

structure OutboundDelivery where
  contactInstallationId : InstallationId
  state : DeliveryState
  attemptCount : Nat
  nextAttemptAt : Int
  ackDeadline : Option Int
  lastError : Option String
  createdAt : Int

structure MlsRow where
  snapshot : Bytes
  stateVersion : Nat
  deriving DecidableEq

/-- The state of a delivery receipt, also kept beside the envelope it answers
(`NONE` there when nothing is to be sent). -/
inductive ReceiptState
  | none
  | pending
  | sent
  | delivered
  deriving DecidableEq

structure ReceivedEnvelope where
  ciphertextHash : Bytes
  receivedAt : Int
  receiptState : ReceiptState

structure DeliveryReceipt where
  envelopeId : Uuid
  conversationId : InstallationId
  originalSender : InstallationId
  receivedAt : Int
  wireCiphertext : Option Sealed
  state : ReceiptState
  attemptCount : Nat
  nextAttemptAt : Int
  lastError : Option String
  createdAt : Int

inductive ReadReceiptState
  | queued
  | sent

structure ReadReceipt where
  contactInstallationId : InstallationId
  conversationId : InstallationId
  messageIds : List Uuid
  readAt : Int
  wireCiphertext : Option Sealed
  state : ReadReceiptState
  attemptCount : Nat
  nextAttemptAt : Int
  lastError : Option String
  createdAt : Int

inductive InboundState
  | persisted
  | delivered
  | rejected
  deriving DecidableEq

structure InboundEnvelope where
  ciphertext : Bytes
  ciphertextHash : Bytes
  state : InboundState
  receivedAt : Int

structure PendingEnvelope where
  ciphertext : Bytes
  ciphertextHash : Bytes
  receivedAt : Int

structure PendingLocalInvite where
  recipientInstallationId : Option InstallationId
  snapshot : Bytes
  localCapabilityId : String
  localCapabilitySecret : Bytes
  expiresAt : Int

structure PendingWelcome where
  recipientInstallationId : InstallationId
  payload : Bytes
  expiresAt : Int
  attemptCount : Nat := 0
  nextAttemptAt : Int := 0
  lastError : Option String := none
  deadLettered : Bool := false

structure Boundary where
  boundaryAt : Int
  relationshipEpoch : Int

structure Tombstone where
  removedAt : Int
  preserveHistory : Bool
  relationshipEpoch : Int
  removalId : String

inductive RemovalState
  | pending
  | dispatched
  | waitingForAck
  | acked
  | deadLetter
  deriving DecidableEq

structure RelationshipRemoval where
  contactInstallationId : InstallationId
  relationshipEpoch : Int
  preserveHistory : Bool
  state : RemovalState
  attemptCount : Nat
  nextAttemptAt : Int

structure RemovalAck where
  contactInstallationId : InstallationId
  relationshipEpoch : Int
  payload : Bytes
  state : RemovalState
  attemptCount : Nat
  nextAttemptAt : Int

/-- A row of `contact_endpoint_capabilities`, issued to a contact, or of
`peer_endpoint_capabilities`, received from one. -/
structure EndpointCapability where
  capabilityId : String
  secret : Bytes
  sequence : Nat
  issuedAt : Int
  expiresAt : Option Int
  revoked : Bool
  deriving DecidableEq

/-- `PeerEndpointUpdate`, queued for a contact until it is acknowledged. -/
structure PeerEndpointUpdate where
  previousSequence : Nat
  endpoint : PeerEndpointBundle

structure ProcessedCommand where
  commandType : String
  resultJson : String
  committedRevision : Nat

/-- What the properties of whole runs speak about and no definition of the
program reads. It is part of the database, so a rollback undoes it: the envelopes
whose payload took effect, one entry for each time one did; the origins of the
ciphertexts stored in an outbox; the group in which the pairing in force was
made; the invite built for each pairing; the pairings confirmed cancelled, with
whether their invite had been used by then. -/
structure Ghost where
  applied : List (InstallationId × Uuid)
  exposed : List Origin
  groups : Table InstallationId Nat
  offers : List (String × String)
  cancelled : List (String × Bool)

def Ghost.empty : Ghost := ⟨[], [], .empty, [], []⟩

/-- The client database. `peerConnectedAt` is the column `last_connected_at` of
`contact_peer_endpoints`. -/
structure Database where
  profile : Option RuntimeProfile
  localPeerEndpoint : Option (PeerEndpointBundle × Nat)
  contacts : Table InstallationId ContactRecord
  conversations : Table InstallationId ConversationSummary
  conversationMls : Table InstallationId MlsRow
  messages : Table Uuid MessageRow
  pairing : PairingTables
  pendingWelcomes : Table String PendingWelcome
  usedInvites : List String
  receivedEnvelopes : Table (InstallationId × Uuid) ReceivedEnvelope
  deliveryReceipts : Table Uuid DeliveryReceipt
  contactPeerEndpoints : Table InstallationId PeerEndpointBundle
  peerConnectedAt : Table InstallationId Int
  endpointUpdateOutbox : Table (InstallationId × Int) PeerEndpointUpdate
  outboundDeliveries : Table Uuid OutboundDelivery
  inboundPeerEnvelopes : Table (InstallationId × Uuid) InboundEnvelope
  pendingPeerEndpointInbox : Table InstallationId PeerEndpointBundle
  relationshipBoundaries : Table InstallationId Boundary
  relationshipTombstones : Table InstallationId Tombstone
  pendingLocalInvites : Table String PendingLocalInvite
  globalRevision : Nat
  conversationRevisions : Table InstallationId Nat
  processedCommands : Table String ProcessedCommand
  contactEndpointCapabilities : Table InstallationId EndpointCapability
  peerEndpointCapabilities : Table InstallationId EndpointCapability
  pendingApplicationEnvelopes : Table (InstallationId × Uuid) PendingEnvelope
  readReceiptOutbox : Table Uuid ReadReceipt
  relationshipRemovals : Table String RelationshipRemoval
  relationshipRemovalAcks : Table String RemovalAck
  durableOperations : Table String DurableOperation
  ghost : Ghost

def Database.empty : Database where
  profile := none
  localPeerEndpoint := none
  contacts := .empty
  conversations := .empty
  conversationMls := .empty
  messages := .empty
  pairing := ⟨.empty, .empty⟩
  pendingWelcomes := .empty
  usedInvites := []
  receivedEnvelopes := .empty
  deliveryReceipts := .empty
  contactPeerEndpoints := .empty
  peerConnectedAt := .empty
  endpointUpdateOutbox := .empty
  outboundDeliveries := .empty
  inboundPeerEnvelopes := .empty
  pendingPeerEndpointInbox := .empty
  relationshipBoundaries := .empty
  relationshipTombstones := .empty
  pendingLocalInvites := .empty
  globalRevision := 0
  conversationRevisions := .empty
  processedCommands := .empty
  contactEndpointCapabilities := .empty
  peerEndpointCapabilities := .empty
  pendingApplicationEnvelopes := .empty
  readReceiptOutbox := .empty
  relationshipRemovals := .empty
  relationshipRemovalAcks := .empty
  durableOperations := .empty
  ghost := .empty

namespace Database

/-! Rows are read with their key in the column that holds it. -/

def message (database : Database) (messageId : Uuid) : Option ChatMessage :=
  (database.messages.lookup messageId).map fun row =>
    { row.message with id := messageId }

def contact (database : Database) (installationId : InstallationId) :
    Option ContactRecord :=
  (database.contacts.lookup installationId).map fun row =>
    { row with installationId := installationId }

def conversation (database : Database) (conversationId : InstallationId) :
    Option ConversationSummary :=
  (database.conversations.lookup conversationId).map fun row =>
    { row with id := conversationId }

theorem conversation_id
    {database : Database} {conversation : ConversationSummary}
    (found : database.conversation conversationId = some conversation) :
    conversation.id = conversationId := by
  obtain ⟨row, _, rfl⟩ := Option.map_eq_some_iff.mp found
  rfl

def onGhost (f : Ghost → Ghost) (database : Database) : Database :=
  { database with ghost := f database.ghost }

/-- The group in which the relationship in force with a contact speaks. A
removed relationship speaks in none. -/
def currentGroup (database : Database) (contact : InstallationId) : Option Nat :=
  if database.relationshipTombstones.contains contact then none
  else database.ghost.groups.lookup contact

def expose (wire : Sealed) : Database → Database :=
  onGhost fun ghost => { ghost with exposed := wire.origin :: ghost.exposed }

def recordGroup (contact : InstallationId) (lineage : Nat) :
    Database → Database :=
  onGhost fun ghost =>
    { ghost with groups := ghost.groups.insert contact lineage }

def recordOffer (pairingId inviteId : String) : Database → Database :=
  onGhost fun ghost =>
    { ghost with offers := (pairingId, inviteId) :: ghost.offers }

/-- A pairing that is stored as cancelled is confirmed; its invite was used by
then or not. -/
def recordCancelled (pairingId : String) (database : Database) : Database :=
  if (database.pairing.outbox.lookup pairingId).any fun row =>
      decide (row.state = .cancelled) then
    database.onGhost fun ghost =>
      { ghost with
        cancelled :=
          (pairingId, database.usedInvites.any fun inviteId =>
            (pairingId, inviteId) ∈ ghost.offers) :: ghost.cancelled }
  else
    database

def recordApplied (sender : InstallationId) (messageId : Uuid) :
    Database → Database :=
  onGhost fun ghost =>
    { ghost with applied := (sender, messageId) :: ghost.applied }

end Database

end Storage

end Torchat
