import Torchat.Engine.Relay

namespace Torchat

open Foundation Storage

/-- The commands that change something; queries, and the frames of
`queuePeerControl`, are `glance`. -/
inductive Command
  | bootstrap
  | connect
  | glance (contact : Option InstallationId)
  | pairingOutbox
  | retryPeerConnection (installationId : InstallationId)
  | rotatePeerEndpoint
  | rotateContactEndpointCapability (installationId : InstallationId)
  | revokeContactEndpointCapability (installationId : InstallationId)
  | setNickname (nickname : String)
  | refreshPairingCode
  | submitPairingCode (code : String)
  | acceptPairing (pairingId : String)
  | rejectPairing (pairingId : String)
  | archivePairing (pairingId : String)
  | cancelPairing (pairingId : String)
  | verifyContact (installationId : InstallationId)
  | updateContactSettings
      (installationId : InstallationId) (localAlias : Option String)
      (muted blocked : Bool)
  | requestRelationshipRemoval
      (installationId : InstallationId) (preserveHistory : Bool)
  | startConversation (contactId : InstallationId)
  | openConversation (conversationId : InstallationId)
  | closeConversation
  | sendMessage
      (conversationId : InstallationId) (body : String)
      (replyToMessageId : Option Uuid)
  | retryMessage (messageId : Uuid)
  | retryDeadLetter (kind id : String)
  | deleteMessageLocal (messageId : Uuid)
  | setConversationFocus (conversationId : InstallationId) (focused : Bool)
  | sendReadReceipts (conversationId : InstallationId)
  | setPresence

def Command.requiresCommandId : Command → Bool
  | bootstrap | connect | glance _ | pairingOutbox | retryPeerConnection _
  | openConversation _ | closeConversation | setConversationFocus ..
  | setPresence => false
  | _ => true

/-- `wire_name`; the commands gathered in `glance` have several, and need no id. -/
def Command.wireName : Command → String
  | bootstrap => "bootstrap"
  | connect => "connect"
  | glance _ => "list_contacts"
  | pairingOutbox => "pairing_outbox"
  | retryPeerConnection _ => "retry_peer_connection"
  | rotatePeerEndpoint => "rotate_peer_endpoint"
  | rotateContactEndpointCapability _ => "rotate_contact_endpoint_capability"
  | revokeContactEndpointCapability _ => "revoke_contact_endpoint_capability"
  | setNickname _ => "set_nickname"
  | refreshPairingCode => "refresh_pairing_code"
  | submitPairingCode _ => "submit_pairing_code"
  | acceptPairing _ => "accept_pairing"
  | rejectPairing _ => "reject_pairing"
  | archivePairing _ => "archive_pairing"
  | cancelPairing _ => "cancel_pairing"
  | verifyContact _ => "verify_contact"
  | updateContactSettings .. => "update_contact_settings"
  | requestRelationshipRemoval .. => "request_relationship_removal"
  | startConversation _ => "start_conversation"
  | openConversation _ => "open_conversation"
  | closeConversation => "close_conversation"
  | sendMessage .. => "send_message"
  | retryMessage _ => "retry_message"
  | retryDeadLetter .. => "retry_dead_letter"
  | deleteMessageLocal _ => "delete_message_local"
  | setConversationFocus .. => "set_conversation_focus"
  | sendReadReceipts _ => "send_read_receipts"
  | setPresence => "set_presence"

/-- The commands that end in a request to the relay; their result is stored
with its outcome. -/
def Command.deferred : Command → Bool
  | refreshPairingCode | submitPairingCode _ | cancelPairing _ => true
  | _ => false

inductive PeerAckKind
  | received
  | persisted
  | delivered
  | rejected
  deriving DecidableEq

inductive PeerEvent
  | inboundMessage
      (sender : InstallationId) (messageId : Uuid) (wire : Bytes)
  | ack
      (delivery : PeerDeliveryTag) (kind : PeerAckKind)
      (contact : InstallationId) (endpointSequence : Option Nat)
  | endpointUpdated (endpoint : PeerEndpointBundle)
  | presenceChanged (installationId : InstallationId) (online : Bool)
  | connectionChanged
      (installationId : InstallationId) (sessionId : Option Uuid)
      (status : PeerConnectionStatus) (error : Option String)
      (delivery : Option PeerDeliveryTag)

inductive TorPhase
  | starting
  | bootstrapping
  | ready
  | failed
  deriving DecidableEq

inductive PlatformFact
  | torStatus (phase : TorPhase) (progress : Int) (detail : String)
  | torEndpointAvailable (socks5Url : String)
  | torEndpointLost (reason : String)
  | onionServiceAvailable
      (onionAddress : String) (virtualPort generation : Nat)
  | onionServiceLost
  | appVisibilityChanged (foreground : Bool)
  | networkChanged (online : Bool)

inductive RetryKind
  | messageSend
  | pairingResponse
  | messageAckDeadline
  | receipt
  | pendingWelcome
  | readReceipt
  | relationshipRemoval
  | relationshipRemovalAck
  deriving DecidableEq

inductive RelayOutcome
  | code
  | submitted (expiresAt : Int)
  | cancelled
  | failed (error : String)

def submittedItem (pairingId : Uuid) (expiresAt : Int) : PairingItem where
  pairingId := pairingId.text
  pairKey := none
  sender := none
  capability := none
  expiresAt := expiresAt
  state := .pending
  received := false
  availableActions := []
  offerInviteId := none
  offerPayload := none

namespace Runtime

def removeRelationship (operationId descriptor : String)
    (installationId : InstallationId) (preserveHistory : Bool)
    (removalId : String) (removedAt : Int) : Call Unit := do
  if ← requestRelationshipRemoval operationId descriptor installationId
      preserveHistory removalId removedAt then
    Program.forEach
      ["operations", "relationships", "contacts", "conversations", "messages"]
      changed

def confirmCancellation (operationId pairingId : String) (nowMs : Int) :
    Call Unit := do
  let _ ← featureConfirmPairingCancelled pairingId
  featureCompletePairingOperation operationId pairingId nowMs

def beginCancellation (operationId pairingId descriptor : String) (nowMs : Int) :
    Call String := do
  featureBeginPairingOperation operationId pairingId descriptor nowMs
  featurePrepareCancelPairing pairingId

def bootstrapRuntime : Call Unit := do
  if (← Program.read Runtime.session).bootstrapEmitted then return
  onSession fun session => { session with bootstrapEmitted := true }
  pushEvent (.runtimeReady protocolVersion)
  match ← query Database.profile with
  | none => return
  | some profile =>
    pushEvent (.profileReady profile.installationId profile.nickname)

def reportTorStatus (status : RuntimeTorStatus) : Call Unit :=
  onSession (RuntimeSession.publishTorStatus status)

def validateNickname (nickname : String) : RuntimeResult String :=
  let nickname := trim nickname
  if nickname.utf8ByteSize < 2 ∨ 32 < nickname.toList.length then
    .error (.invalidParams "nickname must contain 2-32 characters")
  else
    .ok nickname

def commitNickname (nickname : String) : Call Unit := do
  let nickname ← Program.ofExcept (validateNickname nickname)
  match ← query Database.profile with
  | none => Program.fail (.unavailable "runtime identity is not ready")
  | some profile =>
    write fun database =>
      .ok { database with profile := some { profile with nickname := nickname } }
    pushEvent (.profileReady profile.installationId nickname)

end Runtime

namespace Actor

def transactAs (context : Option IdempotencyCommitContext)
    (operation : Runtime.Call α) : Call P α := do
  return (← withRuntimeIdempotent context operation fun _ => .ok "").1

def ensureRelayAvailable : Call P Unit := do
  if (← Program.read Actor.relay).isSome then
    Program.fail (.transport "rendezvous operation is already in progress")

def defer (work : RelayWork) : Call P Unit :=
  Program.modify fun actor => { actor with relay := some work }

def submitPairingCode (context : Option IdempotencyCommitContext)
    (code : String) : Call P Unit := do
  ensureRelayAvailable
  let _ ← transact (Runtime.prepareSubmitPairingCode code)
  let pairingId ← freshUuid
  let _ ← buildContactInvite pairingId none
  defer (.submitCode pairingId context)

def cancelPairing (context : Option IdempotencyCommitContext)
    (pairingId : String) : Call P Unit := do
  ensureRelayAvailable
  let context ← required context
    (.invalidCommand "cancel pairing requires a durable operation id")
  let now ← nowMs
  let pairingId ← transact (Runtime.beginCancellation context.commandId pairingId
    context.commandDescriptor now)
  defer (.cancelPairing pairingId context)

def acceptPairing (context : Option IdempotencyCommitContext)
    (pairingId : String) : Call P Unit := do
  let now ← nowSecs
  let _ ← transact (Runtime.featurePrepareAcceptPairing pairingId now)
  let offer ← transact (Runtime.featurePairingOfferPayload pairingId)
  acceptInvite offer
  let _ ← transactAs context (Runtime.featureAcceptPairing pairingId)

def rejectPairing (context : Option IdempotencyCommitContext)
    (pairingId : String) : Call P Unit := do
  let now ← nowSecs
  let effect ← transactAs context (Runtime.featureRejectPairing pairingId now)
  deliverSendEffect (.pairing effect)

def recordPairingCancelFailure (operationId pairingId : String) :
    Call P Unit := do
  let now ← nowMs
  transact (Runtime.featureRetryPairingOperation operationId pairingId
    .transportUnavailable now)

def processRelayOutcome (outcome : RelayOutcome) : Call P Unit := do
  let work ← Program.read Actor.relay
  Program.modify fun actor => { actor with relay := none }
  match work, outcome with
  | some (.refreshCode context), .code =>
    transactAs context (Runtime.changed "pairings")
  | some (.submitCode pairingId context), .submitted expiresAt =>
    let _ ← transactAs context (Runtime.commitSubmittedPairing
      (submittedItem pairingId expiresAt))
  | some (.cancelPairing pairingId context), .cancelled =>
    let now ← nowMs
    transactAs (some context)
      (Runtime.confirmCancellation context.commandId pairingId now)
  | some (.cancelPairing pairingId context), .failed error =>
    recordPairingCancelFailure context.commandId pairingId
    Program.fail (.transport error)
  | _, .failed error => Program.fail (.transport error)
  | _, _ => return

def operationContext (context : Option IdempotencyCommitContext)
    (descriptor : String) : Call P IdempotencyCommitContext :=
  match context with
  | some context => Program.pure context
  | none => do return ⟨(← freshUuid).text, descriptor⟩

def removeRelationship (context : Option IdempotencyCommitContext)
    (installationId : InstallationId) (preserveHistory : Bool) :
    Call P Unit := do
  let removedAt ← nowMs
  let removalId := (← freshUuid).text
  let operation ← operationContext context
    ("request_relationship_removal:" ++ installationId ++ ":" ++
      toString preserveHistory)
  transactAs context (Runtime.removeRelationship operation.commandId
    operation.commandDescriptor installationId preserveHistory removalId
    removedAt)
  Program.modify fun actor =>
    { actor with
      conversations := actor.conversations.erase installationId
      cryptoBlockedPeers := actor.cryptoBlockedPeers.erase installationId
      activePeerSessions := actor.activePeerSessions.erase installationId }

def retryMessage (context : Option IdempotencyCommitContext)
    (messageId : Uuid) : Call P Unit := do
  let context ← required context
    (.invalidCommand "retry message requires a durable operation id")
  let now ← nowMs
  let effect ← transactAs (some context) (Runtime.featureRetryMessage
    context.commandId context.commandDescriptor messageId now)
  deliverSendEffect (.message effect)

def sendReadReceipts (conversationId : InstallationId) : Call P Unit := do
  let messageIds ← query fun database =>
    (database.messages.retain fun _ row =>
      row.message.conversationId = conversationId && !row.message.outgoing).keys
  queueReadReceipts conversationId messageIds

/-- Nothing fills the outbox of capability deliveries. -/
def retryDeadLetter (kind id : String) : Call P Unit := do
  if kind = "welcome" then
    write (Database.retryDeadWelcome id)
  else if kind = "capability" then
    writeElsewhere
    Program.fail (.invalidCommand
      "dead-letter record was not found or is not terminal")
  else
    Program.fail (.invalidCommand "unknown retry dead-letter kind")

def rotateContactEndpointCapability (installationId : InstallationId) :
    Call P Unit := do
  write (Database.revokeContactEndpointCapability installationId)
  let _ ← ensureContactEndpointCapability installationId
  ignoring (sendCapabilityOffer installationId)
  let _ ← required
    (← query (·.contactEndpointCapabilities.lookup installationId))
    (.storage "capability was not persisted")

def revokeContactEndpointCapability (installationId : InstallationId) :
    Call P Unit := do
  match ← query (·.contactEndpointCapabilities.lookup installationId) with
  | none => Program.pure ()
  | some row => do
      let now ← nowSecs
      ignoring (sendEphemeralPayload installationId
        (.capabilityRevoked row.capabilityId row.sequence now))
  write (Database.revokeContactEndpointCapability installationId)
  writeElsewhere
  Program.modify fun actor =>
    { actor with
      activePeerSessions := actor.activePeerSessions.erase installationId }

def retryPeerConnection (installationId : InstallationId) : Call P Unit := do
  if (← query (·.contactPeerEndpoints.lookup installationId)).isSome then
    ignoring (queuePeerControl installationId)
    expeditePeerDeliveries installationId
    flushPendingSendEffects

def handleCommand (context : Option IdempotencyCommitContext) :
    Command → Call P Unit
  | .bootstrap => transactAs context Runtime.bootstrapRuntime
  | .connect => do
      transact (Runtime.reportTorStatus (← Program.read Actor.torStatus))
      flushPendingSendEffects
      flushPendingReceiptEffects
  | .glance none => Program.pure ()
  | .glance (some contact) => queuePeerControl contact
  | .pairingOutbox => do
      let _ ← transact Runtime.pairingOutboxView
  | .retryPeerConnection installationId => retryPeerConnection installationId
  | .rotatePeerEndpoint => Program.modify fun actor =>
    { actor with
      expectedOnionGeneration := actor.expectedOnionGeneration + 1 }
  | .rotateContactEndpointCapability installationId =>
    rotateContactEndpointCapability installationId
  | .revokeContactEndpointCapability installationId =>
    revokeContactEndpointCapability installationId
  | .setNickname nickname =>
    transactAs context (Runtime.commitNickname nickname)
  | .refreshPairingCode => do
      ensureRelayAvailable
      transact Runtime.requirePairingProfileReady
      defer (.refreshCode context)
  | .submitPairingCode code => submitPairingCode context code
  | .acceptPairing pairingId => acceptPairing context pairingId
  | .rejectPairing pairingId => rejectPairing context pairingId
  | .archivePairing pairingId => do
      let _ ← transactAs context (Runtime.featureArchivePairing pairingId)
  | .cancelPairing pairingId => cancelPairing context pairingId
  | .verifyContact installationId => do
      let now ← nowMs
      transactAs context (Runtime.featureVerifyContact installationId now)
  | .updateContactSettings installationId localAlias muted blocked =>
    transactAs context (Runtime.featureUpdateContactSettings installationId
      localAlias muted blocked)
  | .requestRelationshipRemoval installationId preserveHistory =>
    removeRelationship context installationId preserveHistory
  | .startConversation contactId => do
      let now ← nowMs
      transactAs context (Runtime.featureStartConversation contactId now)
      ignoring (queuePeerControl contactId)
  | .openConversation conversationId => do
      transactAs context
        (Runtime.onSession (RuntimeSession.selectConversation conversationId))
      ignoring (queuePeerControl conversationId)
  | .closeConversation => transactAs context
      (Runtime.onSession RuntimeSession.clearSelectedConversation)
  | .sendMessage conversationId body replyToMessageId =>
    sendMessageCommand context conversationId body replyToMessageId
  | .retryMessage messageId => retryMessage context messageId
  | .retryDeadLetter kind id => retryDeadLetter kind id
  | .deleteMessageLocal messageId => do
      let now ← nowMs
      transactAs context (Runtime.featureDeleteMessageDelivery messageId now)
  | .setConversationFocus conversationId focused => do
      transact (Runtime.featureSetConversationFocus conversationId focused)
      queuePeerControl conversationId
  | .sendReadReceipts conversationId => sendReadReceipts conversationId
  | .setPresence => do
      Program.forEach (← Program.read fun actor => actor.conversations.keys)
        queuePeerControl

end Actor

end Torchat
