import Torchat.Engine.Commands
import Torchat.Foundation.Machine

namespace Torchat

open Foundation Storage

namespace Actor

def acknowledged (kind : PeerAckKind) : Bool := kind ≠ .received

def handleAck (kind : PeerAckKind) : PeerDeliveryTag → Call P Unit
  | .message messageId =>
    match kind with
    | .received => Program.pure ()
    | .persisted => applyMessageDeliveryOutcome messageId .peerPersisted
    | .delivered => applyMessageDeliveryOutcome messageId .peerDelivered
    | .rejected => applyMessageDeliveryOutcome messageId .peerRejected
  | .receipt messageId => do
      if acknowledged kind then
        write (Database.completeDeliveryReceipt messageId)
  | .readReceipt receiptId => do
      if acknowledged kind then write (Database.completeReadReceipt receiptId)
  | .relationshipRemovalAck removalId => do
      if acknowledged kind then
        let nextAttemptAt ← retryAt 1
        write (Database.markRelationshipRemovalAckDispatched removalId
          nextAttemptAt)
  | .ephemeral => Program.pure ()

def completeUpdates (kind : PeerAckKind) (contact : InstallationId)
    (endpointSequence : Option Nat) : Call P Unit :=
  match endpointSequence with
  | none => Program.pure ()
  | some sequence => do
      if kind = .persisted || kind = .delivered then
        write (Database.completeEndpointUpdates contact sequence)

def handleEndpointUpdated (endpoint : PeerEndpointBundle) : Call P Unit := do
  let contact := endpoint.installationId
  let previous ← required (← query (·.contactPeerEndpoints.lookup contact))
    (.invalidCommand "peer endpoint update has no known predecessor")
  check (P.validateSuccessor endpoint previous (← nowSecs)) .invalidCommand
  write (Database.putContactPeerEndpoint endpoint)
  let _ ← ensureContactEndpointCapability contact
  let base ← required (← Program.read Actor.localPeerEndpoint)
    (.transport "local onion endpoint is unavailable")
  let _ ← localEndpointForContact contact base
  if ← Program.read Actor.peerTransport then
    let _ ← localCapabilityCredentials contact
  ignoring (queuePeerControl contact)

def trackSession (installationId : InstallationId) (sessionId : Option Uuid)
    (status : PeerConnectionStatus)
    (sessions : Table InstallationId (Finset Uuid)) :
    Bool × Table InstallationId (Finset Uuid) :=
  let open' := (sessions.lookup installationId).getD ∅
  match sessionId, status with
  | some sessionId, .connected =>
    (true, sessions.insert installationId (insert sessionId open'))
  | some sessionId, .offline =>
    let rest := open'.erase sessionId
    (decide (rest = ∅), sessions.insert installationId rest)
  | some _, _ => (true, sessions.insert installationId open')
  | none, .connecting | none, .authenticating | none, .backoff =>
    (decide (open' = ∅), sessions)
  | none, _ => (true, sessions)

def handleConnectionChanged
    (installationId : InstallationId) (sessionId : Option Uuid)
    (status : PeerConnectionStatus) (error : Option String)
    (delivery : Option PeerDeliveryTag) : Call P Unit := do
  let blocked ← Program.read fun actor =>
    decide (installationId ∈ actor.cryptoBlockedPeers)
  let status :=
    if status = .connected && blocked then PeerConnectionStatus.backoff
    else status
  let tracked ← Program.read fun actor =>
    trackSession installationId sessionId status actor.activePeerSessions
  Program.modify fun actor => { actor with activePeerSessions := tracked.2 }
  if tracked.1 then
    if status = .connected then
      let now ← nowSecs
      write (Database.markPeerConnected installationId now)
    match status, error, delivery with
    | .backoff, some error, some (.message messageId) =>
      handleFailedPeerMessageDelivery messageId error
    | .backoff, some error, some (.receipt messageId) =>
      handleFailedPeerReceiptDelivery messageId error
    | _, _, _ => return

def handlePeerEvent : PeerEvent → Call P Unit
  | .inboundMessage sender messageId wire =>
    handleInboundMessage sender messageId wire
  | .ack delivery kind contact endpointSequence => do
      completeUpdates kind contact endpointSequence
      handleAck kind delivery
  | .endpointUpdated endpoint => handleEndpointUpdated endpoint
  | .presenceChanged _ online => do if online then writeElsewhere
  | .connectionChanged installationId sessionId status error delivery =>
    handleConnectionChanged installationId sessionId status error delivery

def runRetry : RetryKind → Call P Unit
  | .messageSend => flushPendingMessageDeliveries
  | .pairingResponse => flushPendingPairingDeliveries
  | .messageAckDeadline => retryExpiredAckDeadlines
  | .receipt => flushPendingReceiptEffects
  | .pendingWelcome => retryPendingWelcomes
  | .readReceipt => flushPendingReadReceipts
  | .relationshipRemoval => flushPendingRelationshipRemovals
  | .relationshipRemovalAck => flushPendingRelationshipRemovalAcks

def durableOperationDeadline (operation : DurableOperation) : Option Int :=
  match operation.state with
  | .pending | .running => some operation.updatedAt
  | .waitingForRetry => some (operation.retryAt.getD operation.updatedAt)
  | .completed | .cancelled | .failedPermanent => none

def resumeCancellation (operation : DurableOperation) (now : Int) :
    Call P Unit := do
  match operation.commandDescriptor with
  | none => transact (Runtime.featureFailPairingOperation operation.operationId
      operation.entityId .internal now)
  | some descriptor =>
    transact (Runtime.featureBeginPairingOperation operation.operationId
      operation.entityId descriptor now)
    match ← (transact (P := P)
        (Runtime.featurePrepareCancelPairing operation.entityId)).attempt with
    | .ok pairingId =>
      defer (.cancelPairing pairingId ⟨operation.operationId, descriptor⟩)
    | .error _ =>
      recordPairingCancelFailure operation.operationId operation.entityId

def resumeDueDurableOperation : Call P Unit := do
  let idle ← Program.read fun actor => actor.torUsable && actor.relay.isNone
  if idle then
    let now ← nowMs
    let operations ← query Database.pendingOperations
    let due (operation : DurableOperation) : Bool :=
      operation.operationType = .pairingCancellation &&
        (durableOperationDeadline operation).any fun deadline =>
          decide (deadline ≤ now)
    match operations.find? due with
    | none => return
    | some operation => resumeCancellation operation now

/-- `RetryDue`: the kind whose deadline is first (the input says which), if
retries can run at all; then a due cancellation. -/
def retryDue (kind : Option RetryKind) : Call P Unit := do
  let _ ← query fun _ => ()
  match kind with
  | none => Program.pure ()
  | some kind => do
      if ← Program.read torUsable then ignoring (runRetry kind)
  resumeDueDurableOperation

def probeContacts : Call P Unit := do
  Program.forEach (← query fun database => database.contacts.keys) fun contact =>
    ignoring (queuePeerControl contact)

/-- `PeerProbeRound`. No function of the engine fills the outbox of capability
deliveries, so its retry finds nothing to send. -/
def peerProbeRound : Call P Unit := do
  ignoring (transact Runtime.expirePendingPairings)
  ignoring probeContacts

def requeueAfterDisconnect : Call P Unit := do
  let now ← nowMs
  write (Database.requeueAfterDisconnect now)
  write (Database.requeuePeerDeliveries now)

def setSocks5Url (socks5Url : Option String) : Call P Unit :=
  Program.modify fun actor => { actor with socks5Url := socks5Url }

def setTorStatus (status : RuntimeTorStatus) : Call P Unit :=
  Program.modify fun actor => { actor with torStatus := status }

def reportTorStatus : Call P Unit := do
  transact (Runtime.reportTorStatus (← Program.read Actor.torStatus))

def shownPhase : TorPhase → RuntimeStatusPhase × String
  | .starting => (.starting, "tor starting")
  | .bootstrapping => (.bootstrapping, "tor bootstrapping")
  | .ready => (.connected, "tor ready")
  | .failed => (.error, "tor failed")

def endpointAvailable (status : RuntimeTorStatus) : RuntimeTorStatus :=
  if status.phase = .starting ∨ status.phase = .offline then
    { status with
      phase := .bootstrapping
      label := "tor endpoint available"
      detail := "SOCKS endpoint available"
      progress := status.progress <|> some 0 }
  else
    status

def peerVirtualPort : Nat := 443

def newEndpoint (P : Primitives) (onionAddress : String) (sequence : Nat) :
    PeerEndpointBundle where
  installationId := P.installationId
  identityPublicKey := P.publicKey
  onionAddress := (trim onionAddress).map Char.toLower
  sequence := sequence
  expiresAt := none
  capabilities := ["peer_message_v1", "peer_receipt_v1"]

/-- `eq_ignore_ascii_case`. -/
def sameAddress (left right : String) : Bool :=
  decide (left.map Char.toLower = right.map Char.toLower)

def endpointSequence
    (previous : Option PeerEndpointBundle) (onionAddress : String) : Nat :=
  previous.elim 1 fun previous =>
    if sameAddress previous.onionAddress onionAddress then previous.sequence
    else min (previous.sequence + 1) (2 ^ 64 - 1)

def queueEndpointUpdate (previous : Option PeerEndpointBundle)
    (endpoint : PeerEndpointBundle) : Call P Unit := do
  match previous with
  | none => return
  | some previous =>
    if previous.sequence < endpoint.sequence then
      write (Database.enqueueEndpointUpdateForContacts
        ⟨previous.sequence, endpoint⟩)

def announceOnionService (onionAddress : String)
    (virtualPort generation : Nat) : Call P PeerEndpointBundle := do
  if generation ≠ (← Program.read Actor.expectedOnionGeneration) then
    Program.fail (.invalidCommand "stale onion service generation")
  if virtualPort ≠ peerVirtualPort then
    Program.fail (.invalidCommand "unsupported onion service virtual port")
  let previous ← Program.read Actor.localPeerEndpoint
  let endpoint := newEndpoint P onionAddress
    (endpointSequence previous onionAddress)
  check (P.validateEndpoint endpoint (← nowSecs)) .invalidCommand
  write (Database.putLocalPeerEndpoint endpoint generation)
  queueEndpointUpdate previous endpoint
  Program.modify fun actor => { actor with localPeerEndpoint := some endpoint }
  return endpoint

def onionServiceAvailable
    (onionAddress : String) (virtualPort generation : Nat) : Call P Unit := do
  let _ ← announceOnionService onionAddress virtualPort generation
  refreshPeerAuthorizations
  ignoring probeContacts
  ignoring sendCapabilityOffersForContacts

def applyPlatformFact : PlatformFact → Call P Unit
  | .torStatus phase progress detail => do
      if phase = .failed then
        setSocks5Url none
        requeueAfterDisconnect
      setTorStatus ⟨(shownPhase phase).1, (shownPhase phase).2, detail,
        some progress, none, 0⟩
      reportTorStatus
  | .torEndpointAvailable socks5Url => do
      if (← Program.read Actor.socks5Url) ≠ some socks5Url then
        requeueAfterDisconnect
        setSocks5Url (some socks5Url)
      setTorStatus (endpointAvailable (← Program.read Actor.torStatus))
      reportTorStatus
  | .torEndpointLost reason => do
      setSocks5Url none
      requeueAfterDisconnect
      let status ← Program.read Actor.torStatus
      setTorStatus { status with
        label := "tor unavailable"
        detail := reason
        phase := .offline
        progress := none }
      reportTorStatus
  | .onionServiceAvailable onionAddress virtualPort generation =>
    onionServiceAvailable onionAddress virtualPort generation
  | .onionServiceLost => do
      Program.modify fun actor => { actor with localPeerEndpoint := none }
      write Database.deleteLocalPeerEndpoint
      let now ← nowMs
      write (Database.requeuePeerDeliveries now)
  | .appVisibilityChanged foreground =>
    transact (Runtime.onSession (RuntimeSession.setAppForeground foreground))
  | .networkChanged online => do
      Program.modify fun actor => { actor with networkOnline := online }
      if !online || (← Program.read Actor.socks5Url).isSome then
        requeueAfterDisconnect
        ignoring probeContacts

inductive Input
  | command (context : Option IdempotencyCommitContext) (command : Command)
  | relay (event : RelayEvent)
  | relayOutcome (outcome : RelayOutcome)
  | peer (event : PeerEvent)
  | retryDue (kind : Option RetryKind)
  | peerProbeRound
  | platform (fact : PlatformFact)
  | mergePairingInbox (remote : List PairingItem)
  | mergePairingOutbox (remote : List PairingItem)

def replay (context : IdempotencyCommitContext) (stored : ProcessedCommand) :
    Call P Unit :=
  if stored.commandType = context.commandDescriptor then Program.pure ()
  else Program.fail
    (.invalidCommand "command id was already used for a different command")

def ensureProcessed (context : IdempotencyCommitContext) : Call P Unit := do
  match ← query (·.processedCommands.lookup context.commandId) with
  | some stored =>
    if stored.commandType ≠ context.commandDescriptor then
      Program.fail (.storage ("command id " ++ context.commandId ++
        " was persisted for " ++ stored.commandType ++ " instead of " ++
        context.commandDescriptor))
  | none =>
    let revision ← query Database.globalRevision
    write fun database => database.saveProcessedCommand context.commandId
      ⟨context.commandDescriptor, "", revision⟩

def processCommand (context : Option IdempotencyCommitContext)
    (command : Command) : Call P Unit := do
  if command.requiresCommandId && context.all (·.commandId = "") then
    Program.fail (.invalidCommand
      ("durable command " ++ command.wireName ++ " requires commandId"))
  match context with
  | none => handleCommand none command
  | some context =>
    match ← query (·.processedCommands.lookup context.commandId) with
    | some stored => replay context stored
    | none =>
      handleCommand (some context) command
      if !command.deferred then ensureProcessed context

/-- The merges are calls of the runtime's interface that the engine itself does
not make. -/
def process : Input → Call P Unit
  | .command context command => processCommand context command
  | .relay event => handleRelayEvent event
  | .relayOutcome outcome => processRelayOutcome outcome
  | .peer event => handlePeerEvent event
  | .retryDue kind => retryDue kind
  | .peerProbeRound => peerProbeRound
  | .platform fact => applyPlatformFact fact
  | .mergePairingInbox remote => do
      let _ ← transact (Runtime.mergePairingInbox remote)
  | .mergePairingOutbox remote => do
      let _ ← transact (Runtime.mergePairingOutbox remote)

def seedRuntimeIdentity : Call P Unit :=
  write fun database =>
    .ok { database with
      profile := database.profile <|> some
        ⟨P.installationId, "", P.publicKey, P.fingerprint⟩ }

def restoreError (conversationId : InstallationId) (error : String) :
    EngineError :=
  let action :=
    if mentions error "unsupported MLS" ||
        mentions error "invalid MLS snapshot header" then
      "re-pair required"
    else
      "repair local data or re-pair"
  .storage ("restore MLS conversation snapshot for " ++ conversationId ++ ": " ++
    error ++ "; " ++ action)

def loadConversation (conversationId : InstallationId) (snapshot : Bytes) :
    Call P Unit := do
  let conversation ← check (P.restore snapshot) (restoreError conversationId)
  if ← Program.read Actor.mlsAnchor then
    let _ ← query (·.conversationMls.lookup conversationId)
    onHost (Host.consult .anchor (.storage ("MLS conversation snapshot for " ++
      conversationId ++ ": re-pair required")))
  keepConversation conversationId conversation

def loadTechnicalState : Call P Unit := do
  Program.forEach (← query fun database => database.conversationMls.entries)
    fun (conversationId, row) => loadConversation conversationId row.snapshot
  let now ← nowSecs
  let welcomes ← query fun database =>
    database.pendingWelcomes.retain fun _ welcome =>
      decide (now ≤ welcome.expiresAt)
  Program.modify fun actor => { actor with pendingWelcomes := welcomes }

def load : Call P Unit := do
  write (Database.requeueAfterDisconnect (← nowMs))
  write (Database.requeuePeerDeliveries (← nowMs))
  seedRuntimeIdentity
  write (Database.deleteExpiredPendingWelcomes (← nowSecs))
  write (Database.deleteExpiredPendingLocalInviteMls (← nowSecs))
  loadTechnicalState
  let blocked ← query Database.rejectedInboundPeerSenders
  Program.modify fun actor => { actor with cryptoBlockedPeers := blocked }

def prepareContact (contact : InstallationId) : Call P Unit := do
  match ← query (·.contactPeerEndpoints.lookup contact) with
  | none => return
  | some _ =>
    let _ ← ensureContactEndpointCapability contact
    match ← Program.read Actor.localPeerEndpoint with
    | none => return
    | some endpoint =>
      let _ ← localCapabilityCredentials contact
      let _ ← localEndpointForContact contact endpoint

def beginRun : Call P Unit := do
  onHost (Host.consult .transport (.transport "bind peer listener"))
  Program.forEach (← query fun database => database.contacts.keys)
    prepareContact
  Program.modify fun actor => { actor with peerTransport := true }
  Program.forEach (← query fun database => database.contacts.keys)
    drainPendingPreWelcome
  recoverPendingInboundPeerEnvelopes

end Actor

/-- A start may bring a SOCKS endpoint and an anchor along. -/
structure StartConfig where
  socks5Url : Option String
  mlsAnchor : Bool

/-- The engine between two inputs. What a stopped engine leaves is the database;
the host keeps the ghosts and the count of random seeds. -/
inductive System (P : Primitives)
  | stopped (database : Database) (host : Host)
  | running (actor : Actor P)

namespace System

def database : System P → Database
  | stopped database _ => database
  | running actor => actor.database

def halted (actor : Actor P) : System P := stopped actor.database actor.host

def withWorld (world : World) (host : Host) : Host := { host with world := world }

def booting (config : StartConfig) (world : World) (database : Database)
    (host : Host) : Actor P :=
  Actor.assemble P database .empty config.mlsAnchor config.socks5Url 0
    (withWorld world host)

def start (config : StartConfig) (world : World) (database : Database)
    (host : Host) : System P :=
  match (do Actor.load; Actor.beginRun : Actor.Call P Unit)
      (booting config world database host) with
  | (.ok (), actor) => running actor
  | (_, actor) => halted actor

/-- Errors are answered or logged; only those of the retry timer stop the
engine. -/
def stopsOnError : Actor.Input → Bool
  | .retryDue _ => true
  | _ => false

def receive (input : Actor.Input) (world : World) (actor : Actor P) : System P :=
  match Actor.process input { actor with host := withWorld world actor.host } with
  | (.ok (), actor) => running actor
  | (.err _, actor) => if stopsOnError input then halted actor else running actor
  | (.crash, actor) => halted actor

def initial (P : Primitives) : System P :=
  stopped .empty (.initial (.calm 0))

end System

end Torchat
