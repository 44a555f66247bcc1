import Torchat.Engine.Pairing

namespace Torchat

open Foundation Storage

inductive RelayEvent
  | pairingAvailable (pairingId : Uuid)
  | pairingFinalized (pairingId : Uuid)
  | envelope (envelope : RelayEnvelope)
  deriving DecidableEq

structure RelayClient where
  ownerTokens : Table Uuid String
  rendezvousPrivateKeys : Table String Bytes
  pairingPrivateKeys : Table Uuid Bytes
  pairingPeerKeys : Table Uuid Key32
  invitePairings : Table String Uuid

namespace RelayClient

def empty : RelayClient := ⟨.empty, .empty, .empty, .empty, .empty⟩

def envelopeForPayload
    (P : Primitives) (pairingId : Uuid) (ciphertext : Bytes) : RelayEnvelope where
  messageId := pairingId
  sender := match P.decodeRelay ciphertext with
    | .ok (.welcome payload) => payload.sender.installationId
    | .ok (.welcomeApplied sender _) => sender
    | _ => ""
  ciphertext := ciphertext

def rememberInvitePairing (P : Primitives) (pairingId : Uuid) (payload : Bytes)
    (client : RelayClient) : RelayClient :=
  match P.decodeRelay payload with
  | .ok (.pairingOffer _ invite) =>
    match P.parseInvite invite with
    | .ok invite =>
      { client with
        invitePairings :=
          client.invitePairings.insert invite.inviteId pairingId }
    | .error _ => client
  | _ => client

/-- What a rendezvous box holds, where that is UTF-8. -/
def openText (openBox : Bytes → Key32 → Bytes → Option Bytes)
    (privateKey : Bytes) (publicKey : Key32) (sealed : Bytes) : Option Bytes :=
  (openBox privateKey publicKey sealed).filter fun bytes =>
    (String.fromUTF8? ⟨bytes.toArray⟩).isSome

/-- `poll_event` on one received frame; `openBox` is the opening of a rendezvous
box. Frames of any other kind are dropped. -/
def pollEvent (P : Primitives) (openBox : Bytes → Key32 → Bytes → Option Bytes)
    (frame : RendezvousServerFrame) (client : RelayClient) :
    Option RelayEvent × RelayClient :=
  match frame with
  | .pairingRequested pairingId slotHandle ownerSideToken publicKey offer _ =>
    let client :=
      { client with
        ownerTokens := client.ownerTokens.insert pairingId ownerSideToken
        pairingPeerKeys := client.pairingPeerKeys.insert pairingId publicKey }
    match client.rendezvousPrivateKeys.lookup slotHandle with
    | none => (none, client)
    | some privateKey =>
      let client :=
        { client with
          pairingPrivateKeys :=
            client.pairingPrivateKeys.insert pairingId privateKey }
      match openText openBox privateKey publicKey offer with
      | none => (none, client)
      | some offer =>
        (some (.envelope (envelopeForPayload P pairingId offer)),
          client.rememberInvitePairing P pairingId offer)
  | .pairingAccepted pairingId response =>
    match client.pairingPrivateKeys.lookup pairingId,
        client.pairingPeerKeys.lookup pairingId with
    | some privateKey, some publicKey =>
      ((openText openBox privateKey publicKey response).map fun response =>
        .envelope (envelopeForPayload P pairingId response), client)
    | _, _ => (none, client)
  | .pairingRejected pairingId => (some (.pairingAvailable pairingId), client)
  | .pairingFinalized pairingId => (some (.pairingFinalized pairingId), client)
  | _ => (none, client)

end RelayClient

namespace Actor

def ownPairKey (P : Primitives) (peer : InstallationId) : String :=
  pairingPairKey P.pairDigest P.installationId peer

def bindPairingOutboxPairKey (inviteId pairKey : String) : Call P Unit := do
  onHost (Host.consult .statement (.storage "statement failed"))
  onDatabase ((Storage.bindPairingOutboxPairKey inviteId pairKey).zoom
    Database.pairing fun pairing database => { database with pairing := pairing })

def queueWelcomeApplied
    (recipient : InstallationId) (inviteId : String) : Call P Unit := do
  let _ ← runtimeProfile
  let _ ← check (P.encodeWelcomeApplied recipient inviteId) .invalidCommand
  let _ ← freshUuid
  queueRelayEnvelope

def offeredItem (P : Primitives) (pairingId payload : String)
    (invite : ContactInvite) : PairingItem where
  pairingId := pairingId
  pairKey := some (ownPairKey P invite.card.installationId)
  sender := some (contactRecordFromCard invite.card false)
  capability := some pairingId
  expiresAt := invite.expiresAt
  state := .pending
  received := true
  availableActions := []
  offerInviteId := some invite.inviteId
  offerPayload := some payload

def applyPairingPeerOutcome
    (pairingId : String) (outcome : PairingPeerOutcome) : Call P Unit :=
  transact (Runtime.applyPairingPeerOutcome pairingId outcome)

def validateWelcomeEndpoint (payload : WelcomePayload) : Call P Unit := do
  match payload.peerEndpoint with
  | none => return
  | some endpoint =>
    check (P.validateEndpoint endpoint (← nowSecs)) .invalidCommand
    if endpoint.installationId ≠ payload.sender.installationId ∨
        endpoint.identityPublicKey ≠ payload.sender.publicKey then
      Program.fail (.invalidCommand
        "Welcome peer endpoint does not match sender identity")

def storeWelcomeCapabilities
    (payload : WelcomePayload) (invite : PendingLocalInvite) : Call P Unit := do
  match payload.peerCapability with
  | none => return
  | some (capabilityId, secret) =>
    let contact := payload.sender.installationId
    let secret ← required secret
      (.invalidCommand "invalid Welcome capability secret")
    let now ← nowSecs
    write (Database.putPeerEndpointCapability contact capabilityId secret
      (payload.peerEndpoint.elim 1 PeerEndpointBundle.sequence) now
      (payload.peerEndpoint.bind PeerEndpointBundle.expiresAt))
    write (Database.putContactEndpointCapability contact
      invite.localCapabilityId invite.localCapabilitySecret now)

/-- A Welcome for an invite of this device that is still pending. The state of
the pairing the invite was made for is not looked at. -/
def joinGroup (payload : WelcomePayload) (invite : PendingLocalInvite) :
    Call P Unit := do
  let contact := payload.sender.installationId
  if invite.recipientInstallationId.any (· ≠ contact) then
    Program.fail
      (.invalidCommand "Welcome sender does not match invite recipient")
  let member ← check (P.memberRestore invite.snapshot) fun error =>
    .storage ("restore invite MLS state: " ++ error)
  match P.acceptConversation member payload.welcome payload.tree with
  | .error error =>
    if mentions error "No matching key package" then return
    Program.fail (.invalidCommand error)
  | .ok conversation =>
    commitContactWithConversation payload.sender conversation payload.inviteId
      none true
    storeWelcomeCapabilities payload invite
    transact (Runtime.reconcileOutboxPairingContact contact)
    match payload.peerEndpoint with
    | none => Program.pure ()
    | some endpoint => applyPeerEndpoint endpoint
    ignoring (queueWelcomeApplied contact payload.inviteId)

def acceptWelcome (payload : WelcomePayload) : Call P Unit := do
  validateWelcomeEndpoint payload
  bindPairingOutboxPairKey payload.inviteId
    (ownPairKey P payload.sender.installationId)
  if ← query fun database => decide (payload.inviteId ∈ database.usedInvites) then
    ignoring (queueWelcomeApplied payload.sender.installationId payload.inviteId)
  else
    let now ← nowSecs
    let invite ← required
      (← query (Database.pendingLocalInviteMls payload.inviteId now))
      (.invalidCommand
        "local MLS state for contact invite is missing or expired")
    joinGroup payload invite

def welcomeApplied (sender : InstallationId) (inviteId : String) :
    Call P Unit := do
  match ← query (·.pendingWelcomes.lookup inviteId) with
  | none => return
  | some pending =>
    if pending.recipientInstallationId ≠ sender then
      Program.fail (.invalidCommand
        "WelcomeApplied does not match pending Welcome recipient")
    write (Database.removePendingWelcome inviteId)
    Program.modify fun actor =>
      { actor with pendingWelcomes := actor.pendingWelcomes.erase inviteId }

def bootstrapEndpoint (endpoint : PeerEndpointBundle) : Call P Unit := do
  match ← query (·.contact endpoint.installationId) with
  | none => write (Database.putPendingPeerEndpointInbox endpoint)
  | some contact =>
    if trim contact.publicKey ≠ "" ∧
        contact.publicKey ≠ endpoint.identityPublicKey then
      Program.fail (.invalidCommand
        "peer endpoint bootstrap identity does not match contact")
    applyPeerEndpoint endpoint

def handleRelayPayload (sender : InstallationId) : RelayPayload → Call P Unit
  | .pairingOffer pairingId payload => do
      let invite ← check (P.parseInvite payload) .invalidCommand
      transact (Runtime.receivePairingOffer
        (offeredItem P pairingId payload invite))
  | .pairingRejected pairingId =>
    match P.parseUuid pairingId with
    | .ok pairingId =>
      applyPairingPeerOutcome pairingId.text .rejectionReceived
    | .error _ => Program.pure ()
  | .welcome payload => do
      check (P.verifyRelay (.welcome payload) sender) .invalidCommand
      acceptWelcome payload
  | .welcomeApplied signer inviteId => do
      check (P.verifyRelay (.welcomeApplied signer inviteId) sender)
        .invalidCommand
      welcomeApplied sender inviteId
  | .relationshipRemovalApplied removalId => do
      check (P.verifyRelay (.relationshipRemovalApplied removalId) sender)
        .invalidCommand
      write (Database.completeRelationshipRemovalAck removalId)
  | .peerEndpointBootstrap endpoint => do
      check (P.verifyRelay (.peerEndpointBootstrap endpoint) sender)
        .invalidCommand
      bootstrapEndpoint endpoint

def handleRelayEnvelope (envelope : RelayEnvelope) : Call P Unit := do
  match P.decodeRelay envelope.ciphertext with
  | .ok payload => handleRelayPayload envelope.sender payload
  | .error relayError =>
    let ciphertext ← check (P.decodeWire envelope.ciphertext) fun peerError =>
      .invalidCommand ("invalid relay envelope payload: " ++ relayError ++
        "; peer payload: " ++ peerError)
    handleApplicationEnvelope envelope.sender envelope.messageId ciphertext

def handleRelayEvent : RelayEvent → Call P Unit
  | .pairingAvailable pairingId =>
    applyPairingPeerOutcome pairingId.text .rejectionReceived
  | .pairingFinalized pairingId =>
    transact (Runtime.finalizePairing pairingId.text)
  | .envelope envelope => handleRelayEnvelope envelope

end Actor

end Torchat
