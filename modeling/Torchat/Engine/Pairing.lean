import Torchat.Engine.Inbound

namespace Torchat

open Foundation Storage

def contactRecordFromCard (card : ContactCard) (verified : Bool) :
    ContactRecord where
  installationId := card.installationId
  nickname := normalizedContactNickname card.installationId card.nickname
  publicKey := card.publicKey
  fingerprint := card.fingerprint
  verification := if verified then .verified else .unverified

structure PairingCommit where
  card : ContactCard
  snapshot : Bytes
  lineage : Nat
  inviteId : String
  pendingWelcome : Option PendingWelcome
  removesLocalInvite : Bool
  boundaryAt : Int

namespace Runtime

def commitContact (commit : PairingCommit) : Call Unit := do
  if !(← writeReturning (Database.consumeInvite commit.inviteId)) then
    Program.fail (.conflict "contact invite was already consumed")
  let conversation ←
    welcomeAccepted (contactRecordFromCard commit.card true) true none
  write (Database.beginVerifiedRelationship commit.card.installationId
    commit.boundaryAt)
  write (Database.putConversationMlsSnapshot conversation.id commit.snapshot)
  match commit.pendingWelcome with
  | none => Program.pure ()
  | some welcome => write (Database.putPendingWelcome commit.inviteId welcome)
  if commit.removesLocalInvite then
    write (Database.removePendingLocalInviteMls commit.inviteId)
  onDatabase (Program.modify (Database.recordGroup commit.card.installationId
    commit.lineage))

end Runtime

namespace Actor

variable {P : Primitives}

def peerEndpointRequiresUpdate (previous : Option PeerEndpointBundle)
    (endpoint : PeerEndpointBundle) (nowSecs : Int) : Except String Bool := do
  match previous with
  | some previous =>
    if endpoint.sequence ≤ previous.sequence then return false
    P.validateSuccessor endpoint previous nowSecs
    return true
  | none =>
    P.validateEndpoint endpoint nowSecs
    return true

def authorizeContact (contact : InstallationId) : Call P Unit := do
  let running ← Program.read Actor.peerTransport
  match running, ← Program.read Actor.localPeerEndpoint with
  | true, some endpoint =>
    let _ ← localCapabilityCredentials contact
    let _ ← localEndpointForContact contact endpoint
  | _, _ => return

def applyPeerEndpoint (endpoint : PeerEndpointBundle) : Call P Unit := do
  let contact := endpoint.installationId
  let previous ← query (·.contactPeerEndpoints.lookup contact)
  let now ← nowSecs
  if ← check (peerEndpointRequiresUpdate (P := P) previous endpoint now)
      .invalidCommand then
    write (Database.putContactPeerEndpoint endpoint)
    let _ ← ensureContactEndpointCapability contact
    authorizeContact contact
    ignoring (queuePeerControl contact)

def applyPendingPeerEndpoint (contact : InstallationId) : Call P Unit := do
  match ← query (·.pendingPeerEndpointInbox.lookup contact) with
  | none => return
  | some endpoint =>
    applyPeerEndpoint endpoint
    write (Database.removePendingPeerEndpointInbox contact)

def refreshPeerAuthorizations : Call P Unit := do
  let running ← Program.read Actor.peerTransport
  match running, ← Program.read Actor.localPeerEndpoint with
  | true, some _ =>
    Program.forEach (← query fun database => database.contacts.keys)
      fun contact => do
        match ← query (·.contactPeerEndpoints.lookup contact) with
        | none => return
        | some _ =>
          let _ ← ensureContactEndpointCapability contact
          authorizeContact contact
  | _, _ => return

def runtimeProfile : Call P RuntimeProfile := do
  required (← query Database.profile) (.storage "runtime profile is missing")

def freshMlsMember : Call P P.Member := do
  let seed ← onHost Host.freshSeed
  check (P.createMember seed) fun error =>
    .storage ("create MLS inbox state: " ++ error)

/-- The invite for a pairing. Its id is recorded with the pairing as a ghost. -/
def buildContactInvite
    (pairingId : Uuid) (recipient : Option InstallationId) : Call P String := do
  let _ ← runtimeProfile
  let inviteId := (← freshUuid).text
  let expiresAt := (← nowSecs) + 15 * 60
  let member ← freshMlsMember
  let keyPackage ← check (P.keyPackage member) fun error =>
    .storage ("create MLS key package: " ++ error)
  let snapshot ← check (P.memberSnapshot member) fun error =>
    .storage ("snapshot invite MLS state: " ++ error)
  let endpoint ← required (← Program.read Actor.localPeerEndpoint)
    (.transport ("peer endpoint is not ready; wait for onion service before " ++
      "creating a pairing code"))
  let capabilityId := capabilityIdOf (← freshUuid)
  let secret := P.uuidBytes (← freshUuid)
  let encoded ← check (P.encodeInvite inviteId recipient keyPackage expiresAt
    (endpointWithCapability endpoint capabilityId)) .serialization
  let now ← nowSecs
  write (Database.deleteExpiredPendingLocalInviteMls now)
  write fun database =>
    (database.putPendingLocalInviteMls inviteId
      ⟨recipient, snapshot, capabilityId, secret, expiresAt⟩).map
      (Database.recordOffer pairingId.text inviteId)
  return encoded

def rememberWelcome (inviteId : String) (welcome : PendingWelcome) :
    Call P Unit :=
  Program.modify fun actor =>
    { actor with
      pendingWelcomes := actor.pendingWelcomes.insert inviteId welcome }

def sendWelcome (inviteId : String) (note : EngineError → String) :
    Call P Unit := do
  match ← (queueRelayEnvelope (P := P)).attempt with
  | .ok () => return
  | .error error =>
    write (Database.recordPendingWelcomeError inviteId (note error))

def retryPendingWelcomes : Call P Unit := do
  let now ← nowMs
  let nowSecs := now.tdiv 1000
  write (Database.deleteExpiredPendingWelcomes nowSecs)
  Program.modify fun actor =>
    { actor with
      pendingWelcomes := actor.pendingWelcomes.retain fun _ welcome =>
        decide (nowSecs ≤ welcome.expiresAt) }
  Program.forEach (← query (Database.duePendingWelcomes now nowSecs))
    fun (inviteId, welcome) => do
      let nextAttemptAt := now + (← pairingRetryBackoffMs welcome.attemptCount)
      let claimedAt ← nowMs
      if ← writeReturning (Database.claimPendingWelcomeAttempt inviteId
          nextAttemptAt none claimedAt nowSecs) then
        let _ ← check (P.parseUuid inviteId) .invalidCommand
        sendWelcome inviteId codedError

def commitContactWithConversation (card : ContactCard) (conversation : P.Group)
    (inviteId : String) (pendingWelcome : Option PendingWelcome)
    (removesLocalInvite : Bool) : Call P Unit := do
  let snapshot ← check (P.snapshot conversation) .storage
  let boundaryAt ← nowMs
  transact (Runtime.commitContact
    { card := card
      snapshot := snapshot
      lineage := P.lineage conversation
      inviteId := inviteId
      pendingWelcome := pendingWelcome
      removesLocalInvite := removesLocalInvite
      boundaryAt := boundaryAt })
  keepConversation card.installationId conversation
  Program.modify fun actor =>
    { actor with
      cryptoBlockedPeers := actor.cryptoBlockedPeers.erase card.installationId }
  applyPendingPeerEndpoint card.installationId
  drainPendingPreWelcome card.installationId

def resendWelcome (inviteId : String) : Call P Unit := do
  let remembered ← Program.read fun actor => actor.pendingWelcomes.lookup inviteId
  let stored ← (query (P := P) (·.pendingWelcomes.lookup inviteId)).attempt
  match remembered.or (stored.toOption.join) with
  | none => return
  | some welcome =>
    rememberWelcome inviteId welcome
    sendWelcome inviteId codedError

def prepareWelcome (invite : ContactInvite) :
    Call P (P.Group × PendingWelcome) := do
  let contact := invite.card.installationId
  let member ← freshMlsMember
  let conversation ← check (P.createConversation member) .invalidCommand
  let keyPackage ← required invite.keyPackage
    (.invalidCommand "invalid contact invite key package")
  let (welcome, conversation) ←
    check (P.invite conversation keyPackage) .invalidCommand
  let _ ← runtimeProfile
  let _ ← ensureContactEndpointCapability contact
  let (capabilityId, _) ← localCapabilityCredentials contact
  let endpoint := (← Program.read Actor.localPeerEndpoint).map
    (endpointWithCapability · capabilityId)
  let payload ← check
    (P.encodeWelcome contact invite.inviteId welcome endpoint) .invalidCommand
  return (conversation,
    { recipientInstallationId := contact
      payload := payload
      expiresAt := invite.expiresAt })

def acceptPeerEndpoint (invite : ContactInvite) : Call P Unit := do
  match invite.peerEndpoint with
  | none => return
  | some endpoint =>
    match invite.peerCapability with
    | none => Program.pure ()
    | some (capabilityId, secret) => do
        let secret ← required secret
          (.invalidCommand "invalid invite capability secret")
        let now ← nowSecs
        write (Database.putPeerEndpointCapability invite.card.installationId
          capabilityId secret endpoint.sequence now endpoint.expiresAt)
    applyPeerEndpoint endpoint

def acceptInvite (payload : String) : Call P Unit := do
  let invite ← check (P.parseInvite (trim payload)) .invalidCommand
  let contact := invite.card.installationId
  if contact = P.installationId then
    Program.fail (.invalidCommand "cannot accept self invite")
  let _ ← check (P.parseUuid invite.inviteId) .invalidCommand
  if ← query fun database => decide (invite.inviteId ∈ database.usedInvites) then
    resendWelcome invite.inviteId
  else
    let known ← query (·.contact contact)
    if known.any fun row => !row.blocked then
      Program.fail (.invalidCommand
        "contact already exists; remove it before pairing again")
    let (conversation, welcome) ← prepareWelcome invite
    commitContactWithConversation invite.card conversation invite.inviteId
      (some welcome) false
    acceptPeerEndpoint invite
    rememberWelcome invite.inviteId welcome
    sendWelcome invite.inviteId EngineError.message

end Actor

end Torchat
