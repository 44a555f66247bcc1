import Torchat.Storage.Relationships

namespace Torchat.Storage

open Foundation

/-- `revoked_at IS NULL AND (expires_at IS NULL OR expires_at >= now)`. -/
def EndpointCapability.live (nowSecs : Int) (row : EndpointCapability) : Bool :=
  !row.revoked && row.expiresAt.all fun expiresAt => decide (nowSecs ≤ expiresAt)

/-- A `u64` as a signed column holds it. -/
def signedColumn (value : Nat) : Int := (BitVec.ofNat 64 value).toInt

namespace Database

def putContactPeerEndpoint (endpoint : PeerEndpointBundle)
    (database : Database) : RuntimeResult Database :=
  if database.relationshipTombstones.contains endpoint.installationId then
    .ok database
  else
    match database.contactPeerEndpoints.lookup endpoint.installationId with
    | some current =>
      if signedColumn current.sequence < signedColumn endpoint.sequence then
        .ok { database with
          contactPeerEndpoints :=
            database.contactPeerEndpoints.insert endpoint.installationId
              endpoint }
      else
        .ok database
    | none => do
        requireRow (database.contacts.contains endpoint.installationId)
        return { database with
          contactPeerEndpoints :=
            database.contactPeerEndpoints.insert endpoint.installationId
              endpoint }

def putPendingPeerEndpointInbox (endpoint : PeerEndpointBundle)
    (database : Database) : RuntimeResult Database :=
  let newer :=
    (database.pendingPeerEndpointInbox.lookup endpoint.installationId).all
      fun current =>
        decide (signedColumn current.sequence < signedColumn endpoint.sequence)
  .ok <|
    if newer then
      { database with
        pendingPeerEndpointInbox :=
          database.pendingPeerEndpointInbox.insert endpoint.installationId
            endpoint }
    else
      database

def removePendingPeerEndpointInbox (installationId : InstallationId)
    (database : Database) : RuntimeResult Database :=
  .ok { database with
    pendingPeerEndpointInbox :=
      database.pendingPeerEndpointInbox.erase installationId }

def putLocalPeerEndpoint (endpoint : PeerEndpointBundle) (generation : Nat)
    (database : Database) : RuntimeResult Database :=
  .ok { database with localPeerEndpoint := some (endpoint, generation) }

def markPeerConnected (installationId : InstallationId) (connectedAt : Int)
    (database : Database) : RuntimeResult Database :=
  if database.contactPeerEndpoints.contains installationId then
    .ok { database with
      peerConnectedAt :=
        database.peerConnectedAt.insert installationId connectedAt }
  else
    .ok database

/-- `INSERT OR IGNORE … SELECT … FROM contacts`. -/
def enqueueEndpointUpdateForContacts (update : PeerEndpointUpdate)
    (database : Database) : RuntimeResult Database :=
  .ok { database with
    endpointUpdateOutbox := database.contacts.keys.foldl
      (fun updates contact =>
        updates.insertNew (contact, signedColumn update.endpoint.sequence) update)
      database.endpointUpdateOutbox }

def completeEndpointUpdates (contact : InstallationId) (throughSequence : Nat)
    (database : Database) : RuntimeResult Database :=
  .ok { database with
    endpointUpdateOutbox := database.endpointUpdateOutbox.retain fun key _ =>
      !(decide (key.1 = contact) &&
        decide (key.2 ≤ signedColumn throughSequence)) }

def deleteLocalPeerEndpoint (database : Database) : RuntimeResult Database :=
  .ok { database with localPeerEndpoint := none }

/-! ## Endpoint capabilities

`contact_endpoint_capabilities` holds what this device issued to a contact,
`peer_endpoint_capabilities` what it received from one. -/

def activeContactCapability (contact : InstallationId) (nowSecs : Int)
    (database : Database) : Option String :=
  match database.contactEndpointCapabilities.lookup contact with
  | some row => if row.live nowSecs then some row.capabilityId else none
  | none => none

def uniqueCapability (capabilities : Table InstallationId EndpointCapability)
    (contact : InstallationId) (capabilityId : String) : RuntimeResult Unit :=
  if capabilities.entries.any fun entry =>
      entry.1 ≠ contact && entry.2.capabilityId = capabilityId then
    .error (.storage "UNIQUE constraint failed: capability_id")
  else
    .ok ()

def putContactEndpointCapability
    (contact : InstallationId) (capabilityId : String) (secret : Bytes)
    (nowSecs : Int) (database : Database) : RuntimeResult Database := do
  requireRow (database.contacts.contains contact)
  uniqueCapability database.contactEndpointCapabilities contact capabilityId
  let previous := database.contactEndpointCapabilities.lookup contact
  return { database with
    contactEndpointCapabilities :=
      database.contactEndpointCapabilities.insert contact
        { capabilityId := capabilityId
          secret := secret
          sequence := previous.elim 1 fun row => row.sequence + 1
          issuedAt := nowSecs
          expiresAt := previous.bind EndpointCapability.expiresAt
          revoked := false } }

def revokeContactEndpointCapability
    (contact : InstallationId) (database : Database) : RuntimeResult Database :=
  .ok { database with
    contactEndpointCapabilities :=
      database.contactEndpointCapabilities.modify contact fun row =>
        { row with revoked := true } }

def putPeerEndpointCapability (contact : InstallationId) (capabilityId : String)
    (secret : Bytes) (sequence : Nat) (issuedAt : Int) (expiresAt : Option Int)
    (database : Database) : RuntimeResult Database :=
  let current := (database.peerEndpointCapabilities.lookup contact).all
    fun row => decide (signedColumn row.sequence ≤ signedColumn sequence)
  if current then do
    requireRow (database.contacts.contains contact)
    uniqueCapability database.peerEndpointCapabilities contact capabilityId
    return { database with
      peerEndpointCapabilities :=
        database.peerEndpointCapabilities.insert contact
          { capabilityId := capabilityId
            secret := secret
            sequence := sequence
            issuedAt := issuedAt
            expiresAt := expiresAt
            revoked := false } }
  else
    .ok database

def revokePeerEndpointCapability
    (contact : InstallationId) (database : Database) : RuntimeResult Database :=
  .ok { database with
    peerEndpointCapabilities :=
      database.peerEndpointCapabilities.modify contact fun row =>
        { row with revoked := true } }

def peerEndpointCapabilitySecret
    (contact : InstallationId) (capabilityId : String) (nowSecs : Int)
    (database : Database) : Option Bytes :=
  match database.peerEndpointCapabilities.lookup contact with
  | some row =>
    if row.capabilityId = capabilityId && row.live nowSecs then
      some row.secret
    else
      none
  | none => none

def consumeInvite (inviteId : String) (database : Database) :
    RuntimeResult (Bool × Database) :=
  if inviteId ∈ database.usedInvites then .ok (false, database)
  else
    .ok (true, { database with usedInvites := inviteId :: database.usedInvites })

def putPendingLocalInviteMls (inviteId : String) (invite : PendingLocalInvite)
    (database : Database) : RuntimeResult Database :=
  .ok { database with
    pendingLocalInvites := database.pendingLocalInvites.insert inviteId invite }

def pendingLocalInviteMls (inviteId : String) (nowSecs : Int)
    (database : Database) : Option PendingLocalInvite :=
  match database.pendingLocalInvites.lookup inviteId with
  | some invite => if nowSecs ≤ invite.expiresAt then some invite else none
  | none => none

def removePendingLocalInviteMls
    (inviteId : String) (database : Database) : RuntimeResult Database :=
  .ok { database with
    pendingLocalInvites := database.pendingLocalInvites.erase inviteId }

def deleteExpiredPendingLocalInviteMls
    (nowSecs : Int) (database : Database) : RuntimeResult Database :=
  .ok { database with
    pendingLocalInvites := database.pendingLocalInvites.retain fun _ invite =>
      decide (nowSecs ≤ invite.expiresAt) }

def onWelcomes (f : Table String PendingWelcome → Table String PendingWelcome)
    (database : Database) : RuntimeResult Database :=
  .ok { database with pendingWelcomes := f database.pendingWelcomes }

def putPendingWelcome (inviteId : String) (welcome : PendingWelcome) :
    Database → RuntimeResult Database :=
  onWelcomes (·.insert inviteId welcome)

def removePendingWelcome (inviteId : String) :
    Database → RuntimeResult Database :=
  onWelcomes (·.erase inviteId)

def deleteExpiredPendingWelcomes (nowSecs : Int) :
    Database → RuntimeResult Database :=
  onWelcomes (·.retain fun _ welcome => decide (nowSecs ≤ welcome.expiresAt))

def duePendingWelcomes (nowMs nowSecs : Int) (database : Database) :
    List (String × PendingWelcome) :=
  (database.pendingWelcomes.retain fun _ welcome =>
    decide (welcome.nextAttemptAt ≤ nowMs) &&
      decide (nowSecs ≤ welcome.expiresAt) && !welcome.deadLettered).entries

def claimPendingWelcomeAttempt (inviteId : String) (nextAttemptAt : Int)
    (lastError : Option String) (nowMs nowSecs : Int) (database : Database) :
    RuntimeResult (Bool × Database) :=
  if (database.pendingWelcomes.lookup inviteId).any fun welcome =>
      decide (welcome.nextAttemptAt ≤ nowMs) &&
        decide (nowSecs ≤ welcome.expiresAt) then
    .ok (true, { database with
      pendingWelcomes := database.pendingWelcomes.modify inviteId
        fun welcome =>
          { welcome with
            attemptCount := welcome.attemptCount + 1
            nextAttemptAt := nextAttemptAt
            lastError := lastError } })
  else
    .ok (false, database)

def recordPendingWelcomeError (inviteId error : String) :
    Database → RuntimeResult Database :=
  onWelcomes (·.modify inviteId fun welcome =>
    { welcome with
      lastError := some error
      -- `LIKE` passes over the case of ASCII letters
      deadLettered := welcome.deadLettered ||
        "permanent:".toList.isPrefixOf (error.toList.map Char.toLower) ||
        "protocol:".toList.isPrefixOf (error.toList.map Char.toLower) })

def retryDeadWelcome (inviteId : String) (database : Database) :
    RuntimeResult Database :=
  if (database.pendingWelcomes.lookup inviteId).any
      PendingWelcome.deadLettered then
    database.onWelcomes (·.modify inviteId fun welcome =>
      { welcome with deadLettered := false, nextAttemptAt := 0 })
  else
    .error (.invalidCommand
      "dead-letter record was not found or is not terminal")

/-- `expires_at >= ? AND response_delivered = 0 AND state IN ('ACCEPTED',
'REJECTED')`. -/
def responseDue (nowSecs : Int) (row : PairingRow InboxDetails) : Bool :=
  decide (nowSecs ≤ row.details.expiresAt) && !row.details.responseDelivered &&
    (row.state = .accepted || row.state = .rejected)

def pairingResponseRetryRecord (pairingId : String) (nowSecs : Int)
    (database : Database) : Option (PairingRow InboxDetails) :=
  (database.pairing.inbox.lookup pairingId).filter (responseDue nowSecs)

def onInboxDetails (pairingId : String) (f : InboxDetails → InboxDetails)
    (database : Database) : RuntimeResult Database := do
  let inbox ← PairingTable.write <| database.pairing.inbox.rows.modify pairingId
    fun row => { row with details := f row.details }
  return { database with pairing := { database.pairing with inbox := inbox } }

def claimPairingResponseAttempt (pairingId : String) (nextAttemptAt : Int)
    (lastError : Option String) (nowSecs nowMs : Int) (database : Database) :
    RuntimeResult (Bool × Database) :=
  if (database.pairing.inbox.lookup pairingId).any fun row =>
      responseDue nowSecs row && decide (row.details.nextAttemptAt ≤ nowMs) then
    (database.onInboxDetails pairingId fun details =>
      { details with
        attemptCount := details.attemptCount + 1
        nextAttemptAt := nextAttemptAt
        lastError := lastError }).map (true, ·)
  else
    .ok (false, database)

def recordPairingResponseError (pairingId error : String) :
    Database → RuntimeResult Database :=
  onInboxDetails pairingId fun details => { details with lastError := some error }

def putOperation (operation : DurableOperation) (database : Database) :
    RuntimeResult Database :=
  .ok { database with
    durableOperations :=
      database.durableOperations.insert operation.operationId operation }

def pendingOperations (database : Database) : List DurableOperation :=
  (database.durableOperations.retain fun _ operation =>
    !operation.state.isTerminal).values

def putConversationRevision (revision : Nat) (database : Database)
    (conversationId : InstallationId) : RuntimeResult Database := do
  requireRow (database.conversations.contains conversationId)
  return { database with
    conversationRevisions :=
      database.conversationRevisions.insert conversationId revision }

/-- `bump_projection_revision`: one statement for the head, one for each
conversation. -/
def bumpProjectionRevision (conversationIds : List InstallationId)
    (database : Database) : RuntimeResult Database :=
  conversationIds.foldlM
    (putConversationRevision (database.globalRevision + 1))
    { database with globalRevision := database.globalRevision + 1 }

variable {conversationIds : List InstallationId} {database : Database}

theorem foldlM_putConversationRevision
    (done : conversationIds.foldlM (putConversationRevision revision) database =
      .ok after) :
    ∃ revisions,
      after = { database with conversationRevisions := revisions } := by
  induction conversationIds generalizing database with
  | nil =>
    cases done
    exact ⟨_, rfl⟩
  | cons contact rest induction =>
    rw [List.foldlM_cons] at done
    cases present : requireRow
        (database.conversations.contains contact) with
    | error error =>
      simp [putConversationRevision, present, bind, Except.bind] at done
    | ok =>
      simp only [putConversationRevision, present, bind, Except.bind,
        pure, Except.pure] at done
      obtain ⟨revisions, rfl⟩ := induction done
      exact ⟨revisions, rfl⟩

theorem bumpProjectionRevision_eq
    (bumped : database.bumpProjectionRevision conversationIds = .ok after) :
    ∃ revisions, after = { database with
      globalRevision := database.globalRevision + 1
      conversationRevisions := revisions } :=
  foldlM_putConversationRevision bumped

theorem foldlM_putConversationRevision_ok
    (present : ∀ contact ∈ conversationIds,
      database.conversations.contains contact = true) :
    ∃ after, conversationIds.foldlM (putConversationRevision revision) database =
      .ok after := by
  induction conversationIds generalizing database with
  | nil => exact ⟨database, rfl⟩
  | cons contact rest induction =>
    have written : database.putConversationRevision revision contact =
        .ok { database with
          conversationRevisions :=
            database.conversationRevisions.insert contact revision } := by
      simp [putConversationRevision, requireRow, present contact
        (.head _), bind, Except.bind, pure, Except.pure]
    rw [List.foldlM_cons, written]
    exact induction fun later member => present later (.tail _ member)

def saveProcessedCommand (commandId : String) (command : ProcessedCommand)
    (database : Database) : RuntimeResult Database :=
  .ok { database with
    processedCommands :=
      database.processedCommands.insertNew commandId command }

end Database

end Torchat.Storage
