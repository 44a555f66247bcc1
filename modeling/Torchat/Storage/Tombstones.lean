import Torchat.Storage.Calls

namespace Torchat.Storage

open Foundation

namespace Database

/-- The rows a session with a contact leaves: the MLS snapshots, and the
endpoints with the time of the last connection. -/
def sessionRows (database : Database) :
    Table InstallationId MlsRow × Table InstallationId PeerEndpointBundle ×
      Table InstallationId Int :=
  (database.conversationMls, database.contactPeerEndpoints,
    database.peerConnectedAt)

def standing (database : Database) :
    Table InstallationId Tombstone × Table InstallationId Boundary ×
      Table InstallationId MlsRow × Table InstallationId PeerEndpointBundle ×
      Table InstallationId Int :=
  (database.relationshipTombstones, database.relationshipBoundaries,
    database.sessionRows)

end Database

namespace Call

open Database

def concernsStanding : Call → Bool
  | upsertSnapshot .. | putConversationMlsSnapshot ..
  | persistOutboundEncryption .. | persistOutboundEncryptionAndClaim ..
  | persistReceiptEncryption .. | removeRelationshipWithId ..
  | applyRemoteRelationshipRemoval .. | beginVerifiedRelationship ..
  | putContactPeerEndpoint .. | markPeerConnected .. => true
  | _ => false

def concernsIssued : Call → Bool
  | putContactEndpointCapability .. | revokeContactEndpointCapability .. => true
  | _ => false

theorem perform_elsewhere (call : Call) (database : Database)
    (elsewhere : call.concernsStanding = false)
    (unissued : call.concernsIssued = false) :
    (call.perform database).standing = database.standing ∧
      (call.perform database).contactEndpointCapabilities =
        database.contactEndpointCapabilities := by
  let view (database : Database) :=
    (database.standing, database.contactEndpointCapabilities)
  suffices same : view (call.perform database) = view database from
    Prod.mk.inj same
  cases call
  case putConversation =>
    refine settle_view view fun after done => ?_
    obtain ⟨_, rfl⟩ := putConversation_eq done
    rfl
  case putMessage =>
    refine settle_view view fun after done => ?_
    obtain ⟨_, rfl⟩ := putMessage_eq done
    rfl
  case claimOutgoingAttempt =>
    refine settleReturning_view view fun _ after done => ?_
    obtain ⟨_, rfl⟩ := claimOutgoingAttempt_eq done
    rfl
  case enqueueOutboundDelivery =>
    refine settle_view view fun after done => ?_
    obtain ⟨_, rfl⟩ := enqueueOutboundDelivery_eq done
    rfl
  case claimOutboundDelivery =>
    refine settleReturning_view view fun _ after done => ?_
    obtain ⟨_, rfl⟩ := claimOutboundDelivery_eq done
    rfl
  case requeueOutboundDelivery =>
    refine settle_view view fun after done => ?_
    obtain ⟨_, rfl⟩ := requeueOutboundDelivery_eq done
    rfl
  case putReceivedEnvelope =>
    refine settle_view view fun after done => ?_
    obtain ⟨_, rfl⟩ := putReceivedEnvelope_eq done
    rfl
  case claimReceiptAttempt =>
    refine settleReturning_view view fun _ after done => ?_
    obtain rfl | ⟨_, rfl⟩ := claimReceiptAttempt_eq done <;> rfl
  case enqueueReadReceipt =>
    refine settle_view view fun after done => ?_
    obtain ⟨_, rfl⟩ := enqueueReadReceipt_eq done
    rfl
  case persistReadReceiptRow =>
    refine settleReturning_view view fun _ after done => ?_
    obtain rfl | ⟨_, rfl⟩ := persistReadReceiptRow_eq done <;> rfl
  case storeInboundPeerEnvelope =>
    refine settleReturning_view view fun _ after done => ?_
    obtain ⟨_, rfl⟩ := storeInboundPeerEnvelope_eq done
    rfl
  case putPendingPeerEndpointInbox =>
    refine settle_view view fun after done => ?_
    obtain ⟨_, rfl⟩ := putPendingPeerEndpointInbox_eq done
    rfl
  case putPeerEndpointCapability =>
    refine settle_view view fun after done => ?_
    obtain ⟨_, rfl⟩ := putPeerEndpointCapability_eq done
    rfl
  case consumeInvite =>
    refine settleReturning_view view fun _ after done => ?_
    obtain ⟨_, rfl⟩ := consumeInvite_eq done
    rfl
  case claimPendingWelcomeAttempt =>
    refine settleReturning_view view fun _ after done => ?_
    obtain ⟨_, rfl⟩ := claimPendingWelcomeAttempt_eq done
    rfl
  case retryDeadWelcome =>
    refine settle_view view fun after done => ?_
    obtain ⟨_, rfl⟩ := retryDeadWelcome_eq done
    rfl
  case claimPairingResponseAttempt =>
    refine settleReturning_view view fun _ after done => ?_
    obtain ⟨_, rfl⟩ := claimPairingResponseAttempt_eq done
    rfl
  case recordPairingResponseError =>
    refine settle_view view fun after done => ?_
    obtain ⟨_, rfl⟩ := onInboxDetails_eq done
    rfl
  case bumpProjectionRevision =>
    refine settle_view view fun after done => ?_
    obtain ⟨_, rfl⟩ := bumpProjectionRevision_eq done
    rfl
  -- What is left either cannot fail or is one of the calls set apart.
  all_goals first | (cases elsewhere; done) | (cases unissued; done) | rfl

theorem perform_standing (call : Call) (database : Database)
    (elsewhere : call.concernsStanding = false) :
    (call.perform database).standing = database.standing := by
  cases unissued : call.concernsIssued with
  | false => exact (perform_elsewhere call database elsewhere unissued).1
  | true =>
    cases call
    case putContactEndpointCapability =>
      refine settle_view standing fun after done => ?_
      obtain ⟨_, rfl⟩ := putContactEndpointCapability_eq done
      rfl
    case revokeContactEndpointCapability => rfl
    all_goals cases unissued

end Call

/-! ## A tombstone suppresses writes -/

namespace Database

def endpointRow (database : Database) (contact : InstallationId) :
    Option (PeerEndpointBundle × Option Int) :=
  (database.contactPeerEndpoints.lookup contact).map
    (·, database.peerConnectedAt.lookup contact)

/-- No snapshot and no endpoint of the contact appears or changes. -/
structure Suppressed
    (contact : InstallationId) (before after : Database) : Prop where
  snapshot : ∀ row, after.conversationMls.lookup contact = some row →
    before.conversationMls.lookup contact = some row
  endpoint : ∀ row, after.endpointRow contact = some row →
    before.endpointRow contact = some row

variable {contact : InstallationId} {before : Database}

theorem Suppressed.of_same
    (snapshot : after.conversationMls.lookup contact =
      before.conversationMls.lookup contact)
    (endpoint : after.endpointRow contact = before.endpointRow contact) :
    Suppressed contact before after :=
  ⟨fun _ found => snapshot ▸ found, fun _ found => endpoint ▸ found⟩

theorem Suppressed.congr (same : after.sessionRows = stored.sessionRows) :
    Suppressed contact before after ↔ Suppressed contact before stored := by
  simp only [sessionRows, Prod.mk.injEq] at same
  obtain ⟨snapshots, endpoints, connected⟩ := same
  have rows : after.endpointRow contact = stored.endpointRow contact := by
    rw [endpointRow, endpointRow, endpoints, connected]
  constructor
  · rintro ⟨snapshot, endpoint⟩
    rw [snapshots] at snapshot
    rw [rows] at endpoint
    exact ⟨snapshot, endpoint⟩
  · rintro ⟨snapshot, endpoint⟩
    rw [← snapshots] at snapshot
    rw [← rows] at endpoint
    exact ⟨snapshot, endpoint⟩

theorem Suppressed.of_rows (same : after.sessionRows = before.sessionRows) :
    Suppressed contact before after :=
  (congr same).mpr (.of_same rfl rfl)

theorem upsertSnapshot_suppressed_iff :
    Suppressed contact before
        (before.settle (before.upsertSnapshot conversationId snapshot)) ↔
      ¬(conversationId = contact ∧
        before.conversations.contains contact = true) := by
  cases present : before.conversations.contains conversationId with
  | false =>
    have absent : before.settle
        (before.upsertSnapshot conversationId snapshot) = before := by
      simp [upsertSnapshot, requireRow, present, bind, Except.bind, settle]
    rw [absent]
    refine iff_of_true (.of_same rfl rfl) ?_
    rintro ⟨rfl, found⟩
    rw [present] at found
    cases found
  | true =>
    obtain ⟨row, stored, renewed⟩ : ∃ row,
        before.settle (before.upsertSnapshot conversationId snapshot) =
          { before with
            conversationMls :=
              before.conversationMls.insert conversationId row } ∧
        before.conversationMls.lookup conversationId ≠ some row := by
      simp only [upsertSnapshot, requireRow, present, if_true, bind,
        Except.bind, pure, Except.pure, settle]
      refine ⟨_, rfl, fun same => ?_⟩
      rw [same] at same
      simp at same
    rw [stored]
    by_cases own : conversationId = contact
    · subst own
      refine iff_of_false (fun suppressed => renewed ?_) (by simp [present])
      exact suppressed.snapshot row (by simp)
    · refine iff_of_true (.of_same ?_ rfl) fun both => own both.1
      simp [Ne.symm own]

theorem ne_of_not_tombstoned (open' : before.tombstoned conversationId = false)
    (present : before.conversations.contains conversationId = true)
    (removed : before.relationshipTombstones.contains contact = true) :
    contact ≠ conversationId := by
  rintro rfl
  simp [tombstoned, present, removed] at open'

theorem putConversationMlsSnapshot_suppressed
    (done : before.putConversationMlsSnapshot conversationId snapshot =
      .ok after)
    (removed : before.relationshipTombstones.contains contact = true) :
    Suppressed contact before after := by
  obtain ⟨_, rfl⟩ | ⟨open', present, _, rfl⟩ :=
    putConversationMlsSnapshot_eq done
  · exact .of_rows rfl
  · refine .of_same ?_ rfl
    simp [ne_of_not_tombstoned open' present removed]

/-- A claim that stores what it encrypted, as far as the session rows go. -/
theorem claim_suppressed_iff (snapshot : Bytes)
    (idle : claims = false → result = .ok (false, before))
    (rows : claims = true → (before.settleReturning result).sessionRows =
      (before.settle (before.upsertSnapshot conversationId snapshot)
        ).sessionRows) :
    Suppressed contact before (before.settleReturning result) ↔
      ¬(conversationId = contact ∧
        before.conversations.contains contact = true ∧ claims = true) := by
  cases claims with
  | false =>
    rw [idle rfl]
    exact iff_of_true (.of_rows rfl) fun all => nomatch all.2.2
  | true =>
    rw [Suppressed.congr (rows rfl), upsertSnapshot_suppressed_iff]
    simp

theorem markPeerConnected_suppressed_iff :
    Suppressed contact before
        (before.settle (before.markPeerConnected installationId connectedAt)) ↔
      ¬(installationId = contact ∧
        before.contactPeerEndpoints.contains contact = true ∧
        before.peerConnectedAt.lookup contact ≠ some connectedAt) := by
  cases present : before.contactPeerEndpoints.contains installationId with
  | false =>
    simp only [markPeerConnected, present, Bool.false_eq_true, if_false, settle]
    refine iff_of_true (.of_rows rfl) ?_
    rintro ⟨rfl, found, _⟩
    rw [present] at found
    cases found
  | true =>
    simp only [markPeerConnected, present, if_true, settle]
    by_cases own : installationId = contact
    · subst own
      obtain ⟨endpoint, found⟩ := Table.contains_iff.mp present
      constructor
      · rintro ⟨_, kept⟩ ⟨_, _, differs⟩
        have row := kept (endpoint, some connectedAt)
          (by simp [endpointRow, found])
        simp only [endpointRow, found, Option.map_some, Option.some.injEq,
          Prod.mk.injEq, true_and] at row
        exact differs row
      · intro same
        have unchanged : before.peerConnectedAt.lookup installationId =
            some connectedAt := by
          by_contra differs
          exact same ⟨rfl, present, differs⟩
        exact .of_same rfl (by simp [endpointRow, unchanged])
    · refine iff_of_true (.of_same rfl ?_) fun all => own all.1
      simp [endpointRow, Ne.symm own]

theorem putContactPeerEndpoint_suppressed
    (removed : before.relationshipTombstones.contains contact = true)
    (done : before.putContactPeerEndpoint endpoint = .ok after) :
    Suppressed contact before after := by
  obtain rfl | ⟨open', rfl⟩ := putContactPeerEndpoint_eq done
  · exact .of_rows rfl
  · refine .of_same rfl ?_
    have other : contact ≠ endpoint.installationId := by
      rintro rfl
      rw [removed] at open'
      cases open'
    simp [endpointRow, other]

theorem removeRelationshipWithId_suppressed
    (done : before.removeRelationshipWithId installationId removedAt
      preserveHistory removalId epoch = .ok after) :
    Suppressed contact before after := by
  obtain ⟨_, rfl⟩ := removeRelationshipWithId_eq_ok.mp done
  split
  · exact .of_rows rfl
  · obtain ⟨messages, deliveries, removed, _⟩ := @locallyRemoved_eq before
      installationId removedAt preserveHistory removalId epoch
    rw [removed]
    constructor
    · intro row found
      simp only [forgetSession] at found
      split at found
      · rw [Table.lookup_erase] at found
        split at found
        · cases found
        · exact found
      · exact found
    · intro row found
      simp only [endpointRow, forgetSession, Table.lookup_erase] at found
      split at found
      · cases found
      · exact found

theorem Suppressed.of_settle
    (stored : ∀ after, result = .ok after → Suppressed contact before after) :
    Suppressed contact before (before.settle result) := by
  cases result with
  | error error => exact .of_rows rfl
  | ok after => exact stored after rfl

end Database

namespace Call

open Database

/-- The calls that would write a row of the contact without asking whether a
tombstone stands. -/
def Unguarded (contact : InstallationId) (database : Database) : Call → Prop
  | upsertSnapshot conversationId _ =>
    conversationId = contact ∧ database.conversations.contains contact = true
  | persistOutboundEncryptionAndClaim messageId _ conversationId _ _ _ nowMs =>
    conversationId = contact ∧
      database.conversations.contains contact = true ∧
      (database.messages.lookup messageId).any
        (MessageRow.claimable nowMs) = true
  | persistReceiptEncryption messageId _ conversationId _ _ _ nowMs =>
    conversationId = contact ∧
      database.conversations.contains contact = true ∧
      (database.deliveryReceipts.lookup messageId).any
        (DeliveryReceipt.claimable nowMs) = true
  | markPeerConnected installationId connectedAt =>
    installationId = contact ∧
      database.contactPeerEndpoints.contains contact = true ∧
      database.peerConnectedAt.lookup contact ≠ some connectedAt
  | _ => False

variable {contact : InstallationId}

theorem perform_suppressed_iff (call : Call)
    (removed : database.relationshipTombstones.contains contact = true) :
    Suppressed contact database (call.perform database) ↔
      ¬call.Unguarded contact database := by
  cases call
  case upsertSnapshot => exact upsertSnapshot_suppressed_iff
  case persistOutboundEncryptionAndClaim _ _ conversationId snapshot _ _ _ =>
    refine claim_suppressed_iff snapshot (fun idle => ?_) fun claimable => ?_
    · simp [Database.persistOutboundEncryptionAndClaim, idle]
    · simp only [Database.persistOutboundEncryptionAndClaim, claimable, if_true,
        Database.upsertSnapshot, expose, onGhost, onMessages]
      cases database.conversations.contains conversationId <;> rfl
  case persistReceiptEncryption _ _ conversationId snapshot _ _ _ =>
    refine claim_suppressed_iff snapshot (fun idle => ?_) fun claimable => ?_
    · simp [Database.persistReceiptEncryption, idle]
    · simp only [Database.persistReceiptEncryption, claimable, if_true,
        Database.upsertSnapshot, expose, onGhost, onReceipts]
      cases database.conversations.contains conversationId <;> rfl
  case markPeerConnected => exact markPeerConnected_suppressed_iff
  case putConversationMlsSnapshot =>
    exact iff_of_true (.of_settle fun _ done =>
      putConversationMlsSnapshot_suppressed done removed) not_false
  case persistOutboundEncryption =>
    refine iff_of_true (.of_settle fun _ done => ?_) not_false
    obtain ⟨_, _, ⟨_, rfl⟩ | ⟨open', present, _, rfl⟩⟩ :=
      persistOutboundEncryption_eq done
    · exact .of_rows rfl
    · refine .of_same ?_ rfl
      have other : contact ≠ _ := ne_of_not_tombstoned open' present removed
      simp [other]
  case putContactPeerEndpoint =>
    exact iff_of_true (.of_settle fun _ done =>
      putContactPeerEndpoint_suppressed removed done) not_false
  case removeRelationshipWithId =>
    exact iff_of_true (.of_settle fun _ done =>
      removeRelationshipWithId_suppressed done) not_false
  case applyRemoteRelationshipRemoval =>
    refine iff_of_true (.of_settle fun _ done => .of_rows ?_) not_false
    obtain ⟨_, rfl⟩ := applyRemoteRelationshipRemoval_eq_ok.mp done
    split
    · rfl
    · rfl
  case beginVerifiedRelationship =>
    exact iff_of_true (.of_rows rfl) not_false
  all_goals
    exact iff_of_true (.of_rows
      (congrArg (·.2.2) (perform_standing _ database rfl))) not_false

end Call

/-- In a run of the storage a call keeps away from the snapshot and the endpoint
of a removed contact, unless it is one of those that ask for no tombstone. -/
theorem tombstone_suppresses_writes_iff
    (start : Database) (history : List Call) (call : Call)
    (contact : InstallationId)
    (removed : (machine.run start history).relationshipTombstones.contains
      contact = true) :
    Database.Suppressed contact (machine.run start history)
        (machine.run start (history ++ [call])) ↔
      ¬call.Unguarded contact (machine.run start history) := by
  rw [Machine.run, Machine.run, List.foldl_append]
  exact Call.perform_suppressed_iff call removed

def removingAlice : List Call :=
  meetingAlice ++ [.removeRelationshipWithId "alice" 5 true "removal" 1]

/-- The put of the runtime is held back. -/
theorem runtime_put_is_held_back :
    Database.Suppressed "alice" (machine.run .empty removingAlice)
      (machine.run .empty (removingAlice ++
        [.putConversationMlsSnapshot "alice" [1]])) :=
  (tombstone_suppresses_writes_iff .empty removingAlice _ "alice"
    (by decide +kernel)).mpr not_false

/-- The put of the database is not. -/
theorem direct_put_passes_a_tombstone :
    (machine.run .empty removingAlice).relationshipTombstones.contains "alice" =
        true ∧
      ¬Database.Suppressed "alice" (machine.run .empty removingAlice)
        (machine.run .empty (removingAlice ++ [.upsertSnapshot "alice" [1]])) := by
  refine ⟨by decide +kernel, fun suppressed => ?_⟩
  have before := suppressed.snapshot ⟨[1], 1⟩ (by decide +kernel)
  exact absurd before (by decide +kernel)

end Torchat.Storage
