import Torchat.Storage.Endpoints

namespace Torchat.Storage

open Foundation

/-! What the statements that may fail leave when they succeed: the database with
new rows in the tables they write. -/

theorem requireRow_bind_eq_ok :
    (requireRow present >>= rest) = .ok result ↔
      present = true ∧ rest () = .ok result := by
  cases present <;> simp [requireRow, bind, Except.bind]

namespace Database

variable {before : Database} {contact : InstallationId}

theorem unique_of_uniqueCapability
    (unique : uniqueCapability capabilities contact capabilityId = .ok value)
    (found : capabilities.lookup other = some row)
    (same : row.capabilityId = capabilityId) : other = contact := by
  by_contra differs
  have taken : capabilities.entries.any (fun entry =>
      entry.1 ≠ contact && entry.2.capabilityId = capabilityId) = true :=
    List.any_eq_true.mpr ⟨(other, row), Table.lookup_eq_some_iff.mp found,
      by simp [differs, same]⟩
  rw [uniqueCapability, if_pos taken] at unique
  cases unique

theorem uniqueCapability_bind_eq_ok
    (done : (uniqueCapability capabilities contact capabilityId >>= rest) =
      .ok result) : rest () = .ok result := by
  unfold uniqueCapability at done
  split at done
  · cases done
  · exact done

theorem live_of_activeContactCapability
    (active : before.activeContactCapability contact nowSecs =
      some capabilityId) :
    ∃ row, before.contactEndpointCapabilities.lookup contact = some row ∧
      row.revoked = false := by
  unfold activeContactCapability at active
  cases found : before.contactEndpointCapabilities.lookup contact with
  | none =>
    rw [found] at active
    cases active
  | some row =>
    rw [found] at active
    refine ⟨row, rfl, ?_⟩
    cases revoked : row.revoked with
    | false => rfl
    | true => simp [EndpointCapability.live, revoked] at active

theorem upsertSnapshot_eq
    (done : before.upsertSnapshot contact snapshot = .ok after) :
    before.conversations.contains contact = true ∧
      ∃ version, after = { before with
        conversationMls :=
          before.conversationMls.insert contact ⟨snapshot, version⟩ } := by
  obtain ⟨present, written⟩ := requireRow_bind_eq_ok.mp done
  cases written
  exact ⟨present, _, rfl⟩

theorem putConversationMlsSnapshot_eq
    (done : before.putConversationMlsSnapshot contact snapshot =
      .ok after) :
    (before.tombstoned contact = true ∧ after = before) ∨
      (before.tombstoned contact = false ∧
        before.conversations.contains contact = true ∧
        ∃ version, after = { before with
          conversationMls := before.conversationMls.insert contact
            ⟨snapshot, version⟩ }) := by
  unfold putConversationMlsSnapshot at done
  cases tombstoned : before.tombstoned contact with
  | true =>
    rw [tombstoned] at done
    cases done
    exact .inl ⟨rfl, rfl⟩
  | false =>
    rw [tombstoned] at done
    exact .inr ⟨rfl, upsertSnapshot_eq done⟩

theorem putMessage_eq
    {message : ChatMessage} (done : before.putMessage message = .ok after) :
    before.conversations.contains message.conversationId = true ∧
      after = before.onMessages (·.insert message.id
        ⟨message, (before.messages.lookup message.id).bind
          MessageRow.wireCiphertext⟩) := by
  obtain ⟨present, written⟩ := requireRow_bind_eq_ok.mp done
  cases written
  exact ⟨present, rfl⟩

theorem putConversation_eq {conversation : ConversationSummary}
    (done : before.putConversation conversation = .ok after) :
    before.contacts.contains conversation.id = true ∧
      after = { before with
        conversations :=
          before.conversations.insert conversation.id conversation } := by
  obtain ⟨present, written⟩ := requireRow_bind_eq_ok.mp done
  cases written
  exact ⟨present, rfl⟩

theorem putReceivedEnvelope_eq
    (done : before.putReceivedEnvelope sender messageId envelope = .ok after) :
    before.receivedEnvelopes.contains (sender, messageId) = false ∧
      after = { before with
        receivedEnvelopes :=
          before.receivedEnvelopes.insert (sender, messageId) envelope } := by
  unfold putReceivedEnvelope at done
  cases known : before.receivedEnvelopes.contains (sender, messageId) with
  | true => simp [known] at done
  | false =>
    simp only [known, Bool.false_eq_true, if_false] at done
    cases done
    exact ⟨rfl, rfl⟩

theorem claimOutboundDelivery_eq
    (done : before.claimOutboundDelivery messageId nextAttemptAt ackDeadline
      nowMs = .ok (claimed, after)) :
    ∃ deliveries, after = { before with outboundDeliveries := deliveries } := by
  simp only [claimOutboundDelivery] at done
  split at done <;>
    · cases done
      exact ⟨_, rfl⟩

theorem persistReceiptEncryption_eq
    (done : before.persistReceiptEncryption messageId wire contact
      snapshot nextAttemptAt lastError nowMs = .ok (claimed, after)) :
    (claimed = false ∧ after = before) ∨
      (claimed = true ∧
        before.conversations.contains contact = true ∧
        ∃ version received, after = { before with
          deliveryReceipts := before.deliveryReceipts.modify messageId fun row =>
            { row.claimed nextAttemptAt lastError with
              wireCiphertext := row.wireCiphertext.or (some wire) }
          conversationMls := before.conversationMls.insert contact
            ⟨snapshot, version⟩
          receivedEnvelopes := received
          ghost := { before.ghost with
            exposed := wire.origin :: before.ghost.exposed } }) := by
  unfold persistReceiptEncryption at done
  split at done
  · simp only [bind, Except.bind] at done
    split at done
    · cases done
    · rename_i database stored
      obtain ⟨present, version, rfl⟩ := upsertSnapshot_eq stored
      cases done
      exact .inr ⟨rfl, present, version, _, rfl⟩
  · cases done
    exact .inl ⟨rfl, rfl⟩

theorem claimReceiptAttempt_eq
    (done : before.claimReceiptAttempt messageId nextAttemptAt lastError nowMs =
      .ok (claimed, after)) :
    after = before ∨
      ∃ received, after = { before with
        deliveryReceipts := before.deliveryReceipts.modify messageId
          (DeliveryReceipt.claimed nextAttemptAt lastError)
        receivedEnvelopes := received } := by
  unfold claimReceiptAttempt at done
  split at done
  · cases done
    exact .inr ⟨_, rfl⟩
  · cases done
    exact .inl rfl

theorem putContactEndpointCapability_eq
    (done : before.putContactEndpointCapability contact capabilityId secret
      nowSecs = .ok after) :
    ∃ capabilities, after = { before with
      contactEndpointCapabilities := capabilities } := by
  obtain ⟨_, rest⟩ := requireRow_bind_eq_ok.mp done
  cases uniqueCapability_bind_eq_ok rest
  exact ⟨_, rfl⟩

theorem putPeerEndpointCapability_eq {capabilityId : String} {secret : Bytes}
    {sequence : Nat}
    (done : before.putPeerEndpointCapability contact capabilityId secret
      sequence issuedAt expiresAt = .ok after) :
    ∃ capabilities, after = { before with
      peerEndpointCapabilities := capabilities } := by
  simp only [putPeerEndpointCapability] at done
  split at done
  · obtain ⟨_, rest⟩ := requireRow_bind_eq_ok.mp done
    cases uniqueCapability_bind_eq_ok rest
    exact ⟨_, rfl⟩
  · cases done
    exact ⟨_, rfl⟩

theorem claimOutgoingAttempt_eq
    (done : before.claimOutgoingAttempt messageId nextAttemptAt ackDeadline
      lastTransportError nowMs = .ok (claimed, after)) :
    ∃ messages, after = { before with messages := messages } := by
  unfold claimOutgoingAttempt at done
  split at done <;>
    · cases done
      exact ⟨_, rfl⟩

theorem persistOutboundEncryption_eq
    (done : before.persistOutboundEncryption messageId wire contact
      snapshot = .ok after) :
    ∃ messages ghost,
      (before.tombstoned contact = true ∧
        after = { before with messages := messages, ghost := ghost }) ∨
      (before.tombstoned contact = false ∧
        before.conversations.contains contact = true ∧
        ∃ version, after = { before with
          messages := messages
          ghost := ghost
          conversationMls := before.conversationMls.insert contact
            ⟨snapshot, version⟩ }) := by
  unfold persistOutboundEncryption at done
  split at done
  · obtain ⟨removed, rfl⟩ | ⟨open', present, version, rfl⟩ :=
      putConversationMlsSnapshot_eq done
    · exact ⟨_, _, .inl ⟨removed, rfl⟩⟩
    · exact ⟨_, _, .inr ⟨open', present, version, rfl⟩⟩
  · cases done

theorem persistOutboundEncryptionAndClaim_eq
    (done : before.persistOutboundEncryptionAndClaim messageId wire
      contact snapshot nextAttemptAt ackDeadline nowMs =
        .ok (claimed, after)) :
    after = before ∨
      (before.conversations.contains contact = true ∧
        ∃ messages ghost version, after = { before with
          messages := messages
          ghost := ghost
          conversationMls := before.conversationMls.insert contact
            ⟨snapshot, version⟩ }) := by
  unfold persistOutboundEncryptionAndClaim at done
  split at done
  · obtain ⟨stored, written, answered⟩ := bind_eq_ok.mp done
    cases answered
    obtain ⟨present, version, rfl⟩ := upsertSnapshot_eq written
    exact .inr ⟨present, _, _, version, rfl⟩
  · cases done
    exact .inl rfl

theorem enqueueOutboundDelivery_eq
    (done : before.enqueueOutboundDelivery messageId contact createdAtSecs =
      .ok after) :
    ∃ deliveries, after = { before with outboundDeliveries := deliveries } := by
  obtain ⟨_, rest⟩ := requireRow_bind_eq_ok.mp done
  obtain ⟨_, written⟩ := requireRow_bind_eq_ok.mp rest
  cases written
  exact ⟨_, rfl⟩

theorem requeueOutboundDelivery_eq
    (done : before.requeueOutboundDelivery messageId retryAt error =
      .ok after) :
    ∃ deliveries, after = { before with outboundDeliveries := deliveries } := by
  unfold requeueOutboundDelivery at done
  split at done
  · cases done
    exact ⟨_, rfl⟩
  · cases done

theorem enqueueReadReceipt_eq
    (done : before.enqueueReadReceipt receiptId contact conversationId
      messageIds readAt nowMs = .ok after) :
    ∃ receipts, after = { before with readReceiptOutbox := receipts } := by
  obtain ⟨_, rest⟩ := requireRow_bind_eq_ok.mp done
  simp only [] at rest
  split at rest <;>
    · cases rest
      exact ⟨_, rfl⟩

theorem persistReadReceiptRow_eq
    (done : before.persistReadReceiptRow receiptId wire nextAttemptAt nowMs =
      .ok (claimed, after)) :
    after = before ∨
      ∃ receipts, after =
        { before with readReceiptOutbox := receipts }.expose wire := by
  unfold persistReadReceiptRow at done
  split at done
  · cases done
    exact .inr ⟨_, rfl⟩
  · cases done
    exact .inl rfl

section

variable (done : before.storeInboundPeerEnvelope sender messageId ciphertext
    ciphertextHash receivedAt = .ok (result, after))

include done

theorem storeInboundPeerEnvelope_cases :
    (∃ row, before.inboundPeerEnvelopes.lookup (sender, messageId) = some row ∧
      result = .duplicate (decide (row.state = .delivered)) ∧ after = before) ∨
    (result = .stored ∧ after = { before with
      inboundPeerEnvelopes :=
        before.inboundPeerEnvelopes.insert (sender, messageId)
          ⟨ciphertext, ciphertextHash, .persisted, receivedAt⟩ }) := by
  unfold storeInboundPeerEnvelope at done
  split at done
  · rename_i row found
    split at done
    · cases done
      exact .inl ⟨row, found, rfl, rfl⟩
    · cases done
  · cases done
    exact .inr ⟨rfl, rfl⟩

theorem storeInboundPeerEnvelope_eq :
    ∃ envelopes, after = { before with inboundPeerEnvelopes := envelopes } := by
  obtain ⟨_, _, _, rfl⟩ | ⟨_, rfl⟩ := storeInboundPeerEnvelope_cases done
  · exact ⟨_, rfl⟩
  · exact ⟨_, rfl⟩

end

theorem putContactPeerEndpoint_eq
    (done : before.putContactPeerEndpoint endpoint = .ok after) :
    after = before ∨
      (before.relationshipTombstones.contains endpoint.installationId = false ∧
        after = { before with
          contactPeerEndpoints :=
            before.contactPeerEndpoints.insert endpoint.installationId
              endpoint }) := by
  unfold putContactPeerEndpoint at done
  split at done
  · cases done
    exact .inl rfl
  · rename_i open'
    have absent := Bool.eq_false_iff.mpr open'
    split at done
    · split at done
      · cases done
        exact .inr ⟨absent, rfl⟩
      · cases done
        exact .inl rfl
    · obtain ⟨_, written⟩ := requireRow_bind_eq_ok.mp done
      cases written
      exact .inr ⟨absent, rfl⟩

theorem markPeerConnected_eq
    (done : before.markPeerConnected contact connectedAt = .ok after) :
    ∃ connected, after = { before with peerConnectedAt := connected } := by
  unfold markPeerConnected at done
  split at done <;>
    · cases done
      exact ⟨_, rfl⟩

theorem putPendingPeerEndpointInbox_eq
    (done : before.putPendingPeerEndpointInbox endpoint = .ok after) :
    ∃ endpoints,
      after = { before with pendingPeerEndpointInbox := endpoints } := by
  simp only [putPendingPeerEndpointInbox] at done
  split at done <;>
    · cases done
      exact ⟨_, rfl⟩

theorem consumeInvite_eq
    (done : before.consumeInvite inviteId = .ok (fresh, after)) :
    ∃ invites, after = { before with usedInvites := invites } := by
  unfold consumeInvite at done
  split at done <;>
    · cases done
      exact ⟨_, rfl⟩

theorem claimPendingWelcomeAttempt_eq
    (done : before.claimPendingWelcomeAttempt inviteId nextAttemptAt lastError
      nowMs nowSecs = .ok (claimed, after)) :
    ∃ welcomes, after = { before with pendingWelcomes := welcomes } := by
  unfold claimPendingWelcomeAttempt at done
  split at done <;>
    · cases done
      exact ⟨_, rfl⟩

theorem retryDeadWelcome_eq
    (done : before.retryDeadWelcome inviteId = .ok after) :
    ∃ welcomes, after = { before with pendingWelcomes := welcomes } := by
  unfold retryDeadWelcome at done
  split at done
  · cases done
    exact ⟨_, rfl⟩
  · cases done

theorem onInboxDetails_eq
    (done : before.onInboxDetails pairingId f = .ok after) :
    ∃ pairing, after = { before with pairing := pairing } := by
  obtain ⟨_, _, written⟩ := bind_eq_ok.mp done
  cases written
  exact ⟨_, rfl⟩

theorem claimPairingResponseAttempt_eq
    (done : before.claimPairingResponseAttempt pairingId nextAttemptAt
      lastError nowSecs nowMs = .ok (claimed, after)) :
    ∃ pairing, after = { before with pairing := pairing } := by
  unfold claimPairingResponseAttempt at done
  split at done
  · obtain ⟨stored, written, answered⟩ := bind_eq_ok.mp done
    cases answered
    exact onInboxDetails_eq written
  · cases done
    exact ⟨_, rfl⟩

def blocked
    (installationId : InstallationId) (database : Database) : Database :=
  (((database.blockContact installationId).setConversationOffline
    installationId).failPendingMessages installationId
    ).deleteOutboundDeliveries installationId |>.deleteDeliveryReceipts
      installationId

def locallyRemoved (installationId : InstallationId) (removedAt : Int)
    (preserveHistory : Bool) (removalId : String) (relationshipEpoch : Int)
    (database : Database) : Database :=
  let database := ((database.tombstone installationId removedAt preserveHistory
    relationshipEpoch removalId).enqueueRelationshipRemoval removalId
      installationId relationshipEpoch preserveHistory).blocked installationId
  (if preserveHistory then database else database.deleteHistory installationId
    ).forgetSession installationId

def remotelyRemoved
    (installationId : InstallationId) (removedAt : Int) (removalId : String)
    (relationshipEpoch : Int) (database : Database) : Database :=
  (database.tombstone installationId removedAt true relationshipEpoch removalId
    ).blocked installationId

theorem removeRelationshipWithId_eq_ok :
    before.removeRelationshipWithId contact removedAt preserve
        removalId relationshipEpoch = .ok after ↔
      trim contact ≠ "" ∧
        after =
          if before.staleRemoval contact relationshipEpoch then before
          else before.locallyRemoved contact removedAt preserve
            removalId relationshipEpoch := by
  unfold removeRelationshipWithId
  split
  · rename_i blank
    simp [blank]
  · rename_i named
    split <;> exact ⟨fun done => ⟨named, (Except.ok.inj done).symm⟩,
        fun same => congrArg Except.ok same.2.symm⟩

theorem applyRemoteRelationshipRemoval_eq_ok :
    before.applyRemoteRelationshipRemoval contact removedAt removalId
        relationshipEpoch = .ok after ↔
      ¬(trim contact = "" ∨ trim removalId = "") ∧
        after =
          if before.staleRemoval contact relationshipEpoch then before
          else before.remotelyRemoved contact removedAt removalId
            relationshipEpoch := by
  unfold applyRemoteRelationshipRemoval
  split
  · rename_i blank
    simp [blank]
  · rename_i named
    split <;> exact ⟨fun done => ⟨named, (Except.ok.inj done).symm⟩,
        fun same => congrArg Except.ok same.2.symm⟩

/-! The tables a removal leaves. -/

theorem blocked_eq :
    before.blocked contact =
      { before with
        contacts := (before.blockContact contact).contacts
        conversations :=
          (before.setConversationOffline contact).conversations
        messages := (before.failPendingMessages contact).messages
        outboundDeliveries :=
          (before.deleteOutboundDeliveries contact).outboundDeliveries
        deliveryReceipts :=
          (before.deleteDeliveryReceipts contact).deliveryReceipts } := by
  simp only [blocked, blockContact, setConversationOffline, failPendingMessages,
    deleteOutboundDeliveries, deleteDeliveryReceipts, onMessages, onDeliveries,
    onReceipts, Table.contains_modify]

theorem remotelyRemoved_eq :
    before.remotelyRemoved contact removedAt removalId relationshipEpoch =
      { before.blocked contact with
        relationshipTombstones := (before.tombstone contact removedAt
          true relationshipEpoch removalId).relationshipTombstones } :=
  rfl

theorem locallyRemoved_eq :
    ∃ messages deliveries,
      before.locallyRemoved contact removedAt preserve removalId
          relationshipEpoch =
        { before.forgetSession contact with
          relationshipTombstones := (before.tombstone contact removedAt
            preserve relationshipEpoch removalId).relationshipTombstones
          relationshipRemovals := (before.enqueueRelationshipRemoval removalId
            contact relationshipEpoch
            preserve).relationshipRemovals
          contacts := (before.blockContact contact).contacts
          conversations :=
            (before.setConversationOffline contact).conversations
          deliveryReceipts :=
            (before.deleteDeliveryReceipts contact).deliveryReceipts
          messages := messages
          outboundDeliveries := deliveries } ∧
        (preserve = false →
          before.conversations.contains contact = true →
          ∀ messageId row, messages.lookup messageId = some row →
            row.message.conversationId ≠ contact) ∧
        (∀ messageId row, deliveries.lookup messageId = some row →
          row.contactInstallationId ≠ contact) ∧
        (before.conversations.contains contact = false →
          ∀ messageId, messages.lookup messageId =
            before.messages.lookup messageId) := by
  simp only [locallyRemoved, blocked_eq, Database.tombstone,
    enqueueRelationshipRemoval, blockContact, setConversationOffline,
    failPendingMessages, deleteOutboundDeliveries, deleteDeliveryReceipts,
    deleteHistory, forgetSession, onMessages, onDeliveries, onReceipts,
    Table.contains_modify]
  cases preserve with
  | true =>
    simp only [if_true, Table.contains_modify]
    refine ⟨_, _, rfl, nofun, ?_, ?_⟩
    · intro messageId row found
      simp only [Table.lookup_retain, Option.filter_eq_some_iff,
        decide_eq_true_eq] at found
      exact found.2
    · intro absent messageId
      simp [absent]
  | false =>
    simp only [Bool.false_eq_true, if_false, Table.contains_modify]
    refine ⟨_, _, rfl, fun _ present => ?_, ?_, ?_⟩
    · intro messageId row found
      simp only [Table.lookup_retain, Option.filter_eq_some_iff, present,
        Bool.true_and, Bool.not_eq_true', decide_eq_false_iff_not] at found
      exact found.2
    · intro messageId row found
      simp only [Table.lookup_retain, Option.filter_eq_some_iff,
        decide_eq_true_eq] at found
      exact found.1.2
    · intro absent messageId
      simp only [absent, Table.lookup_retain, Table.lookup_updateWhere,
        Bool.false_and, Bool.not_false, Bool.false_eq_true, if_false,
        Option.map_id_fun', id_eq]
      cases before.messages.lookup messageId <;> rfl

end Database

end Torchat.Storage
