import Torchat.Engine.Envelopes
import Torchat.Storage.Footprints

namespace Torchat

open Foundation Storage

namespace Storage.Database

/-- The tables no application payload writes to: pairings and invites, the
device's own endpoint, the envelopes of the transport, and what is noted of
pairings. -/
def beside (database : Database) :
    PairingTables × List String × Table String PendingLocalInvite ×
      Option (PeerEndpointBundle × Nat) ×
      Table (InstallationId × Uuid) InboundEnvelope ×
      List (String × String) × List (String × Bool) :=
  (database.pairing, database.usedInvites, database.pendingLocalInvites,
    database.localPeerEndpoint, database.inboundPeerEnvelopes,
    database.ghost.offers, database.ghost.cancelled)

/-- Nothing differs beside, and of the messages only those of conversations in
the scope. -/
structure Reach (scope : Set InstallationId) (before after : Database) :
    Prop where
  messages : ∀ messageId row, row.message.conversationId ∉ scope →
    (after.messages.lookup messageId = some row ↔
      before.messages.lookup messageId = some row)
  beside : after.beside = before.beside

variable {scope : Set InstallationId}

theorem Reach.of_messages (same : after.messages = before.messages)
    (beside : after.beside = before.beside) : Reach scope before after := by
  refine ⟨fun messageId row _ => ?_, beside⟩
  rw [same]

instance Reach.booked : Booked (Reach scope) where
  refl _ := ⟨fun _ _ _ => Iff.rfl, rfl⟩
  trans first second :=
    ⟨fun messageId row outside =>
      (second.messages messageId row outside).trans
        (first.messages messageId row outside),
      second.beside.trans first.beside⟩
  booked _ _ _ _ := ⟨fun _ _ _ => Iff.rfl, rfl⟩

theorem Reach.of_beside (beside : after.beside = before.beside) :
    Reach Set.univ before after :=
  ⟨fun _ _ outside => absurd (Set.mem_univ _) outside, beside⟩

theorem Reach.of_updateWhere
    (own : ∀ messageId row, p messageId row = true →
      row.message.conversationId ∈ scope ∧
        (f messageId row).message.conversationId ∈ scope) :
    Reach scope before (before.onMessages (·.updateWhere p f)) := by
  refine ⟨fun messageId target outside => ?_, rfl⟩
  simp only [onMessages, Table.lookup_updateWhere]
  cases before.messages.lookup messageId with
  | none => rfl
  | some row =>
    cases chosen : p messageId row with
    | false => simp [chosen]
    | true =>
      obtain ⟨old, new⟩ := own messageId row chosen
      have unlikeNew : f messageId row ≠ target := by
        rintro rfl
        exact outside new
      have unlikeOld : row ≠ target := by
        rintro rfl
        exact outside old
      simp [chosen, unlikeNew, unlikeOld]

/-! Statements that do not write to the messages. -/

theorem reach_of_messages {statement : Database → RuntimeResult Database}
    (same : ∀ {before after}, statement before = .ok after →
      after.messages = before.messages ∧ after.beside = before.beside) :
    (execute statement).Keeps (Reach scope) :=
  .execute fun _ _ done => .of_messages (same done).1 (same done).2

theorem reach_returning_of_messages
    {statement : Database → RuntimeResult (α × Database)}
    (same : ∀ {before value after}, statement before = .ok (value, after) →
      after.messages = before.messages ∧ after.beside = before.beside) :
    (executeReturning statement).Keeps (Reach scope) :=
  .executeReturning fun _ _ _ done => .of_messages (same done).1 (same done).2

instance : (execute (upsertSnapshot conversationId snapshot)).Keeps
      (Reach scope) :=
  reach_of_messages fun done => by
    obtain ⟨_, _, rfl⟩ := upsertSnapshot_eq done
    exact ⟨rfl, rfl⟩

instance : (execute (putConversationMlsSnapshot conversationId snapshot)).Keeps
      (Reach scope) :=
  reach_of_messages fun done => by
    obtain ⟨_, rfl⟩ | ⟨_, _, _, rfl⟩ := putConversationMlsSnapshot_eq done
    · exact ⟨rfl, rfl⟩
    · exact ⟨rfl, rfl⟩

instance (conversation : ConversationSummary) :
    (execute (putConversation conversation)).Keeps (Reach scope) :=
  reach_of_messages fun done => by
    obtain ⟨_, rfl⟩ := putConversation_eq done
    exact ⟨rfl, rfl⟩

instance : (execute (putReceivedEnvelope sender messageId envelope)).Keeps
      (Reach scope) :=
  reach_of_messages fun done => by
    obtain ⟨_, rfl⟩ := putReceivedEnvelope_eq done
    exact ⟨rfl, rfl⟩

instance : (executeReturning (claimOutboundDelivery messageId nextAttemptAt
      ackDeadline nowMs)).Keeps (Reach scope) :=
  reach_returning_of_messages fun done => by
    obtain ⟨_, rfl⟩ := claimOutboundDelivery_eq done
    exact ⟨rfl, rfl⟩

instance : (executeReturning (persistReceiptEncryption messageId wire
      conversationId snapshot nextAttemptAt lastError nowMs)).Keeps
      (Reach scope) :=
  reach_returning_of_messages fun done => by
    obtain ⟨_, rfl⟩ | ⟨_, _, _, _, rfl⟩ := persistReceiptEncryption_eq done
    · exact ⟨rfl, rfl⟩
    · exact ⟨rfl, rfl⟩

instance : (executeReturning (claimReceiptAttempt messageId nextAttemptAt
      lastError nowMs)).Keeps (Reach scope) :=
  reach_returning_of_messages fun done => by
    obtain rfl | ⟨_, rfl⟩ := claimReceiptAttempt_eq done
    · exact ⟨rfl, rfl⟩
    · exact ⟨rfl, rfl⟩

instance : (execute (putContactEndpointCapability installationId capabilityId
      secret nowSecs)).Keeps (Reach scope) :=
  reach_of_messages fun done => by
    obtain ⟨_, rfl⟩ := putContactEndpointCapability_eq done
    exact ⟨rfl, rfl⟩

instance (installationId : InstallationId) (capabilityId : String)
    (secret : Bytes) (sequence : Nat) (issuedAt : Int) (expiresAt : Option Int) :
    (execute (putPeerEndpointCapability installationId capabilityId
      secret sequence issuedAt expiresAt)).Keeps (Reach scope) :=
  reach_of_messages fun done => by
    obtain ⟨_, rfl⟩ := putPeerEndpointCapability_eq done
    exact ⟨rfl, rfl⟩

instance : (execute (putDeliveryReceipt messageId receipt)).Keeps
      (Reach scope) :=
  .total fun _ => .of_messages rfl rfl

instance : (execute (requeueDeliveryReceipt messageId nextAttemptAt
      lastError)).Keeps (Reach scope) :=
  .total fun _ => .of_messages rfl rfl

instance : (execute (putPendingApplicationEnvelope sender messageId
      envelope)).Keeps (Reach scope) :=
  .total fun _ => .of_messages rfl rfl

instance : (execute (removePendingApplicationEnvelope sender messageId)).Keeps
      (Reach scope) :=
  .total fun _ => .of_messages rfl rfl

instance : (execute (putRelationshipRemovalAck removalId installationId epoch
      payload)).Keeps (Reach scope) :=
  .total fun _ => .of_messages rfl rfl

instance : (execute (revokePeerEndpointCapability installationId)).Keeps
      (Reach scope) :=
  .total fun _ => .of_messages rfl rfl

instance : (execute (expediteDeliveries installationId)).Keeps
      (Reach scope) :=
  .total fun _ => .of_messages rfl rfl

instance : (Program.modify (recordApplied sender messageId) :
      Program Database RuntimeError Unit).Keeps (Reach scope) :=
  .modify fun _ => .of_messages rfl rfl

/-! Statements that write to messages of one conversation, which must be in the
scope. -/

section

variable {contact : InstallationId} [inScope : Fact (contact ∈ scope)]

instance : (execute (expediteMessages contact)).Keeps (Reach scope) :=
  .execute fun _ _ done => by
    cases done
    refine .of_updateWhere ?_
    intro _ row chosen
    simp only [Bool.and_eq_true, decide_eq_true_eq] at chosen
    have own : row.message.conversationId ∈ scope :=
      chosen.1.1.symm ▸ inScope.out
    exact ⟨own, own⟩

theorem failPendingMessages_reach (database : Database) :
    Reach scope database (database.failPendingMessages contact) := by
  refine .of_updateWhere ?_
  intro _ row chosen
  simp only [Bool.and_eq_true, decide_eq_true_eq] at chosen
  have own : row.message.conversationId ∈ scope :=
    chosen.1.1.2.symm ▸ inScope.out
  exact ⟨own, own⟩

instance : (execute (applyRemoteRelationshipRemoval contact removedAt removalId
      epoch)).Keeps (Reach scope) :=
  .execute fun before after done => by
    unfold applyRemoteRelationshipRemoval at done
    split at done
    · cases done
    · split at done
      · cases done
        exact Frame.refl _
      · cases done
        let offline := ((before.tombstone contact removedAt true epoch
          removalId).blockContact contact).setConversationOffline contact
        have failed : Reach scope offline (offline.failPendingMessages contact) :=
          failPendingMessages_reach offline
        exact ⟨failed.messages, failed.beside⟩

end

end Storage.Database

namespace Runtime

variable {scope : Set InstallationId}

instance : (acceptSignal arrival).Keeps (Within (Database.Reach scope)) := by
  unfold acceptSignal
  infer_instance

instance : (acceptCapabilityOfferAck arrival).Keeps
      (Within (Database.Reach scope)) := by
  unfold acceptCapabilityOfferAck
  infer_instance

instance [(execute statement).Keeps (Database.Reach scope)] :
    (acceptCapability arrival statement).Keeps
      (Within (Database.Reach scope)) := by
  unfold acceptCapability
  infer_instance

section

variable [inScope : Fact (contact ∈ scope)]

instance :
    (applyRemoteRelationshipRemoval contact removedAt removalId epoch).Keeps
      (Within (Database.Reach scope)) := by
  refine .next fun _ => ?_
  infer_instance

theorem putMessage_reach (called : start.Called runtime)
    (own : message.conversationId ∈ scope)
    (replaced : ∀ row, start.database.messages.lookup message.id = some row →
      row.message.conversationId ∈ scope) :
    Within (Database.Reach scope) start (putMessage message runtime).2 := by
  refine .of_write called fun after done => ?_
  obtain ⟨_, rfl⟩ := Database.putMessage_eq done
  refine ⟨fun messageId row outside => ?_, rfl⟩
  simp only [Database.onMessages, Table.lookup_insert]
  split
  · subst messageId
    constructor
    · rintro ⟨⟩
      exact absurd own outside
    · intro found
      exact absurd (replaced row found) outside
  · rfl

instance (body : String) (messageId : Uuid) (reply : Option MessageReply) :
    (receiveMessageReply contact body messageId reply).Keeps
      (Within (Database.Reach scope)) := by
  refine .next fun _ => ⟨fun start => ?_⟩
  refine .after_read (Frame.refl start) inferInstance
    fun found runtime asked called => ?_
  have value := (query_ok asked).1
  cases found with
  | some existing =>
    exact Frame.trans called.within (Program.Keeps.run runtime)
  | none =>
    have missing : start.database.messages.lookup messageId = none :=
      Option.map_eq_none_iff.mp value.symm
    refine .after_read called inferInstance fun _ _ _ called => ?_
    refine .after_read called inferInstance fun _ _ _ called => ?_
    refine .after_read called inferInstance fun _ _ _ called => ?_
    refine .followed (putMessage_reach called inScope.out ?_) fun _ => ?_
    · intro row found
      rw [missing] at found
      cases found
    · refine .next fun _ => ?_
      infer_instance

end

instance (arrival : Arrival) [Fact (arrival.sender ∈ scope)] (body : String)
    (replyTo : Option MessageReply) (envelopeId : Uuid) :
    (acceptMessage arrival body replyTo envelopeId).Keeps
      (Within (Database.Reach scope)) := by
  refine .next fun accepts => ?_
  cases accepts with
  | false =>
    simp only [Bool.false_eq_true, if_false]
    infer_instance
  | true =>
    refine .next fun _ => ?_
    refine .next fun _ => ?_
    infer_instance

instance [Fact (arrival.sender ∈ scope)] :
    (acceptRelationshipRemoved arrival removedAt removalId epoch answer).Keeps
      (Within (Database.Reach scope)) := by
  unfold acceptRelationshipRemoved
  infer_instance

end Runtime

instance Storage.Database.Reach.receipting :
    Database.Receipting (Database.Reach scope) where
  issued := inferInstance
  claimed := inferInstance
  claimedReceipt := inferInstance
  requeuedReceipt := inferInstance

instance Storage.Database.Reach.filing :
    Database.Filing (Database.Reach scope) where
  deferred := inferInstance
  persisted := inferInstance

namespace Actor

theorem acceptPayload_reach (arrival : Arrival) [Fact (arrival.sender ∈ scope)]
    (delivered : ∀ messageId receivedAt,
      application = .deliveryReceipt messageId receivedAt →
      (Runtime.acceptDeliveryReceipt arrival messageId).Keeps
        (Runtime.Within (Database.Reach scope)))
    (read : ∀ messageIds readAt, application = .readReceipt messageIds readAt →
      (Runtime.acceptReadReceipt arrival messageIds).Keeps
        (Runtime.Within (Database.Reach scope))) :
    (acceptPayload (P := P) arrival application).Keeps
      (Stored (Database.Reach scope)) := by
  refine acceptPayload_keeps fun operation performs => ?_
  cases performs with
  | deliveryReceipt messageId receivedAt =>
    exact delivered messageId receivedAt rfl
  | readReceipt messageIds readAt => exact read messageIds readAt rfl
  | _ => infer_instance

end Actor

instance : Fact (contact ∈ (Set.univ : Set InstallationId)) :=
  ⟨trivial⟩

instance (message : ChatMessage) :
    (execute (Database.putMessage message)).Keeps
      (Database.Reach Set.univ) :=
  .execute fun _ _ done => by
    obtain ⟨_, rfl⟩ := Database.putMessage_eq done
    exact .of_beside rfl

namespace Runtime

instance (message : ChatMessage) :
    (putMessage message).Keeps (Within (Database.Reach Set.univ)) := by
  unfold putMessage
  infer_instance

instance :
    (applyMessageRead messageId).Keeps (Within (Database.Reach Set.univ)) := by
  unfold applyMessageRead
  infer_instance

instance : (applyMessageTransportOutcome messageId outcome).Keeps
      (Within (Database.Reach Set.univ)) := by
  refine .next fun message => ?_
  cases messageStateAfterTransportOutcome message.state outcome with
  | none | some => infer_instance

instance : (acceptDeliveryReceipt arrival messageId).Keeps
      (Within (Database.Reach Set.univ)) := by
  unfold acceptDeliveryReceipt
  infer_instance

instance : (acceptReadReceipt arrival messageIds).Keeps
      (Within (Database.Reach Set.univ)) := by
  unfold acceptReadReceipt
  infer_instance

end Runtime

instance Actor.handleApplicationEnvelope_reach_univ :
    (handleApplicationEnvelope (P := P) sender messageId ciphertext).Keeps
      (Stored (Database.Reach Set.univ)) := by
  refine ⟨fun start => handleApplicationEnvelope_stored ?_⟩
  intro application _ arrival _ _ actor still
  have kept : (acceptPayload (P := P) arrival application).Keeps
      (Stored (Database.Reach Set.univ)) :=
    acceptPayload_reach arrival (fun _ _ _ => inferInstance)
      fun _ _ _ => inferInstance
  exact .then still

/-- The relations that hold whenever everything beside is as it was. -/
class Storage.Database.OfReach (stored : Database → Database → Prop) : Prop
    extends Database.Booked stored where
  reached : ∀ {before after : Database},
    Database.Reach Set.univ before after → stored before after

section

variable [ofReach : Database.OfReach stored]

instance (priority := low) Storage.Database.keeps_of_reach
    (program : Program Database RuntimeError α)
    [kept : program.Keeps (Database.Reach Set.univ)] : program.Keeps stored :=
  kept.mono ofReach.reached

instance Storage.Database.OfReach.filing : Database.Filing stored where
  issued := inferInstance
  claimed := inferInstance
  claimedReceipt := inferInstance
  requeuedReceipt := inferInstance
  deferred := inferInstance
  persisted := inferInstance

instance (priority := low) Runtime.keeps_of_reach
    (program : Runtime.Call α)
    [kept : program.Keeps (Runtime.Within (Database.Reach Set.univ))] :
    program.Keeps (Runtime.Within stored) :=
  kept.mono fun within => ⟨ofReach.reached within.data, within.host⟩

instance (priority := low) Actor.keeps_of_reach
    (program : Actor.Call P α)
    [kept : program.Keeps (Actor.Stored (Database.Reach Set.univ))] :
    program.Keeps (Actor.Stored stored) :=
  kept.mono fun {_ _} reach => ofReach.reached reach

end

end Torchat
