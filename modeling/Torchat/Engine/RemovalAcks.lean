import Torchat.Core.WirePayload
import Torchat.Engine.Notices

namespace Torchat

open Foundation Storage

namespace Actor

structure Acknowledges
    (removalId : String) (ack : RemovalAck) (handover : Handover) : Prop where
  delivery : handover.delivery = .relationshipRemovalAck removalId
  recipient : handover.recipient = ack.contactInstallationId
  ciphertext : handover.ciphertext = ack.payload

def Receipt (actor : Actor P) (handover : Handover) : Prop :=
  ∃ removalId ack,
    actor.database.relationshipRemovalAcks.lookup removalId = some ack ∧
    Acknowledges removalId ack handover

instance : (execute (Database.markRelationshipRemovalAckDispatched removalId
      nextAttemptAt)).Keeps Database.EndpointsKept :=
  .execute fun _ _ done => by
    cases done
    rfl

theorem flushPendingRelationshipRemovalAcks_receipts (actor : Actor P) :
    ∃ handed, (flushPendingRelationshipRemovalAcks actor).2.host.sent =
        handed ++ actor.host.sent ∧
      ∀ handover ∈ handed, actor.Receipt handover := by
  have told : (nowMs (P := P)).Keeps
      (Handing actor.circumstances actor.Receipt) := inferInstance
  have run : Handing actor.circumstances actor.Receipt actor
      (flushPendingRelationshipRemovalAcks actor).2 := by
    refine Frame.trans (told.run actor) ?_
    change Handing _ _ _ ((query (Database.dueRelationshipRemovalAcks
      (actor.host.world.clock actor.host.calls)) >>= fun due =>
        forEach due _) (nowMs actor).2).2
    refine Program.Keeps.bind_answered inferInstance fun due _ asked => ?_
    obtain ⟨rfl, _⟩ := query_ok asked
    refine .forEach fun (removalId, ack) member => ?_
    have stored : actor.database.relationshipRemovalAcks.lookup removalId =
        some ack := by
      have kept := Table.lookup_eq_some_iff.mpr member
      rw [Table.lookup_retain, Option.filter_eq_some_iff] at kept
      exact kept.1
    have queued (envelopeId : Uuid) :
        (queuePeerPayload (P := P) envelopeId ack.contactInstallationId
          ⟨ack.payload, none⟩ (.relationshipRemovalAck removalId)).Keeps
          (Handing actor.circumstances actor.Receipt) :=
      queuePeerPayload_handing fun _ _ =>
        ⟨removalId, ack, stored, rfl, rfl, rfl⟩
    refine .next fun _ => .next fun result => ?_
    cases result with
    | ok | error => infer_instance
  exact (run ⟨rfl, le_rfl, rfl⟩).2

structure Refused
    (sender : InstallationId) (messageId : Uuid) (actor : Actor P) : Prop where
  rejected : ∃ row,
    actor.database.inboundPeerEnvelopes.lookup (sender, messageId) = some row ∧
      row.state = .rejected
  blocked : sender ∈ actor.cryptoBlockedPeers

theorem handleInboundMessage_refused
    {actor : Actor P} (unreadable : P.decodeWire wire = .error text)
    (named : mentions text "ciphertext" = true)
    (undelivered : ∀ row,
      actor.database.inboundPeerEnvelopes.lookup (sender, messageId) =
        some row → row.state ≠ .delivered)
    (ran : handleInboundMessage sender messageId wire actor = (.ok (), after)) :
    Refused sender messageId after := by
  obtain ⟨now, _, told, ran⟩ := bind_ok ran
  have same : _ = _ := congrArg Prod.snd told
  subst same
  obtain ⟨result, _, storing, ran⟩ := bind_ok ran
  obtain ⟨stored, filed, rfl⟩ := writeReturning_ok storing
  obtain ⟨_, _, asked, ran⟩ := bind_ok ran
  obtain rfl := consult_ok asked
  have filing := Database.storeInboundPeerEnvelope_cases filed
  have new : result ≠ .duplicate true := by
    rintro rfl
    rcases filing with ⟨row, found, delivered, _⟩ | ⟨failed, _⟩
    · simp only [Database.InboundEnvelopeStoreResult.duplicate.injEq,
        true_eq_decide_iff] at delivered
      exact undelivered row found delivered
    · cases failed
  have present : ∃ row,
      stored.inboundPeerEnvelopes.lookup (sender, messageId) = some row := by
    rcases filing with ⟨row, found, _, rfl⟩ | ⟨_, rfl⟩
    · exact ⟨row, found⟩
    · exact ⟨_, by rw [Table.lookup_insert, if_pos rfl]⟩
  rw [if_neg new] at ran
  unfold processInbound at ran
  have refused (actor : Actor P) :
      receivePeerPayload sender messageId wire actor =
        (.err (.invalidCommand text), actor) := by
    unfold receivePeerPayload
    rw [unreadable]
    rfl
  rw [run_bind_ok (run_attempt_err (refused _))] at ran
  obtain ⟨_, _, rejecting, ran⟩ := bind_ok ran
  obtain ⟨_, rejected, rfl⟩ := write_ok rejecting
  cases rejected
  simp only [isCryptographicInboundError, named, Bool.or_true, Bool.true_or,
    if_true] at ran
  cases ran
  obtain ⟨row, found⟩ := present
  refine ⟨⟨{ row with state := .rejected }, ?_, rfl⟩, Finset.mem_insert_self _ _⟩
  change (stored.inboundPeerEnvelopes.modify (sender, messageId) _).lookup
    (sender, messageId) = _
  rw [Table.lookup_modify, if_pos rfl, found]
  rfl

theorem handleInboundMessage_unremoved
    (unreadable : P.decodeWire wire = .error text) (sender : InstallationId)
    (messageId : Uuid) :
    (handleInboundMessage (P := P) sender messageId wire).Keeps
      (Stored Database.Unremoved) := by
  have received : (receivePeerPayload (P := P) sender messageId wire).Keeps
      (Stored Database.Unremoved) := by
    refine receivePeerPayload_stored fun ciphertext decoded => ?_
    rw [unreadable] at decoded
    cases decoded
  exact handleInboundMessage_stored

structure Marks (before after : Database) (removalId : String)
    (row : RelationshipRemoval) : Prop where
  before : ∃ earlier, before.relationshipRemovals.lookup removalId =
    some earlier ∧ earlier.state ≠ .acked
  after : after.relationshipRemovals.lookup removalId = some row
  acked : row.state = .acked

theorem handleRelayPayload_acked
    (ran : handleRelayPayload sender (.relationshipRemovalApplied removalId)
      actor = (.ok (), after)) :
    after.database.relationshipRemovals =
      actor.database.relationshipRemovals.modify removalId
        fun row => { row with state := .acked } := by
  obtain ⟨_, _, checked, writing⟩ := bind_ok ran
  obtain ⟨_, rfl⟩ := check_ok checked
  obtain ⟨_, written, rfl⟩ := write_ok writing
  cases written
  rfl

theorem marked_by_addressee_iff
    (ran : handleRelayPayload sender (.relationshipRemovalApplied removalId)
      actor = (.ok (), after)) :
    (∀ id row, Marks actor.database after.database id row →
        row.contactInstallationId = sender) ↔
      ∀ row, actor.database.relationshipRemovals.lookup removalId = some row →
        row.state = .acked ∨ row.contactInstallationId = sender := by
  have marked := handleRelayPayload_acked ran
  constructor
  · intro addressed row found
    by_cases acked : row.state = .acked
    · exact .inl acked
    · refine .inr (addressed removalId { row with state := .acked }
        ⟨⟨row, found, acked⟩, ?_, rfl⟩)
      rw [marked, Table.lookup_modify, if_pos rfl, found]
      rfl
  · rintro addressed id row ⟨⟨earlier, found, unmarked⟩, later, acked⟩
    rw [marked, Table.lookup_modify] at later
    split at later
    · rename_i same
      subst same
      rw [found] at later
      cases later
      exact (addressed earlier found).resolve_left unmarked
    · rw [found] at later
      cases later
      exact absurd acked unmarked

end Actor

def Primitives.WritesAcks (P : Primitives) (crypto : Core.Crypto)
    (codec : Core.JsonCodec) (identity : crypto.SigningKey) : Prop :=
  ∀ {recipient removalId : String} {relationshipEpoch appliedAt : Int}
    {payload : Bytes},
    P.encodeRemovalApplied recipient removalId relationshipEpoch appliedAt =
      .ok payload →
    ∃ epoch time, ∃ ack, ack =
        Core.RelayPayloadV1.relationshipRemovalAppliedBy crypto identity
          recipient removalId epoch time ∧
      payload = Core.utf8 (ack.encode crypto codec) ∧
      codec.RoundTrips ack.toJson

def Primitives.ReadsWire
    (Q : Primitives) (crypto : Core.Crypto) (codec : Core.JsonCodec) : Prop :=
  ∀ wire, Q.decodeWire wire = Core.decodeWire crypto codec wire

/-- An acknowledgement that comes over the peer transport is refused, its sender
blocked and no removal marked; one that comes by the relay marks the removal it
names, and that is the sender's own only where it was the sender's before. -/
theorem removal_acknowledgements_are_refused
    {P Q : Primitives} {crypto : Core.Crypto} (correct : crypto.Correct)
    {codec : Core.JsonCodec} {identity : crypto.SigningKey}
    (writes : P.WritesAcks crypto codec identity)
    (reads : Q.ReadsWire crypto codec) (actor : Actor P)
    (queued : ∀ removalId ack,
      actor.database.relationshipRemovalAcks.lookup removalId = some ack →
      ∃ recipient id relationshipEpoch appliedAt,
        P.encodeRemovalApplied recipient id relationshipEpoch appliedAt =
          .ok ack.payload) :
    (∃ handed,
      (Actor.flushPendingRelationshipRemovalAcks actor).2.host.sent =
        handed ++ actor.host.sent ∧
      ∀ handover ∈ handed, ∀ (remover after : Actor Q)
        (sender : InstallationId) (outcome : Outcome EngineError Unit),
        Actor.handleInboundMessage sender handover.envelopeId
          handover.ciphertext remover = (outcome, after) →
        Database.Unremoved remover.database after.database ∧
        (outcome = .ok () →
          (∀ row, remover.database.inboundPeerEnvelopes.lookup
            (sender, handover.envelopeId) = some row →
              row.state ≠ .delivered) →
          Actor.Refused sender handover.envelopeId after)) ∧
    ∀ (remover after : Actor Q) (sender : InstallationId) (removalId : String),
      Actor.handleRelayPayload sender (.relationshipRemovalApplied removalId)
        remover = (.ok (), after) →
      ((∀ id row, Actor.Marks remover.database after.database id row →
          row.contactInstallationId = sender) ↔
        ∀ row, remover.database.relationshipRemovals.lookup removalId =
          some row → row.state = .acked ∨ row.contactInstallationId = sender) := by
  refine ⟨?_, fun _ _ _ _ ran => Actor.marked_by_addressee_iff ran⟩
  obtain ⟨handed, sent, receipts⟩ :=
    Actor.flushPendingRelationshipRemovalAcks_receipts actor
  refine ⟨handed, sent, fun handover member remover after sender outcome ran => ?_⟩
  obtain ⟨removalId, ack, stored, acknowledges⟩ := receipts handover member
  obtain ⟨_, _, _, _, encoded⟩ := queued removalId ack stored
  obtain ⟨_, _, payload, _, written, read⟩ := writes encoded
  have unreadable := Core.RelayPayloadV1.decodeWire_encode correct read
  rw [← written, ← acknowledges.ciphertext, ← reads] at unreadable
  have kept := (Actor.handleInboundMessage_unremoved unreadable sender
    handover.envelopeId).run remover
  rw [ran] at kept
  refine ⟨kept, ?_⟩
  rintro rfl undelivered
  exact Actor.handleInboundMessage_refused unreadable (by decide +kernel)
    undelivered ran

def aliceAck : Core.RelayPayloadV1 :=
  .relationshipRemovalAppliedBy .plain () "me" "removal" 1 7

def ackCodec : Core.JsonCodec where
  toVec _ := []
  fromSlice _ := .ok aliceAck.toJson

def Primitives.acknowledging (installationId : InstallationId) : Primitives :=
  { Primitives.plain installationId with
    encodeRemovalApplied := fun recipient removalId _ _ =>
      if recipient = "me" ∧ removalId = "removal" then
        .ok (Core.utf8 (aliceAck.encode .plain ackCodec))
      else
        .error "encode relay payload"
    decodeWire := Core.decodeWire .plain ackCodec }

theorem Primitives.acknowledging_writes (installationId : InstallationId) :
    (acknowledging installationId).WritesAcks .plain ackCodec () := by
  intro recipient removalId relationshipEpoch appliedAt payload encoded
  by_cases own : recipient = "me" ∧ removalId = "removal"
  · obtain ⟨rfl, rfl⟩ := own
    simp only [acknowledging, and_self, if_true, Except.ok.injEq] at encoded
    exact ⟨1, 7, aliceAck, rfl, encoded.symm, rfl⟩
  · simp [acknowledging, own] at encoded

def aliceAcknowledging : Actor (.acknowledging "alice") :=
  { Actor.assemble (.acknowledging "alice")
      { Storage.machine.run .empty
          [.putContact ⟨"me", "Me", "key", "fingerprint", none, false, false,
            .verified, .peerOnly⟩] with
        contactPeerEndpoints := Table.empty.insert "me"
          ⟨"me", "", "", 1, none, []⟩
        relationshipRemovalAcks := Table.empty.insert "removal"
          ⟨"me", 1, Core.utf8 (aliceAck.encode .plain ackCodec), .pending, 0, 0⟩ }
      .empty false (some "socks5") 0 (.initial (.calm 7)) with
    peerTransport := true
    localPeerEndpoint := some aliceEndpoint }

def awaitingAlice : Actor (.acknowledging "me") :=
  Actor.assemble (.acknowledging "me")
    { Database.empty with
      relationshipRemovals := Table.empty.insert "removal"
        ⟨"alice", 1, true, .waitingForAck, 1, 0⟩ }
    .empty false (some "socks5") 0 (.initial (.calm 7))

theorem acknowledgements_of_alice_are_refused :
    ∃ handed,
      (Actor.flushPendingRelationshipRemovalAcks
        aliceAcknowledging).2.host.sent =
          handed ++ aliceAcknowledging.host.sent ∧
      ∀ handover ∈ handed, ∀ (after : Actor (.acknowledging "me"))
        (outcome : Outcome EngineError Unit),
        Actor.handleInboundMessage "alice" handover.envelopeId
          handover.ciphertext awaitingAlice = (outcome, after) →
        Database.Unremoved awaitingAlice.database after.database := by
  have refused := removal_acknowledgements_are_refused Core.Crypto.plain_correct
    (Primitives.acknowledging_writes "alice")
    (show (Primitives.acknowledging "me").ReadsWire .plain ackCodec from
      fun _ => rfl)
    aliceAcknowledging (by
      intro removalId ack stored
      have known : aliceAcknowledging.database.relationshipRemovalAcks =
          Table.empty.insert "removal" _ := rfl
      rw [known, Table.lookup_insert] at stored
      split at stored
      · cases stored
        exact ⟨"me", "removal", 1, 7, rfl⟩
      · cases stored)
  obtain ⟨handed, sent, refusals⟩ := refused.1
  exact ⟨handed, sent, fun handover member after outcome ran =>
    (refusals handover member awaitingAlice after "alice" outcome ran).1⟩

def aliceHeard : Outcome EngineError Unit × Actor (.acknowledging "me") :=
  Actor.handleInboundMessage "alice" 2 [] awaitingAlice

def bobHeard : Outcome EngineError Unit × Actor (.acknowledging "me") :=
  Actor.handleRelayPayload "bob" (.relationshipRemovalApplied "removal")
    awaitingAlice

/-- The acknowledgement goes out and arrives; Alice is blocked and the removal
not marked. A word of Bob's by the relay marks it. -/
theorem acknowledgement_of_alice_blocks_alice :
    ((Actor.flushPendingRelationshipRemovalAcks
        aliceAcknowledging).2.host.sent.map fun handover =>
          (handover.recipient, handover.envelopeId, handover.ciphertext)) =
        [("me", 2, [])] ∧
      aliceHeard.1 = .ok () ∧ "alice" ∈ aliceHeard.2.cryptoBlockedPeers ∧
      (aliceHeard.2.database.inboundPeerEnvelopes.lookup ("alice", 2)).map
        InboundEnvelope.state = some .rejected ∧
      (aliceHeard.2.database.relationshipRemovals.lookup "removal").map
        RelationshipRemoval.state = some .waitingForAck ∧
      bobHeard.1 = .ok () ∧
      (bobHeard.2.database.relationshipRemovals.lookup "removal").map
        RelationshipRemoval.state = some .acked := by
  decide +kernel

end Torchat
