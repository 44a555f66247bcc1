import Torchat.Engine.Sends

namespace Torchat

open Foundation Storage Program

class Storage.Database.Answering (stored : Database → Database → Prop) : Prop
    extends Receipting stored where
  persisted : ∀ (messageId : Uuid) (wire : Sealed)
    (conversationId : InstallationId) (snapshot : Bytes) (nextAttemptAt : Int)
    (lastError : Option String) (nowMs : Int),
    (Program.executeReturning (persistReceiptEncryption messageId wire
      conversationId snapshot nextAttemptAt lastError nowMs)).Keeps stored

class Storage.Database.Filing (stored : Database → Database → Prop) : Prop
    extends Answering stored where
  deferred : ∀ (sender : InstallationId) (messageId : Uuid)
    (envelope : PendingEnvelope),
    (Program.execute (putPendingApplicationEnvelope sender messageId
      envelope)).Keeps stored

class Storage.Database.Receiving (stored : Database → Database → Prop) : Prop
    extends Filing stored where
  arrived : ∀ (sender : InstallationId) (messageId : Uuid)
    (ciphertext ciphertextHash : Bytes) (receivedAt : Int),
    (Program.executeReturning (storeInboundPeerEnvelope sender messageId
      ciphertext ciphertextHash receivedAt)).Keeps stored
  marked : ∀ (state : InboundState) (sender : InstallationId)
    (messageId : Uuid),
    (Program.execute (markInbound state sender messageId)).Keeps stored

attribute [instance] Database.Answering.persisted Database.Filing.deferred
  Database.Receiving.arrived Database.Receiving.marked

namespace Actor

variable {stored : Database → Database → Prop}

def Still (before after : Actor P) : Prop := after.database = before.database

namespace Still

instance frame : Frame (Still (P := P)) :=
  Frame.of_eq Actor.database

instance onHost (program : Program Host EngineError α) :
    (onHost (P := P) program).Keeps Still :=
  ⟨fun _ => rfl⟩

instance query (view : Database → α) : (query (P := P) view).Keeps Still := by
  have read : (onDatabase (P := P) (read view)).Keeps Still :=
    ⟨fun _ => rfl⟩
  unfold Actor.query
  infer_instance

instance check (result : Except String α) (error : String → EngineError) :
    (check (P := P) result error).Keeps Still := by
  unfold Actor.check
  infer_instance

instance nowMs : (nowMs (P := P)).Keeps Still := Still.onHost _

instance nowSecs : (nowSecs (P := P)).Keeps Still := by
  unfold Actor.nowSecs
  infer_instance

instance : (modify (onConversations f) : Call P Unit).Keeps Still :=
  .modify fun _ => rfl

end Still

theorem query_ok (ran : query view actor = (.ok value, next)) :
    value = view actor.database ∧ next.database = actor.database ∧
      next.conversations = actor.conversations := by
  unfold query at ran
  rw [run_bind] at ran
  rcases asked : onHost (Host.consult .query (.storage "query failed")) actor
    with ⟨_ | _ | _, after⟩
  · rw [asked] at ran
    cases ran
    have called := congrArg Prod.snd asked
    cases called
    exact ⟨rfl, rfl, rfl⟩
  · rw [asked] at ran
    cases ran
  · rw [asked] at ran
    cases ran

theorem check_value (ran : check result error actor = (.ok value, next)) :
    result = .ok value :=
  (check_ok ran).1

section

variable [Frame stored] {program : Call P α} {rest : α → Call P β}

theorem Still.within (still : Still start actor) : Stored stored start actor := by
  rw [Stored, still]
  exact Frame.refl _

theorem Stored.after_still
    (still : Still start actor) (reads : program.Keeps Still)
    (continued : ∀ value next, program actor = (.ok value, next) →
      Still start next → Stored stored start (rest value next).2) :
    Stored stored start ((program >>= rest) actor).2 := by
  have read : Still start (program actor).2 :=
    Frame.trans still (reads.run actor)
  refine bind_end (Stored stored start) read.within
    fun value next ran => ?_
  rw [ran] at read
  exact continued value next ran read

theorem Stored.followed (first : Stored stored start (program actor).2)
    (second : ∀ value, (rest value).Keeps (Stored stored)) :
    Stored stored start ((program >>= rest) actor).2 := by
  refine bind_end (Stored stored start) first fun value next ran => ?_
  rw [ran] at first
  exact show stored _ _ from
    Frame.trans first ((second value).run next)

omit [Frame stored] in
theorem Stored.then
    (still : Still start actor) [kept : program.Keeps (Stored stored)] :
    Stored stored start (program actor).2 := by
  have run := kept.run actor
  rw [Stored, still] at run
  exact run

end

end Actor

/-- The transaction that a payload is accepted in. -/
inductive Runtime.Performs (arrival : Arrival) :
    ApplicationPayload → Runtime.Call Unit → Prop
  | message (messageId : Uuid) (sentAt : Int) (body : String)
      (replyTo : Option MessageReply) (envelopeId : Uuid) :
      Performs arrival (.message messageId sentAt body replyTo)
        (acceptMessage arrival body replyTo envelopeId)
  | deliveryReceipt (messageId : Uuid) (receivedAt : Int) :
      Performs arrival (.deliveryReceipt messageId receivedAt)
        (acceptDeliveryReceipt arrival messageId)
  | typing (sentAt : Int) (typing : Bool) :
      Performs arrival (.typing sentAt typing) (acceptSignal arrival)
  | presence (sentAt : Int) (online : Bool) :
      Performs arrival (.presence sentAt online) (acceptSignal arrival)
  | readReceipt (messageIds : List Uuid) (readAt : Int) :
      Performs arrival (.readReceipt messageIds readAt)
        (acceptReadReceipt arrival messageIds)
  | relationshipRemoved (messageId : Uuid) (removedAt : Int)
      (preserveHistory : Bool) (relationshipEpoch : Option Int)
      (removalId : Option Uuid) (text : String) (epoch : Int) (ack : Bytes) :
      Performs arrival (.relationshipRemoved messageId removedAt preserveHistory
        relationshipEpoch removalId)
        (acceptRelationshipRemoved arrival removedAt text epoch ack)
  | capabilityOffer (capabilityId text : String) (sequence : Nat)
      (issuedAt : Int) (expiresAt : Option Int) (secret : Bytes) :
      Performs arrival
        (.capabilityOffer capabilityId text sequence issuedAt expiresAt)
        (acceptCapability arrival (Database.putPeerEndpointCapability
          arrival.sender capabilityId secret sequence issuedAt expiresAt))
  | capabilityOfferAck (capabilityId : String) (sequence : Nat) :
      Performs arrival (.capabilityOfferAck capabilityId sequence)
        (acceptCapabilityOfferAck arrival)
  | capabilityRevoked (capabilityId : String) (sequence : Nat)
      (revokedAt : Int) :
      Performs arrival (.capabilityRevoked capabilityId sequence revokedAt)
        (acceptCapability arrival
          (Database.revokePeerEndpointCapability arrival.sender))

namespace Actor

variable {relation : Actor P → Actor P → Prop}

section

variable [Offhand relation stored] [Outward relation stored]
  [Framed relation stored]
  [Database.Dispatching stored] {arrival : Arrival}
  [(execute
    (Database.expediteDeliveries arrival.sender)).Keeps stored]
  [(execute (Database.expediteMessages arrival.sender)).Keeps stored]
  [∀ snapshot, (execute
    (Database.upsertSnapshot arrival.sender snapshot)).Keeps stored]

instance : (expeditePeerDeliveries (P := P) arrival.sender).Keeps relation := by
  unfold expeditePeerDeliveries
  infer_instance

theorem acceptPayload_keeps
    (performed : ∀ operation, Runtime.Performs arrival application operation →
      operation.Keeps (Runtime.Within stored)) :
    (acceptPayload (P := P) arrival application).Keeps relation := by
  cases application with
  | message messageId sentAt body replyTo =>
    have kept (envelopeId : Uuid) := performed _
      (.message messageId sentAt body replyTo envelopeId)
    simp only [acceptPayload, fail_bind]
    infer_instance
  | deliveryReceipt messageId receivedAt =>
    have kept := performed _ (.deliveryReceipt messageId receivedAt)
    exact transact_keeps _
  | typing sentAt typing =>
    have kept := performed _ (.typing sentAt typing)
    exact transact_keeps _
  | presence sentAt online =>
    have kept := performed _ (.presence sentAt online)
    exact transact_keeps _
  | readReceipt messageIds readAt =>
    have kept := performed _ (.readReceipt messageIds readAt)
    exact transact_keeps _
  | relationshipRemoved messageId removedAt preserveHistory epoch removalId =>
    have kept (text : String) (since : Int) (ack : Bytes) := performed _
      (.relationshipRemoved messageId removedAt preserveHistory epoch
        removalId text since ack)
    simp only [acceptPayload, acceptRemoval, fail_bind]
    infer_instance
  | capabilityOffer capabilityId text sequence issuedAt expiresAt =>
    have kept (secret : Bytes) := performed _
      (.capabilityOffer capabilityId text sequence issuedAt expiresAt secret)
    simp only [acceptPayload, acceptOffer, fail_bind]
    refine .next fun _ => ?_
    split
    · infer_instance
    refine .next fun _ => .next fun _ => ?_
    split
    · refine .next fun _ => .next fun _ => ?_
      infer_instance
    · refine .next fun _ => .next fun _ => ?_
      infer_instance
  | capabilityOfferAck capabilityId sequence =>
    have kept := performed _ (.capabilityOfferAck capabilityId sequence)
    refine .next fun _ => .next fun _ => ?_
    infer_instance
  | capabilityRevoked capabilityId sequence revokedAt =>
    have kept := performed _ (.capabilityRevoked capabilityId sequence revokedAt)
    exact transact_keeps _

end

instance [Grounded relation stored] [Database.Filing stored] :
    (deferEnvelope (P := P) sender messageId ciphertext).Keeps relation := by
  unfold deferEnvelope
  infer_instance

def Opens (actor : Actor P) (sender : InstallationId) (messageId : Uuid)
    (ciphertext : Bytes) (application : ApplicationPayload) : Prop :=
  actor.database.receivedEnvelopes.lookup (sender, messageId) = none ∧
  ∃ conversation plaintext advanced,
    actor.conversations.lookup sender = some conversation ∧
    P.decrypt conversation ciphertext = .ok (plaintext, advanced) ∧
    P.decodeApplication plaintext = .ok application

section

variable [Database.Answering stored] {start : Actor P}

theorem openEnvelope_stored (still : Still start actor)
    (accepted : ∀ plaintext advanced application,
      P.decrypt conversation ciphertext = .ok (plaintext, advanced) →
      P.decodeApplication plaintext = .ok application →
      ∀ arrival : Arrival, arrival.sender = sender →
      arrival.messageId = messageId → ∀ actor, Still start actor →
        Stored stored start (acceptPayload arrival application actor).2) :
    Stored stored start
      (openEnvelope sender messageId ciphertext conversation actor).2 := by
  refine .after_still still inferInstance fun opened _ decrypted still => ?_
  obtain ⟨plaintext, advanced⟩ := opened
  refine .after_still still inferInstance fun application _ decoded still => ?_
  refine .after_still still inferInstance fun _ _ _ still => ?_
  refine .after_still still inferInstance fun _ actor _ still => ?_
  refine .followed ?_ fun _ => inferInstance
  exact accepted plaintext advanced application (check_value decrypted)
    (check_value decoded) _ rfl rfl actor still

theorem handleApplicationEnvelope_stored
    [(deferEnvelope (P := P) sender messageId ciphertext).Keeps (Stored stored)]
    (accepted : ∀ application,
      start.Opens sender messageId ciphertext application →
      ∀ arrival : Arrival, arrival.sender = sender →
      arrival.messageId = messageId → ∀ actor, Still start actor →
        Stored stored start (acceptPayload arrival application actor).2) :
    Stored stored start
      (handleApplicationEnvelope sender messageId ciphertext start).2 := by
  refine .after_still (Frame.refl start) inferInstance
    fun existing actor asked still => ?_
  obtain ⟨known, -, kept⟩ := query_ok asked
  cases existing with
  | some existing => exact .then still
  | none =>
    refine .after_still still ⟨fun _ => rfl⟩ fun found next read still => ?_
    obtain ⟨rfl, rfl⟩ : actor.conversations.lookup sender = found ∧
        actor = next := by
      cases read
      exact ⟨rfl, rfl⟩
    cases conversing : actor.conversations.lookup sender with
    | none => exact .then still
    | some conversation =>
      rw [kept] at conversing
      refine .after_still still inferInstance fun _ _ _ still => ?_
      refine .after_still still inferInstance fun _ _ _ still => ?_
      refine .followed (openEnvelope_stored still ?_) fun result => ?_
      · intro plaintext advanced application decrypted decoded
        exact accepted application ⟨known.symm, conversation, plaintext,
          advanced, conversing, decrypted, decoded⟩
      · cases result with
        | ok | error => infer_instance

end

section

variable [Database.Answering stored]

instance : (block (P := P) contact).Keeps (Stored stored) :=
  keeps_of_database fun _ => rfl

theorem receivePeerPayload_stored
    (handled : ∀ ciphertext, P.decodeWire wire = .ok ciphertext →
      (handleApplicationEnvelope (P := P) sender messageId ciphertext).Keeps
        (Stored stored)) :
    (receivePeerPayload (P := P) sender messageId wire).Keeps
      (Stored stored) := by
  refine ⟨fun start => ?_⟩
  refine Keeps.bind_answered inferInstance fun ciphertext _ decoded => ?_
  have kept := handled ciphertext (check_value decoded)
  infer_instance

theorem handleInboundMessage_stored
    [∀ receivedAt, (executeReturning (Database.storeInboundPeerEnvelope
      sender messageId wire (P.sha256 wire) receivedAt)).Keeps stored]
    [marked : ∀ state, (execute (Database.markInbound state sender
      messageId)).Keeps stored]
    [(receivePeerPayload (P := P) sender messageId wire).Keeps
      (Stored stored)] :
    (handleInboundMessage (P := P) sender messageId wire).Keeps
      (Stored stored) := by
  have completed : (execute (Database.completeInboundPeerEnvelope sender
      messageId)).Keeps stored := marked _
  have rejected : (execute (Database.rejectInboundPeerEnvelope sender
      messageId)).Keeps stored := marked _
  have processed : (processInbound (P := P) sender messageId wire).Keeps
      (Stored stored) := by
    refine .next fun result => ?_
    cases result with
    | ok | error => infer_instance
  refine .next fun _ => .next fun _ => ?_
  infer_instance

end

end Actor

end Torchat
