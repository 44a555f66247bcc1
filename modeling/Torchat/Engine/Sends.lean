import Torchat.Engine.Frames

namespace Torchat

open Foundation Storage

namespace Storage.Database

class Dispatching (stored : Database → Database → Prop) : Prop
    extends Booked stored where
  issued : ∀ (contact : InstallationId) (capabilityId : String) (secret : Bytes)
    (nowSecs : Int),
    (Program.execute (putContactEndpointCapability contact capabilityId secret
      nowSecs)).Keeps stored
  claimed : ∀ (messageId : Uuid) (nextAttemptAt ackDeadline nowMs : Int),
    (Program.executeReturning (claimOutboundDelivery messageId nextAttemptAt
      ackDeadline nowMs)).Keeps stored

class Receipting (stored : Database → Database → Prop) : Prop
    extends Dispatching stored where
  claimedReceipt : ∀ (messageId : Uuid) (nextAttemptAt : Int)
    (lastError : Option String) (nowMs : Int),
    (Program.executeReturning (claimReceiptAttempt messageId nextAttemptAt
      lastError nowMs)).Keeps stored
  requeuedReceipt : ∀ (messageId : Uuid) (nextAttemptAt : Int)
    (lastError : String),
    (Program.execute (requeueDeliveryReceipt messageId nextAttemptAt
      lastError)).Keeps stored

attribute [instance] Dispatching.issued Dispatching.claimed
  Receipting.claimedReceipt Receipting.requeuedReceipt

end Storage.Database

namespace Actor

variable {relation : Actor P → Actor P → Prop}

class Unnoted (relation : Actor P → Actor P → Prop)
    (stored : outParam (Database → Database → Prop)) : Prop
    extends Grounded relation stored where
  noted : ∀ (actor : Actor P) (origin : Origin) (earlier : List Origin),
    relation actor
      { actor with host := actor.host.recordEncryption origin earlier }

class Outward (relation : Actor P → Actor P → Prop)
    (stored : outParam (Database → Database → Prop)) : Prop
    extends Unnoted relation stored where
  handed : ∀ (actor : Actor P) (handover : Handover),
    relation actor { actor with host := actor.host.recordHandover handover }

section

variable [unnoted : Unnoted relation stored] [Database.Booked stored]

instance : (retryBackoffMs (P := P) attemptCount).Keeps relation :=
  onHost_keeps _

instance : (retryAt (P := P) attemptCount).Keeps relation := by
  unfold retryAt
  infer_instance

instance : (queueRelayEnvelope (P := P)).Keeps relation :=
  onHost_keeps _

instance : (localCapabilityCredentials (P := P) contact).Keeps relation := by
  unfold localCapabilityCredentials
  infer_instance

instance : (peerCapabilitySecret (P := P) contact endpoint).Keeps relation := by
  unfold peerCapabilitySecret
  infer_instance

instance : (usableEndpoint (P := P) recipient).Keeps relation := by
  simp only [usableEndpoint, fail_bind]
  refine .next fun _ => ?_
  refine .next fun _ => ?_
  refine .next fun _ => ?_
  infer_instance

instance (contact : InstallationId) (conversation : P.Group)
    (application : ApplicationPayload) (persist : Sealed → Bytes → Call P Unit)
    [∀ wire snapshot,
      (persist wire snapshot).Keeps relation] :
    (encryptPayload contact conversation application persist).Keeps relation := by
  refine .next fun _ => .next fun _ => ?_
  refine .bind (.modify fun actor => unnoted.noted actor _ _) fun _ => ?_
  refine .next fun _ => .next fun _ => ?_
  infer_instance

instance
    [∀ now, (executeReturning (statement now)).Keeps
      stored] : (claimOrFail (P := P) statement refused).Keeps relation := by
  unfold claimOrFail
  infer_instance

end

section

variable [outward : Outward relation stored] [Database.Booked stored]

instance : (handOver (P := P) envelopeId recipient payload delivery).Keeps
      relation := by
  have recorded (current : Actor P → Handover) :
      (Program.modify fun actor : Actor P => { actor with
        host := actor.host.recordHandover (current actor) } :
        Call P Unit).Keeps relation :=
    .modify fun actor => outward.handed actor _
  refine .next fun _ => ?_
  infer_instance

end

section

variable [Unnoted relation stored] [Database.Dispatching stored]

instance ensureContactEndpointCapability_keeps :
    (ensureContactEndpointCapability (P := P) contact).Keeps relation := by
  refine .next fun _ => .next fun known => ?_
  cases known with
  | none | some => infer_instance

instance :
    (localEndpointForContact (P := P) contact endpoint).Keeps relation := by
  unfold localEndpointForContact
  infer_instance

instance : (claimDelivery (P := P) messageId).Keeps relation := by
  refine .next fun _ => .next fun _ => ?_
  refine .next fun _ => ?_
  infer_instance

instance
    [(handOver (P := P) envelopeId recipient payload delivery).Keeps
      relation] :
    (queuePeerPayload (P := P) envelopeId recipient payload delivery).Keeps
      relation := by
  simp only [queuePeerPayload, fail_bind]
  split
  · infer_instance
  refine .next fun _ => ?_
  split
  · infer_instance
  refine .next fun _ => .next fun _ => ?_
  refine .next fun _ => .next fun _ => ?_
  refine .next fun _ => ?_
  cases delivery with
  | message | _ => infer_instance

instance : (queuePeerControl (P := P) recipient).Keeps relation := by
  refine .next fun usable => ?_
  split
  · infer_instance
  refine .next fun endpoint => ?_
  cases endpoint with
  | none => infer_instance
  | some endpoint =>
    refine .next fun peer => ?_
    cases peer with
    | none => infer_instance
    | some peer =>
      refine .next fun _ => .next fun _ => ?_
      infer_instance

end

section

variable [Unnoted relation stored] [Database.Dispatching stored]

instance
    [∀ envelopeId payload,
      (handOver (P := P) envelopeId contact payload .ephemeral).Keeps
        relation] :
    (dispatchEphemeralPayload (P := P) contact payload).Keeps relation := by
  unfold dispatchEphemeralPayload
  infer_instance

end

section

variable [Unnoted relation stored] [Database.Receipting stored]

instance :
    (handleFailedPeerReceiptDelivery (P := P) messageId error).Keeps relation := by
  refine .next fun _ => .next fun _ => ?_
  infer_instance

instance (effect : Database.ReceiptSendEffect)
    [∀ payload, (handOver (P := P) effect.envelopeId
      effect.recipientInstallationId payload (.receipt effect.messageId)).Keeps
      relation] :
    (dispatchOutboundReceipt (P := P) effect payload).Keeps relation := by
  refine .next fun result => ?_
  cases result with
  | ok | error => infer_instance

end

class Offhand (relation : Actor P → Actor P → Prop)
    (stored : outParam (Database → Database → Prop)) : Prop
    extends Unnoted relation stored where
  conversing : ∀ (actor : Actor P)
    (f : Table InstallationId P.Group → Table InstallationId P.Group),
    relation actor (onConversations f actor)

section

variable [offhand : Offhand relation stored] [Database.Booked stored]

instance :
    (Program.modify (onConversations f) : Call P Unit).Keeps relation :=
  .modify fun actor => offhand.conversing actor f

instance : (keepConversation contact conversation).Keeps relation := by
  unfold keepConversation
  infer_instance

instance : (takeConversation (P := P) contact missing).Keeps relation := by
  unfold takeConversation
  infer_instance

instance (contact : InstallationId) (missing : EngineError)
    (restoreFailed : String → EngineError) (application : ApplicationPayload)
    (persist : Sealed → Bytes → Call P Unit)
    [∀ wire snapshot, (persist wire snapshot).Keeps relation] :
    (encryptKeeping contact missing restoreFailed application persist).Keeps
      relation := by
  refine .next fun _ => .next fun _ => ?_
  refine .next fun result => ?_
  cases result with
  | ok | error => infer_instance

end

def Stored (stored : Database → Database → Prop) (before after : Actor P) :
    Prop :=
  stored before.database after.database

section

variable [Database.Booked stored]

instance Stored.framed :
    Framed (Stored stored : Actor P → Actor P → Prop) stored where
  refl actor := show stored actor.database actor.database from
    Frame.refl _
  trans first second := show stored _ _ from Frame.trans first second
  data _ _ kept := kept
  called actor _ _ _ := show stored actor.database actor.database from
    Frame.refl _

instance Stored.outward :
    Outward (Stored stored : Actor P → Actor P → Prop) stored where
  noted actor _ _ := show stored actor.database actor.database from
    Frame.refl _
  handed actor _ := show stored actor.database actor.database from
    Frame.refl _

instance Stored.offhand :
    Offhand (Stored stored : Actor P → Actor P → Prop) stored where
  conversing actor _ := show stored actor.database actor.database from
    Frame.refl _

theorem keeps_of_database
    (same : ∀ actor, (f actor).database = actor.database) :
    (Program.modify f : Call P Unit).Keeps (Stored stored) := by
  refine .modify fun actor => ?_
  rw [Stored, same]
  exact Frame.refl _

end

section

variable [Offhand relation stored]
  [Database.Dispatching stored] (contact : InstallationId)
  [∀ snapshot,
    (Program.execute (Database.upsertSnapshot contact snapshot)).Keeps stored]
  [∀ envelopeId payload,
    (handOver (P := P) envelopeId contact payload .ephemeral).Keeps relation]

instance (application : ApplicationPayload) :
    (sendEphemeralPayload (P := P) contact application).Keeps relation := by
  have sent : (do
      let encrypted ← encryptKeeping contact
        (.invalidCommand
          "contact requires MLS welcome before sending ephemeral state")
        .storage application
        fun _ snapshot => write (Database.upsertSnapshot contact snapshot)
      let (payload, before) ← ofExcept encrypted
      match ← (dispatchEphemeralPayload contact payload).attempt with
      | .ok () => return
      | .error error =>
        let restored ← check (P.restore before) .storage
        write (Database.upsertSnapshot contact before)
        keepConversation contact restored
        Program.fail error : Call P Unit).Keeps relation := by
    refine .next fun _ => .next fun _ => ?_
    refine .next fun result => ?_
    cases result with
    | ok | error => infer_instance
  simp only [sendEphemeralPayload, fail_bind]
  infer_instance

instance : (sendCapabilityOffer (P := P) contact).Keeps relation := by
  simp only [sendCapabilityOffer, fail_bind]
  refine .next fun _ => ?_
  split
  · infer_instance
  refine .next fun _ => .next fun _ => ?_
  infer_instance

end

section

variable [Offhand relation stored] [Database.Receipting stored]

instance (effect : Database.ReceiptSendEffect)
    [∀ wire snapshot nextAttemptAt lastError nowMs,
      (executeReturning (Database.persistReceiptEncryption
        effect.messageId wire effect.conversationId snapshot nextAttemptAt
        lastError nowMs)).Keeps stored] :
    (encryptReceipt (P := P) effect).Keeps relation := by
  unfold encryptReceipt
  refine .next fun _ => .next fun stored => ?_
  refine .next fun _ => ?_
  cases stored.wireCiphertext with
  | none | some => infer_instance

variable [∀ messageId wire conversationId snapshot nextAttemptAt lastError nowMs,
  (Program.executeReturning (Database.persistReceiptEncryption messageId wire
    conversationId snapshot nextAttemptAt lastError nowMs)).Keeps stored]
  [∀ envelopeId recipient payload messageId, (handOver (P := P) envelopeId
    recipient payload (.receipt messageId)).Keeps relation]

variable [Framed relation stored]

instance : (flushPendingReceiptEffects (P := P)).Keeps relation := by
  simp only [flushPendingReceiptEffects, deliverSendEffect]
  infer_instance

instance :
    (acknowledgeDuplicate (P := P) messageId ciphertextHash existing).Keeps
      relation := by
  simp only [acknowledgeDuplicate, fail_bind]
  infer_instance

end

end Actor

end Torchat
